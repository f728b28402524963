/-
  Wayfinder/Yaml/Node.lean
  ========================
  **From tokens to nodes.**

  A document is one node: a scalar, a sequence, a mapping, or an alias for a node that
  an anchor names.  A stream that is to be one value holds one document at most.
-/
import Wayfinder.Yaml.Token
import Wayfinder.Yaml.Scanner

namespace Wayfinder.Yaml

/-! ## 1. Nodes -/

/-- A node.  Anchors and aliases are numbers here: an anchor has the number of different
    names that came before it in the document. -/
inductive Node where
  | alias (id : Nat)
  | scalar (anchor : Option Nat) (tag : Option String) (plain : Bool) (text : String)
  | sequence (anchor : Option Nat) (items : List Node)
  | mapping (anchor : Option Nat) (members : List (Node × Node))
deriving Inhabited, Repr

/-- A document: its node, if it has one, and the nodes that can be referred to. -/
structure Document where
  root : Option Node
  anchored : List (Nat × Node)
deriving Inhabited, Repr

/-- The node that an alias stands for.  Of nodes with one number the last counts. -/
def Document.target? (d : Document) (id : Nat) : Option Node :=
  (d.anchored.reverse.find? fun e => e.1 == id).map (·.2)

/-- The node itself when it has an anchor. -/
def noted (anchor : Option Nat) (n : Node) : List (Nat × Node) :=
  match anchor with
  | some id => [(id, n)]
  | none => []

mutual

/-- The nodes with anchors, in the order in which they start. -/
def Node.anchored : Node → List (Nat × Node)
  | .alias _ => []
  | .scalar a t p s => noted a (.scalar a t p s)
  | .sequence a items => noted a (.sequence a items) ++ anchoredItems items
  | .mapping a members => noted a (.mapping a members) ++ anchoredMembers members

/-- The nodes with anchors in a sequence. -/
def anchoredItems : List Node → List (Nat × Node)
  | [] => []
  | n :: ns => n.anchored ++ anchoredItems ns

/-- The nodes with anchors in a mapping. -/
def anchoredMembers : List (Node × Node) → List (Nat × Node)
  | [] => []
  | (k, v) :: ms => k.anchored ++ v.anchored ++ anchoredMembers ms

end

/-! ## 2. What nodes refer to -/

/-- The names in force: handles of tags with what they are short for, and anchors with
    their numbers. -/
structure Names where
  handles : List (String × String)
  anchors : List (String × Nat)
deriving DecidableEq, Repr

/-- The handles that need no directive. -/
def defaultHandles : List (String × String) := [("!", "!"), ("!!", "tag:yaml.org,2002:")]

/-- Give a name to the node that starts now. -/
def Names.define (ns : Names) (name : String) : Nat × Names :=
  let id := ns.anchors.length
  (id, { ns with anchors := (name, id) :: ns.anchors.filter fun e => e.1 ≠ name })

/-- The whole of a tag. -/
def Names.tag? (ns : Names) (t : TagText) : Option String :=
  if t.handle.isEmpty then some t.suffix
  else (ns.handles.lookup t.handle).map (· ++ t.suffix)

/-- The anchor and the tag before a node. -/
structure Properties where
  anchor : Option Nat := none
  tag : Option String := none
deriving DecidableEq, Repr

/-- What a parser returns: a value, the names, and the tokens that are left. -/
abbrev Parsed (α : Type) := α × Names × List Token

/-- Read an anchor and a tag, in either order. -/
def properties (ns : Names) : List Token → Option (Parsed Properties)
  | .anchor a :: .tag t :: rest => do
    let tag ← ns.tag? t
    let (id, ns) := ns.define a
    return ({ anchor := some id, tag := some tag }, ns, rest)
  | .tag t :: .anchor a :: rest => do
    let tag ← ns.tag? t
    let (id, ns) := ns.define a
    return ({ anchor := some id, tag := some tag }, ns, rest)
  | .anchor a :: rest =>
    let (id, ns) := ns.define a
    some ({ anchor := some id }, ns, rest)
  | .tag t :: rest => do return ({ tag := some (← ns.tag? t) }, ns, rest)
  | rest => some ({}, ns, rest)

/-- The node that is left out. -/
def emptyNode (p : Properties) : Node := .scalar p.anchor p.tag true ""

/-! ## 3. Parsing -/

/-- Whether a block collection leaves out the node that could start here. -/
def endsBlockNode : List Token → Bool
  | .key :: _ | .value :: _ | .blockEnd :: _ | [] => true
  | _ => false

/-- The same where a hyphen starts the next item. -/
def endsBlockItem : List Token → Bool
  | .blockEntry :: _ => true
  | ts => endsBlockNode ts

/-- The places where a node may stand. -/
inductive Spot where
  /-- Inside brackets. -/
  | flow
  /-- In a block. -/
  | block
  /-- In a block mapping, where the items of a sequence need not be indented. -/
  | member
deriving DecidableEq, Repr

mutual

/-- A node.  The number bounds the nesting of calls. -/
def parseNode : Nat → Spot → Names → List Token → Option (Parsed Node)
  | 0, _, _, _ => none
  | fuel + 1, spot, ns, ts =>
    match ts with
    | .alias name :: rest => do return (.alias (← ns.anchors.lookup name), ns, rest)
    | ts => do
      let (p, ns, ts) ← properties ns ts
      match ts, spot with
      | .blockEntry :: _, .member =>
        let (items, ns, ts) ← parseUnindented fuel ns ts
        return (.sequence p.anchor items, ns, ts)
      | .scalar text plain :: rest, _ =>
        let tag := if p.tag = some "!" then none else p.tag
        return (.scalar p.anchor tag plain text, ns, rest)
      | .flowSequenceStart :: rest, _ =>
        let (items, ns, ts) ← parseFlowItems fuel true ns rest
        return (.sequence p.anchor items, ns, ts)
      | .flowMappingStart :: rest, _ =>
        let (members, ns, ts) ← parseFlowMembers fuel true ns rest
        return (.mapping p.anchor members, ns, ts)
      | .blockSequenceStart :: rest, _ =>
        if spot = .flow then none
        else
          let (items, ns, ts) ← parseBlockItems fuel ns rest
          return (.sequence p.anchor items, ns, ts)
      | .blockMappingStart :: rest, _ =>
        if spot = .flow then none
        else
          let (members, ns, ts) ← parseBlockMembers fuel ns rest
          return (.mapping p.anchor members, ns, ts)
      | ts, _ => if p = {} then none else return (emptyNode p, ns, ts)

/-- The items of a block sequence, up to its end. -/
def parseBlockItems : Nat → Names → List Token → Option (Parsed (List Node))
  | 0, _, _ => none
  | fuel + 1, ns, ts =>
    match ts with
    | .blockEntry :: rest => do
      let (n, ns, ts) ←
        match rest with
        | .blockEntry :: _ | .blockEnd :: _ => some (emptyNode {}, ns, rest)
        | _ => parseNode fuel .block ns rest
      let (items, ns, ts) ← parseBlockItems fuel ns ts
      return (n :: items, ns, ts)
    | .blockEnd :: rest => some ([], ns, rest)
    | _ => none

/-- The items of a sequence that is indented like the mapping it stands in. -/
def parseUnindented : Nat → Names → List Token → Option (Parsed (List Node))
  | 0, _, _ => none
  | fuel + 1, ns, ts =>
    match ts with
    | .blockEntry :: rest => do
      let (n, ns, ts) ←
        if endsBlockItem rest then some (emptyNode {}, ns, rest) else parseNode fuel .block ns rest
      let (items, ns, ts) ← parseUnindented fuel ns ts
      return (n :: items, ns, ts)
    | ts => some ([], ns, ts)

/-- The members of a block mapping, up to its end. -/
def parseBlockMembers : Nat → Names → List Token → Option (Parsed (List (Node × Node)))
  | 0, _, _ => none
  | fuel + 1, ns, ts =>
    match ts with
    | .key :: rest => do
      let (k, ns, ts) ←
        if endsBlockNode rest then some (emptyNode {}, ns, rest) else parseNode fuel .member ns rest
      let (v, ns, ts) ←
        match ts with
        | .value :: rest =>
          if endsBlockNode rest then some (emptyNode {}, ns, rest)
          else parseNode fuel .member ns rest
        | ts => some (emptyNode {}, ns, ts)
      let (members, ns, ts) ← parseBlockMembers fuel ns ts
      return ((k, v) :: members, ns, ts)
    | .blockEnd :: rest => some ([], ns, rest)
    | _ => none

/-- The items of a sequence in brackets, up to its end.  A pair of a key and a value is a
    mapping of one member. -/
def parseFlowItems : Nat → Bool → Names → List Token → Option (Parsed (List Node))
  | 0, _, _, _ => none
  | fuel + 1, first, ns, ts =>
    match ts with
    | .flowSequenceEnd :: rest => some ([], ns, rest)
    | ts => do
      let ts ← if first then some ts else
        match ts with
        | .flowEntry :: rest => some rest
        | _ => none
      match ts with
      | .flowSequenceEnd :: rest => return ([], ns, rest)
      | .key :: rest =>
        let (pair, ns, ts) ← parsePair fuel ns rest
        let (items, ns, ts) ← parseFlowItems fuel false ns ts
        return (.mapping none [pair] :: items, ns, ts)
      | ts =>
        let (n, ns, ts) ← parseNode fuel .flow ns ts
        let (items, ns, ts) ← parseFlowItems fuel false ns ts
        return (n :: items, ns, ts)

/-- A key and a value inside square brackets.  A key that is left out takes the token
    after it along. -/
def parsePair : Nat → Names → List Token → Option (Parsed (Node × Node))
  | 0, _, _ => none
  | fuel + 1, ns, ts => do
    let (k, ns, ts) ←
      match ts with
      | .value :: rest | .flowEntry :: rest | .flowSequenceEnd :: rest =>
        some (emptyNode {}, ns, rest)
      | ts => parseNode fuel .flow ns ts
    match ts with
    | .value :: rest =>
      match rest with
      | .flowEntry :: _ | .flowSequenceEnd :: _ => return ((k, emptyNode {}), ns, rest)
      | _ =>
        let (v, ns, ts) ← parseNode fuel .flow ns rest
        return ((k, v), ns, ts)
    | ts => return ((k, emptyNode {}), ns, ts)

/-- The members of a mapping in braces, up to its end. -/
def parseFlowMembers : Nat → Bool → Names → List Token → Option (Parsed (List (Node × Node)))
  | 0, _, _, _ => none
  | fuel + 1, first, ns, ts =>
    match ts with
    | .flowMappingEnd :: rest => some ([], ns, rest)
    | ts => do
      let ts ← if first then some ts else
        match ts with
        | .flowEntry :: rest => some rest
        | _ => none
      match ts with
      | .flowMappingEnd :: rest => return ([], ns, rest)
      | .key :: rest =>
        let (k, ns, ts) ←
          match rest with
          | .value :: _ | .flowEntry :: _ | .flowMappingEnd :: _ => some (emptyNode {}, ns, rest)
          | _ => parseNode fuel .flow ns rest
        let (v, ns, ts) ← parseFlowValue fuel ns ts
        let (members, ns, ts) ← parseFlowMembers fuel false ns ts
        return ((k, v) :: members, ns, ts)
      | ts =>
        let (k, ns, ts) ← parseNode fuel .flow ns ts
        let (members, ns, ts) ← parseFlowMembers fuel false ns ts
        return ((k, emptyNode {}) :: members, ns, ts)

/-- The value of a member in braces, which may be left out. -/
def parseFlowValue : Nat → Names → List Token → Option (Parsed Node)
  | 0, _, _ => none
  | fuel + 1, ns, ts =>
    match ts with
    | .value :: rest =>
      match rest with
      | .flowEntry :: _ | .flowMappingEnd :: _ => some (emptyNode {}, ns, rest)
      | _ => parseNode fuel .flow ns rest
    | ts => some (emptyNode {}, ns, ts)

end

/-! ## 4. Documents -/

/-- The directives before a document: at most one version, which has to be 1.1 or 1.2,
    and handles, each once. -/
def directives (version : Bool) (handles : List (String × String)) :
    List Token → Option (List (String × String) × List Token)
  | .versionDirective major minor :: rest =>
    if version ∨ major ≠ 1 ∨ (minor ≠ 1 ∧ minor ≠ 2) then none else directives true handles rest
  | .tagDirective handle lead :: rest =>
    if (handles.lookup handle).isSome then none
    else directives version (handles ++ [(handle, lead)]) rest
  | ts => some (handles, ts)

/-- Whether the tokens start a document that is announced. -/
def isAnnounced : List Token → Bool
  | .versionDirective _ _ :: _ | .tagDirective _ _ :: _ | .documentStart :: _ => true
  | _ => false

/-- Whether a document has no content. -/
def endsDocument : List Token → Bool
  | [] | .documentEnd :: _ => true
  | ts => isAnnounced ts

/-- The tokens after any number of marks of the end of a document. -/
def skipEnds : List Token → List Token
  | .documentEnd :: rest => skipEnds rest
  | ts => ts

/-- The only document of a stream. -/
def document? (ts : List Token) : Option Document := do
  if ts.isEmpty then return ⟨none, []⟩
  let fuel := 4 * ts.length + 4
  let (root, _, rest) ←
    if isAnnounced ts then do
      let (handles, rest) ← directives false [] ts
      let ns : Names := ⟨handles ++ defaultHandles, []⟩
      match rest with
      | .documentStart :: rest =>
        if endsDocument rest then some (emptyNode {}, ns, rest) else parseNode fuel .block ns rest
      | _ => none
    else parseNode fuel .block ⟨defaultHandles, []⟩ ts
  if (skipEnds rest).isEmpty then return ⟨some root, root.anchored⟩ else none

/-- The only document of a text. -/
def parse? (text : String) : Option Document := do document? (← tokens? text.toList)

end Wayfinder.Yaml
