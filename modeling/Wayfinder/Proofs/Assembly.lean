/-
  Wayfinder/Proofs/Assembly.lean
  ==============================
  **What the expression of a variant compiles to.**

  Where the expression of a variant is read as it was put together, a row of literal
  characters and groups around the fragments, it is lowered part by part: each fragment
  becomes the expression that it is alone, with its groups numbered from where the groups
  before it end.
-/
import Wayfinder.Proofs.Pattern.Expression
import Wayfinder.Proofs.Regex.Shift

namespace Wayfinder.Pattern

open Wayfinder.Regex

/-! ## 1. Fragments alone -/

/-- The tree of a fragment that is read alone. -/
def fragmentTree (f : String) : Tree :=
  match parse f.toList with
  | .ok t => t
  | .error _ => .empty

/-- The number of groups that a fragment opens. -/
def fragmentGroups (f : String) : Nat := (fragmentTree f).groups

/-- The expression of a fragment alone. -/
def fragmentExpr (f : String) : Expr :=
  match lower {} 1 (fragmentTree f) with
  | .ok r => r.expr
  | .error _ => .empty

/-- Whether a fragment can be used. -/
def Usable [SizeLimit] (f : String) : Prop := ∃ r, Regex.compile f = .ok r

theorem Usable.lower_fragmentTree [SizeLimit] {f : String} (hf : Usable f) :
    ∃ low, lower {} 1 (fragmentTree f) = .ok low ∧ low.expr = fragmentExpr f ∧
      innerGroups f = (fragmentExpr f).lastGroup := by
  obtain ⟨r, hr⟩ := hf
  obtain ⟨t, ht, low, hlow, hexpr⟩ := Regex.compile_eq_ok hr
  have htree : fragmentTree f = t := by rw [fragmentTree, ht]
  have hfragment : fragmentExpr f = low.expr := by rw [fragmentExpr, htree, hlow]
  refine ⟨low, by rw [htree, hlow], hfragment.symm, ?_⟩
  rw [innerGroups, hr, hfragment]
  exact congrArg Expr.lastGroup hexpr

/-- The groups that are counted for a fragment hold all that are left of its groups, and
    there are no more of them than the fragment opens. -/
theorem Usable.groups [SizeLimit] {f : String} (hf : Usable f) :
    innerGroups f ≤ fragmentGroups f ∧
      (fragmentExpr f).GroupsIn fun i => 1 ≤ i ∧ i ≤ innerGroups f := by
  obtain ⟨low, hlow, hexpr, hcount⟩ := hf.lower_fragmentTree
  have hnumbered := numbered_expr hlow
  rw [hexpr] at hnumbered
  refine ⟨?_, ?_⟩
  · rw [hcount]
    refine Expr.lastGroup_le (hnumbered.imp fun i hi => ?_)
    rw [fragmentGroups]
    omega
  · rw [hcount]
    exact (hnumbered.and (fragmentExpr f).groupsIn_lastGroup).imp fun i hi => ⟨hi.1.1, hi.2⟩

/-! ## 2. The assembled tree -/

/-- The tree of a slot. -/
def Slot.tree : Slot → Tree
  | .char c => .letter { char := c }
  | .fragment f => .group (.capture none) (fragmentTree f)

/-- The fragments of slots, in order. -/
def fragmentsOf : List Slot → List String
  | [] => []
  | .char _ :: slots => fragmentsOf slots
  | .fragment f :: slots => f :: fragmentsOf slots

theorem mem_fragmentsOf {slots : List Slot} {f : String} :
    f ∈ fragmentsOf slots ↔ Slot.fragment f ∈ slots := by
  induction slots with
  | nil => simp [fragmentsOf]
  | cons slot slots ih => cases slot <;> simp [fragmentsOf, ih]

/-- The tree of a shape: the literal characters, and a group for every token around its
    fragment as it is read alone. -/
def assembledTree (slots : List Slot) : Tree :=
  Tree.ofFactors (.assertion .lineStart :: (slots.map Slot.tree ++ [.assertion .lineEnd]))

/-- The expressions of slots, when the next group has the number `n`. -/
def slotExprs : Nat → List Slot → List Expr
  | _, [] => []
  | n, .char c :: slots => .literal [c] :: slotExprs n slots
  | n, .fragment f :: slots =>
    .capture n ((fragmentExpr f).shift n) :: slotExprs (n + 1 + fragmentGroups f) slots

/-- What is left to be matched for slots, up to the end of the text. -/
def slotFrames (n : Nat) (slots : List Slot) : List Frame :=
  (slotExprs n slots ++ [Expr.look .textEnd]).map Frame.run

theorem lower_slot [SizeLimit] {slot : Slot} (husable : ∀ f, slot = .fragment f → Usable f)
    (n : Nat) :
    ∃ e next, lower {} n slot.tree = .ok (.one e {} next) ∧
      ∀ slots, slotExprs n (slot :: slots) = e :: slotExprs next slots := by
  cases slot with
  | char c => exact ⟨.literal [c], n, rfl, fun _ => rfl⟩
  | fragment f =>
    obtain ⟨low, hlow, hexpr, -⟩ := (husable f rfl).lower_fragmentTree
    have hbody := lower_shift hlow n
    rw [Nat.add_comm] at hbody
    refine ⟨.capture n ((fragmentExpr f).shift n), n + 1 + fragmentGroups f, ?_, fun _ => rfl⟩
    have hnext : (low.shift n).next = n + 1 + fragmentGroups f := by
      simp only [Lowered.shift, (lower_eq_ok hlow).1, fragmentGroups]
      omega
    simp only [Slot.tree, lower, hbody, bind, Except.bind, pure, Except.pure, Lowered.expr_shift,
      hexpr, hnext]

theorem lower_ofFactors_cons {t : Tree} {ts : List Tree} (hts : ts ≠ []) {n next : Nat} {e : Expr}
    {low : Lowered} (ht : lower {} n t = .ok (.one e {} next))
    (hrest : lower {} next (Tree.ofFactors ts) = .ok low) :
    lower {} n (Tree.ofFactors (t :: ts)) =
      .ok (.one (Expr.concat [e, low.expr]) low.flags low.next) := by
  obtain ⟨t', ts', rfl⟩ := List.exists_cons_of_ne_nil hts
  simp only [Tree.ofFactors, lower, ht, Lowered.one, bind, Except.bind, hrest]
  rfl

/-- Slots and the end of the text are lowered to their expressions, up to the form of the
    row. -/
theorem exists_lower_slots [SizeLimit] {slots : List Slot}
    (husable : ∀ f, Slot.fragment f ∈ slots → Usable f) (n : Nat) :
    ∃ low, lower {} n (Tree.ofFactors (slots.map Slot.tree ++ [.assertion .lineEnd])) = .ok low ∧
      SameOutcomes [.run low.expr] (slotFrames n slots) := by
  induction slots generalizing n with
  | nil => exact ⟨_, rfl, .refl _⟩
  | cons slot slots ih =>
    obtain ⟨e, next, hslot, hexprs⟩ :=
      @lower_slot _ slot (fun f hf => husable f (by rw [hf]; exact List.mem_cons_self)) n
    obtain ⟨low, hlow, hsame⟩ := ih (fun f hf => husable f (List.mem_cons_of_mem _ hf)) next
    refine ⟨_, lower_ofFactors_cons (by simp) hslot hlow, ?_⟩
    rw [slotFrames, hexprs]
    exact (same_concat [e, low.expr] []).trans (hsame.cons (.run e))

/-- The assembled tree is lowered to the expressions of its slots, between the start and
    the end of the text. -/
theorem exists_lower_assembledTree [SizeLimit] {slots : List Slot}
    (husable : ∀ f, Slot.fragment f ∈ slots → Usable f) :
    ∃ low, lower {} 1 (assembledTree slots) = .ok low ∧
      SameOutcomes [.run low.expr] (.run (.look .textStart) :: slotFrames 1 slots) := by
  obtain ⟨low, hlow, hsame⟩ := exists_lower_slots husable 1
  refine ⟨_, lower_ofFactors_cons (by simp) rfl hlow, ?_⟩
  exact (same_concat [.look .textStart, low.expr] []).trans (hsame.cons _)

/-! ## 3. Searching -/

/-- Nothing of a stack that starts at the start of the text is found later. -/
theorem outcomes_textStart (position : Nat) (before : Option Char) (cs : List Char)
    (fs : List Frame) (m : Marks) :
    outcomes position before cs (.run (.look .textStart) :: fs) m =
      if before = none then outcomes position before cs fs m else [] := by
  cases before with
  | none =>
    rw [if_pos rfl]
    exact outcomes_congr (fun _ => by rw [stackItems_look]; rfl) cs
  | some c =>
    rw [if_neg (by simp)]
    cases cs <;> simp [outcomes, endsAt, stackItems_look, Look.holds]

/-- A search with the expression of a variant finds the first outcome of its slots. -/
theorem search_of_parse [SizeLimit] {text : String} {r : Regex} (hr : Regex.compile text = .ok r)
    {slots : List Slot} (hparse : parse text.toList = .ok (assembledTree slots))
    (husable : ∀ f, Slot.fragment f ∈ slots → Usable f) (path : List Char) :
    r.expr.search path = (outcomes 0 none path (slotFrames 1 slots) []).head? := by
  obtain ⟨t, ht, low, hlow, hexpr⟩ := Regex.compile_eq_ok hr
  obtain rfl := Except.ok.inj (hparse.symm.trans ht)
  obtain ⟨low', hlow', hsame⟩ := exists_lower_assembledTree husable
  obtain rfl := Except.ok.inj (hlow.symm.trans hlow')
  rw [hexpr, Expr.search_of_anchored]
  · rw [hsame, outcomes_textStart, if_pos rfl]
  · intro position c cs
    rw [hsame, outcomes_textStart, if_neg (by simp)]

end Wayfinder.Pattern
