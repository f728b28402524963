/-
  Wayfinder/Proofs/Pattern/Expression.lean
  ========================================
  **What an anchored expression keeps of a pattern.**

  The anchored expression of a pattern holds its literal characters and the fragments of
  its tokens; the numbers of the tokens are gone.  What is left is the *shape* of the
  pattern.  The expression gives the shape back as long as the end of each fragment can
  be told, which is so where the parentheses of every fragment match among themselves.
-/
import Wayfinder.Proofs.Pattern.Layout

namespace Wayfinder.Pattern

/-! ## 1. Shapes -/

/-- A part of a shape: a literal character or the fragment of a token. -/
inductive Slot where
  | char (c : Char)
  | fragment (f : String)
deriving DecidableEq, Repr

/-- The part of the expression that a slot contributes. -/
def Slot.expression : Slot → List Char
  | .char c => escapeChar c
  | .fragment f => '(' :: f.toList ++ [')']

/-- What a place leaves in the expression. -/
def Place.slot (fragments : List String) : Place → Slot
  | .char c => .char c
  | .digits ds => .fragment (fragmentAt fragments (Place.digits ds).position?)

/-- The shape of a pattern whose tokens have the given fragments. -/
def shape (pattern : String) (fragments : List String) : List Slot :=
  (places pattern).map (Place.slot fragments)

/-- The anchored expression of a shape. -/
def shapeText (slots : List Slot) : List Char :=
  '^' :: slots.flatMap Slot.expression ++ ['$']

theorem Place.expression_eq (fragments : List String) (p : Place) :
    p.expression fragments = (p.slot fragments).expression := by
  cases p <;> rfl

theorem anchoredExpression_eq_shapeText (pattern : String) (fragments : List String) :
    anchoredExpression pattern fragments = String.ofList (shapeText (shape pattern fragments)) := by
  have hplaces : Place.expression fragments = fun p => (p.slot fragments).expression :=
    funext (Place.expression_eq fragments)
  rw [anchoredExpression, shapeText, shape, List.flatMap_map, hplaces]

theorem toList_anchoredExpression (pattern : String) (fragments : List String) :
    (anchoredExpression pattern fragments).toList = shapeText (shape pattern fragments) := by
  rw [anchoredExpression_eq_shapeText, String.toList_ofList]

/-! ## 2. Where a fragment ends -/

/-- What a reader of a fragment keeps in mind: the open groups, the open brackets of a
    class, and whether the next character is escaped.  `opening` is 2 after a bracket that
    opens and 1 after its caret; there a closing bracket is literal. -/
structure Reading where
  groups : Nat := 0
  brackets : Nat := 0
  escaped : Bool := false
  opening : Nat := 0
deriving DecidableEq, Repr

/-- Read one more character.  There is no reading past a parenthesis that closes a group
    opened before the fragment. -/
def Reading.next? (s : Reading) (c : Char) : Option Reading :=
  if s.escaped then some { s with escaped := false, opening := 0 }
  else if c = '\\' then some { s with escaped := true }
  else if c = '[' then some { s with brackets := s.brackets + 1, opening := 2 }
  else if s.brackets = 0 then
    if c = '(' then some { s with groups := s.groups + 1 }
    else if c = ')' then
      if s.groups = 0 then none else some { s with groups := s.groups - 1 }
    else some s
  else if c = ']' ∧ s.opening = 0 then some { s with brackets := s.brackets - 1 }
  else some { s with opening := if c = '^' ∧ s.opening = 2 then 1 else 0 }

/-- Whether the parentheses of a fragment match among themselves, and no class or escape
    is left open at its end. -/
def SelfContained (fragment : String) : Prop :=
  fragment.toList.foldlM Reading.next? {} = some {}

instance (fragment : String) : Decidable (SelfContained fragment) :=
  inferInstanceAs (Decidable (_ = _))

/-- A reader that reaches the end of one text and the stop after it stops at the same
    place of any text that goes on alike. -/
theorem eq_of_append_stop {as bs xs ys : List Char} {s : Reading} {c : Char}
    (has : as.foldlM Reading.next? s = some {}) (hbs : bs.foldlM Reading.next? s = some {})
    (hstop : Reading.next? {} c = none) (h : as ++ c :: xs = bs ++ c :: ys) :
    as = bs ∧ xs = ys := by
  induction as generalizing bs s with
  | nil =>
    obtain rfl : s = {} := Option.some.inj has
    cases bs with
    | nil => exact ⟨rfl, (List.cons.inj h).2⟩
    | cons b bs =>
      -- the other text would have to be read past the stop
      obtain ⟨rfl, -⟩ := List.cons.inj h
      rw [List.foldlM_cons, hstop] at hbs
      cases hbs
  | cons a as ih =>
    cases bs with
    | nil =>
      obtain rfl : s = {} := Option.some.inj hbs
      obtain ⟨rfl, -⟩ := List.cons.inj h
      rw [List.foldlM_cons, hstop] at has
      cases has
    | cons b bs =>
      obtain ⟨rfl, hrest⟩ := List.cons.inj h
      rw [List.foldlM_cons] at has hbs
      cases hnext : Reading.next? s a with
      | none => rw [hnext] at has; cases has
      | some t =>
        rw [hnext] at has hbs
        obtain ⟨rfl, hxs⟩ := ih has hbs hrest
        exact ⟨rfl, hxs⟩

/-- The end of a self-contained fragment is found in its group. -/
theorem fragment_append_injective {f g : String} (hf : SelfContained f) (hg : SelfContained g)
    {as bs : List Char} (h : f.toList ++ ')' :: as = g.toList ++ ')' :: bs) : f = g ∧ as = bs := by
  obtain ⟨hlist, hrest⟩ := eq_of_append_stop hf hg rfl h
  exact ⟨String.toList_injective hlist, hrest⟩

/-! ## 3. Reading an expression back -/

theorem escapeChar_of_needsEscape {c : Char} (h : needsEscape c = true) :
    escapeChar c = ['\\', c] := if_pos h

theorem escapeChar_of_not_needsEscape {c : Char} (h : needsEscape c = false) :
    escapeChar c = [c] := if_neg (by rw [h]; exact Bool.false_ne_true)

/-- An escaped character can be told from what follows. -/
theorem escapeChar_append_injective {c d : Char} {as bs : List Char}
    (h : escapeChar c ++ as = escapeChar d ++ bs) : c = d ∧ as = bs := by
  cases hc : needsEscape c <;> cases hd : needsEscape d
  · rw [escapeChar_of_not_needsEscape hc, escapeChar_of_not_needsEscape hd] at h
    simpa using h
  · -- a backslash never stands for itself
    rw [escapeChar_of_not_needsEscape hc, escapeChar_of_needsEscape hd] at h
    obtain ⟨rfl, -⟩ := List.cons.inj h
    cases hc
  · rw [escapeChar_of_needsEscape hc, escapeChar_of_not_needsEscape hd] at h
    obtain ⟨rfl, -⟩ := List.cons.inj h
    cases hd
  · rw [escapeChar_of_needsEscape hc, escapeChar_of_needsEscape hd] at h
    simpa using h

/-- An escaped character does not start with a character that needs an escape, a
    backslash apart. -/
theorem escapeChar_append_ne {c d : Char} (hd : needsEscape d = true) (hne : d ≠ '\\')
    (as bs : List Char) : escapeChar c ++ as ≠ d :: bs := by
  intro h
  cases hc : needsEscape c with
  | true =>
    rw [escapeChar_of_needsEscape hc] at h
    exact hne (List.cons.inj h).1.symm
  | false =>
    rw [escapeChar_of_not_needsEscape hc] at h
    obtain ⟨rfl, -⟩ := List.cons.inj h
    rw [hc] at hd
    cases hd

/-- The expressions of two shapes agree only if the shapes do, where the fragments of
    both are self-contained.  If one of them has no fragment, nothing is asked of the
    other. -/
theorem slots_eq_of_expression_eq {p q : List Slot}
    (hclosed : ∀ f g, Slot.fragment f ∈ p → Slot.fragment g ∈ q → SelfContained f ∧ SelfContained g)
    (h : p.flatMap Slot.expression ++ ['$'] = q.flatMap Slot.expression ++ ['$']) : p = q := by
  induction p generalizing q with
  | nil =>
    cases q with
    | nil => rfl
    | cons s q =>
      cases s with
      | char c =>
        rw [List.flatMap_cons, List.append_assoc] at h
        exact absurd h.symm (escapeChar_append_ne (by decide) (by decide) _ _)
      | fragment g => simp [Slot.expression] at h
  | cons s p ih =>
    have ih' : ∀ {t q}, (∀ f g, Slot.fragment f ∈ s :: p → Slot.fragment g ∈ t :: q →
        SelfContained f ∧ SelfContained g) →
        p.flatMap Slot.expression ++ ['$'] = q.flatMap Slot.expression ++ ['$'] → p = q :=
      fun hpq => ih fun f g hf hg =>
        hpq f g (List.mem_cons_of_mem _ hf) (List.mem_cons_of_mem _ hg)
    cases q with
    | nil =>
      cases s with
      | char c =>
        rw [List.flatMap_cons, List.append_assoc] at h
        exact absurd h (escapeChar_append_ne (by decide) (by decide) _ _)
      | fragment f => simp [Slot.expression] at h
    | cons t q =>
      rw [List.flatMap_cons, List.flatMap_cons, List.append_assoc, List.append_assoc] at h
      cases s with
      | char c =>
        cases t with
        | char d =>
          obtain ⟨rfl, hrest⟩ := escapeChar_append_injective h
          rw [ih' hclosed hrest]
        | fragment g => exact absurd h (escapeChar_append_ne (by decide) (by decide) _ _)
      | fragment f =>
        cases t with
        | char d => exact absurd h.symm (escapeChar_append_ne (by decide) (by decide) _ _)
        | fragment g =>
          obtain ⟨hf, hg⟩ := hclosed f g List.mem_cons_self List.mem_cons_self
          simp only [Slot.expression, List.cons_append, List.append_assoc, List.nil_append,
            List.cons.injEq, true_and] at h
          obtain ⟨rfl, hrest⟩ := fragment_append_injective hf hg h
          rw [ih' hclosed hrest]

/-- The expression of a shape gives the shape back. -/
theorem slots_eq_of_shapeText_eq {p q : List Slot}
    (hclosed : ∀ f g, Slot.fragment f ∈ p → Slot.fragment g ∈ q → SelfContained f ∧ SelfContained g)
    (h : shapeText p = shapeText q) : p = q :=
  slots_eq_of_expression_eq hclosed (List.cons.inj h).2

/-! ## 4. The shape of a layout -/

/-- What a part of a layout leaves in the expression. -/
def Part.slot (fragments : List String) : Part → Slot
  | .char c => .char c
  | .token i => .fragment (fragments[i]?.getD defaultFragment)

theorem shape_layoutText {ps : List Part} (hps : ∀ p ∈ ps, p.Plain)
    (hbound : ∀ i ∈ tokensOf ps, i < wordBound) (fragments : List String) :
    shape (String.ofList (layoutText ps)) fragments = ps.map (Part.slot fragments) := by
  rw [shape, places_layoutText hps, List.map_map]
  refine List.map_congr_left fun p hp => ?_
  cases p with
  | char c => rfl
  | token i =>
    have hi := hbound i (mem_tokensOf.mpr hp)
    change Slot.fragment (fragmentAt fragments (Part.token i).place.position?) = _
    rw [position?_place, if_pos hi]
    rfl

theorem length_tokensOf_eq_of_slots_eq {ps qs : List Part} {fragments fragments' : List String}
    (h : ps.map (Part.slot fragments) = qs.map (Part.slot fragments')) :
    (tokensOf ps).length = (tokensOf qs).length := by
  induction ps generalizing qs with
  | nil => rw [List.map_eq_nil_iff.mp h.symm]
  | cons p ps ih =>
    cases qs with
    | nil => simp at h
    | cons q qs =>
      obtain ⟨hslot, hrest⟩ := List.cons.inj h
      cases p <;> cases q <;> simp [Part.slot] at hslot <;> simp [ih hrest]

/-- Layouts with one shape differ in the numbers of their tokens only. -/
theorem parts_eq_of_slots_eq {ps qs : List Part} {fragments fragments' : List String}
    (htokens : tokensOf ps = tokensOf qs)
    (h : ps.map (Part.slot fragments) = qs.map (Part.slot fragments')) : ps = qs := by
  induction ps generalizing qs with
  | nil => exact (List.map_eq_nil_iff.mp h.symm).symm
  | cons p ps ih =>
    cases qs with
    | nil => simp at h
    | cons q qs =>
      obtain ⟨hslot, hrest⟩ := List.cons.inj h
      cases p with
      | char c =>
        cases q with
        | char d =>
          obtain rfl := Slot.char.inj hslot
          rw [tokensOf_char, tokensOf_char] at htokens
          rw [ih htokens hrest]
        | token j => cases hslot
      | token i =>
        cases q with
        | char d => cases hslot
        | token j =>
          obtain ⟨rfl, htokens'⟩ := List.cons.inj htokens
          rw [ih htokens' hrest]

end Wayfinder.Pattern
