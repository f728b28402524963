/-
  Wayfinder/Proofs/Pattern/Reduced.lean
  =====================================
  **A variant written back as a pattern.**

  A variant is a pattern without optional wildcards, except that its tokens are numbers.
  Writing the names back gives a pattern that can be declared.  Its own positional form
  numbers the tokens anew, from the left, and the shape stays what it was.
-/
import Mathlib.Data.List.Flatten
import Wayfinder.Proofs.Pattern.Validity
import Wayfinder.Proofs.Pattern.Variants
import Wayfinder.Proofs.Pattern.Expression

namespace Wayfinder.Pattern

/-! ## 1. Writing names back -/

/-- A place as a piece of a pattern in which every wildcard is mandatory. -/
def Place.mandatory (names : List String) : Place → Piece
  | .char c => .char c
  | .digits ds => .wildcard ⟨((Place.digits ds).position?.bind (names[·]?)).getD "", false⟩

/-- A pattern with the name of its wildcard in place of every number. -/
def mandatoryText (names : List String) (pattern : String) : String :=
  String.ofList (((places pattern).map (Place.mandatory names)).flatMap Piece.text)

/-- A part of a layout as a piece of a pattern in which every wildcard is mandatory. -/
def Part.mandatory (names : List String) : Part → Piece
  | .char c => .char c
  | .token i => .wildcard ⟨names[i]?.getD "", false⟩

/-- The pieces of a layout whose names are written back. -/
def mandatoryPieces (names : List String) (ps : List Part) : List Piece :=
  ps.map (Part.mandatory names)

theorem mandatoryText_layoutText {ps : List Part} (h : FormLayout ps) (names : List String) :
    mandatoryText names (String.ofList (layoutText ps)) =
      String.ofList ((mandatoryPieces names ps).flatMap Piece.text) := by
  have hpieces : (places (String.ofList (layoutText ps))).map (Place.mandatory names) =
      mandatoryPieces names ps := by
    rw [places_layoutText h.plain, List.map_map]
    refine List.map_congr_left fun p hp => ?_
    cases p with
    | char c => rfl
    | token i =>
      have hi := h.bound i (mem_tokensOf.mpr hp)
      change Piece.wildcard ⟨((Part.token i).place.position?.bind (names[·]?)).getD "", false⟩ = _
      rw [position?_place, if_pos hi]
      rfl
  rw [mandatoryText, hpieces]

@[simp] theorem wildcardsIn_mandatoryPieces (names : List String) (ps : List Part) :
    wildcardsIn (mandatoryPieces names ps) =
      (tokensOf ps).map fun i => ⟨names[i]?.getD "", false⟩ := by
  induction ps with
  | nil => rfl
  | cons p ps ih =>
    cases p with
    | char c => exact ih
    | token i =>
      rw [tokensOf_token, List.map_cons, ← ih]
      rfl

theorem validPieces_mandatoryPieces {names : List String} {ps : List Part} (h : FormLayout ps)
    (hnames : ∀ i ∈ tokensOf ps, ValidName (names[i]?.getD ""))
    (hregular : ∀ c, Part.char c ∈ ps → c ≠ '\\' ∧ Text.isBlank c = false) :
    ValidPieces (mandatoryPieces names ps) where
  plain p hp := by
    obtain ⟨q, hq, rfl⟩ := List.mem_map.mp hp
    cases q with
    | char c => exact h.plain _ hq
    | token i => exact hnames i (mem_tokensOf.mpr hq)
  start := by
    obtain ⟨rest, rfl⟩ := List.head?_eq_some_iff.mp h.start
    rfl
  single := by
    rw [mandatoryPieces, List.isChain_map]
    refine h.single.imp fun p q hpq hslash => hpq ?_
    cases p <;> cases q <;> simp_all [Part.mandatory]
  regular c hc := by
    obtain ⟨q, hq, hslot⟩ := List.mem_map.mp hc
    cases q with
    | char d =>
      obtain rfl := Piece.char.inj hslot
      exact hregular d hq
    | token i => cases hslot

/-! ## 2. Numbering anew -/

/-- Numbering anew keeps the shape, where the fragments follow the tokens. -/
theorem slots_numbered_mandatoryPieces {names fragments fragments' : List String} (start : Nat)
    (ps : List Part)
    (hfragments : ∀ k i, (tokensOf ps)[k]? = some i →
      fragments'[start + k]?.getD defaultFragment = fragments[i]?.getD defaultFragment) :
    (numbered start (mandatoryPieces names ps)).map (Part.slot fragments') =
      ps.map (Part.slot fragments) := by
  induction ps generalizing start with
  | nil => rfl
  | cons p ps ih =>
    cases p with
    | char c =>
      rw [List.map_cons, ← ih start hfragments]
      rfl
    | token i =>
      have hhere := hfragments 0 i rfl
      have hrest : ∀ k j, (tokensOf ps)[k]? = some j →
          fragments'[start + 1 + k]?.getD defaultFragment =
            fragments[j]?.getD defaultFragment := by
        intro k j hj
        rw [Nat.add_right_comm]
        exact hfragments (k + 1) j hj
      rw [List.map_cons, ← ih (start + 1) hrest]
      simp only [Nat.add_zero] at hhere
      change Slot.fragment _ :: _ = Slot.fragment _ :: _
      rw [hhere]
      rfl

/-- A layout without tokens is written back as it is. -/
theorem layoutText_numbered_of_tokensOf_eq_nil {ps : List Part} (names : List String) (start : Nat)
    (hnone : tokensOf ps = []) :
    layoutText (numbered start (mandatoryPieces names ps)) = layoutText ps := by
  induction ps with
  | nil => rfl
  | cons p ps ih =>
    cases p with
    | char c =>
      rw [layoutText_cons, ← ih hnone]
      rfl
    | token i => cases hnone

/-! ## 3. Length -/

theorem length_mandatoryPieces_numbered_le {names : List String} {start : Nat} {qs : List Piece}
    (hnames : ∀ k w, (wildcardsIn qs)[k]? = some w → names[start + k]?.getD "" = w.name) :
    ((mandatoryPieces names (numbered start qs)).flatMap Piece.text).length ≤
      (qs.flatMap Piece.text).length := by
  induction qs generalizing start with
  | nil => rfl
  | cons q qs ih =>
    cases q with
    | char c =>
      have ih' := ih hnames
      simp only [numbered, mandatoryPieces, List.map_cons, List.flatMap_cons, List.length_append]
        at ih' ⊢
      simp only [Part.mandatory, Piece.text, List.length_singleton]
      omega
    | wildcard w =>
      have hhere := hnames 0 w rfl
      have hrest : ∀ k v, (wildcardsIn qs)[k]? = some v →
          names[start + 1 + k]?.getD "" = v.name := by
        intro k v hv
        rw [Nat.add_right_comm]
        exact hnames (k + 1) v hv
      have ih' := ih hrest
      simp only [numbered, mandatoryPieces, List.map_cons, List.flatMap_cons, List.length_append]
        at ih' ⊢
      simp only [Nat.add_zero] at hhere
      have htoken : (Piece.wildcard ⟨w.name, false⟩).text.length ≤
          (Piece.wildcard w).text.length := by
        cases hopt : w.optional <;> simp [Piece.text, Wildcard.token, hopt]
      simp only [Part.mandatory, hhere]
      omega

/-- The text of some of the pieces is no longer than that of all. -/
theorem length_mandatoryPieces_le_of_sublist {names : List String} {ps qs : List Part}
    (h : ps.Sublist qs) :
    ((mandatoryPieces names ps).flatMap Piece.text).length ≤
      ((mandatoryPieces names qs).flatMap Piece.text).length :=
  ((h.map _).flatMap _).length_le

end Wayfinder.Pattern
