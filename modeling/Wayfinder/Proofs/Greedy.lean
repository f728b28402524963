/-
  Wayfinder/Proofs/Greedy.lean
  ============================
  **Taking a path apart without expressions.**

  A pattern whose tokens stand for segments can be held against a path directly: every
  way to cut the path into the literal characters of the pattern and one segment for
  each token is a *decomposition*.  There may be several, as segments may stand side by
  side.  The *greedy* one makes the first segment as long as possible, then the second,
  and so on: the lengths of its segments are the greatest in lexicographic order.
-/
import Wayfinder.Proofs.Segments

namespace Wayfinder.Pattern

/-! ## 1. Decompositions -/

/-- The number of tokens among places. -/
def tokenCount : List Place → Nat
  | [] => 0
  | .char _ :: ps => tokenCount ps
  | .digits _ :: ps => tokenCount ps + 1

/-- The text of places with values in place of the tokens, from left to right. -/
def writeValues : List Place → List (List Char) → List Char
  | [], _ => []
  | .char c :: ps, values => c :: writeValues ps values
  | .digits _ :: ps, [] => writeValues ps []
  | .digits _ :: ps, v :: values => v ++ writeValues ps values

/-- Whether a text is the literal characters of places and a segment for every token. -/
structure Decomposes (ps : List Place) (text : List Char) (values : List (List Char)) : Prop where
  count : values.length = tokenCount ps
  segments : ∀ v ∈ values, IsSegment v
  text_eq : text = writeValues ps values

/-- Whether of all decompositions of a text this one makes the first segment as long as
    possible, then the second, and so on. -/
def IsGreedy (ps : List Place) (text : List Char) (values : List (List Char)) : Prop :=
  Decomposes ps text values ∧
    ∀ others, Decomposes ps text others →
      others = values ∨ others.map List.length < values.map List.length

theorem decomposes_nil_iff {text : List Char} {values : List (List Char)} :
    Decomposes [] text values ↔ text = [] ∧ values = [] := by
  constructor
  · rintro ⟨hcount, -, rfl⟩
    exact ⟨rfl, List.length_eq_zero_iff.mp hcount⟩
  · rintro ⟨rfl, rfl⟩
    exact ⟨rfl, by simp, rfl⟩

theorem decomposes_char_iff {c : Char} {ps : List Place} {text : List Char}
    {values : List (List Char)} :
    Decomposes (.char c :: ps) text values ↔
      ∃ rest, text = c :: rest ∧ Decomposes ps rest values := by
  constructor
  · rintro ⟨hcount, hsegments, rfl⟩
    exact ⟨_, rfl, hcount, hsegments, rfl⟩
  · rintro ⟨rest, rfl, hcount, hsegments, rfl⟩
    exact ⟨hcount, hsegments, rfl⟩

theorem decomposes_digits_iff {ds : List Char} {ps : List Place} {text : List Char}
    {values : List (List Char)} :
    Decomposes (.digits ds :: ps) text values ↔
      ∃ v rest others, text = v ++ rest ∧ IsSegment v ∧ Decomposes ps rest others ∧
        values = v :: others := by
  constructor
  · rintro ⟨hcount, hsegments, rfl⟩
    cases values with
    | nil => cases hcount
    | cons v values =>
      exact ⟨v, _, values, rfl, hsegments v List.mem_cons_self,
        ⟨Nat.succ.inj hcount, fun w hw => hsegments w (List.mem_cons_of_mem _ hw), rfl⟩, rfl⟩
  · rintro ⟨v, rest, others, rfl, hv, ⟨hcount, hsegments, rfl⟩, rfl⟩
    exact ⟨congrArg (· + 1) hcount, List.forall_mem_cons.mpr ⟨hv, hsegments⟩, rfl⟩

/-! ## 2. Listing the decompositions -/

/-- The ways to take a segment off a text, the longest first: the segment and the rest. -/
def segmentSplits : List Char → List (List Char × List Char)
  | [] => []
  | c :: cs =>
    if isSegmentChar c then (segmentSplits cs ++ [([], cs)]).map fun (v, rest) => (c :: v, rest)
    else []

/-- The decompositions of a text, the greedy one first. -/
def decompositions : List Place → List Char → List (List (List Char))
  | [], [] => [[]]
  | [], _ :: _ => []
  | .char _ :: _, [] => []
  | .char c :: ps, d :: cs => if c = d then decompositions ps cs else []
  | .digits _ :: ps, cs =>
    (segmentSplits cs).flatMap fun (v, rest) =>
      (decompositions ps rest).map fun values => v :: values

/-- The values of the greedy decomposition of a path by a pattern. -/
def greedyValues? (pattern path : String) : Option (List String) :=
  (decompositions (places pattern) path.toList).head?.map fun values => values.map String.ofList

theorem mem_segmentSplits {cs : List Char} {p : List Char × List Char} :
    p ∈ segmentSplits cs ↔ cs = p.1 ++ p.2 ∧ IsSegment p.1 := by
  induction cs generalizing p with
  | nil =>
    constructor
    · intro h
      cases h
    · rintro ⟨htext, hne, -⟩
      exact absurd (List.append_eq_nil_iff.mp htext.symm).1 hne
  | cons c cs ih =>
    rw [segmentSplits]
    by_cases hc : isSegmentChar c = true
    · rw [if_pos hc, List.mem_map]
      constructor
      · rintro ⟨q, hq, rfl⟩
        rcases List.mem_append.mp hq with hq | hq
        · obtain ⟨rfl, -, hall⟩ := ih.mp hq
          exact ⟨rfl, by simp, List.forall_mem_cons.mpr ⟨hc, hall⟩⟩
        · obtain rfl := List.mem_singleton.mp hq
          exact ⟨rfl, by simp, by simpa using hc⟩
      · obtain ⟨v, rest⟩ := p
        rintro ⟨htext, hne, hall⟩
        obtain ⟨d, v, rfl⟩ := List.exists_cons_of_ne_nil hne
        obtain ⟨rfl, rfl⟩ := List.cons.inj htext
        refine ⟨(v, rest), ?_, rfl⟩
        by_cases hv : v = []
        · subst hv
          exact List.mem_append_right _ (List.mem_singleton.mpr rfl)
        · exact List.mem_append_left _
            (ih.mpr ⟨rfl, hv, fun d hd => hall d (List.mem_cons_of_mem _ hd)⟩)
    · rw [if_neg hc]
      constructor
      · intro h
        cases h
      · rintro ⟨htext, hne, hall⟩
        obtain ⟨d, v, hv⟩ := List.exists_cons_of_ne_nil hne
        rw [hv] at htext hall
        obtain ⟨rfl, -⟩ := List.cons.inj htext
        exact absurd (hall c List.mem_cons_self) hc

theorem mem_decompositions {ps : List Place} {text : List Char} {values : List (List Char)} :
    values ∈ decompositions ps text ↔ Decomposes ps text values := by
  induction ps generalizing text values with
  | nil =>
    rw [decomposes_nil_iff]
    cases text <;> simp [decompositions]
  | cons p ps ih =>
    cases p with
    | char c =>
      rw [decomposes_char_iff]
      cases text with
      | nil => simp [decompositions]
      | cons d cs =>
        rw [decompositions]
        by_cases hcd : c = d
        · subst hcd
          rw [if_pos rfl, ih]
          simp
        · rw [if_neg hcd]
          simp [Ne.symm hcd]
    | digits ds =>
      rw [decomposes_digits_iff]
      simp only [decompositions, List.mem_flatMap, List.mem_map, mem_segmentSplits, ih]
      constructor
      · rintro ⟨⟨v, rest⟩, ⟨htext, hv⟩, others, hothers, rfl⟩
        exact ⟨v, rest, others, htext, hv, hothers, rfl⟩
      · rintro ⟨v, rest, others, htext, hv, hothers, rfl⟩
        exact ⟨(v, rest), ⟨htext, hv⟩, others, hothers, rfl⟩

/-! ## 3. The order of the list -/

theorem pairwise_segmentSplits (cs : List Char) :
    (segmentSplits cs).Pairwise fun p q => q.1.length < p.1.length := by
  induction cs with
  | nil => exact .nil
  | cons c cs ih =>
    rw [segmentSplits]
    split
    · rw [List.pairwise_map, List.pairwise_append]
      refine ⟨ih.imp fun h => Nat.succ_lt_succ h, List.pairwise_singleton _ _, ?_⟩
      intro p hp q hq
      obtain rfl := List.mem_singleton.mp hq
      -- a split takes one character at least
      have hne := (mem_segmentSplits.mp hp).2.1
      exact Nat.succ_lt_succ (List.length_pos_iff.mpr hne)
    · exact .nil

/-- A decomposition with longer segments stands before one with shorter ones. -/
theorem pairwise_decompositions (ps : List Place) (text : List Char) :
    (decompositions ps text).Pairwise fun values others =>
      others.map List.length < values.map List.length := by
  induction ps generalizing text with
  | nil => cases text <;> simp [decompositions]
  | cons p ps ih =>
    cases p with
    | char c =>
      cases text with
      | nil => exact .nil
      | cons d cs =>
        rw [decompositions]
        split
        · exact ih cs
        · exact .nil
    | digits ds =>
      rw [decompositions, List.pairwise_flatMap]
      constructor
      · rintro ⟨v, rest⟩ -
        rw [List.pairwise_map]
        exact (ih rest).imp fun h => List.cons_lt_cons_self.mpr h
      · refine (pairwise_segmentSplits text).imp ?_
        rintro ⟨v, rest⟩ ⟨w, rest'⟩ hlength values hvalues others hothers
        obtain ⟨values, -, rfl⟩ := List.mem_map.mp hvalues
        obtain ⟨others, -, rfl⟩ := List.mem_map.mp hothers
        exact List.Lex.rel hlength

/-- The first decomposition of the list is the greedy one. -/
theorem head?_decompositions_eq_some_iff {ps : List Place} {text : List Char}
    {values : List (List Char)} :
    (decompositions ps text).head? = some values ↔ IsGreedy ps text values := by
  have hpairwise := pairwise_decompositions ps text
  have hmem : ∀ {others}, others ∈ decompositions ps text ↔ Decomposes ps text others :=
    mem_decompositions
  cases hlist : decompositions ps text with
  | nil =>
    rw [hlist] at hmem
    constructor
    · intro h
      cases h
    · rintro ⟨hvalues, -⟩
      cases hmem.mpr hvalues
  | cons first rest =>
    rw [hlist] at hpairwise hmem
    have hfirst : IsGreedy ps text first := by
      refine ⟨hmem.mp List.mem_cons_self, ?_⟩
      intro others hothers
      rcases List.mem_cons.mp (hmem.mpr hothers) with h | h
      · exact Or.inl h
      · exact Or.inr ((List.pairwise_cons.mp hpairwise).1 others h)
    constructor
    · intro h
      rwa [← Option.some.inj h]
    · rintro ⟨hvalues, hgreatest⟩
      -- of two greedy decompositions neither is smaller
      rcases hfirst.2 values hvalues with h | h
      · rw [h]
        rfl
      · rcases hgreatest first hfirst.1 with h' | h'
        · rw [h']
          rfl
        · exact absurd h (List.lt_asymm h')

theorem greedyValues?_eq_some_iff {pattern path : String} {values : List String} :
    greedyValues? pattern path = some values ↔
      IsGreedy (places pattern) path.toList (values.map String.toList) := by
  have hstrings : ∀ chars : List (List Char),
      chars.map String.ofList = values ↔ chars = values.map String.toList := by
    intro chars
    constructor
    · rintro rfl
      simp [Function.comp_def]
    · rintro rfl
      simp [Function.comp_def]
  rw [← head?_decompositions_eq_some_iff, greedyValues?, Option.map_eq_some_iff]
  simp only [hstrings, exists_eq_right]

theorem greedyValues?_eq_none_iff {pattern path : String} :
    greedyValues? pattern path = none ↔
      ∀ values, ¬Decomposes (places pattern) path.toList values := by
  rw [greedyValues?, Option.map_eq_none_iff, List.head?_eq_none_iff,
    List.eq_nil_iff_forall_not_mem]
  simp only [mem_decompositions]

end Wayfinder.Pattern
