/-
  Wayfinder/Proofs/Choices.lean
  =============================
  **Variants are the subsets of the optionals.**

  A variant is made by removing tokens from a text, putting the rest into canonical form,
  leaving out repeated texts, and reading the text that is left for its tokens.  None of
  this loses anything: the tokens of a variant are those of the form that were not removed,
  so they tell the counter value of the variant, no two texts are equal, and the variants
  in their order are the subsets of the optionals in the order of the counter.
-/
import Mathlib.Data.Finset.Basic
import Mathlib.Data.Finset.Filter
import Mathlib.Data.Nat.Bitwise
import Wayfinder.Proofs.Pattern.Grammar
import Wayfinder.Proofs.Registration

namespace Wayfinder

open Wayfinder.Pattern

namespace Pattern

/-! ## 1. What is said of the variants -/

/-- The numerals of the tokens in a text, from left to right. -/
def numeralsIn (text : String) : List (List Char) :=
  (places text).filterMap fun
    | .char _ => none
    | .digits ds => some ds

/-- A text without the tokens of some positions. -/
def withoutTokens (text : String) (removed : List Nat) : List Char :=
  ((places text).filter fun p => ∀ i ∈ removed, p ≠ .digits (digitsOf i)).flatMap Place.text

/-- The positions that are left when of the optionals only some are present, ascending. -/
def Wildcards.keeping (ws : Wildcards) (present : Finset Nat) : List Nat :=
  (List.range ws.size).filter fun i => i ∉ ws.optionalPositions ∨ i ∈ present

/-- Some variants are the choices of a pattern: one for each subset of the optionals, in the
    order of the counter whose bits tell which optionals are absent. -/
structure EnumeratesChoices (ws : Wildcards) (vs : List AnchoredVariant) : Prop where
  count : vs.length = 2 ^ ws.optionalPositions.length
  distinct : (vs.map (·.pattern)).Nodup
  /-- Every subset of the optionals is kept by exactly one variant. -/
  bijective : ∀ present ⊆ ws.optionalPositions.toFinset,
    ∃! v, v ∈ vs ∧ v.indices = ws.keeping present
  /-- The tokens of a pattern are the positions of the variant. -/
  tokens : ∀ v ∈ vs, numeralsIn v.pattern = v.indices.map digitsOf
  /-- The full pattern is the form itself, and the others are what is left of it. -/
  pattern : ∀ v ∈ vs, ∀ present ⊆ ws.optionalPositions.toFinset,
    v.indices = ws.keeping present →
      v.pattern =
        if present = ws.optionalPositions.toFinset then ws.positionalForm
        else String.ofList (normalizeChars (withoutTokens ws.positionalForm
          (ws.optionalPositions.filter (· ∉ present))))
  /-- The bits of the number of a variant tell which optionals are absent. -/
  order : ∀ (counter : Nat) (v : AnchoredVariant), vs[counter]? = some v →
    ∀ (bit i : Nat), ws.optionalPositions[bit]? = some i →
      (i ∉ v.indices ↔ counter.testBit bit = true)
  start : ∀ v ∈ vs, ['/'] <+: v.pattern.toList
  single : ∀ v ∈ vs, ¬['/', '/'] <:+: v.pattern.toList

/-! ## 2. The positions of a choice -/

theorem mem_flaggedFrom {start i : Nat} {flags : List Bool} :
    i ∈ flaggedFrom start flags ↔ start ≤ i ∧ flags[i - start]? = some true := by
  induction flags generalizing start with
  | nil => simp [flaggedFrom]
  | cons flag flags ih =>
    have hsub : start + 1 ≤ i → i - start = i - (start + 1) + 1 := by omega
    cases flag with
    | true =>
      rw [flaggedFrom, List.mem_cons, ih]
      rcases Nat.lt_trichotomy start i with hlt | rfl | hgt
      · simp [hsub hlt, hlt.ne', hlt.le, Nat.succ_le_of_lt hlt]
      · simp
      · simp [hgt.ne, Nat.not_le.mpr hgt, Nat.not_le.mpr (Nat.lt_succ_of_lt hgt)]
    | false =>
      rw [flaggedFrom, ih]
      rcases Nat.lt_trichotomy start i with hlt | rfl | hgt
      · simp [hsub hlt, hlt.le, Nat.succ_le_of_lt hlt]
      · simp
      · simp [Nat.not_le.mpr hgt, Nat.not_le.mpr (Nat.lt_succ_of_lt hgt)]

theorem nodup_flaggedFrom (start : Nat) (flags : List Bool) : (flaggedFrom start flags).Nodup := by
  induction flags generalizing start with
  | nil => exact .nil
  | cons flag flags ih =>
    cases flag with
    | true =>
      refine List.nodup_cons.mpr ⟨?_, ih (start + 1)⟩
      rw [mem_flaggedFrom]
      omega
    | false => exact ih (start + 1)

/-- The optionals that are absent at a counter value. -/
def absentAt (optionals : List Nat) (counter : Nat) : List Nat :=
  absentPositions optionals (presence optionals.length counter)

theorem getElem?_presence {k counter bit : Nat} (hbit : bit < k) :
    (presence k counter)[bit]? = some !counter.testBit bit := by
  rw [presence, List.getElem?_map, List.getElem?_range hbit, Option.map_some]

theorem mem_absentAt {optionals : List Nat} {counter i : Nat} :
    i ∈ absentAt optionals counter ↔
      ∃ bit : Nat, optionals[bit]? = some i ∧ counter.testBit bit = true := by
  rw [absentAt, absentPositions, List.mem_filterMap]
  constructor
  · rintro ⟨⟨j, present⟩, hmem, hj⟩
    obtain ⟨bit, hbit⟩ := List.mem_iff_getElem?.mp hmem
    obtain ⟨hoptional, hpresent⟩ := List.getElem?_zip_eq_some.mp hbit
    simp only at hj hoptional hpresent
    split at hj
    · cases hj
    · rename_i habsent
      obtain rfl := Option.some.inj hj
      obtain ⟨hlt, -⟩ := List.getElem?_eq_some_iff.mp hoptional
      rw [getElem?_presence hlt, Option.some.injEq] at hpresent
      refine ⟨bit, hoptional, ?_⟩
      simpa [← hpresent] using habsent
  · rintro ⟨bit, hoptional, hset⟩
    obtain ⟨hlt, -⟩ := List.getElem?_eq_some_iff.mp hoptional
    refine ⟨(i, false), List.mem_iff_getElem?.mpr ⟨bit, ?_⟩, rfl⟩
    rw [List.getElem?_zip_eq_some, getElem?_presence hlt, hset]
    exact ⟨hoptional, rfl⟩

theorem mem_of_mem_absentAt {optionals : List Nat} {counter i : Nat}
    (h : i ∈ absentAt optionals counter) : i ∈ optionals := by
  obtain ⟨bit, hi, -⟩ := mem_absentAt.mp h
  exact List.mem_of_getElem? hi

theorem mem_absentAt_iff {optionals : List Nat} (hnodup : optionals.Nodup) {counter bit i : Nat}
    (hi : optionals[bit]? = some i) :
    i ∈ absentAt optionals counter ↔ counter.testBit bit = true := by
  rw [mem_absentAt]
  constructor
  · rintro ⟨bit', hi', hset⟩
    obtain ⟨hlt, -⟩ := List.getElem?_eq_some_iff.mp hi
    obtain rfl := (List.getElem?_inj hlt hnodup).mp (hi.trans hi'.symm)
    exact hset
  · intro hset
    exact ⟨bit, hi, hset⟩

/-- Different counter values leave out different optionals. -/
theorem counter_injective {optionals : List Nat} (hnodup : optionals.Nodup) {c c' : Nat}
    (hc : c < 2 ^ optionals.length) (hc' : c' < 2 ^ optionals.length)
    (hsame : ∀ i ∈ optionals, i ∈ absentAt optionals c ↔ i ∈ absentAt optionals c') : c = c' := by
  apply Nat.eq_of_testBit_eq
  intro bit
  by_cases hbit : bit < optionals.length
  · have hi := List.getElem?_eq_getElem hbit
    have hbits := hsame _ (List.mem_of_getElem? hi)
    rw [mem_absentAt_iff hnodup hi, mem_absentAt_iff hnodup hi] at hbits
    exact Bool.eq_iff_iff.mpr hbits
  · have hpow : 2 ^ optionals.length ≤ 2 ^ bit :=
      Nat.pow_le_pow_right Nat.zero_lt_two (Nat.le_of_not_lt hbit)
    rw [Nat.testBit_lt_two_pow (hc.trans_le hpow), Nat.testBit_lt_two_pow (hc'.trans_le hpow)]

/-- Every subset of the optionals is left in place at some counter value. -/
theorem exists_counter {optionals : List Nat} (hnodup : optionals.Nodup) (present : Finset Nat) :
    ∃ c < 2 ^ optionals.length, ∀ i ∈ optionals, i ∈ absentAt optionals c ↔ i ∉ present := by
  -- the bits of the counter are set where the optional is not in the subset
  refine ⟨Nat.ofBits fun bit : Fin optionals.length => optionals[bit] ∉ present,
    Nat.ofBits_lt_two_pow _, ?_⟩
  intro i hi
  obtain ⟨bit, hbit⟩ := List.mem_iff_getElem?.mp hi
  obtain ⟨hlt, rfl⟩ := List.getElem?_eq_some_iff.mp hbit
  rw [mem_absentAt_iff hnodup hbit, Nat.testBit_ofBits_lt _ _ hlt, decide_eq_true_iff]
  rfl

/-! ## 3. Expansion as a table -/

/-- The positions that are kept at a counter value. -/
def keptAt (optional : List Bool) (counter : Nat) : List Nat :=
  (List.range optional.length).filter fun i => i ∉ absentAt (flaggedFrom 0 optional) counter

/-- The variant of a counter value. -/
def choiceAt (form : String) (optional : List Bool) (counter : Nat) : Variant :=
  ⟨variantPattern form (absentAt (flaggedFrom 0 optional) counter), keptAt optional counter⟩

section Table

variable {form : List Part} {optional : List Bool}

theorem lt_of_mem_flaggedFrom {i : Nat} (hi : i ∈ flaggedFrom 0 optional) : i < optional.length :=
  (List.getElem?_eq_some_iff.mp (mem_flaggedFrom.mp hi).2).1

theorem mem_keptAt {c i : Nat} (hi : i ∈ flaggedFrom 0 optional) :
    i ∈ keptAt optional c ↔ i ∉ absentAt (flaggedFrom 0 optional) c := by
  simp [keptAt, lt_of_mem_flaggedFrom hi]

/-- The positions that are kept tell the counter value. -/
theorem keptAt_injective {c c' : Nat} (hc : c < 2 ^ (flaggedFrom 0 optional).length)
    (hc' : c' < 2 ^ (flaggedFrom 0 optional).length) (h : keptAt optional c = keptAt optional c') :
    c = c' := by
  refine counter_injective (nodup_flaggedFrom 0 optional) hc hc' ?_
  intro i hi
  rw [← not_iff_not, ← mem_keptAt hi, ← mem_keptAt hi, h]

theorem exists_layout_choiceAt (h : FormLayout form)
    (htokens : tokensOf form = List.range optional.length) (c : Nat) :
    ∃ ps, FormLayout ps ∧
      (choiceAt (String.ofList (layoutText form)) optional c).pattern =
        String.ofList (layoutText ps) ∧
      keptAt optional c = tokensOf ps := by
  obtain ⟨ps, htext, hlayout, -, htokens'⟩ :=
    exists_layout_variantPattern h (absentAt (flaggedFrom 0 optional) c)
  refine ⟨ps, hlayout, htext, ?_⟩
  rw [htokens', htokens]
  rfl

theorem survivingPositions_choiceAt (h : FormLayout form)
    (htokens : tokensOf form = List.range optional.length) (c : Nat) :
    survivingPositions (choiceAt (String.ofList (layoutText form)) optional c).pattern =
      keptAt optional c := by
  obtain ⟨ps, hlayout, hpattern, hindices⟩ := exists_layout_choiceAt h htokens c
  rw [hpattern, hindices, survivingPositions_layoutText hlayout.plain hlayout.bound]

/-- Expansion makes one variant for each counter value and drops none. -/
theorem expand_eq_map (h : FormLayout form)
    (htokens : tokensOf form = List.range optional.length) :
    expand (String.ofList (layoutText form)) optional =
      (List.range (2 ^ (flaggedFrom 0 optional).length)).map
        (choiceAt (String.ofList (layoutText form)) optional) := by
  have hpatterns : choicePatterns (String.ofList (layoutText form)) optional =
      (List.range (2 ^ (flaggedFrom 0 optional).length)).map fun c =>
        (choiceAt (String.ofList (layoutText form)) optional c).pattern := by
    rw [choicePatterns, powerSet, Nat.one_shiftLeft, List.map_map]
    rfl
  by_cases hsome : flaggedFrom 0 optional = []
  · -- without optionals the form is taken as it is, and its text is not read again
    have hone : List.range (2 ^ (flaggedFrom 0 optional).length) = [0] := by
      rw [hsome]
      rfl
    have habsent : absentAt (flaggedFrom 0 optional) 0 = [] := by
      rw [hsome]
      rfl
    rw [hone, expand, hsome, List.map_singleton, choiceAt, habsent]
    simp [variantPattern, keptAt, habsent]
  · rw [expand_of_nodup hsome, hpatterns, List.map_map]
    · refine List.map_congr_left fun c _ => ?_
      rw [Function.comp_apply, survivingPositions_choiceAt h htokens c]
      rfl
    · -- two texts that are equal have the same tokens
      rw [hpatterns]
      refine List.Nodup.map_on ?_ List.nodup_range
      intro c hc c' hc' hsame
      refine keptAt_injective (List.mem_range.mp hc) (List.mem_range.mp hc') ?_
      rw [← survivingPositions_choiceAt h htokens c, ← survivingPositions_choiceAt h htokens c',
        hsame]

theorem withoutTokens_layoutText (hplain : ∀ p ∈ form, p.Plain) (removed : List Nat) :
    withoutTokens (String.ofList (layoutText form)) removed =
      layoutText (form.filter fun p => ∀ i ∈ removed, p ≠ .token i) := by
  have htext : Place.text ∘ Part.place = Part.text := by
    funext p
    cases p <;> rfl
  have hplace : ∀ p : Part, (∀ i ∈ removed, p.place ≠ .digits (digitsOf i)) ↔
      ∀ i ∈ removed, p ≠ .token i := by
    intro p
    refine forall₂_congr fun i _ => not_congr ?_
    cases p with
    | char c => simp [Part.place]
    | token j =>
      simp only [Part.place, Place.digits.injEq, Part.token.injEq]
      exact ⟨digitsOf_injective, fun h => h ▸ rfl⟩
  -- the text is read back as the places of the layout, so the filter acts on its parts
  rw [withoutTokens, places_layoutText hplain, List.filter_map, List.flatMap_map, layoutText]
  have hfilter : ((fun p => decide (∀ i ∈ removed, p ≠ .digits (digitsOf i))) ∘ Part.place) =
      fun p => decide (∀ i ∈ removed, p ≠ Part.token i) := by
    funext p
    exact decide_eq_decide.mpr (hplace p)
  rw [hfilter]
  exact congrArg (fun f => List.flatMap f _) htext

/-- The pattern of a choice in which some optionals are absent, whatever the order in which
    their tokens are removed. -/
theorem variantPattern_eq (hplain : ∀ p ∈ form, p.Plain) {absent removed : List Nat}
    (hsome : absent ≠ []) (hsame : ∀ i, i ∈ absent ↔ i ∈ removed) :
    variantPattern (String.ofList (layoutText form)) absent =
      String.ofList (normalizeChars
        (withoutTokens (String.ofList (layoutText form)) removed)) := by
  rw [variantPattern, if_neg (by simpa using hsome), String.toList_ofList,
    removePositions_layoutText absent form hplain, withoutTokens_layoutText hplain]
  simp only [hsame]

end Table

/-! ## 4. Subsets of the optionals -/

section Subsets

variable {ws : Wildcards} {present present' : Finset Nat} {c : Nat}

theorem mem_keeping {i : Nat} (hi : i ∈ ws.optionalPositions) (hlt : i < ws.size) :
    i ∈ ws.keeping present ↔ i ∈ present := by
  simp [Wildcards.keeping, hi, hlt]

/-- A counter value keeps what its subset of the optionals keeps. -/
theorem keptAt_eq_keeping (hsize : ws.optional.length = ws.size)
    (h : ∀ i ∈ ws.optionalPositions, i ∈ absentAt ws.optionalPositions c ↔ i ∉ present) :
    keptAt ws.optional c = ws.keeping present := by
  rw [keptAt, Wildcards.keeping, hsize]
  refine List.filter_congr fun i _ => decide_eq_decide.mpr ?_
  by_cases hi : i ∈ ws.optionalPositions
  · have habsent := h i hi
    rw [Wildcards.optionalPositions] at habsent hi
    simp [Wildcards.optionalPositions, habsent, hi]
  · exact iff_of_true (fun hmem => hi (mem_of_mem_absentAt hmem)) (Or.inl hi)

theorem absentAt_iff_of_keptAt (hsize : ws.optional.length = ws.size)
    (h : keptAt ws.optional c = ws.keeping present) :
    ∀ i ∈ ws.optionalPositions, i ∈ absentAt ws.optionalPositions c ↔ i ∉ present := by
  intro i hi
  have hlt : i < ws.size := hsize ▸ lt_of_mem_flaggedFrom hi
  rw [← mem_keeping hi hlt, ← h, mem_keptAt hi, not_not]
  rfl

theorem absentAt_eq_nil_iff (hsub : present ⊆ ws.optionalPositions.toFinset)
    (h : ∀ i ∈ ws.optionalPositions, i ∈ absentAt ws.optionalPositions c ↔ i ∉ present) :
    absentAt ws.optionalPositions c = [] ↔ present = ws.optionalPositions.toFinset := by
  constructor
  · intro hnone
    refine hsub.antisymm fun i hi => ?_
    rw [List.mem_toFinset] at hi
    have hi' := h i hi
    rw [hnone] at hi'
    simpa using hi'
  · rintro rfl
    rw [List.eq_nil_iff_forall_not_mem]
    intro i hi
    have hoptional := mem_of_mem_absentAt hi
    exact (h i hoptional).mp hi (List.mem_toFinset.mpr hoptional)

theorem variantPattern_absentAt {form : List Part} (hplain : ∀ p ∈ form, p.Plain)
    (hsub : present ⊆ ws.optionalPositions.toFinset)
    (h : ∀ i ∈ ws.optionalPositions, i ∈ absentAt ws.optionalPositions c ↔ i ∉ present) :
    variantPattern (String.ofList (layoutText form)) (absentAt ws.optionalPositions c) =
      if present = ws.optionalPositions.toFinset then String.ofList (layoutText form)
      else String.ofList (normalizeChars (withoutTokens (String.ofList (layoutText form))
        (ws.optionalPositions.filter (· ∉ present)))) := by
  split
  · rename_i hall
    rw [(absentAt_eq_nil_iff hsub h).mpr hall]
    rfl
  · rename_i hsome
    refine variantPattern_eq hplain (fun hnone => hsome ((absentAt_eq_nil_iff hsub h).mp hnone)) ?_
    intro i
    rw [List.mem_filter, decide_eq_true_iff]
    constructor
    · intro hi
      exact ⟨mem_of_mem_absentAt hi, (h i (mem_of_mem_absentAt hi)).mp hi⟩
    · rintro ⟨hi, hpresent⟩
      exact (h i hi).mpr hpresent

end Subsets

/-! ## 5. The texts of layouts -/

theorem numeralsIn_layoutText {ps : List Part} (hplain : ∀ p ∈ ps, p.Plain) :
    numeralsIn (String.ofList (layoutText ps)) = (tokensOf ps).map digitsOf := by
  rw [numeralsIn, places_layoutText hplain]
  clear hplain
  induction ps with
  | nil => rfl
  | cons p ps ih =>
    cases p with
    | char c => exact ih
    | token i => exact congrArg (digitsOf i :: ·) ih

theorem slash_prefix_layoutText {ps : List Part} (hstart : ps.head? = some (.char '/')) :
    ['/'] <+: layoutText ps := by
  obtain ⟨rest, rfl⟩ := List.head?_eq_some_iff.mp hstart
  exact List.prefix_append _ _

/-- A slash at an end of the text of a part is the part itself. -/
theorem eq_slash_of_head? {p : Part} {cs : List Char} (h : '/' ∈ (p.text ++ cs).head?) :
    p = .char '/' := by
  cases p with
  | char c => simpa [Part.text] using h
  | token i => simp [Part.text, positionToken, openBrace] at h

theorem eq_slash_of_getLast? {p : Part} (h : '/' ∈ p.text.getLast?) : p = .char '/' := by
  cases p with
  | char c => simpa [Part.text] using h
  | token i => simp [Part.text, positionToken, closeBrace, List.getLast?_append,
      List.getLast?_cons] at h

theorem not_infix_layoutText {ps : List Part} (h : SingleSlashes ps) :
    ¬['/', '/'] <:+: layoutText ps := by
  rw [← hasDoubled_iff, Bool.not_eq_true, hasDoubled_eq_false_iff]
  induction ps with
  | nil => exact .nil
  | cons p ps ih =>
    obtain ⟨hseam, hrest⟩ := List.isChain_cons.mp h
    rw [layoutText_cons, List.isChain_append]
    refine ⟨?_, ih hrest, ?_⟩
    · cases p with
      | char c => exact List.isChain_singleton c
      | token i =>
        rw [← hasDoubled_eq_false_iff, ← Bool.not_eq_true, hasDoubled_iff]
        intro hinside
        exact slash_not_mem_positionToken i (hinside.subset List.mem_cons_self)
    · -- a slash on each side of a seam is a slash in each of the two parts
      rintro x hx y hy ⟨rfl, rfl⟩
      cases ps with
      | nil => cases hy
      | cons q ps =>
        rw [layoutText_cons] at hy
        exact hseam q rfl ⟨eq_slash_of_getLast? hx, eq_slash_of_head? hy⟩

end Pattern

/-! ## 6. Declared drafts -/

namespace Draft

variable {d : Draft}

theorem Declared.variants_eq (hd : d.Declared) :
    d.finish.variants =
      (List.range (2 ^ d.wildcards.optionalPositions.length)).map fun c =>
        (choiceAt d.wildcards.positionalForm d.wildcards.optional c).anchor
          d.constraints.fragments := by
  have htokens : tokensOf d.form = List.range d.wildcards.optional.length := by
    rw [hd.sound.tokensOf_form, hd.sound.length_optional]
  have hform : d.wildcards.positionalForm = String.ofList (layoutText d.form) := by
    rw [hd.sound.wildcards_eq]
  simp only [finish, hform]
  rw [expand_eq_map hd.formLayout htokens, List.map_map]
  rfl

/-- The variants of a declared draft are the subsets of its optionals. -/
theorem Declared.enumeratesChoices (hd : d.Declared) :
    EnumeratesChoices d.wildcards d.finish.variants := by
  have hform : d.wildcards.positionalForm = String.ofList (layoutText d.form) := by
    rw [hd.sound.wildcards_eq]
  have hsize : d.wildcards.optional.length = d.wildcards.size := hd.sound.length_optional
  have hnodup : d.wildcards.optionalPositions.Nodup := nodup_flaggedFrom 0 _
  have hvariants := hd.variants_eq
  have hmem : ∀ v ∈ d.finish.variants, ∃ c < 2 ^ d.wildcards.optionalPositions.length,
      (choiceAt d.wildcards.positionalForm d.wildcards.optional c).anchor
        d.constraints.fragments = v := by
    intro v hv
    rw [hvariants] at hv
    obtain ⟨c, hc, hv⟩ := List.mem_map.mp hv
    exact ⟨c, List.mem_range.mp hc, hv⟩
  constructor
  case count => rw [hvariants, List.length_map, List.length_range]
  case distinct => exact Registry.nodup_patterns_finish d
  case bijective =>
    intro present _
    obtain ⟨c, hc, hbits⟩ := exists_counter hnodup present
    refine ⟨_, ⟨hvariants ▸ List.mem_map_of_mem (List.mem_range.mpr hc),
      keptAt_eq_keeping hsize hbits⟩, ?_⟩
    · -- a variant that keeps the same subset has the same counter value
      rintro v ⟨hv, hkept⟩
      obtain ⟨c', hc', rfl⟩ := hmem v hv
      have hbits' := absentAt_iff_of_keptAt hsize hkept
      obtain rfl := counter_injective hnodup hc' hc fun i hi =>
        (hbits' i hi).trans (hbits i hi).symm
      rfl
  case tokens =>
    intro v hv
    obtain ⟨ps, hps⟩ := hd.exists_layout hv
    rw [hps.pattern, hps.indices, numeralsIn_layoutText hps.plain]
  case pattern =>
    intro v hv present hpresent hkept
    obtain ⟨c, hc, rfl⟩ := hmem v hv
    have hplain := hd.sound.plain_form
    have hpattern := variantPattern_absentAt hplain hpresent (absentAt_iff_of_keptAt hsize hkept)
    rw [← hform] at hpattern
    exact hpattern
  case order =>
    intro counter v hv bit i hi
    rw [hvariants, List.getElem?_map, Option.map_eq_some_iff] at hv
    obtain ⟨c, hc, rfl⟩ := hv
    obtain ⟨hlt, rfl⟩ := List.getElem?_eq_some_iff.mp hc
    rw [List.getElem_range, ← mem_absentAt_iff hnodup hi, ← not_iff_not, not_not]
    exact mem_keptAt (List.mem_of_getElem? hi)
  case start =>
    intro v hv
    obtain ⟨ps, hps⟩ := hd.exists_layout hv
    rw [hps.pattern, String.toList_ofList]
    exact slash_prefix_layoutText hps.start
  case single =>
    intro v hv
    obtain ⟨ps, hps⟩ := hd.exists_layout hv
    rw [hps.pattern, String.toList_ofList]
    exact not_infix_layoutText hps.single

/-- The draft of a mandatory wildcard between two optional ones. -/
def flankedDraft : Draft :=
  ⟨"/{a?}/{b}/{c?}", none, ⟨"/{0}/{1}/{2}", ["a", "b", "c"], [true, false, true]⟩,
    ⟨[none, none, none]⟩, [], [], none⟩

/-- Of the four variants one keeps the second optional and not the first. -/
theorem enumeratesChoices_flanked :
    build "/{a?}/{b}/{c?}" [] = .ok flankedDraft ∧ flankedDraft.finish.variants.length = 4 ∧
      (∃! v, v ∈ flankedDraft.finish.variants ∧ v.indices = [1, 2]) ∧
      ∀ v ∈ flankedDraft.finish.variants, v.indices = [1, 2] → v.pattern = "/{1}/{2}" := by
  have hbuild : build "/{a?}/{b}/{c?}" [] = .ok flankedDraft := by decide
  have hchoices := Declared.enumeratesChoices (d := flankedDraft) ⟨by decide, [], hbuild⟩
  have hsub : ({2} : Finset Nat) ⊆ flankedDraft.wildcards.optionalPositions.toFinset := by decide
  refine ⟨hbuild, hchoices.count, hchoices.bijective {2} hsub, ?_⟩
  intro v hv hkept
  rw [hchoices.pattern v hv {2} hsub hkept]
  decide

end Draft

end Wayfinder
