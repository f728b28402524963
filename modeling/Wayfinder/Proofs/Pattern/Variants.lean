/-
  Wayfinder/Proofs/Pattern/Variants.lean
  ======================================
  **The layouts of variants.**

  Removing the token of a position from the text of a layout removes that token and
  nothing else, and putting the rest into canonical form takes out slashes only.  So
  every variant of a positional form has a layout whose characters come from the form,
  whose tokens are those that were not removed, in the same order, and in which no two
  slashes stand side by side.
-/
import Std.Data.HashSet.Lemmas
import Wayfinder.Proofs.Pattern.Path
import Wayfinder.Proofs.Pattern.Positional
import Wayfinder.Pattern.Expansion

namespace Wayfinder.Pattern

/-! ## 1. Removing a token -/

theorem removeAll_skip (needle as cs : List Char) :
    removeAll needle as.length (as ++ cs) = removeAll needle 0 cs := by
  induction as with
  | nil => rfl
  | cons a as ih => simpa [removeAll] using ih

/-- Characters that cannot start a token stay. -/
theorem removeAll_append_of_not_mem {i : Nat} {as : List Char} (has : openBrace ∉ as)
    (cs : List Char) :
    removeAll (positionToken i) 0 (as ++ cs) = as ++ removeAll (positionToken i) 0 cs := by
  induction as with
  | nil => rfl
  | cons a as ih =>
    simp only [List.mem_cons, not_or] at has
    have hno : (positionToken i).isPrefixOf (a :: (as ++ cs)) = false := by
      simp [positionToken, List.isPrefixOf, has.1]
    simp [removeAll, hno, ih has.2]

theorem openBrace_not_mem_digitsOf (i : Nat) : openBrace ∉ digitsOf i := by
  intro h
  have := isDigit_of_mem_digitsOf h
  rw [isDigit_openBrace] at this
  cases this

/-- A token starts with another token only if they are equal. -/
theorem positionToken_prefix_iff {i j : Nat} {rest : List Char} :
    positionToken i <+: positionToken j ++ rest ↔ i = j := by
  constructor
  · rintro ⟨tail, htail⟩
    simp only [positionToken, List.cons_append, List.append_assoc, List.nil_append,
      List.cons.injEq, true_and] at htail
    -- the digits end where the closing brace stands
    have hi := takeWhile_digits_append i tail
    rw [htail, takeWhile_digits_append] at hi
    exact digitsOf_injective hi.symm
  · rintro rfl
    exact List.prefix_append _ _

/-- Removing the token of a position from a text removes it from the layout. -/
theorem removeAll_layoutText (i : Nat) (ps : List Part) (hps : ∀ p ∈ ps, p.Plain) :
    removeAll (positionToken i) 0 (layoutText ps) =
      layoutText (ps.filter fun p => p ≠ .token i) := by
  induction ps with
  | nil => rfl
  | cons p ps ih =>
    have ih' := ih fun q hq => hps q (List.mem_cons_of_mem _ hq)
    cases p with
    | char c =>
      have hc : openBrace ∉ [c] := by
        simpa [eq_comm] using (hps (.char c) List.mem_cons_self).1
      rw [layoutText_cons, Part.text, removeAll_append_of_not_mem hc, ih']
      simp [Part.text]
    | token j =>
      by_cases hij : i = j
      · subst hij
        have hstarts : (positionToken i).isPrefixOf (positionToken i ++ layoutText ps) = true :=
          List.isPrefixOf_iff_prefix.mpr (positionToken_prefix_iff.mpr rfl)
        have hskip := removeAll_skip (positionToken i) (digitsOf i ++ [closeBrace]) (layoutText ps)
        have hlen : (positionToken i).length - 1 = (digitsOf i ++ [closeBrace]).length := by
          simp [positionToken]
        rw [layoutText_cons, Part.text]
        simp only [positionToken, List.cons_append] at hstarts ⊢
        rw [removeAll, if_pos hstarts]
        simp only [positionToken, List.cons_append] at hlen hskip
        rw [hlen, hskip]
        simpa [positionToken] using ih'
      · have hstarts : (positionToken i).isPrefixOf (positionToken j ++ layoutText ps) = false := by
          rw [Bool.eq_false_iff]
          intro h
          exact hij (positionToken_prefix_iff.mp (List.isPrefixOf_iff_prefix.mp h))
        have hrest : openBrace ∉ digitsOf j ++ [closeBrace] := by
          simp [openBrace_not_mem_digitsOf]
          decide
        have hpass := removeAll_append_of_not_mem (i := i) hrest (layoutText ps)
        have hkeep : Part.token j ≠ Part.token i := fun h => hij (Part.token.inj h).symm
        rw [layoutText_cons, Part.text]
        rw [show positionToken j ++ layoutText ps =
          openBrace :: (digitsOf j ++ [closeBrace] ++ layoutText ps) from rfl] at hstarts ⊢
        rw [removeAll, if_neg (by rw [hstarts]; exact Bool.false_ne_true), hpass, ih']
        simp [hkeep, Part.text, positionToken]

theorem removePositions_layoutText (absent : List Nat) (ps : List Part)
    (hps : ∀ p ∈ ps, p.Plain) :
    removePositions (layoutText ps) absent =
      layoutText (ps.filter fun p => ∀ i ∈ absent, p ≠ .token i) := by
  induction absent generalizing ps with
  | nil => simp [removePositions]
  | cons i absent ih =>
    rw [removePositions, List.foldl_cons, removeAll_layoutText i ps hps, ← removePositions,
      ih _ fun p hp => hps p (List.mem_of_mem_filter hp), List.filter_filter]
    congr 1
    apply List.filter_congr
    intro p _
    simp [Bool.and_comm]

/-! ## 2. Canonical form -/

theorem collapseSlashes_append {as : List Char} (has : '/' ∉ as) (hne : as ≠ []) (b : Bool)
    (cs : List Char) : collapseSlashes b (as ++ cs) = as ++ collapseSlashes false cs := by
  induction as generalizing b with
  | nil => exact absurd rfl hne
  | cons a as ih =>
    simp only [List.mem_cons, not_or] at has
    cases as with
    | nil => simp [collapseSlashes, Ne.symm has.1]
    | cons a' as =>
      rw [List.cons_append, collapseSlashes, if_neg (Ne.symm has.1), ih has.2 (by simp)]
      rfl

theorem slash_not_mem_positionToken (i : Nat) : '/' ∉ positionToken i := by
  intro h
  simp only [positionToken, List.mem_cons, List.mem_append, List.cons_append, List.not_mem_nil,
    or_false] at h
  rcases h with h | h | h
  · exact absurd h (by decide)
  · exact absurd (isDigit_of_mem_digitsOf h) (by decide)
  · exact absurd h (by decide)

/-- Collapsing the slashes of a layout takes out characters only. -/
theorem exists_layout_collapseSlashes (ps : List Part) (b : Bool) :
    ∃ qs, collapseSlashes b (layoutText ps) = layoutText qs ∧ qs.Sublist ps ∧
      tokensOf qs = tokensOf ps ∧ SingleSlashes qs ∧
      (b = true → qs.head? ≠ some (.char '/')) := by
  induction ps generalizing b with
  | nil => exact ⟨[], rfl, .slnil, rfl, .nil, by simp⟩
  | cons p ps ih =>
    cases p with
    | token i =>
      obtain ⟨qs, htext, hsub, htokens, hsingle, -⟩ := ih false
      refine ⟨.token i :: qs, ?_, hsub.cons_cons _, by simp [htokens], ?_, by simp⟩
      · rw [layoutText_cons, Part.text,
          collapseSlashes_append (slash_not_mem_positionToken i) (by simp [positionToken]), htext]
        rfl
      · exact List.isChain_cons.mpr ⟨fun q _ hq => by simp at hq, hsingle⟩
    | char c =>
      by_cases hc : c = '/'
      · subst hc
        obtain ⟨qs, htext, hsub, htokens, hsingle, hhead⟩ := ih true
        cases b with
        | true =>
          refine ⟨qs, ?_, hsub.cons _, htokens, hsingle, fun _ => hhead rfl⟩
          simpa [Part.text, collapseSlashes] using htext
        | false =>
          refine ⟨.char '/' :: qs, ?_, hsub.cons_cons _, htokens, ?_, by simp⟩
          · simpa [Part.text, collapseSlashes] using htext
          · refine List.isChain_cons.mpr ⟨?_, hsingle⟩
            rintro q hq ⟨-, rfl⟩
            exact hhead rfl hq
      · obtain ⟨qs, htext, hsub, htokens, hsingle, -⟩ := ih false
        refine ⟨.char c :: qs, ?_, hsub.cons_cons _, htokens, ?_, by simp [hc]⟩
        · simpa [Part.text, collapseSlashes, hc] using htext
        · exact List.isChain_cons.mpr ⟨fun q _ hq => by simp [hc] at hq, hsingle⟩

/-- Dropping the trailing slash of a layout takes out a last character only. -/
theorem exists_layout_dropTrailingSlash (c : Char) (ps : List Part) :
    ∃ qs, dropTrailingSlash (layoutText (.char c :: ps)) = layoutText (.char c :: qs) ∧
      qs <+: ps ∧ tokensOf qs = tokensOf ps := by
  rw [dropTrailingSlash_eq]
  split
  · rename_i h
    rcases List.eq_nil_or_concat' ps with rfl | ⟨qs, q, rfl⟩
    · simp [Part.text] at h
    · cases q with
      | char d =>
        refine ⟨qs, ?_, List.prefix_append _ _, by simp⟩
        rw [← List.cons_append, layoutText_append]
        exact List.dropLast_concat
      | token i =>
        -- a token does not end in a slash
        have hlast : (layoutText (.char c :: (qs ++ [.token i]))).getLast? = some closeBrace := by
          rw [← List.cons_append, layoutText_append]
          simp [Part.text, positionToken, List.getLast?_append, List.getLast?_cons]
        rw [hlast] at h
        exact absurd h.2 (by decide)
  · exact ⟨ps, rfl, List.prefix_refl _, rfl⟩

theorem exists_layout_normalizeChars (ps : List Part) :
    ∃ qs, normalizeChars (layoutText (.char '/' :: ps)) = layoutText (.char '/' :: qs) ∧
      qs.Sublist ps ∧ tokensOf qs = tokensOf ps ∧ SingleSlashes (.char '/' :: qs) := by
  obtain ⟨qs, hcollapse, hsub, htokens, hsingle, hhead⟩ := exists_layout_collapseSlashes ps true
  obtain ⟨rs, hdrop, hstarts, htokens'⟩ := exists_layout_dropTrailingSlash '/' qs
  refine ⟨rs, ?_, hstarts.sublist.trans hsub, htokens'.trans htokens, ?_⟩
  · have hstart : collapseSlashes false (layoutText (.char '/' :: ps)) =
        layoutText (.char '/' :: qs) := by
      simpa [Part.text, collapseSlashes] using hcollapse
    rw [normalizeChars, hstart, hdrop]
    rfl
  · obtain ⟨tail, rfl⟩ := hstarts
    refine List.isChain_cons.mpr ⟨?_, (List.isChain_append.mp hsingle).1⟩
    rintro q hq ⟨-, rfl⟩
    obtain ⟨rs', rfl⟩ := List.head?_eq_some_iff.mp hq
    exact hhead rfl rfl

/-! ## 3. Expansion -/

theorem mem_of_mem_firstOccurrences {text : String} {seen : Std.HashSet String}
    {texts : List String} (h : text ∈ firstOccurrences seen texts) : text ∈ texts := by
  induction texts generalizing seen with
  | nil => simp [firstOccurrences] at h
  | cons t texts ih =>
    rw [firstOccurrences] at h
    split at h
    · exact List.mem_cons_of_mem _ (ih h)
    · rcases List.mem_cons.mp h with rfl | h
      · exact List.mem_cons_self
      · exact List.mem_cons_of_mem _ (ih h)

theorem not_mem_seen_of_mem_firstOccurrences {text : String} {seen : Std.HashSet String}
    {texts : List String} (h : text ∈ firstOccurrences seen texts) : text ∉ seen := by
  induction texts generalizing seen with
  | nil => simp [firstOccurrences] at h
  | cons t texts ih =>
    rw [firstOccurrences] at h
    split at h
    · exact ih h
    · rename_i ht
      rcases List.mem_cons.mp h with rfl | h
      · simpa [Std.HashSet.contains_iff_mem] using ht
      · exact fun hmem => ih h (Std.HashSet.mem_insert.mpr (Or.inr hmem))

theorem nodup_firstOccurrences (seen : Std.HashSet String) (texts : List String) :
    (firstOccurrences seen texts).Nodup := by
  induction texts generalizing seen with
  | nil => exact .nil
  | cons t texts ih =>
    rw [firstOccurrences]
    split
    · exact ih seen
    · refine List.nodup_cons.mpr ⟨fun hmem => ?_, ih _⟩
      exact not_mem_seen_of_mem_firstOccurrences hmem (by simp)

theorem firstOccurrences_eq_self {seen : Std.HashSet String} {texts : List String}
    (hnodup : texts.Nodup) (hfresh : ∀ text ∈ texts, text ∉ seen) :
    firstOccurrences seen texts = texts := by
  induction texts generalizing seen with
  | nil => rfl
  | cons t texts ih =>
    rw [List.nodup_cons] at hnodup
    have hkeep : seen.contains t = false := by
      simpa [Std.HashSet.contains_iff_mem] using hfresh t List.mem_cons_self
    rw [firstOccurrences, hkeep, if_neg Bool.false_ne_true, ih hnodup.2]
    intro text htext hseen
    rcases Std.HashSet.mem_insert.mp hseen with heq | hseen
    · exact hnodup.1 (by rwa [eq_of_beq heq])
    · exact hfresh text (List.mem_cons_of_mem _ htext) hseen

/-- The patterns of all choices, equal ones included. -/
def choicePatterns (form : String) (optional : List Bool) : List String :=
  (powerSet (flaggedFrom 0 optional).length).map fun choice =>
    variantPattern form (absentPositions (flaggedFrom 0 optional) choice)

/-- Where no two choices have the same pattern, every choice is a variant. -/
theorem expand_of_nodup {form : String} {optional : List Bool} (hsome : flaggedFrom 0 optional ≠ [])
    (hnodup : (choicePatterns form optional).Nodup) :
    expand form optional =
      (choicePatterns form optional).map fun pattern => ⟨pattern, survivingPositions pattern⟩ := by
  unfold expand
  split
  · rename_i hnil
    exact absurd hnil hsome
  · have hself := @firstOccurrences_eq_self ∅ _ hnodup fun _ _ => Std.HashSet.not_mem_empty
    rw [choicePatterns] at hself ⊢
    simp only [hself]

theorem nodup_patterns_expand (form : String) (optional : List Bool) :
    ((expand form optional).map (·.pattern)).Nodup := by
  unfold expand
  split
  · exact List.nodup_cons.mpr ⟨List.not_mem_nil, .nil⟩
  · rw [List.map_map]
    simpa [Function.comp_def] using nodup_firstOccurrences _ _

/-- A layout that a positional form of a valid pattern has. -/
structure FormLayout (ps : List Part) : Prop where
  plain : ∀ p ∈ ps, p.Plain
  start : ps.head? = some (.char '/')
  single : SingleSlashes ps
  bound : ∀ i ∈ tokensOf ps, i < wordBound

/-- `ps` is the layout of a variant of the form with layout `form`. -/
structure VariantLayout (form : List Part) (v : Variant) (ps : List Part) : Prop
    extends FormLayout ps where
  pattern : v.pattern = String.ofList (layoutText ps)
  indices : v.indices = tokensOf ps
  sublist : ps.Sublist form

theorem FormLayout.sublist {form ps : List Part} (h : FormLayout form) (hsub : ps.Sublist form)
    (hstart : ps.head? = some (.char '/')) (hsingle : SingleSlashes ps) : FormLayout ps where
  plain p hp := h.plain p (hsub.subset hp)
  start := hstart
  single := hsingle
  bound i hi := h.bound i (mem_tokensOf.mpr (hsub.subset (mem_tokensOf.mp hi)))

/-- The layout without the tokens of some positions has the other tokens. -/
theorem tokensOf_filter_ne_token (absent : List Nat) (ps : List Part) :
    tokensOf (ps.filter fun p => ∀ i ∈ absent, p ≠ .token i) =
      (tokensOf ps).filter fun i => i ∉ absent := by
  induction ps with
  | nil => rfl
  | cons p ps ih =>
    cases p with
    | char c => simpa using ih
    | token j =>
      have hkeep : (∀ i ∈ absent, Part.token j ≠ .token i) ↔ j ∉ absent := by
        simp only [ne_eq, Part.token.injEq]
        exact ⟨fun h hj => h j hj rfl, fun h i hi hji => h (hji ▸ hi)⟩
      by_cases hj : j ∈ absent
      · rw [List.filter_cons_of_neg (by rwa [decide_eq_true_iff, hkeep, not_not]), ih, tokensOf_token,
          List.filter_cons_of_neg (by simpa using hj)]
      · rw [List.filter_cons_of_pos (by rwa [decide_eq_true_iff, hkeep]), tokensOf_token, ih,
          tokensOf_token, List.filter_cons_of_pos (by simpa using hj)]

/-- The pattern of a choice of present and absent optionals is a part of the form, and it has
    the tokens that are not absent. -/
theorem exists_sublist_variantPattern {form : List Part} (hplain : ∀ p ∈ form, p.Plain)
    (hstart : form.head? = some (.char '/')) (hsingle : SingleSlashes form) (absent : List Nat) :
    ∃ ps, variantPattern (String.ofList (layoutText form)) absent = String.ofList (layoutText ps) ∧
      ps.head? = some (.char '/') ∧ SingleSlashes ps ∧ ps.Sublist form ∧
        tokensOf ps = (tokensOf form).filter fun i => i ∉ absent := by
  by_cases hnone : absent = []
  · exact ⟨form, by simp [variantPattern, hnone], hstart, hsingle, List.Sublist.refl _,
      by simp [hnone]⟩
  · obtain ⟨rest, rfl⟩ := List.head?_eq_some_iff.mp hstart
    obtain ⟨qs, htext, hsub, htokens, hsingle⟩ :=
      exists_layout_normalizeChars (rest.filter fun p => ∀ i ∈ absent, p ≠ .token i)
    have hsub' : (Part.char '/' :: qs).Sublist (.char '/' :: rest) :=
      (hsub.trans List.filter_sublist).cons_cons _
    refine ⟨.char '/' :: qs, ?_, rfl, hsingle, hsub',
      htokens.trans (tokensOf_filter_ne_token absent rest)⟩
    have hremove := removePositions_layoutText absent (.char '/' :: rest) hplain
    rw [List.filter_cons_of_pos (by simp)] at hremove
    rw [variantPattern, if_neg (by simpa using hnone), String.toList_ofList, hremove, htext]

/-- The pattern of a choice of present and absent optionals has a layout. -/
theorem exists_layout_variantPattern {form : List Part} (h : FormLayout form) (absent : List Nat) :
    ∃ ps, variantPattern (String.ofList (layoutText form)) absent = String.ofList (layoutText ps) ∧
      FormLayout ps ∧ ps.Sublist form ∧
        tokensOf ps = (tokensOf form).filter fun i => i ∉ absent := by
  obtain ⟨ps, htext, hstart, hsingle, hsub, htokens⟩ :=
    exists_sublist_variantPattern h.plain h.start h.single absent
  exact ⟨ps, htext, h.sublist hsub hstart hsingle, hsub, htokens⟩

/-- The positions of a variant are among the tokens of the form. -/
theorem mem_tokensOf_of_mem_expand {form : List Part} (hplain : ∀ p ∈ form, p.Plain)
    (hstart : form.head? = some (.char '/')) (hsingle : SingleSlashes form) {optional : List Bool}
    (htokens : tokensOf form = List.range optional.length) {v : Variant}
    (hv : v ∈ expand (String.ofList (layoutText form)) optional) {i : Nat} (hi : i ∈ v.indices) :
    i ∈ tokensOf form := by
  unfold expand at hv
  split at hv
  · obtain rfl := List.mem_singleton.mp hv
    rw [htokens]
    exact hi
  · obtain ⟨pattern, hpattern, rfl⟩ := List.mem_map.mp hv
    obtain ⟨choice, -, rfl⟩ := List.mem_map.mp (mem_of_mem_firstOccurrences hpattern)
    obtain ⟨ps, htext, -, -, hsub, -⟩ :=
      exists_sublist_variantPattern hplain hstart hsingle (absentPositions _ choice)
    simp only at hi
    rw [htext] at hi
    have hmem := mem_tokensOf_of_mem_survivingPositions (fun p hp => hplain p (hsub.subset hp)) hi
    exact mem_tokensOf.mpr (hsub.subset (mem_tokensOf.mp hmem))

/-- Every variant has a layout, and its positions are those of its tokens. -/
theorem exists_layout_of_mem_expand {form : List Part} (h : FormLayout form) {optional : List Bool}
    (htokens : tokensOf form = List.range optional.length) {v : Variant}
    (hv : v ∈ expand (String.ofList (layoutText form)) optional) :
    ∃ ps, VariantLayout form v ps := by
  unfold expand at hv
  split at hv
  · obtain rfl := List.mem_singleton.mp hv
    exact ⟨form, h, rfl, htokens.symm, List.Sublist.refl _⟩
  · obtain ⟨pattern, hpattern, rfl⟩ := List.mem_map.mp hv
    obtain ⟨choice, -, rfl⟩ := List.mem_map.mp (mem_of_mem_firstOccurrences hpattern)
    obtain ⟨ps, htext, hlayout, hsub, -⟩ :=
      exists_layout_variantPattern h (absentPositions _ choice)
    refine ⟨ps, hlayout, htext, ?_, hsub⟩
    simp only
    rw [htext, survivingPositions_layoutText hlayout.plain hlayout.bound]

end Wayfinder.Pattern
