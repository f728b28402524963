/-
  Wayfinder/Proofs/Pattern/Path.lean
  ==================================
  **Canonical paths are joined segments.**

  The segments of a path are what stands between its slashes, as far as that is not empty.
  None of the three steps of normalisation changes them, and after the last step the text
  is canonical: it starts with a slash, no two slashes stand side by side, and only the root
  ends in one.  There is one canonical text for given segments, a slash and then the
  segments with single slashes between them.  So this is what normalisation computes,
  whichever slashes a text lacks or has too many of.
-/
import Mathlib.Data.List.Infix
import Wayfinder.Pattern.Path
import Wayfinder.Text.Split

namespace Wayfinder

/-! ## 1. Stretches -/

namespace Text

theorem stretches_ne_nil (separator : Char) (cs : List Char) : stretches separator cs ≠ [] := by
  cases cs with
  | nil => simp [stretches]
  | cons c cs =>
    rw [stretches]
    split
    · simp
    · split <;> simp

theorem stretches_separator (separator : Char) (cs : List Char) :
    stretches separator (separator :: cs) = [] :: stretches separator cs := by
  rw [stretches, if_pos rfl]

/-- Any other character is put in front of the first stretch. -/
theorem exists_stretches_cons {separator c : Char} (hc : c ≠ separator) (cs : List Char) :
    ∃ first rest, stretches separator cs = first :: rest ∧
      stretches separator (c :: cs) = (c :: first) :: rest := by
  obtain ⟨first, rest, hcs⟩ := List.exists_cons_of_ne_nil (stretches_ne_nil separator cs)
  refine ⟨first, rest, hcs, ?_⟩
  rw [stretches, if_neg hc, hcs]

theorem stretches_eq_splitOn (separator : Char) (cs : List Char) :
    stretches separator cs = cs.splitOn separator := by
  induction cs with
  | nil => rfl
  | cons c cs ih =>
    rw [List.splitOn_cons_eq_if_modifyHead, ← ih]
    by_cases hc : c = separator
    · subst hc
      rw [stretches_separator, if_pos (beq_self_eq_true c)]
    · obtain ⟨first, rest, hcs, hcons⟩ := exists_stretches_cons hc cs
      rw [hcons, hcs, if_neg (by simpa using hc), List.modifyHead_cons]

theorem separator_not_mem_of_mem_stretches {separator : Char} {cs s : List Char}
    (h : s ∈ stretches separator cs) : separator ∉ s := by
  induction cs generalizing s with
  | nil =>
    obtain rfl := List.mem_singleton.mp h
    exact List.not_mem_nil
  | cons c cs ih =>
    by_cases hc : c = separator
    · subst hc
      rw [stretches_separator] at h
      rcases List.mem_cons.mp h with rfl | h
      · exact List.not_mem_nil
      · exact ih h
    · obtain ⟨first, rest, hcs, hcons⟩ := exists_stretches_cons hc cs
      rw [hcons] at h
      rw [hcs] at ih
      rcases List.mem_cons.mp h with rfl | h
      · exact List.not_mem_cons_of_ne_of_not_mem (Ne.symm hc) (ih List.mem_cons_self)
      · exact ih (List.mem_cons_of_mem _ h)

end Text

namespace Pattern

open Wayfinder.Text

/-! ## 2. Segments -/

/-- What stands between the slashes of a text, as far as that is not empty. -/
def segmentsIn (cs : List Char) : List (List Char) := (stretches '/' cs).filter (· ≠ [])

/-- The segments of a path. -/
def pathSegments (path : String) : List String := (cutAt '/' path).filter (· ≠ "")

/-- The path with some segments: a slash, and the segments with single slashes between them. -/
def joinSegments (segments : List String) : String := "/" ++ "/".intercalate segments

theorem pathSegments_eq (path : String) :
    pathSegments path = (segmentsIn path.toList).map String.ofList := by
  rw [pathSegments, cutAt, segmentsIn, List.filter_map]
  congr 1
  apply List.filter_congr
  intro segment _
  simp

theorem toList_joinSegments (segments : List String) :
    (joinSegments segments).toList = '/' :: ['/'].intercalate (segments.map String.toList) := by
  simp [joinSegments]

/-- A slash ends the segments before it. -/
theorem segmentsIn_append (as bs : List Char) :
    segmentsIn (as ++ '/' :: bs) = segmentsIn as ++ segmentsIn bs := by
  simp only [segmentsIn, stretches_eq_splitOn, List.splitOn_append_cons_self, List.filter_append]

theorem segmentsIn_slash (cs : List Char) : segmentsIn ('/' :: cs) = segmentsIn cs :=
  segmentsIn_append [] cs

theorem segmentsIn_intercalate {segments : List (List Char)}
    (h : ∀ s ∈ segments, s ≠ [] ∧ '/' ∉ s) :
    segmentsIn (['/'].intercalate segments) = segments := by
  by_cases hnone : segments = []
  · rw [hnone]
    rfl
  · rw [segmentsIn, stretches_eq_splitOn, List.splitOn_intercalate _ (fun s hs => (h s hs).2) hnone,
      List.filter_eq_self]
    intro s hs
    simpa using (h s hs).1

theorem of_mem_segmentsIn {cs s : List Char} (h : s ∈ segmentsIn cs) : s ≠ [] ∧ '/' ∉ s := by
  obtain ⟨hmem, hne⟩ := List.mem_filter.mp h
  exact ⟨by simpa using hne, separator_not_mem_of_mem_stretches hmem⟩

theorem pathSegments_joinSegments {segments : List String}
    (h : ∀ s ∈ segments, s ≠ "" ∧ '/' ∉ s.toList) :
    pathSegments (joinSegments segments) = segments := by
  have hchars : ∀ s ∈ segments.map String.toList, s ≠ [] ∧ '/' ∉ s := by
    simpa using h
  rw [pathSegments_eq, toList_joinSegments, segmentsIn_slash, segmentsIn_intercalate hchars,
    List.map_map]
  simp [Function.comp_def]

theorem of_mem_pathSegments {path s : String} (h : s ∈ pathSegments path) :
    s ≠ "" ∧ '/' ∉ s.toList := by
  rw [pathSegments_eq] at h
  obtain ⟨cs, hcs, rfl⟩ := List.mem_map.mp h
  simpa using of_mem_segmentsIn hcs

/-! ## 3. Canonical texts -/

/-- A text that starts with a slash, has no two side by side, and ends in one only if it is
    the root. -/
structure Canonical (cs : List Char) : Prop where
  start : ['/'] <+: cs
  single : ¬['/', '/'] <:+: cs
  ending : ['/'] <:+ cs → cs = ['/']

/-- Without a doubled slash and a slash at the end, only the first stretch can be empty. -/
theorem ne_nil_of_mem_tail_stretches {cs : List Char} (hsingle : ¬['/', '/'] <:+: cs)
    (hending : ¬['/'] <:+ cs) : ∀ s ∈ (stretches '/' cs).tail, s ≠ [] := by
  induction cs with
  | nil => simp [stretches]
  | cons c cs ih =>
    have hrest := ih (fun h => hsingle (h.trans (List.suffix_cons c cs).isInfix))
      (fun h => hending (h.trans (List.suffix_cons c cs)))
    by_cases hc : c = '/'
    · subst hc
      cases cs with
      | nil => exact absurd (List.suffix_refl _) hending
      | cons d cs =>
        -- the stretch after this slash starts with the character that follows
        have hd : d ≠ '/' := by
          rintro rfl
          exact hsingle (List.prefix_append ['/', '/'] cs).isInfix
        obtain ⟨first, rest, -, hcons⟩ := exists_stretches_cons hd cs
        rw [hcons] at hrest
        rw [stretches_separator, List.tail_cons, hcons]
        exact List.forall_mem_cons.mpr ⟨List.cons_ne_nil d first, hrest⟩
    · obtain ⟨first, rest, hcs, hcons⟩ := exists_stretches_cons hc cs
      rw [hcs] at hrest
      rw [hcons]
      exact hrest

/-- A canonical text is known by its segments. -/
theorem Canonical.eq_intercalate {cs : List Char} (h : Canonical cs) :
    cs = '/' :: ['/'].intercalate (segmentsIn cs) := by
  obtain ⟨rest, rfl⟩ := h.start
  rw [List.singleton_append, segmentsIn_slash]
  by_cases hnone : rest = []
  · rw [hnone]
    rfl
  · have hending : ¬['/'] <:+ '/' :: rest := fun hslash =>
      hnone (List.cons_injective (h.ending hslash))
    have hnonempty := ne_nil_of_mem_tail_stretches h.single hending
    rw [List.singleton_append, stretches_separator, List.tail_cons] at hnonempty
    have hall : segmentsIn rest = rest.splitOn '/' := by
      rw [segmentsIn, ← stretches_eq_splitOn, List.filter_eq_self]
      intro s hs
      simpa using hnonempty s hs
    rw [hall, List.intercalate_splitOn]

/-! ## 4. The three steps -/

/-- Collapsing changes no segment, whatever text stands in front.  Only where a slash counts as
    the character before, nothing else may stand there. -/
theorem segmentsIn_collapseSlashes (b : Bool) (start cs : List Char) (h : b = true → start = []) :
    segmentsIn (start ++ collapseSlashes b cs) = segmentsIn (start ++ cs) := by
  induction cs generalizing b start with
  | nil => rfl
  | cons c cs ih =>
    by_cases hc : c = '/'
    · subst hc
      have hrest : segmentsIn (collapseSlashes true cs) = segmentsIn cs := ih true [] fun _ => rfl
      cases b with
      | true =>
        obtain rfl := h rfl
        rw [List.nil_append, List.nil_append, segmentsIn_slash, ← hrest]
        rfl
      | false =>
        rw [segmentsIn_append, ← hrest, ← segmentsIn_append]
        rfl
    · -- the character becomes part of the text before
      have hrest := ih false (start ++ [c]) nofun
      simpa [collapseSlashes, hc] using hrest

/-- After collapsing no two slashes stand side by side, not even with one before. -/
theorem single_collapseSlashes (b : Bool) (cs : List Char) :
    ¬['/', '/'] <:+: collapseSlashes b cs ∧ (b = true → ¬['/'] <+: collapseSlashes b cs) := by
  induction cs generalizing b with
  | nil => simp [collapseSlashes]
  | cons c cs ih =>
    by_cases hc : c = '/'
    · subst hc
      obtain ⟨hsingle, hstart⟩ := ih true
      cases b with
      | true => exact ⟨hsingle, hstart⟩
      | false =>
        refine ⟨?_, nofun⟩
        intro hdoubled
        rcases List.infix_cons_iff.mp hdoubled with h | h
        · exact hstart rfl ((List.prefix_cons_inj '/').mp h)
        · exact hsingle h
    · rw [collapseSlashes, if_neg hc]
      have hstart : ∀ as, ¬('/' :: as <+: c :: collapseSlashes false cs) := fun as h =>
        hc (List.cons_prefix_cons.mp h).1.symm
      refine ⟨?_, fun _ => hstart []⟩
      intro hdoubled
      rcases List.infix_cons_iff.mp hdoubled with h | h
      · exact hstart ['/'] h
      · exact (ih false).1 h

theorem dropTrailingSlash_eq (cs : List Char) :
    dropTrailingSlash cs =
      if 1 < cs.length ∧ cs.getLast? = some '/' then cs.dropLast else cs := by
  fun_induction dropTrailingSlash cs with
  | case1 => simp
  | case2 c => simp
  | case3 c => simp
  | case4 c d h => simp [h]
  | case5 c d rest hrest ih =>
    obtain ⟨e, rest, rfl⟩ := List.exists_cons_of_ne_nil hrest
    rw [ih]
    by_cases hlast : (e :: rest).getLast? = some '/' <;> simp_all

/-- A trailing slash is dropped, or there is none, or it is all there is. -/
theorem dropTrailingSlash_cases (cs : List Char) :
    (∃ as, as ≠ [] ∧ cs = as ++ ['/'] ∧ dropTrailingSlash cs = as) ∨
      dropTrailingSlash cs = cs ∧ (['/'] <:+ cs → cs = ['/']) := by
  rcases List.eq_nil_or_concat' cs with rfl | ⟨as, c, rfl⟩
  · exact Or.inr ⟨rfl, fun h => by simp at h⟩
  · by_cases h : as ≠ [] ∧ c = '/'
    · obtain ⟨has, rfl⟩ := h
      refine Or.inl ⟨as, has, rfl, ?_⟩
      rw [dropTrailingSlash_eq, if_pos (by simpa [List.length_pos_iff] using has),
        List.dropLast_concat]
    · refine Or.inr ⟨?_, ?_⟩
      · rw [dropTrailingSlash_eq, if_neg (by simpa [List.length_pos_iff] using h)]
      · intro hending
        obtain ⟨bs, hbs⟩ := hending
        obtain rfl : '/' = c := List.singleton_inj.mp (List.append_inj_right' hbs rfl)
        have has : as = [] := by simpa using h
        rw [has, List.nil_append]

theorem segmentsIn_dropTrailingSlash (cs : List Char) :
    segmentsIn (dropTrailingSlash cs) = segmentsIn cs := by
  rcases dropTrailingSlash_cases cs with ⟨as, -, rfl, hdrop⟩ | ⟨hdrop, -⟩
  · rw [hdrop, segmentsIn_append]
    exact (List.append_nil _).symm
  · rw [hdrop]

/-- Where no two slashes stand side by side, dropping one at the end leaves none there, unless
    there is nothing else. -/
theorem single_dropTrailingSlash {cs : List Char} (h : ¬['/', '/'] <:+: cs) :
    ¬['/', '/'] <:+: dropTrailingSlash cs ∧
      (['/'] <:+ dropTrailingSlash cs → dropTrailingSlash cs = ['/']) := by
  rcases dropTrailingSlash_cases cs with ⟨as, -, rfl, hdrop⟩ | ⟨hdrop, hending⟩
  · rw [hdrop]
    refine ⟨fun hdoubled => h (hdoubled.trans (List.prefix_append as ['/']).isInfix), ?_⟩
    -- a second slash at the end would have stood beside the one that was dropped
    rintro ⟨bs, rfl⟩
    refine absurd ?_ h
    rw [List.append_assoc]
    exact (List.suffix_append bs ['/', '/']).isInfix
  · rw [hdrop]
    exact ⟨h, hending⟩

theorem ensureLeadingSlash_cases (cs : List Char) :
    ['/'] <+: cs ∧ ensureLeadingSlash cs = cs ∨
      ¬['/'] <+: cs ∧ ensureLeadingSlash cs = '/' :: cs := by
  unfold ensureLeadingSlash
  split
  · exact Or.inl ⟨List.prefix_append ['/'] _, rfl⟩
  · rename_i hno
    refine Or.inr ⟨?_, rfl⟩
    rintro ⟨rest, rfl⟩
    exact hno rest rfl

theorem segmentsIn_ensureLeadingSlash (cs : List Char) :
    segmentsIn (ensureLeadingSlash cs) = segmentsIn cs := by
  rcases ensureLeadingSlash_cases cs with ⟨-, h⟩ | ⟨-, h⟩
  · rw [h]
  · rw [h, segmentsIn_slash]

theorem canonical_ensureLeadingSlash {cs : List Char} (hsingle : ¬['/', '/'] <:+: cs)
    (hending : ['/'] <:+ cs → cs = ['/']) : Canonical (ensureLeadingSlash cs) := by
  rcases ensureLeadingSlash_cases cs with ⟨hstart, h⟩ | ⟨hstart, h⟩
  · rw [h]
    exact ⟨hstart, hsingle, hending⟩
  · rw [h]
    refine ⟨List.prefix_append ['/'] cs, ?_, ?_⟩
    · intro hdoubled
      rcases List.infix_cons_iff.mp hdoubled with hd | hd
      · exact hstart ((List.prefix_cons_inj '/').mp hd)
      · exact hsingle hd
    · intro hend
      rcases List.suffix_cons_iff.mp hend with hroot | hend
      · exact hroot.symm
      · exact absurd (hending hend ▸ List.prefix_refl ['/']) hstart

/-! ## 5. Normalisation -/

theorem segmentsIn_normalizeChars (cs : List Char) :
    segmentsIn (normalizeChars cs) = segmentsIn cs := by
  rw [normalizeChars, segmentsIn_ensureLeadingSlash, segmentsIn_dropTrailingSlash]
  exact segmentsIn_collapseSlashes false [] cs nofun

theorem canonical_normalizeChars (cs : List Char) : Canonical (normalizeChars cs) := by
  obtain ⟨hsingle, hending⟩ := single_dropTrailingSlash (single_collapseSlashes false cs).1
  exact canonical_ensureLeadingSlash hsingle hending

theorem normalizeChars_eq (cs : List Char) :
    normalizeChars cs = '/' :: ['/'].intercalate (segmentsIn cs) := by
  rw [(canonical_normalizeChars cs).eq_intercalate, segmentsIn_normalizeChars]

theorem normalizeChars_eq_self_iff {cs : List Char} : normalizeChars cs = cs ↔ Canonical cs := by
  constructor
  · intro h
    rw [← h]
    exact canonical_normalizeChars cs
  · intro h
    rw [normalizeChars_eq, ← h.eq_intercalate]

@[simp] theorem toList_normalize (path : String) :
    (normalize path).toList = normalizeChars path.toList := String.toList_ofList

theorem normalize_eq (path : String) : normalize path = joinSegments (pathSegments path) := by
  rw [← String.toList_inj, toList_normalize, toList_joinSegments, normalizeChars_eq, pathSegments_eq,
    List.map_map]
  simp [Function.comp_def]

theorem normalize_eq_self_iff {path : String} :
    normalize path = path ↔
      ∃ segments, (∀ s ∈ segments, s ≠ "" ∧ '/' ∉ s.toList) ∧ path = joinSegments segments := by
  constructor
  · intro h
    exact ⟨pathSegments path, fun s hs => of_mem_pathSegments hs, by rw [← normalize_eq, h]⟩
  · rintro ⟨segments, hsegments, rfl⟩
    rw [normalize_eq, pathSegments_joinSegments hsegments]

/-- Normalising a path joins its segments.  So it keeps them, a second time it changes nothing,
    what it gives is canonical, and the texts that it leaves alone are the canonical ones, which
    are those joined from segments. -/
theorem normalize_canonical (path : String) :
    normalize path = joinSegments (pathSegments path) ∧
    normalize (normalize path) = normalize path ∧
    Canonical (normalize path).toList ∧
    pathSegments (normalize path) = pathSegments path ∧
    (normalize path = path ↔
      ∃ segments, (∀ s ∈ segments, s ≠ "" ∧ '/' ∉ s.toList) ∧ path = joinSegments segments) ∧
    (normalize path = path ↔ Canonical path.toList) := by
  have hcanonical := canonical_normalizeChars path.toList
  refine ⟨normalize_eq path, ?_, ?_, ?_, normalize_eq_self_iff, ?_⟩
  · rw [← String.toList_inj, toList_normalize, toList_normalize]
    exact normalizeChars_eq_self_iff.mpr hcanonical
  · rw [toList_normalize]
    exact hcanonical
  · rw [pathSegments_eq, toList_normalize, segmentsIn_normalizeChars, ← pathSegments_eq]
  · rw [← String.toList_inj, toList_normalize]
    exact normalizeChars_eq_self_iff

example : normalize "a//b/" = "/a/b" := by decide

end Pattern

end Wayfinder
