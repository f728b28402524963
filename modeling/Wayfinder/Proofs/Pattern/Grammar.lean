/-
  Wayfinder/Proofs/Pattern/Grammar.lean
  =====================================
  **Exactly the texts of the grammar are patterns.**

  Nothing that checks a pattern takes it apart by a grammar.  One scan looks for positional
  tokens, another counts the wildcard tokens, and their number is compared with the numbers
  of opening and closing braces.  Here the grammar is told on its own, as rows of characters
  that are no braces and of wildcard tokens, and the two are shown to agree: a draft starts
  from the texts of the grammar and from no others, and the error for any other text is the
  first that applies.
-/
import Mathlib.Data.List.Perm.Basic
import Wayfinder.Proofs.Declaration
import Wayfinder.Proofs.Pattern.Validity

namespace Wayfinder

open Wayfinder.Pattern

/-! ## 1. The rules of raw text -/

def PathRule.BrokenBy (rule : PathRule) (cs : List Char) : Prop :=
  match rule with
  | .leadingSlash => ¬['/'] <+: cs
  | .singleSlashes => ['/', '/'] <:+: cs
  | .noBackslash => '\\' ∈ cs
  | .singleBraces => [openBrace, openBrace] <:+: cs ∨ [closeBrace, closeBrace] <:+: cs
  | .noBlank => ∃ c ∈ cs, Text.isBlank c = true

namespace Pattern

theorem hasDoubled_iff {c : Char} {cs : List Char} :
    hasDoubled c cs = true ↔ [c, c] <:+: cs := by
  induction cs with
  | nil => simp [hasDoubled]
  | cons a cs ih =>
    cases cs with
    | nil => simp [hasDoubled, List.infix_cons_iff, List.cons_prefix_cons]
    | cons b cs =>
      rw [hasDoubled, Bool.or_eq_true, ih, List.infix_cons_iff (a := a), List.cons_prefix_cons,
        List.cons_prefix_cons, Bool.and_eq_true, beq_iff_eq, beq_iff_eq]
      simp only [List.nil_prefix, and_true, @eq_comm _ c]

theorem mem_pathRules (rule : PathRule) : rule ∈ pathRules := by
  cases rule <;> decide

theorem holds_eq_false_iff {cs : List Char} {rule : PathRule} :
    PathRule.holds cs rule = false ↔ rule.BrokenBy cs := by
  cases rule with
  | leadingSlash =>
    cases cs with
    | nil => simp [PathRule.holds, PathRule.BrokenBy]
    | cons c cs =>
      simp [PathRule.holds, PathRule.BrokenBy, List.cons_prefix_cons, @eq_comm _ c]
  | singleSlashes => simp [PathRule.holds, PathRule.BrokenBy, hasDoubled_iff]
  | noBackslash => simp [PathRule.holds, PathRule.BrokenBy]
  | singleBraces =>
    rw [PathRule.holds, PathRule.BrokenBy, Bool.not_eq_false', Bool.or_eq_true, hasDoubled_iff,
      hasDoubled_iff]
  | noBlank => simp [PathRule.holds, PathRule.BrokenBy]

theorem mem_brokenRules {cs : List Char} {rule : PathRule} :
    rule ∈ brokenRules cs ↔ rule.BrokenBy cs := by
  rw [brokenRules, List.mem_filter, Bool.not_eq_true', holds_eq_false_iff]
  exact and_iff_right (mem_pathRules rule)

theorem brokenRules_eq_nil_iff {cs : List Char} :
    brokenRules cs = [] ↔ ∀ rule : PathRule, ¬rule.BrokenBy cs := by
  rw [List.eq_nil_iff_forall_not_mem]
  exact forall_congr' fun _ => not_congr mem_brokenRules

/-- The broken rules of a text are one list only: they stand in the order of the rules. -/
theorem eq_brokenRules_iff {cs : List Char} {broken : List PathRule} :
    broken = brokenRules cs ↔
      broken.Sublist pathRules ∧ ∀ rule, rule ∈ broken ↔ rule.BrokenBy cs := by
  have hsub : (brokenRules cs).Sublist pathRules := List.filter_sublist
  constructor
  · rintro rfl
    exact ⟨hsub, fun _ => mem_brokenRules⟩
  · rintro ⟨hbroken, hmem⟩
    have hnodup : pathRules.Nodup := by decide
    apply (hnodup.perm_iff_eq_of_sublist hbroken hsub).mp
    apply (List.perm_ext_iff_of_nodup (hbroken.nodup hnodup) (hsub.nodup hnodup)).mpr
    intro rule
    rw [hmem, mem_brokenRules]

/-! ## 2. Positional tokens -/

/-- Whether some characters are a positional token: digits between braces. -/
def IsPositional (token : List Char) : Prop :=
  ∃ ds, ds ≠ [] ∧ (∀ d ∈ ds, d.isDigit = true) ∧ token = openBrace :: ds ++ [closeBrace]

/-- Whether a positional token stands in a text, and none starts before it. -/
def FirstPositional (cs token : List Char) : Prop :=
  IsPositional token ∧ ∃ before, before ++ token <+: cs ∧
    ∀ earlier other, IsPositional other → earlier ++ other <+: cs → before.length ≤ earlier.length

theorem digitsAfterBrace_eq_some_iff {cs ds : List Char} :
    digitsAfterBrace cs = some ds ↔
      ds ≠ [] ∧ (∀ d ∈ ds, d.isDigit = true) ∧ ds ++ [closeBrace] <+: cs := by
  constructor
  · intro h
    have hsplit : cs.takeWhile Char.isDigit ++ cs.dropWhile Char.isDigit = cs :=
      List.takeWhile_append_dropWhile
    have hdigits : ∀ d ∈ cs.takeWhile Char.isDigit, d.isDigit = true :=
      List.all_eq_true.mp List.all_takeWhile
    unfold digitsAfterBrace at h
    split at h
    · rename_i d ds' c rest htake hdrop
      split at h
      · rename_i hc
        obtain rfl := Option.some.inj h
        rw [htake] at hsplit hdigits
        rw [hdrop, hc] at hsplit
        exact ⟨List.cons_ne_nil d ds', hdigits, rest, by simpa using hsplit⟩
      · cases h
    · cases h
  · rintro ⟨hne, hdigits, rest, rfl⟩
    obtain ⟨d, ds', rfl⟩ := List.exists_cons_of_ne_nil hne
    have hstop : ∀ b, (closeBrace :: rest).head? = some b → b.isDigit = false := by
      intro b hb
      obtain rfl := Option.some.inj hb
      rfl
    have htake := takeWhile_append_of_stop hdigits (closeBrace :: rest) hstop
    have hdrop := dropWhile_append_of_stop hdigits (closeBrace :: rest) hstop
    rw [List.append_assoc, List.singleton_append, digitsAfterBrace, htake, hdrop]
    exact if_pos rfl

/-- At most one positional token starts at the front of a text, and it is the one that the
    scan reads there. -/
theorem positional_prefix_iff {c : Char} {cs token : List Char} :
    IsPositional token ∧ token <+: c :: cs ↔
      c = openBrace ∧ ∃ ds, digitsAfterBrace cs = some ds ∧ token = (Place.digits ds).text := by
  constructor
  · rintro ⟨⟨ds, hne, hdigits, rfl⟩, hfront⟩
    rw [List.cons_append, List.cons_prefix_cons] at hfront
    exact ⟨hfront.1.symm, ds, digitsAfterBrace_eq_some_iff.mpr ⟨hne, hdigits, hfront.2⟩, rfl⟩
  · rintro ⟨rfl, ds, hds, rfl⟩
    obtain ⟨hne, hdigits, hfront⟩ := digitsAfterBrace_eq_some_iff.mp hds
    exact ⟨⟨ds, hne, hdigits, rfl⟩, List.cons_prefix_cons.mpr ⟨rfl, hfront⟩⟩

theorem firstPositional_cons_iff {c : Char} {cs token : List Char} :
    FirstPositional (c :: cs) token ↔
      (IsPositional token ∧ token <+: c :: cs) ∨
        ((∀ other, IsPositional other → ¬other <+: c :: cs) ∧ FirstPositional cs token) := by
  constructor
  · rintro ⟨htoken, before, hstands, hfirst⟩
    cases before with
    | nil => exact Or.inl ⟨htoken, hstands⟩
    | cons b before =>
      right
      refine ⟨?_, htoken, before, ?_, ?_⟩
      · intro other hother hfront
        exact absurd (hfirst [] other hother hfront) (by simp)
      · rw [List.cons_append, List.cons_prefix_cons] at hstands
        exact hstands.2
      · intro earlier other hother hfront
        have hle := hfirst (c :: earlier) other hother
          (by rwa [List.cons_append, List.cons_prefix_cons, and_iff_right rfl])
        simpa using hle
  · rintro (⟨htoken, hfront⟩ | ⟨hnone, htoken, before, hstands, hfirst⟩)
    · exact ⟨htoken, [], hfront, fun _ _ _ _ => Nat.zero_le _⟩
    · refine ⟨htoken, c :: before, by rwa [List.cons_append, List.cons_prefix_cons,
        and_iff_right rfl], ?_⟩
      intro earlier other hother hfront
      cases earlier with
      | nil => exact absurd hfront (hnone other hother)
      | cons e earlier =>
        rw [List.cons_append, List.cons_prefix_cons] at hfront
        exact Nat.succ_le_succ (hfirst earlier other hother hfront.2)

def scanPositional? (cs : List Char) : Option String :=
  (scanPlaces 0 cs).findSome? fun
    | .char _ => none
    | .digits ds => some (String.ofList (Place.digits ds).text)

theorem scanPositional?_cons (c : Char) (cs : List Char) :
    (∃ ds, c = openBrace ∧ digitsAfterBrace cs = some ds ∧
        scanPositional? (c :: cs) = some (String.ofList (Place.digits ds).text)) ∨
      ((∀ other, IsPositional other → ¬other <+: c :: cs) ∧
        scanPositional? (c :: cs) = scanPositional? cs) := by
  have hnone : (c = openBrace → digitsAfterBrace cs = none) →
      ∀ other, IsPositional other → ¬other <+: c :: cs := by
    intro hdigits other hother hfront
    obtain ⟨hc, ds, hds, -⟩ := positional_prefix_iff.mp ⟨hother, hfront⟩
    rw [hdigits hc] at hds
    cases hds
  by_cases hc : c = openBrace
  · cases hds : digitsAfterBrace cs with
    | some ds => exact Or.inl ⟨ds, hc, rfl, by simp [scanPositional?, scanPlaces, hc, hds]⟩
    | none =>
      exact Or.inr ⟨hnone fun _ => hds, by simp [scanPositional?, scanPlaces, hc, hds]⟩
  · exact Or.inr ⟨hnone fun h => absurd h hc, by simp [scanPositional?, scanPlaces, hc]⟩

theorem scanPositional?_eq_some_iff {cs : List Char} {token : String} :
    scanPositional? cs = some token ↔ FirstPositional cs token.toList := by
  induction cs with
  | nil =>
    refine iff_of_false (by simp [scanPositional?, scanPlaces]) ?_
    rintro ⟨⟨ds, -, -, htoken⟩, before, hstands, -⟩
    rw [htoken] at hstands
    simp at hstands
  | cons c cs ih =>
    rw [firstPositional_cons_iff]
    rcases scanPositional?_cons c cs with ⟨ds, hc, hds, hscan⟩ | ⟨hnone, hscan⟩
    · have hhead := positional_prefix_iff.mpr ⟨hc, ds, hds, rfl⟩
      rw [hscan, Option.some.injEq]
      constructor
      · rintro rfl
        exact Or.inl (by rwa [String.toList_ofList])
      · rintro (htoken | ⟨hnone, -⟩)
        · obtain ⟨-, ds', hds', htext⟩ := positional_prefix_iff.mp htoken
          rw [hds] at hds'
          obtain rfl := Option.some.inj hds'
          rw [← htext, String.ofList_toList]
        · exact absurd hhead.2 (hnone _ hhead.1)
    · rw [hscan, ih, and_iff_right hnone]
      exact (or_iff_right fun htoken => hnone _ htoken.1 htoken.2).symm

theorem scanPositional?_eq_none_iff {cs : List Char} :
    scanPositional? cs = none ↔ ∀ token, IsPositional token → ¬token <:+: cs := by
  induction cs with
  | nil =>
    refine iff_of_true rfl ?_
    rintro _ ⟨ds, -, -, rfl⟩ hwithin
    simp at hwithin
  | cons c cs ih =>
    simp only [List.infix_cons_iff, not_or]
    rcases scanPositional?_cons c cs with ⟨ds, hc, hds, hscan⟩ | ⟨hnone, hscan⟩
    · have hhead := positional_prefix_iff.mpr ⟨hc, ds, hds, rfl⟩
      rw [hscan]
      exact iff_of_false (Option.some_ne_none _) fun h => (h _ hhead.1).1 hhead.2
    · rw [hscan, ih]
      exact forall_congr' fun token => forall_congr' fun htoken =>
        (and_iff_right (hnone token htoken)).symm

theorem firstPositional?_eq (text : String) :
    firstPositional? text = scanPositional? text.toList := rfl

/-! ## 3. Splitting a text -/

/-- The texts that are rows of characters that are no braces and of wildcard tokens, each with
    its wildcards. -/
inductive Splits : List Char → List Wildcard → Prop where
  | nil : Splits [] []
  | char {c : Char} {cs : List Char} {ws : List Wildcard} :
    c ≠ openBrace → c ≠ closeBrace → Splits cs ws → Splits (c :: cs) ws
  | wildcard {w : Wildcard} {cs : List Char} {ws : List Wildcard} :
    ValidName w.name → Splits cs ws → Splits (w.token ++ cs) (w :: ws)

theorem splits_flatMap_text {ps : List Piece} (hps : ∀ p ∈ ps, p.Plain) :
    Splits (ps.flatMap Piece.text) (wildcardsIn ps) := by
  induction ps with
  | nil => exact .nil
  | cons p ps ih =>
    obtain ⟨hp, hrest⟩ := List.forall_mem_cons.mp hps
    cases p with
    | char c => exact .char hp.1 hp.2 (ih hrest)
    | wildcard w => exact .wildcard hp (ih hrest)

theorem Splits.exists_pieces {cs : List Char} {ws : List Wildcard} (h : Splits cs ws) :
    ∃ ps : List Piece, (∀ p ∈ ps, p.Plain) ∧ ps.flatMap Piece.text = cs ∧ wildcardsIn ps = ws := by
  induction h with
  | nil => exact ⟨[], List.forall_mem_nil _, rfl, rfl⟩
  | @char c cs ws hopen hclose _ ih =>
    obtain ⟨ps, hplain, rfl, rfl⟩ := ih
    exact ⟨.char c :: ps, List.forall_mem_cons.mpr ⟨⟨hopen, hclose⟩, hplain⟩, rfl, rfl⟩
  | @wildcard w cs ws hname _ ih =>
    obtain ⟨ps, hplain, rfl, rfl⟩ := ih
    exact ⟨.wildcard w :: ps, List.forall_mem_cons.mpr ⟨hname, hplain⟩, rfl, rfl⟩

/-- A text splits in one way at most, the one in which it is read as pieces. -/
theorem splits_iff {text : String} {ws : List Wildcard} :
    Splits text.toList ws ↔ (∀ p ∈ pieces text, p.Plain) ∧ ws = wildcardsIn (pieces text) := by
  constructor
  · intro h
    obtain ⟨ps, hplain, htext, rfl⟩ := h.exists_pieces
    have hpieces : pieces text = ps := by
      rw [← pieces_ofList hplain, htext, String.ofList_toList]
    rw [hpieces]
    exact ⟨hplain, rfl⟩
  · rintro ⟨hplain, rfl⟩
    have hsplits := splits_flatMap_text hplain
    rwa [flatMap_text_pieces] at hsplits

/-- A text that splits needs four of the five rules only: no two equal braces stand side by
    side in it anyway. -/
theorem validPieces_of_splits {text : String} {ws : List Wildcard} (hsplits : Splits text.toList ws)
    (hrules : ∀ rule : PathRule, rule ≠ .singleBraces → ¬rule.BrokenBy text.toList) :
    ValidPieces (pieces text) := by
  have htext := flatMap_text_pieces text
  have hstart := hrules .leadingSlash (by decide)
  have hslashes := hrules .singleSlashes (by decide)
  have hplain := (splits_iff.mp hsplits).1
  refine ⟨hplain, ?_, ?_, ?_⟩
  · simp only [PathRule.BrokenBy, not_not] at hstart
    rw [← htext] at hstart
    cases hps : pieces text with
    | nil => simp [hps] at hstart
    | cons p ps =>
      rw [hps, List.flatMap_cons] at hstart
      cases p with
      | char c =>
        obtain rfl : '/' = c := (List.cons_prefix_cons.mp hstart).1
        rfl
      | wildcard w =>
        have hbrace : '/' = openBrace := (List.cons_prefix_cons.mp hstart).1
        exact absurd hbrace (by decide)
  · apply isChain_pieces_of_hasDoubled
    rw [htext, ← Bool.not_eq_true, hasDoubled_iff]
    exact hslashes
  · intro c hc
    have hmem : c ∈ text.toList := by
      rw [← htext]
      exact List.mem_flatMap.mpr ⟨.char c, hc, List.mem_singleton.mpr rfl⟩
    constructor
    · rintro rfl
      exact hrules .noBackslash (by decide) hmem
    · rw [← Bool.not_eq_true]
      intro hblank
      exact hrules .noBlank (by decide) ⟨c, hmem, hblank⟩

/-! ## 4. Validation -/

theorem validate_eq_ok_of_splits {text : String} {ws : List Wildcard}
    (hsplits : Splits text.toList ws)
    (hrules : ∀ rule : PathRule, rule ≠ .singleBraces → ¬rule.BrokenBy text.toList) :
    validate text = .ok () := by
  have hok := (validPieces_of_splits hsplits hrules).validate_eq_ok
  rwa [flatMap_text_pieces, String.ofList_toList] at hok

theorem validate_eq_ok_iff {text : String} :
    validate text = .ok () ↔
      (∀ rule : PathRule, ¬rule.BrokenBy text.toList) ∧ ∃ ws, Splits text.toList ws := by
  constructor
  · intro h
    exact ⟨brokenRules_eq_nil_iff.mp (brokenRules_of_validate h), wildcardsIn (pieces text),
      splits_iff.mpr ⟨plain_pieces_of_validate h, rfl⟩⟩
  · rintro ⟨hrules, ws, hsplits⟩
    exact validate_eq_ok_of_splits hsplits fun rule _ => hrules rule

theorem firstPositional?_of_not_hasBraces {text : String} (h : hasBraces text = false) :
    firstPositional? text = none := by
  rw [firstPositional?_eq, scanPositional?_eq_none_iff]
  rintro _ ⟨ds, -, -, rfl⟩ hwithin
  apply List.count_eq_zero.mp (count_of_not_hasBraces h (Or.inl rfl))
  exact hwithin.mem List.mem_cons_self

/-- Validation refuses a text for its broken rules, else for its first positional token, else
    because it does not split. -/
theorem validate_eq_error_iff {text : String} {e : RouteError} :
    validate text = .error e ↔
      (brokenRules text.toList ≠ [] ∧ e = .invalidPath text (brokenRules text.toList)) ∨
        (brokenRules text.toList = [] ∧
          ((∃ token, firstPositional? text = some token ∧ e = .reservedWildcard text token) ∨
            firstPositional? text = none ∧ ¬(∀ p ∈ pieces text, p.Plain) ∧
              e = .unbalancedBraces text (text.toList.count openBrace)
                (text.toList.count closeBrace) (wildcardsIn (pieces text)).length)) := by
  cases hbroken : brokenRules text.toList with
  | cons r rs => simp [validate, hbroken, @eq_comm _ e]
  | nil =>
    rw [validate, hbroken]
    cases hbraces : hasBraces text with
    | false =>
      have hnone := firstPositional?_of_not_hasBraces hbraces
      have hplain : ¬¬∀ p ∈ pieces text, p.Plain :=
        not_not.mpr (plain_pieces_of_not_hasBraces hbraces)
      simp only [hnone, hplain]
      simp
    | true =>
      cases hfirst : firstPositional? text with
      | some token => simp [@eq_comm _ e]
      | none =>
        have hagree : (text.toList.count openBrace ≠ text.toList.count closeBrace ∨
            text.toList.count openBrace ≠ (wildcardsIn (pieces text)).length) ↔
            ¬(∀ p ∈ pieces text, p.Plain) := by
          rw [plain_pieces_iff]
          simp only [forall_eq_or_imp, forall_eq]
          omega
        rw [← hagree]
        simp only [Bool.not_true, Bool.false_eq_true, if_false]
        split
        · rename_i hcounts
          simp [hcounts, @eq_comm _ e]
        · rename_i hcounts
          simp only [hcounts]
          simp

/-! ## 5. Extraction -/

theorem firstRepeated?_eq_some_iff {seen : List String} {ws : List Wildcard} {name : String} :
    firstRepeated? seen ws = some name ↔
      ∃ before w after, ws = before ++ w :: after ∧ firstRepeated? seen before = none ∧
        (w.name ∈ seen ∨ w.name ∈ before.map (·.name)) ∧ name = w.name := by
  induction ws generalizing seen with
  | nil => simp [firstRepeated?]
  | cons v ws ih =>
    by_cases hv : v.name ∈ seen
    · rw [firstRepeated?, if_pos (List.contains_iff_mem.mpr hv), Option.some.injEq]
      constructor
      · rintro rfl
        exact ⟨[], v, ws, rfl, rfl, Or.inl hv, rfl⟩
      · rintro ⟨before, w, after, hws, hnone, -, rfl⟩
        cases before with
        | nil => rw [(List.cons.inj hws).1]
        | cons b before =>
          obtain ⟨rfl, -⟩ := List.cons.inj hws
          rw [firstRepeated?, if_pos (List.contains_iff_mem.mpr hv)] at hnone
          cases hnone
    · have hcontains : ¬seen.contains v.name = true := by rwa [List.contains_iff_mem]
      rw [firstRepeated?, if_neg hcontains, ih]
      constructor
      · rintro ⟨before, w, after, rfl, hnone, hrepeated, rfl⟩
        refine ⟨v :: before, w, after, rfl, ?_, ?_, rfl⟩
        · rwa [firstRepeated?, if_neg hcontains]
        · rw [List.mem_cons] at hrepeated
          rw [List.map_cons, List.mem_cons]
          tauto
      · rintro ⟨before, w, after, hws, hnone, hrepeated, rfl⟩
        cases before with
        | nil =>
          obtain ⟨rfl, -⟩ := List.cons.inj hws
          simp [hv] at hrepeated
        | cons b before =>
          obtain ⟨rfl, rfl⟩ := List.cons.inj hws
          rw [firstRepeated?, if_neg hcontains] at hnone
          refine ⟨before, w, after, rfl, hnone, ?_, rfl⟩
          rw [List.map_cons, List.mem_cons] at hrepeated
          rw [List.mem_cons]
          tauto

theorem extract_eq_error_iff {text : String} {e : RouteError} :
    extract text = .error e ↔
      ∃ before w after, wildcardsIn (pieces text) = before ++ w :: after ∧
        (before.map (·.name)).Nodup ∧ w.name ∈ before.map (·.name) ∧
        e = .duplicateWildcard text w.name := by
  have hextract : extract text = .error e ↔
      ∃ name, firstRepeated? [] (wildcardsIn (pieces text)) = some name ∧
        e = .duplicateWildcard text name := by
    unfold extract
    cases hrep : firstRepeated? [] (wildcardsIn (pieces text)) with
    | some name => simp [hrep, @eq_comm _ e]
    | none => simp [hrep]
  have hnone : ∀ before : List Wildcard,
      firstRepeated? [] before = none ↔ (before.map (·.name)).Nodup := by
    intro before
    simp [firstRepeated?_eq_none_iff]
  rw [hextract]
  constructor
  · rintro ⟨name, hname, rfl⟩
    obtain ⟨before, w, after, hws, hbefore, hrepeated, rfl⟩ := firstRepeated?_eq_some_iff.mp hname
    refine ⟨before, w, after, hws, (hnone before).mp hbefore, ?_, rfl⟩
    exact hrepeated.resolve_left List.not_mem_nil
  · rintro ⟨before, w, after, hws, hbefore, hrepeated, rfl⟩
    exact ⟨w.name, firstRepeated?_eq_some_iff.mpr
      ⟨before, w, after, hws, (hnone before).mpr hbefore, Or.inr hrepeated, rfl⟩, rfl⟩

theorem length_flaggedFrom (start : Nat) (flags : List Bool) :
    (flaggedFrom start flags).length = flags.count true := by
  induction flags generalizing start with
  | nil => rfl
  | cons flag flags ih => cases flag <;> simp [flaggedFrom, ih]

theorem length_optionalPositions_of_extract {text : String} {ws : Wildcards}
    (h : extract text = .ok ws) :
    ws.optionalPositions.length = (wildcardsIn (pieces text)).countP (·.optional) := by
  rw [(extract_eq_ok_iff.mp h).2, Wildcards.optionalPositions, length_flaggedFrom, List.count,
    List.countP_map]
  exact List.countP_congr fun w _ => by simp

/-! ## 6. The grammar of patterns -/

/-- A text of the grammar of patterns, with its wildcards.  That no two equal braces stand side
    by side need not be asked of it. -/
structure Grammatical (text : String) (ws : List Wildcard) : Prop where
  start : ['/'] <+: text.toList
  single : ¬['/', '/'] <:+: text.toList
  noBackslash : '\\' ∉ text.toList
  noBlank : ∀ c ∈ text.toList, Text.isBlank c = false
  splits : Splits text.toList ws
  distinct : (ws.map (·.name)).Nodup
  optionals : ws.countP (·.optional) ≤ 16

/-- Why a text is refused.  Each reason supposes that those before it do not apply; a text that
    splits holds no positional token. -/
inductive Refused (text : String) : RouteError → Prop where
  /-- Exactly the rules that the text breaks, in the order of the rules. -/
  | rules {broken : List PathRule} :
    broken ≠ [] → broken.Sublist pathRules → (∀ rule, rule ∈ broken ↔ rule.BrokenBy text.toList) →
    Refused text (.invalidPath text broken)
  | reserved {token : String} :
    (∀ rule : PathRule, ¬rule.BrokenBy text.toList) → FirstPositional text.toList token.toList →
    Refused text (.reservedWildcard text token)
  | braces :
    (∀ rule : PathRule, ¬rule.BrokenBy text.toList) →
    (∀ token, IsPositional token → ¬token <:+: text.toList) →
    (∀ ws, ¬Splits text.toList ws) →
    Refused text (.unbalancedBraces text (text.toList.count openBrace)
      (text.toList.count closeBrace) (wildcardsIn (pieces text)).length)
  /-- The first wildcard whose name an earlier one has. -/
  | repeated {before after : List Wildcard} {w : Wildcard} :
    (∀ rule : PathRule, ¬rule.BrokenBy text.toList) → Splits text.toList (before ++ w :: after) →
    (before.map (·.name)).Nodup → w.name ∈ before.map (·.name) →
    Refused text (.duplicateWildcard text w.name)
  | optionals {ws : List Wildcard} :
    (∀ rule : PathRule, ¬rule.BrokenBy text.toList) → Splits text.toList ws →
    (ws.map (·.name)).Nodup → 16 < ws.countP (·.optional) →
    Refused text (.tooManyOptionals text (ws.countP (·.optional)) 16)

theorem Grammatical.validate_eq_ok {text : String} {ws : List Wildcard} (h : Grammatical text ws) :
    validate text = .ok () := by
  apply validate_eq_ok_of_splits h.splits
  intro rule hbraces hbroken
  cases rule with
  | leadingSlash => exact hbroken h.start
  | singleSlashes => exact h.single hbroken
  | noBackslash => exact h.noBackslash hbroken
  | singleBraces => exact hbraces rfl
  | noBlank =>
    obtain ⟨c, hc, hblank⟩ := hbroken
    rw [h.noBlank c hc] at hblank
    cases hblank

theorem grammatical_of_validate {text : String} (hvalid : validate text = .ok ())
    (hdistinct : ((wildcardsIn (pieces text)).map (·.name)).Nodup)
    (hoptionals : (wildcardsIn (pieces text)).countP (·.optional) ≤ 16) :
    Grammatical text (wildcardsIn (pieces text)) := by
  obtain ⟨hrules, -⟩ := validate_eq_ok_iff.mp hvalid
  refine ⟨not_not.mp (hrules .leadingSlash), hrules .singleSlashes, hrules .noBackslash, ?_,
    splits_iff.mpr ⟨plain_pieces_of_validate hvalid, rfl⟩, hdistinct, hoptionals⟩
  intro c hc
  rw [← Bool.not_eq_true]
  intro hblank
  exact hrules .noBlank ⟨c, hc, hblank⟩

theorem refused_of_validate {text : String} {e : RouteError} (h : validate text = .error e) :
    Refused text e := by
  rcases validate_eq_error_iff.mp h with
    ⟨hbroken, rfl⟩ | ⟨hrules, ⟨token, htoken, rfl⟩ | ⟨hnone, hplain, rfl⟩⟩
  · exact .rules hbroken List.filter_sublist fun _ => mem_brokenRules
  · rw [firstPositional?_eq, scanPositional?_eq_some_iff] at htoken
    exact .reserved (brokenRules_eq_nil_iff.mp hrules) htoken
  · rw [firstPositional?_eq, scanPositional?_eq_none_iff] at hnone
    refine .braces (brokenRules_eq_nil_iff.mp hrules) hnone ?_
    intro ws hsplits
    exact hplain (splits_iff.mp hsplits).1

end Pattern

namespace Draft

theorem start_eq_error_iff {text : String} {e : RouteError} :
    start text = .error e ↔
      validate text = .error e ∨
        validate text = .ok () ∧
          (extract text = .error e ∨
            ∃ ws, extract text = .ok ws ∧ maxOptionals < ws.optionalPositions.length ∧
              e = .tooManyOptionals text ws.optionalPositions.length maxOptionals) := by
  unfold start
  simp only [bind_eq_error_iff]
  refine or_congr Iff.rfl ⟨?_, ?_⟩
  · rintro ⟨⟨⟩, hvalid, hextract | ⟨ws, hws, h⟩⟩
    · exact ⟨hvalid, Or.inl hextract⟩
    · split at h
      · rename_i hcount
        exact ⟨hvalid, Or.inr ⟨ws, hws, hcount, (Except.error.inj h).symm⟩⟩
      · cases h
  · rintro ⟨hvalid, hextract | ⟨ws, hws, hcount, rfl⟩⟩
    · exact ⟨(), hvalid, Or.inl hextract⟩
    · exact ⟨(), hvalid, Or.inr ⟨ws, hws, if_pos hcount⟩⟩

theorem refused_of_start {text : String} {e : RouteError} (h : start text = .error e) :
    Refused text e := by
  rcases start_eq_error_iff.mp h with hvalid | ⟨hvalid, hlate⟩
  · exact refused_of_validate hvalid
  · obtain ⟨hrules, -⟩ := validate_eq_ok_iff.mp hvalid
    have hsplits : Splits text.toList (wildcardsIn (pieces text)) :=
      splits_iff.mpr ⟨plain_pieces_of_validate hvalid, rfl⟩
    rcases hlate with hextract | ⟨ws, hws, hcount, rfl⟩
    · obtain ⟨before, w, after, hwildcards, hbefore, hrepeated, rfl⟩ :=
        extract_eq_error_iff.mp hextract
      exact .repeated hrules (hwildcards ▸ hsplits) hbefore hrepeated
    · rw [length_optionalPositions_of_extract hws] at hcount ⊢
      exact .optionals hrules hsplits (extract_eq_ok_iff.mp hws).1 hcount

theorem start_of_refused {text : String} {e : RouteError} (h : Refused text e) :
    start text = .error e := by
  rw [start_eq_error_iff]
  cases h with
  | @rules broken hne hsub hmem =>
    obtain rfl := eq_brokenRules_iff.mpr ⟨hsub, hmem⟩
    exact Or.inl (validate_eq_error_iff.mpr (Or.inl ⟨hne, rfl⟩))
  | @reserved token hrules htoken =>
    rw [← scanPositional?_eq_some_iff, ← firstPositional?_eq] at htoken
    exact Or.inl (validate_eq_error_iff.mpr
      (Or.inr ⟨brokenRules_eq_nil_iff.mpr hrules, Or.inl ⟨token, htoken, rfl⟩⟩))
  | braces hrules hnone hsplits =>
    rw [← scanPositional?_eq_none_iff, ← firstPositional?_eq] at hnone
    have hplain : ¬∀ p ∈ pieces text, p.Plain :=
      fun hplain => hsplits _ (splits_iff.mpr ⟨hplain, rfl⟩)
    exact Or.inl (validate_eq_error_iff.mpr
      (Or.inr ⟨brokenRules_eq_nil_iff.mpr hrules, Or.inr ⟨hnone, hplain, rfl⟩⟩))
  | @repeated before after w hrules hsplits hbefore hrepeated =>
    have hvalid := validate_eq_ok_iff.mpr ⟨hrules, _, hsplits⟩
    have hwildcards := (splits_iff.mp hsplits).2.symm
    exact Or.inr ⟨hvalid, Or.inl (extract_eq_error_iff.mpr
      ⟨before, w, after, hwildcards, hbefore, hrepeated, rfl⟩)⟩
  | @optionals ws hrules hsplits hdistinct hcount =>
    have hvalid := validate_eq_ok_iff.mpr ⟨hrules, _, hsplits⟩
    obtain ⟨-, rfl⟩ := splits_iff.mp hsplits
    have hextract := extract_eq_ok_iff.mpr ⟨hdistinct, rfl⟩
    rw [← length_optionalPositions_of_extract hextract] at hcount ⊢
    exact Or.inr ⟨hvalid, Or.inr ⟨_, hextract, hcount, rfl⟩⟩

theorem exists_start_iff {text : String} :
    (∃ d, start text = .ok d) ↔ ∃ ws, Grammatical text ws := by
  constructor
  · rintro ⟨d, hd⟩
    obtain ⟨hvalid, ws, hws, hcount, -⟩ := start_eq_ok_iff.mp hd
    rw [length_optionalPositions_of_extract hws] at hcount
    exact ⟨_, grammatical_of_validate hvalid (extract_eq_ok_iff.mp hws).1 hcount⟩
  · rintro ⟨ws, hws⟩
    obtain ⟨-, rfl⟩ := splits_iff.mp hws.splits
    have hextract := extract_eq_ok_iff.mpr ⟨hws.distinct, rfl⟩
    have hcount := hws.optionals
    rw [← length_optionalPositions_of_extract hextract] at hcount
    exact ⟨_, start_eq_ok_iff.mpr ⟨hws.validate_eq_ok, _, hextract, hcount, rfl⟩⟩

/-- A draft starts from the texts of the grammar and from no others, and what is said about any
    other text is exactly why it is refused. -/
theorem start_iff_grammatical (text : String) :
    ((∃ d, start text = .ok d) ↔ ∃ ws, Grammatical text ws) ∧
      ∀ e, start text = .error e ↔ Refused text e :=
  ⟨exists_start_iff, fun _ => ⟨refused_of_start, start_of_refused⟩⟩

/-- Two braces of each kind and only one token. -/
example : start "/\x7ba\x7bb\x7dc\x7d" =
    .error (.unbalancedBraces "/\x7ba\x7bb\x7dc\x7d" 2 2 1) := by
  decide

end Draft

end Wayfinder
