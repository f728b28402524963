/-
  Wayfinder/Proofs/Pattern/Validity.lean
  ======================================
  **Pieces that make a valid pattern.**

  Validation looks at the text of a pattern.  When the text is written from pieces, all
  it asks for can be asked of the pieces: wildcards with valid names, a slash in front,
  no two slashes side by side, and no character that is forbidden.
-/
import Wayfinder.Proofs.Pattern.Positional

namespace Wayfinder.Pattern

/-! ## 1. Neighbours in the text of pieces -/

theorem Piece.text_ne_nil (p : Piece) : p.text ≠ [] := by
  cases p <;> simp [Piece.text, Wildcard.token]

/-- Neighbours in the text of pieces are neighbours in one piece, or the end of a piece
    and the start of the next. -/
theorem isChain_flatMap_text {R : Char → Char → Prop} {ps : List Piece}
    (hinside : ∀ p ∈ ps, p.text.IsChain R)
    (hjoin : ps.IsChain fun p q => ∀ x ∈ p.text.getLast?, ∀ y ∈ q.text.head?, R x y) :
    (ps.flatMap Piece.text).IsChain R := by
  have hnil : [] ∉ ps.map Piece.text := by
    intro hmem
    obtain ⟨p, -, hp⟩ := List.mem_map.mp hmem
    exact p.text_ne_nil hp
  rw [List.flatMap_def, List.isChain_flatten hnil]
  refine ⟨?_, by rwa [List.isChain_map]⟩
  intro l hl
  obtain ⟨p, hp, rfl⟩ := List.mem_map.mp hl
  exact hinside p hp

theorem getLast?_token (w : Wildcard) : w.token.getLast? = some closeBrace := by
  cases hopt : w.optional <;> simp [Wildcard.token, hopt, List.getLast?_cons]

theorem head?_token (w : Wildcard) : w.token.head? = some openBrace := rfl

theorem Piece.Plain.getLast?_text_ne {p : Piece} (hp : p.Plain) {x : Char}
    (hx : x ∈ p.text.getLast?) : x ≠ openBrace := by
  cases p with
  | char c =>
    obtain rfl : c = x := by simpa [Piece.text] using hx
    exact hp.1
  | wildcard w =>
    rw [Piece.text, getLast?_token] at hx
    obtain rfl := Option.some.inj hx
    decide

theorem Piece.Plain.head?_text_ne {p : Piece} (hp : p.Plain) {x : Char}
    (hx : x ∈ p.text.head?) : x ≠ closeBrace := by
  cases p with
  | char c =>
    obtain rfl : c = x := by simpa [Piece.text] using hx
    exact hp.2
  | wildcard w =>
    rw [Piece.text, head?_token] at hx
    obtain rfl := Option.some.inj hx
    decide

theorem two_le_count_of_hasDoubled {c : Char} {cs : List Char} (h : hasDoubled c cs = true) :
    2 ≤ cs.count c := by
  fun_induction hasDoubled c cs with
  | case1 a b rest ih =>
    rcases Bool.or_eq_true_iff.mp h with h | h
    · simp only [Bool.and_eq_true, beq_iff_eq] at h
      simp [h.1, h.2]
    · exact (ih h).trans (List.count_le_count_cons)
  | case2 => cases h

theorem isChain_of_count_le_one {c : Char} {cs : List Char} (h : cs.count c ≤ 1) :
    cs.IsChain fun a b => ¬(a = c ∧ b = c) := by
  rw [← hasDoubled_eq_false_iff, Bool.eq_false_iff]
  intro hdoubled
  have := two_le_count_of_hasDoubled hdoubled
  omega

/-! ## 2. The characters of a token -/

theorem mem_token {w : Wildcard} (hw : ValidName w.name) {c : Char} (hc : c ∈ w.token) :
    c = openBrace ∨ c = closeBrace ∨ c = '?' ∨ isNameRest c = true := by
  rw [Wildcard.token] at hc
  rcases List.mem_append.mp hc with hc | hc
  · rcases List.mem_cons.mp hc with rfl | hc
    · exact Or.inl rfl
    · exact Or.inr (Or.inr (Or.inr (hw.isNameRest hc)))
  · cases hopt : w.optional with
    | true =>
      rw [hopt, if_pos rfl] at hc
      rcases List.mem_cons.mp hc with rfl | hc
      · exact Or.inr (Or.inr (Or.inl rfl))
      · exact Or.inr (Or.inl (List.mem_singleton.mp hc))
    | false =>
      rw [hopt, if_neg Bool.false_ne_true] at hc
      exact Or.inr (Or.inl (List.mem_singleton.mp hc))

theorem not_mem_token {w : Wildcard} (hw : ValidName w.name) {c : Char}
    (hc : c ≠ openBrace ∧ c ≠ closeBrace ∧ c ≠ '?') (hrest : isNameRest c = false) :
    c ∉ w.token := by
  intro hmem
  rcases mem_token hw hmem with h | h | h | h
  · exact hc.1 h
  · exact hc.2.1 h
  · exact hc.2.2 h
  · rw [hrest] at h
    cases h

theorem isBlank_of_mem_token {w : Wildcard} (hw : ValidName w.name) {c : Char} (hc : c ∈ w.token) :
    Text.isBlank c = false := by
  rcases mem_token hw hc with rfl | rfl | rfl | h
  · rfl
  · rfl
  · rfl
  · exact isBlank_of_isNameRest h

theorem isDigit_of_isNameStart {c : Char} (h : isNameStart c = true) : c.isDigit = false := by
  have hclasses : isNameStart c = ((decide (c.val ≥ 65 ∧ c.val ≤ 90) ||
      (decide (c.val ≥ 97) && decide (c.val ≤ 122))) || c == '_') := rfl
  have hdigit : c.isDigit = (decide (c.val ≥ 48) && decide (c.val ≤ 57)) := rfl
  simp only [hclasses, Bool.or_eq_true, Bool.and_eq_true, decide_eq_true_eq, beq_iff_eq, ge_iff_le,
    UInt32.le_iff_toNat_le] at h
  change ((65 ≤ c.toNat ∧ c.toNat ≤ 90) ∨ (97 ≤ c.toNat ∧ c.toNat ≤ 122)) ∨ c = '_' at h
  rcases h with h | rfl
  · rw [hdigit, Bool.and_eq_false_iff, decide_eq_false_iff_not, decide_eq_false_iff_not]
    right
    change ¬c.toNat ≤ 57
    omega
  · rfl

/-- No digit follows the opening brace of a token. -/
theorem isChain_token {w : Wildcard} (hw : ValidName w.name) :
    w.token.IsChain fun a b => ¬(a = openBrace ∧ b.isDigit = true) := by
  have hcount := count_brace_token hw (Or.inl rfl)
  obtain ⟨c, rest, hname, hc, -⟩ := hw
  rw [w.token_eq] at hcount ⊢
  rw [List.count_cons_self, Nat.add_eq_right, List.count_eq_zero] at hcount
  refine List.isChain_cons.mpr ⟨?_, ?_⟩
  · rintro d hd ⟨-, hdigit⟩
    have hhead : w.token.tail.head? = some c := by simp [Wildcard.token, hname]
    rw [hhead] at hd
    obtain rfl := Option.some.inj hd
    rw [isDigit_of_isNameStart hc] at hdigit
    cases hdigit
  · -- there is no other opening brace
    refine List.Pairwise.isChain (List.pairwise_iff_forall_sublist.mpr ?_)
    rintro a b hab ⟨rfl, -⟩
    exact hcount (hab.subset (by simp))

/-! ## 3. Positional tokens -/

/-- A text in which no digit follows an opening brace holds no positional token. -/
theorem scanPlaces_of_isChain {cs : List Char} (skip : Nat)
    (h : cs.IsChain fun a b => ¬(a = openBrace ∧ b.isDigit = true)) :
    ∀ p ∈ scanPlaces skip cs, ∃ c, p = .char c := by
  induction cs generalizing skip with
  | nil => cases skip <;> simp [scanPlaces]
  | cons c cs ih =>
    rw [List.isChain_cons] at h
    cases skip with
    | succ skip => exact ih skip h.2
    | zero =>
      have hnone : c = openBrace → digitsAfterBrace cs = none := by
        intro hc
        cases cs with
        | nil => rfl
        | cons d ds =>
          have hd : d.isDigit = false := by
            simpa [hc] using h.1 d rfl
          simp [digitsAfterBrace, hd]
      intro p hp
      have hp' : p = .char c ∨ p ∈ scanPlaces 0 cs := by
        rw [scanPlaces] at hp
        split at hp
        · rename_i hc
          rw [hnone hc] at hp
          exact List.mem_cons.mp hp
        · exact List.mem_cons.mp hp
      rcases hp' with rfl | hp
      · exact ⟨c, rfl⟩
      · exact ih 0 h.2 p hp

/-! ## 4. Validation -/

/-- The pieces of a valid pattern. -/
structure ValidPieces (ps : List Piece) : Prop where
  plain : ∀ p ∈ ps, p.Plain
  start : ps.head? = some (.char '/')
  single : ps.IsChain fun p q => ¬(p = .char '/' ∧ q = .char '/')
  regular : ∀ c, Piece.char c ∈ ps → c ≠ '\\' ∧ Text.isBlank c = false

namespace ValidPieces

variable {ps : List Piece}

theorem hasDoubled_brace (h : ValidPieces ps) {b : Char} (hb : b = openBrace ∨ b = closeBrace) :
    hasDoubled b (ps.flatMap Piece.text) = false := by
  rw [hasDoubled_eq_false_iff]
  refine isChain_flatMap_text ?_ ?_
  · intro p hp
    cases p with
    | char c => exact List.isChain_singleton c
    | wildcard w =>
      exact isChain_of_count_le_one (count_brace_token (h.plain _ hp) hb).le
  · -- a brace at a seam closes one token or opens the next
    refine List.Pairwise.isChain (List.pairwise_of_forall_mem_list ?_)
    rintro p hp q hq x hx y hy ⟨rfl, rfl⟩
    rcases hb with rfl | rfl
    · exact (h.plain p hp).getLast?_text_ne hx rfl
    · exact (h.plain q hq).head?_text_ne hy rfl

theorem hasDoubled_slash (h : ValidPieces ps) : hasDoubled '/' (ps.flatMap Piece.text) = false := by
  rw [hasDoubled_eq_false_iff]
  refine isChain_flatMap_text ?_ ?_
  · intro p hp
    cases p with
    | char c => exact List.isChain_singleton c
    | wildcard w =>
      have hslash : '/' ∉ w.token := not_mem_token (h.plain _ hp) (by decide) rfl
      exact isChain_of_count_le_one ((List.count_eq_zero.mpr hslash).le.trans (Nat.zero_le 1))
  · refine h.single.imp fun p q hpq x hx y hy hxy => hpq ?_
    obtain ⟨rfl, rfl⟩ := hxy
    constructor
    · cases p with
      | char c => simpa [Piece.text] using hx
      | wildcard w => rw [Piece.text, getLast?_token] at hx; cases hx
    · cases q with
      | char c => simpa [Piece.text] using hy
      | wildcard w => rw [Piece.text, head?_token] at hy; cases hy

theorem isChain_digits (h : ValidPieces ps) :
    (ps.flatMap Piece.text).IsChain fun a b => ¬(a = openBrace ∧ b.isDigit = true) := by
  refine isChain_flatMap_text ?_ ?_
  · intro p hp
    cases p with
    | char c => exact List.isChain_singleton c
    | wildcard w => exact isChain_token (h.plain _ hp)
  · refine List.Pairwise.isChain (List.pairwise_of_forall_mem_list ?_)
    rintro p hp q - x hx y - ⟨rfl, -⟩
    exact (h.plain p hp).getLast?_text_ne hx rfl

theorem mem_text (h : ValidPieces ps) {c : Char} (hc : c ∈ ps.flatMap Piece.text) :
    c ≠ '\\' ∧ Text.isBlank c = false := by
  obtain ⟨p, hp, hc⟩ := List.mem_flatMap.mp hc
  cases p with
  | char d =>
    obtain rfl : c = d := by simpa [Piece.text] using hc
    exact h.regular c hp
  | wildcard w =>
    refine ⟨?_, isBlank_of_mem_token (h.plain _ hp) hc⟩
    rintro rfl
    exact not_mem_token (h.plain _ hp) (by decide) rfl hc

theorem brokenRules_eq_nil (h : ValidPieces ps) : brokenRules (ps.flatMap Piece.text) = [] := by
  rw [brokenRules, List.filter_eq_nil_iff]
  intro rule _
  have hholds : PathRule.holds (ps.flatMap Piece.text) rule = true := by
    cases rule with
    | leadingSlash =>
      obtain ⟨rest, rfl⟩ := List.head?_eq_some_iff.mp h.start
      rfl
    | singleSlashes => simp [PathRule.holds, h.hasDoubled_slash]
    | noBackslash =>
      have hno : '\\' ∉ ps.flatMap Piece.text := fun hmem => (h.mem_text hmem).1 rfl
      simpa [PathRule.holds] using hno
    | singleBraces =>
      simp [PathRule.holds, h.hasDoubled_brace (Or.inl rfl), h.hasDoubled_brace (Or.inr rfl)]
    | noBlank =>
      have hno : (ps.flatMap Piece.text).any Text.isBlank = false := by
        rw [List.any_eq_false]
        intro c hc
        rw [(h.mem_text hc).2]
        exact Bool.false_ne_true
      rw [PathRule.holds, hno]
      rfl
  simp [hholds]

theorem validate_eq_ok (h : ValidPieces ps) :
    validate (String.ofList (ps.flatMap Piece.text)) = .ok () := by
  have hpositional : firstPositional? (String.ofList (ps.flatMap Piece.text)) = none := by
    rw [firstPositional?, places, String.toList_ofList, List.findSome?_eq_none_iff]
    intro p hp
    obtain ⟨c, rfl⟩ := scanPlaces_of_isChain 0 h.isChain_digits p hp
    rfl
  -- no brace stands alone, so there are as many of each kind as there are tokens
  have hpieces := pieces_ofList h.plain
  have hplain : ∀ p ∈ pieces (String.ofList (ps.flatMap Piece.text)), p.Plain := by
    rw [hpieces]
    exact h.plain
  have hcount : ∀ b, b = openBrace ∨ b = closeBrace →
      (ps.flatMap Piece.text).count b = (wildcardsIn ps).length := by
    intro b hb
    have hagree := plain_pieces_iff.mp hplain b hb
    rwa [String.toList_ofList, hpieces] at hagree
  unfold validate
  rw [String.toList_ofList, h.brokenRules_eq_nil]
  simp only [hpositional, hpieces, hcount _ (Or.inl rfl), hcount _ (Or.inr rfl)]
  simp

end ValidPieces

end Wayfinder.Pattern
