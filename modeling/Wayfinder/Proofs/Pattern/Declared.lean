/-
  Wayfinder/Proofs/Pattern/Declared.lean
  ======================================
  **Declared patterns as rows of characters and wildcards.**

  Reading a declared pattern as pieces loses nothing, and writing pieces down and
  reading the text finds them again.  Validation counts braces and tokens and nothing
  else; that the counts agree means that no brace stands outside a token, so the
  positional form of a valid pattern is the text of a layout.
-/
import Wayfinder.Proofs.Pattern.Layout
import Wayfinder.Pattern.Grammar

namespace Wayfinder.Pattern

/-! ## 1. Names -/

/-- Whether a text can stand as a name between braces. -/
def ValidName (name : String) : Prop :=
  ∃ c rest, name.toList = c :: rest ∧ isNameStart c = true ∧ ∀ d ∈ rest, isNameRest d = true

theorem isNameRest_of_isNameStart {c : Char} (h : isNameStart c = true) : isNameRest c = true := by
  simp only [isNameStart, isNameRest, Char.isAlphanum, Bool.or_eq_true] at h ⊢
  rcases h with h | h
  · exact Or.inl (Or.inl h)
  · exact Or.inr h

theorem ValidName.isNameRest {name : String} (h : ValidName name) {c : Char}
    (hc : c ∈ name.toList) : isNameRest c = true := by
  obtain ⟨d, rest, hname, hd, hrest⟩ := h
  rw [hname] at hc
  rcases List.mem_cons.mp hc with rfl | hc
  · exact isNameRest_of_isNameStart hd
  · exact hrest c hc

theorem toNat_of_isNameRest {c : Char} (h : isNameRest c = true) :
    (48 ≤ c.toNat ∧ c.toNat ≤ 57) ∨ (65 ≤ c.toNat ∧ c.toNat ≤ 90) ∨ c.toNat = 95 ∨
      (97 ≤ c.toNat ∧ c.toNat ≤ 122) := by
  have hclasses : isNameRest c =
      (((decide (c.val ≥ 65 ∧ c.val ≤ 90) || (decide (c.val ≥ 97) && decide (c.val ≤ 122))) ||
        (decide (c.val ≥ 48) && decide (c.val ≤ 57))) || c == '_') := rfl
  simp only [hclasses, Bool.or_eq_true, Bool.and_eq_true, decide_eq_true_eq, beq_iff_eq,
    ge_iff_le, UInt32.le_iff_toNat_le] at h
  change (((65 ≤ c.toNat ∧ c.toNat ≤ 90) ∨ (97 ≤ c.toNat ∧ c.toNat ≤ 122)) ∨
    (48 ≤ c.toNat ∧ c.toNat ≤ 57)) ∨ c = '_' at h
  rcases h with h | rfl
  · omega
  · decide

theorem isBlank_of_isNameRest {c : Char} (h : isNameRest c = true) : Text.isBlank c = false := by
  have hc := toNat_of_isNameRest h
  simp only [Text.isBlank]
  simp
  omega

/-! ## 2. Wildcard tokens -/

theorem Wildcard.token_eq (w : Wildcard) : w.token = openBrace :: w.token.tail := by
  simp [Wildcard.token]

theorem takeWhile_append_of_stop {p : Char → Bool} {as : List Char} (has : ∀ a ∈ as, p a = true)
    (bs : List Char) (hbs : ∀ b, bs.head? = some b → p b = false) : (as ++ bs).takeWhile p = as := by
  rw [List.takeWhile_append_of_pos has]
  cases bs with
  | nil => simp
  | cons b bs => simp [List.takeWhile_cons_of_neg, hbs b rfl]

theorem dropWhile_append_of_stop {p : Char → Bool} {as : List Char} (has : ∀ a ∈ as, p a = true)
    (bs : List Char) (hbs : ∀ b, bs.head? = some b → p b = false) : (as ++ bs).dropWhile p = bs := by
  rw [List.dropWhile_append_of_pos has]
  cases bs with
  | nil => simp
  | cons b bs => simp [List.dropWhile_cons_of_neg, hbs b rfl]

/-- The text of a wildcard with a valid name is read as that wildcard, whatever follows. -/
theorem wildcardAfterBrace_token {w : Wildcard} (hw : ValidName w.name) (rest : List Char) :
    wildcardAfterBrace (w.token.tail ++ rest) = some (w, w.token.tail.length) := by
  obtain ⟨name, optional⟩ := w
  obtain ⟨c, cs, hname, hc, hcs⟩ := hw
  simp only at hname
  have hback : String.ofList (c :: cs) = name := by rw [← hname, String.ofList_toList]
  cases optional with
  | true =>
    have htake := takeWhile_append_of_stop hcs ('?' :: closeBrace :: rest) (by simp; decide)
    have hdrop := dropWhile_append_of_stop hcs ('?' :: closeBrace :: rest) (by simp; decide)
    simp [Wildcard.token, wildcardAfterBrace, hname, hc, htake, hdrop, hback]
  | false =>
    have htake := takeWhile_append_of_stop hcs (closeBrace :: rest) (by simp; decide)
    have hdrop := dropWhile_append_of_stop hcs (closeBrace :: rest) (by simp; decide)
    simp [Wildcard.token, wildcardAfterBrace, hname, hc, htake, hdrop, hback]
    rfl

/-- What is read as a wildcard is the text of that wildcard, and its name is valid. -/
theorem wildcardAfterBrace_eq_some {cs : List Char} {w : Wildcard} {taken : Nat}
    (h : wildcardAfterBrace cs = some (w, taken)) :
    ValidName w.name ∧ taken = w.token.tail.length ∧ ∃ rest, cs = w.token.tail ++ rest := by
  cases cs with
  | nil => simp [wildcardAfterBrace] at h
  | cons c cs =>
    simp only [wildcardAfterBrace] at h
    split at h
    · rename_i hc
      have hsplit : cs = cs.takeWhile isNameRest ++ cs.dropWhile isNameRest :=
        List.takeWhile_append_dropWhile.symm
      have hvalid : ValidName (String.ofList (c :: cs.takeWhile isNameRest)) :=
        ⟨c, cs.takeWhile isNameRest, by simp, hc, fun d hd => by
          simpa using List.all_eq_true.mp List.all_takeWhile d hd⟩
      split at h
      · rename_i d tail hdrop
        split at h
        · rename_i hd
          obtain ⟨rfl, rfl⟩ := Prod.mk.inj (Option.some.inj h)
          refine ⟨hvalid, by simp [Wildcard.token], tail, ?_⟩
          simp only [Wildcard.token, String.toList_ofList]
          rw [hdrop, hd] at hsplit
          simpa using hsplit
        · cases h
      · rename_i d tail _ hdrop
        split at h
        · rename_i hd
          obtain ⟨rfl, rfl⟩ := Prod.mk.inj (Option.some.inj h)
          refine ⟨hvalid, by simp [Wildcard.token], tail, ?_⟩
          simp only [Wildcard.token, String.toList_ofList]
          rw [hdrop, hd] at hsplit
          simpa using hsplit
        · cases h
      · cases h
    · cases h

/-! ## 3. Reading and writing pieces -/

theorem scanPieces_skip (as cs : List Char) :
    scanPieces as.length (as ++ cs) = scanPieces 0 cs := by
  induction as with
  | nil => rfl
  | cons a as ih => simpa [scanPieces] using ih

theorem scanPieces_char {c : Char} {cs : List Char}
    (hno : c = openBrace → wildcardAfterBrace cs = none) :
    scanPieces 0 (c :: cs) = .char c :: scanPieces 0 cs := by
  rw [scanPieces]
  split
  · rename_i hc
    rw [hno hc]
  · rfl

theorem scanPieces_token {w : Wildcard} (hw : ValidName w.name) (cs : List Char) :
    scanPieces 0 (w.token ++ cs) = .wildcard w :: scanPieces 0 cs := by
  rw [Wildcard.token_eq, List.cons_append, scanPieces, if_pos rfl, wildcardAfterBrace_token hw]
  simp only [scanPieces_skip]

/-- Reading goes by what stands in front: a wildcard, or a character that opens none. -/
@[elab_as_elim]
theorem reading_induction {motive : List Char → Prop} (nil : motive [])
    (char : ∀ (c : Char) (cs : List Char), (c = openBrace → wildcardAfterBrace cs = none) →
      motive cs → motive (c :: cs))
    (wildcard : ∀ (w : Wildcard) (cs : List Char), ValidName w.name → motive cs →
      motive (w.token ++ cs)) (cs : List Char) : motive cs := by
  induction hn : cs.length using Nat.strongRecOn generalizing cs with
  | ind n ih =>
    cases cs with
    | nil => exact nil
    | cons c cs =>
      by_cases hno : c = openBrace → wildcardAfterBrace cs = none
      · exact char c cs hno (ih cs.length (by simp [← hn]) cs rfl)
      · -- a wildcard is read, and what follows it is shorter
        simp only [Classical.not_imp, ← ne_eq, Option.ne_none_iff_exists'] at hno
        obtain ⟨rfl, ⟨w, taken⟩, hw⟩ := hno
        obtain ⟨hvalid, -, rest, rfl⟩ := wildcardAfterBrace_eq_some hw
        have hshorter : rest.length < n := by
          rw [← hn, List.length_cons, List.length_append]
          omega
        have hrest := wildcard w rest hvalid (ih rest.length hshorter rest rfl)
        rwa [Wildcard.token_eq, List.cons_append] at hrest

/-- Reading a text as pieces loses nothing. -/
theorem flatMap_text_scanPieces (cs : List Char) : (scanPieces 0 cs).flatMap Piece.text = cs := by
  induction cs using reading_induction with
  | nil => rfl
  | char c cs hno ih =>
    rw [scanPieces_char hno, List.flatMap_cons, ih, Piece.text, List.singleton_append]
  | wildcard w cs hw ih => rw [scanPieces_token hw, List.flatMap_cons, ih, Piece.text]

theorem flatMap_text_pieces (text : String) : (pieces text).flatMap Piece.text = text.toList :=
  flatMap_text_scanPieces _

theorem validName_of_mem_scanPieces {cs : List Char} {w : Wildcard}
    (h : Piece.wildcard w ∈ scanPieces 0 cs) : ValidName w.name := by
  induction cs using reading_induction with
  | nil => cases h
  | char c cs hno ih =>
    rw [scanPieces_char hno] at h
    rcases List.mem_cons.mp h with h | h
    · cases h
    · exact ih h
  | wildcard v cs hv ih =>
    rw [scanPieces_token hv] at h
    rcases List.mem_cons.mp h with h | h
    · rw [Piece.wildcard.inj h]
      exact hv
    · exact ih h

theorem validName_of_mem_pieces {text : String} {w : Wildcard} (h : Piece.wildcard w ∈ pieces text) :
    ValidName w.name :=
  validName_of_mem_scanPieces h

/-- Whether a piece is a wildcard with a valid name or a character that is no brace. -/
def Piece.Plain : Piece → Prop
  | .char c => c ≠ openBrace ∧ c ≠ closeBrace
  | .wildcard w => ValidName w.name

/-- Reading the text of plain pieces finds the pieces. -/
theorem scanPieces_flatMap_text {ps : List Piece} (hps : ∀ p ∈ ps, p.Plain) :
    scanPieces 0 (ps.flatMap Piece.text) = ps := by
  induction ps with
  | nil => rfl
  | cons p ps ih =>
    have ih' := ih fun q hq => hps q (List.mem_cons_of_mem _ hq)
    cases p with
    | char c =>
      have hc : c ≠ openBrace := (hps (.char c) List.mem_cons_self).1
      rw [List.flatMap_cons, Piece.text, List.singleton_append, scanPieces_char fun h => absurd h hc,
        ih']
    | wildcard w =>
      have hw : ValidName w.name := hps (.wildcard w) List.mem_cons_self
      rw [List.flatMap_cons, Piece.text, scanPieces_token hw, ih']

theorem pieces_ofList {ps : List Piece} (hps : ∀ p ∈ ps, p.Plain) :
    pieces (String.ofList (ps.flatMap Piece.text)) = ps := by
  rw [pieces, String.toList_ofList, scanPieces_flatMap_text hps]

/-! ## 4. What validation says about pieces -/

@[simp] theorem wildcardsIn_nil : wildcardsIn [] = [] := rfl

@[simp] theorem wildcardsIn_char (c : Char) (ps : List Piece) :
    wildcardsIn (.char c :: ps) = wildcardsIn ps := rfl

@[simp] theorem wildcardsIn_wildcard (w : Wildcard) (ps : List Piece) :
    wildcardsIn (.wildcard w :: ps) = w :: wildcardsIn ps := rfl

theorem mem_wildcardsIn {ps : List Piece} {w : Wildcard} :
    w ∈ wildcardsIn ps ↔ Piece.wildcard w ∈ ps := by
  induction ps with
  | nil => simp
  | cons p ps ih => cases p <;> simp [ih]

theorem isNameRest_openBrace : isNameRest openBrace = false := rfl

theorem isNameRest_closeBrace : isNameRest closeBrace = false := rfl

theorem count_brace_token {w : Wildcard} (hw : ValidName w.name) {b : Char}
    (hb : b = openBrace ∨ b = closeBrace) : w.token.count b = 1 := by
  have hname : w.name.toList.count b = 0 := by
    rw [List.count_eq_zero]
    intro hmem
    have hrest := hw.isNameRest hmem
    rcases hb with rfl | rfl
    · rw [isNameRest_openBrace] at hrest; cases hrest
    · rw [isNameRest_closeBrace] at hrest; cases hrest
  simp only [openBrace, closeBrace] at hb hname
  rcases hb with rfl | rfl <;> cases hopt : w.optional <;>
    simp [Wildcard.token, hopt, hname, openBrace, closeBrace]

/-- The braces of a text are those of its tokens and those that stand alone. -/
theorem count_brace_flatMap_text {ps : List Piece} (hps : ∀ w, Piece.wildcard w ∈ ps → ValidName w.name)
    {b : Char} (hb : b = openBrace ∨ b = closeBrace) :
    (ps.flatMap Piece.text).count b = (wildcardsIn ps).length + ps.count (.char b) := by
  induction ps with
  | nil => rfl
  | cons p ps ih =>
    have ih' := ih fun w hw => hps w (List.mem_cons_of_mem _ hw)
    cases p with
    | char c =>
      rw [List.flatMap_cons, List.count_append, ih', wildcardsIn_char, Piece.text, List.count_cons,
        List.count_cons]
      simp
      omega
    | wildcard w =>
      rw [List.flatMap_cons, List.count_append, ih', wildcardsIn_wildcard, Piece.text,
        count_brace_token (hps w List.mem_cons_self) hb]
      simp
      omega

theorem brokenRules_of_validate {text : String} (h : validate text = .ok ()) :
    brokenRules text.toList = [] := by
  unfold validate at h
  split at h
  · cases h
  · assumption

theorem holds_of_validate {text : String} (h : validate text = .ok ()) (rule : PathRule) :
    PathRule.holds text.toList rule = true := by
  have hbroken := brokenRules_of_validate h
  rw [brokenRules, List.filter_eq_nil_iff] at hbroken
  have hmem : rule ∈ pathRules := by cases rule <;> decide
  simpa using hbroken rule hmem

theorem count_of_not_hasBraces {text : String} (h : hasBraces text = false) {b : Char}
    (hb : b = openBrace ∨ b = closeBrace) : text.toList.count b = 0 := by
  rw [List.count_eq_zero]
  intro hmem
  have hno := List.any_eq_false.mp h b hmem
  rcases hb with rfl | rfl <;> simp at hno

/-- No brace stands outside a token exactly when there are as many braces of each kind as
    tokens. -/
theorem plain_pieces_iff {text : String} :
    (∀ p ∈ pieces text, p.Plain) ↔ ∀ b, b = openBrace ∨ b = closeBrace →
      text.toList.count b = (wildcardsIn (pieces text)).length := by
  have hvalid : ∀ w, Piece.wildcard w ∈ pieces text → ValidName w.name :=
    fun w hw => validName_of_mem_pieces hw
  have hcount : ∀ b, b = openBrace ∨ b = closeBrace →
      text.toList.count b = (wildcardsIn (pieces text)).length + (pieces text).count (.char b) := by
    intro b hb
    rw [← count_brace_flatMap_text hvalid hb, flatMap_text_pieces]
  constructor
  · intro hplain b hb
    have halone : (pieces text).count (.char b) = 0 := by
      rw [List.count_eq_zero]
      intro hmem
      rcases hb with rfl | rfl
      · exact (hplain _ hmem).1 rfl
      · exact (hplain _ hmem).2 rfl
    rw [hcount b hb, halone, Nat.add_zero]
  · intro hagree p hp
    -- as many braces as tokens leaves none that stands alone
    have halone : ∀ b, b = openBrace ∨ b = closeBrace → Piece.char b ∉ pieces text := by
      intro b hb
      have htotal := hcount b hb
      rw [hagree b hb] at htotal
      exact List.count_eq_zero.mp (by omega)
    cases p with
    | char c =>
      refine ⟨?_, ?_⟩
      · rintro rfl
        exact halone openBrace (Or.inl rfl) hp
      · rintro rfl
        exact halone closeBrace (Or.inr rfl) hp
    | wildcard w => exact hvalid w hp

theorem plain_pieces_of_not_hasBraces {text : String} (h : hasBraces text = false) :
    ∀ p ∈ pieces text, p.Plain := by
  have hvalid : ∀ w, Piece.wildcard w ∈ pieces text → ValidName w.name :=
    fun w hw => validName_of_mem_pieces hw
  -- each token would have an opening brace
  have hcount := count_brace_flatMap_text hvalid (Or.inl rfl)
  rw [flatMap_text_pieces, count_of_not_hasBraces h (Or.inl rfl)] at hcount
  refine plain_pieces_iff.mpr fun b hb => ?_
  rw [count_of_not_hasBraces h hb]
  omega

/-- In a valid pattern every brace belongs to a token. -/
theorem plain_pieces_of_validate {text : String} (h : validate text = .ok ()) :
    ∀ p ∈ pieces text, p.Plain := by
  have hbroken := brokenRules_of_validate h
  unfold validate at h
  rw [hbroken] at h
  simp only at h
  split at h
  · rename_i hno
    exact plain_pieces_of_not_hasBraces (by simpa using hno)
  · split at h
    · cases h
    · split at h
      · cases h
      · rename_i hagree
        simp only [not_or, ne_eq, Decidable.not_not] at hagree
        refine plain_pieces_iff.mpr fun b hb => ?_
        rcases hb with rfl | rfl
        · exact hagree.2
        · exact hagree.1.symm.trans hagree.2

end Wayfinder.Pattern
