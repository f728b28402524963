/-
  Wayfinder/Proofs/Pattern/Extraction.lean
  ========================================
  **What extraction keeps of a text, and what it leaves to extract.**

  Extraction copies what stands between the wildcards of a pattern and writes a number in
  place of each.  From a valid pattern nothing is lost that way: with the names and the flags
  put back for the numbers, the positional form is the pattern again.  On any other text,
  however its braces nest or stand alone, the numbers never join with their neighbours to a
  new wildcard, so there is nothing left to extract a second time.
-/
import Wayfinder.Proofs.Pattern.Grammar

namespace Wayfinder.Pattern

/-! ## 1. Texts without wildcards -/

theorem scanPieces_append_of_not_mem {as : List Char} (has : openBrace ∉ as) (cs : List Char) :
    scanPieces 0 (as ++ cs) = as.map Piece.char ++ scanPieces 0 cs := by
  induction as with
  | nil => rfl
  | cons a as ih =>
    rw [List.mem_cons, not_or] at has
    rw [List.cons_append, scanPieces_char fun h => absurd h.symm has.1, ih has.2, List.map_cons,
      List.cons_append]

theorem wildcardsIn_map_char (cs : List Char) : wildcardsIn (cs.map Piece.char) = [] := by
  induction cs with
  | nil => rfl
  | cons c cs ih => rw [List.map_cons, wildcardsIn_char, ih]

theorem positionalText_map_char (start : Nat) (cs : List Char) :
    positionalText start (cs.map Piece.char) = cs := by
  induction cs with
  | nil => rfl
  | cons c cs ih => rw [List.map_cons, positionalText, ih]

/-- A text that is read as characters only is left as it is. -/
theorem extract_of_map_char {text : String} (h : pieces text = text.toList.map Piece.char) :
    extract text = .ok ⟨text, [], []⟩ := by
  rw [extract_eq_ok_iff, h, wildcardsIn_map_char, ← positionalText_eq_layoutText,
    positionalText_map_char, String.ofList_toList]
  exact ⟨List.nodup_nil, rfl⟩

/-! ## 2. Seams -/

/-- Up to the first opening brace a rewritten text is the text that was rewritten. -/
theorem exists_append_of_positionalText {start : Nat} {as cs rest : List Char}
    (has : openBrace ∉ as) (h : positionalText start (scanPieces 0 cs) = as ++ rest) :
    ∃ rest', cs = as ++ rest' := by
  induction as generalizing cs with
  | nil => exact ⟨cs, rfl⟩
  | cons a as ih =>
    rw [List.mem_cons, not_or] at has
    induction cs using reading_induction with
    | nil => cases h
    | char c cs hno _ =>
      rw [scanPieces_char hno, positionalText] at h
      obtain ⟨rfl, hrest⟩ := List.cons.inj h
      obtain ⟨rest', rfl⟩ := ih has.2 hrest
      exact ⟨rest', rfl⟩
    | wildcard w cs hw _ =>
      rw [scanPieces_token hw, positionalText] at h
      exact absurd (List.cons.inj h).1 has.1

theorem openBrace_not_mem_tail_token {w : Wildcard} (hw : ValidName w.name) :
    openBrace ∉ w.token.tail := by
  have hcount := count_brace_token hw (Or.inl rfl)
  rw [Wildcard.token_eq, List.count_cons_self, Nat.add_eq_right] at hcount
  exact List.count_eq_zero.mp hcount

/-- A brace that opened no wildcard opens none after rewriting: the wildcard would stand in
    the part that was copied. -/
theorem wildcardAfterBrace_positionalText {start : Nat} {cs : List Char}
    (hno : wildcardAfterBrace cs = none) :
    wildcardAfterBrace (positionalText start (scanPieces 0 cs)) = none := by
  rw [Option.eq_none_iff_forall_ne_some]
  rintro ⟨w, taken⟩ hw
  obtain ⟨hvalid, -, rest, htext⟩ := wildcardAfterBrace_eq_some hw
  obtain ⟨rest', rfl⟩ := exists_append_of_positionalText (openBrace_not_mem_tail_token hvalid) htext
  rw [wildcardAfterBrace_token hvalid] at hno
  cases hno

theorem wildcardAfterBrace_digits (i : Nat) (cs : List Char) :
    wildcardAfterBrace (digitsOf i ++ cs) = none := by
  obtain ⟨d, ds, hd⟩ := List.exists_cons_of_ne_nil (digitsOf_ne_nil i)
  have hdigit : d.isDigit = true := isDigit_of_mem_digitsOf (n := i) (by rw [hd]; simp)
  have hstart : ¬isNameStart d = true := by
    intro hstart
    rw [isDigit_of_isNameStart hstart] at hdigit
    cases hdigit
  rw [hd, List.cons_append, wildcardAfterBrace, if_neg hstart]

theorem scanPieces_positionToken (i : Nat) (cs : List Char) :
    scanPieces 0 (positionToken i ++ cs) =
      (positionToken i).map Piece.char ++ scanPieces 0 cs := by
  have hrest : openBrace ∉ digitsOf i ++ [closeBrace] := by
    simp [openBrace_not_mem_digitsOf]
    decide
  have hno : openBrace = openBrace →
      wildcardAfterBrace (digitsOf i ++ [closeBrace] ++ cs) = none := by
    intro _
    rw [List.append_assoc]
    exact wildcardAfterBrace_digits i _
  rw [positionToken, List.cons_append, List.cons_append, scanPieces_char hno,
    scanPieces_append_of_not_mem hrest, List.map_cons, List.cons_append]

/-- A rewritten text is read as characters only. -/
theorem scanPieces_positionalText (start : Nat) (cs : List Char) :
    scanPieces 0 (positionalText start (scanPieces 0 cs)) =
      (positionalText start (scanPieces 0 cs)).map Piece.char := by
  induction cs using reading_induction generalizing start with
  | nil => rfl
  | char c cs hno ih =>
    rw [scanPieces_char hno, positionalText, List.map_cons, ← ih start]
    exact scanPieces_char fun hc => wildcardAfterBrace_positionalText (hno hc)
  | wildcard w cs hw ih =>
    rw [scanPieces_token hw, positionalText, scanPieces_positionToken, ih (start + 1),
      List.map_append]

/-- Extraction leaves nothing to extract, whatever text it was given. -/
theorem extract_positionalForm {text : String} {d : Wildcards} (h : extract text = .ok d) :
    extract d.positionalForm = .ok ⟨d.positionalForm, [], []⟩ := by
  rw [(extract_eq_ok_iff.mp h).2, ← positionalText_eq_layoutText]
  apply extract_of_map_char
  rw [pieces, pieces, String.toList_ofList, scanPieces_positionalText]

/-- Nested braces, braces that stand alone and a number that was there before. -/
theorem extract_positionalForm_nested :
    extract "\x7b\x7ba\x7d\x7d\x7bb\x7bc?\x7d?\x7d\x7b0\x7d\x7b" =
        .ok ⟨"\x7b\x7b0\x7d\x7d\x7bb\x7b1\x7d?\x7d\x7b0\x7d\x7b", ["a", "c"], [false, true]⟩ ∧
      extract "\x7b\x7b0\x7d\x7d\x7bb\x7b1\x7d?\x7d\x7b0\x7d\x7b" =
        .ok ⟨"\x7b\x7b0\x7d\x7d\x7bb\x7b1\x7d?\x7d\x7b0\x7d\x7b", [], []⟩ := by
  have h : extract "\x7b\x7ba\x7d\x7d\x7bb\x7bc?\x7d?\x7d\x7b0\x7d\x7b" =
      .ok ⟨"\x7b\x7b0\x7d\x7d\x7bb\x7b1\x7d?\x7d\x7b0\x7d\x7b", ["a", "c"], [false, true]⟩ := by
    decide
  exact ⟨h, extract_positionalForm h⟩

/-! ## 3. Names put back -/

/-- The wildcard with a number. -/
def Wildcards.wildcard? (d : Wildcards) (i : Nat) : Option Wildcard :=
  match d.names[i]?, d.optional[i]? with
  | some name, some optional => some ⟨name, optional⟩
  | _, _ => none

/-- A place with the token of its wildcard; a number that no wildcard has stays. -/
def Place.writtenBack (d : Wildcards) : Place → List Char
  | .char c => [c]
  | .digits ds => ((d.wildcard? (valueOfDigits ds)).map Wildcard.token).getD (Place.digits ds).text

/-- The positional form with the wildcards in place of all numbers at once. -/
def Wildcards.writtenBack (d : Wildcards) : String :=
  String.ofList ((places d.positionalForm).flatMap (Place.writtenBack d))

/-- Whether nothing of a text is lost in what was extracted from it. -/
structure Wildcards.Describes (d : Wildcards) (text : String) : Prop where
  lengths : d.names.length = d.optional.length
  distinct : d.names.Nodup
  /-- The positional form has the tokens of all numbers, in order, and no other brace. -/
  tokens : ∃ layout : List Part, (∀ p ∈ layout, p.Plain) ∧
    d.positionalForm.toList = layoutText layout ∧ tokensOf layout = List.range d.names.length
  writtenBack : d.writtenBack = text

theorem wildcard?_map (form : String) (ws : List Wildcard) (i : Nat) :
    (Wildcards.mk form (ws.map (·.name)) (ws.map (·.optional))).wildcard? i = ws[i]? := by
  rw [Wildcards.wildcard?, List.getElem?_map, List.getElem?_map]
  cases ws[i]? <;> rfl

theorem flatMap_writtenBack_numbered {d : Wildcards} {start : Nat} {ps : List Piece}
    (hwildcards : ∀ k w, (wildcardsIn ps)[k]? = some w → d.wildcard? (start + k) = some w) :
    ((numbered start ps).map Part.place).flatMap (Place.writtenBack d) =
      ps.flatMap Piece.text := by
  induction ps generalizing start with
  | nil => rfl
  | cons p ps ih =>
    cases p with
    | char c =>
      rw [numbered, List.map_cons, List.flatMap_cons, List.flatMap_cons, ih hwildcards]
      rfl
    | wildcard w =>
      have hhere : d.wildcard? start = some w := hwildcards 0 w rfl
      have hrest : ∀ k v, (wildcardsIn ps)[k]? = some v → d.wildcard? (start + 1 + k) = some v := by
        intro k v hv
        rw [Nat.add_right_comm]
        exact hwildcards (k + 1) v hv
      rw [numbered, List.map_cons, List.flatMap_cons, List.flatMap_cons, ih hrest, Part.place,
        Place.writtenBack, valueOfDigits_digitsOf, hhere]
      rfl

theorem describes_of_extract {text : String} {d : Wildcards} (hvalid : validate text = .ok ())
    (h : extract text = .ok d) : d.Describes text := by
  obtain ⟨hdistinct, rfl⟩ := extract_eq_ok_iff.mp h
  have hplain := plain_numbered (plain_pieces_of_validate hvalid) 0
  refine ⟨by simp, hdistinct, ⟨numbered 0 (pieces text), hplain, String.toList_ofList, ?_⟩, ?_⟩
  · rw [tokensOf_numbered, List.length_map, List.range_eq_range']
  · rw [Wildcards.writtenBack, places_layoutText hplain, flatMap_writtenBack_numbered,
      flatMap_text_pieces, String.ofList_toList]
    intro k w hw
    rw [wildcard?_map, Nat.zero_add, hw]

/-- Extraction from a valid pattern fails exactly when two tokens have one name, and tells the
    first that repeats an earlier one.  Otherwise the pattern can be written back from what it
    finds. -/
theorem extract_lossless {text : String} (hvalid : validate text = .ok ()) :
    ∃ ws, Splits text.toList ws ∧
      ((∃ e, extract text = .error e) ↔ ¬(ws.map (·.name)).Nodup) ∧
      (∀ e, extract text = .error e ↔
        ∃ before w after, ws = before ++ w :: after ∧ (before.map (·.name)).Nodup ∧
          w.name ∈ before.map (·.name) ∧ e = .duplicateWildcard text w.name) ∧
      ∀ d, extract text = .ok d → d.Describes text := by
  refine ⟨wildcardsIn (pieces text), splits_iff.mpr ⟨plain_pieces_of_validate hvalid, rfl⟩, ?_,
    fun _ => extract_eq_error_iff, fun _ => describes_of_extract hvalid⟩
  have hok : (∃ d, extract text = .ok d) ↔ ((wildcardsIn (pieces text)).map (·.name)).Nodup := by
    simp only [extract_eq_ok_iff, exists_and_left, exists_eq, and_true]
  rw [← hok]
  cases extract text with
  | ok d => simp
  | error e => simp

/-- Eleven wildcards, so that the last number is longer than the name it stands for. -/
def elevenWildcards : String :=
  "/\x7ba\x7d\x7bb?\x7d/\x7bc\x7d\x7bd\x7d\x7be\x7d\x7bf\x7d" ++
    "\x7bg\x7d\x7bh\x7d\x7bi\x7d\x7bj?\x7d/\x7bk\x7d.xml"

theorem extract_lossless_eleven :
    ∃ d, extract elevenWildcards = .ok d ∧
      d.positionalForm =
        "/\x7b0\x7d\x7b1\x7d/\x7b2\x7d\x7b3\x7d\x7b4\x7d\x7b5\x7d" ++
          "\x7b6\x7d\x7b7\x7d\x7b8\x7d\x7b9\x7d/\x7b10\x7d.xml" ∧
      d.Describes elevenWildcards := by
  obtain ⟨ws, -, -, -, hdescribes⟩ := @extract_lossless elevenWildcards (by decide)
  exact ⟨_, rfl, by decide, hdescribes _ rfl⟩

end Wayfinder.Pattern
