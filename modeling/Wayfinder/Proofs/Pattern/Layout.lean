/-
  Wayfinder/Proofs/Pattern/Layout.lean
  ====================================
  **Positional forms as rows of characters and tokens.**

  A positional form is text, but all that matters about it is which characters and
  which tokens it holds, in which order.  A *layout* is that row.  Writing a layout
  down and reading the text as places gives the layout back, so whatever is said of
  the text of a variant, such as its positions and its anchored expression, can be said
  of its layout.
-/
import Wayfinder.Pattern.Anchored

namespace Wayfinder.Pattern

/-! ## 1. Numerals -/

theorem digitsOf_eq_toDigits (n : Nat) : digitsOf n = Nat.toDigits 10 n := Nat.toList_repr

theorem isDigit_of_mem_digitsOf {n : Nat} {c : Char} (h : c ∈ digitsOf n) : c.isDigit = true := by
  rw [digitsOf_eq_toDigits] at h
  exact Nat.isDigit_of_mem_toDigits (by decide) (by decide) h

theorem digitsOf_ne_nil (n : Nat) : digitsOf n ≠ [] := by
  rw [digitsOf_eq_toDigits]
  exact Nat.toDigits_ne_nil

/-- Reading the numeral of a number gives the number back. -/
@[simp] theorem valueOfDigits_digitsOf (n : Nat) : valueOfDigits (digitsOf n) = n := by
  rw [digitsOf_eq_toDigits]
  exact Nat.ofDigitChars_ten_toDigits

theorem digitsOf_injective {i j : Nat} (h : digitsOf i = digitsOf j) : i = j := by
  simpa using congrArg valueOfDigits h

theorem isDigit_openBrace : openBrace.isDigit = false := rfl

theorem isDigit_closeBrace : closeBrace.isDigit = false := rfl

/-! ## 2. Layouts -/

/-- A part of a positional form: a character or the token of a position. -/
inductive Part where
  | char (c : Char)
  | token (i : Nat)
deriving DecidableEq, Repr

/-- The text of a part. -/
def Part.text : Part → List Char
  | .char c => [c]
  | .token i => positionToken i

/-- A part as reading finds it. -/
def Part.place : Part → Place
  | .char c => .char c
  | .token i => .digits (digitsOf i)

/-- Whether a part is no brace that stands alone. -/
def Part.Plain : Part → Prop
  | .char c => c ≠ openBrace ∧ c ≠ closeBrace
  | .token _ => True

/-- The text of a layout. -/
def layoutText (ps : List Part) : List Char := ps.flatMap Part.text

/-- The positions of the tokens of a layout, from left to right. -/
def tokensOf (ps : List Part) : List Nat :=
  ps.filterMap fun
    | .char _ => none
    | .token i => some i

@[simp] theorem layoutText_nil : layoutText [] = [] := rfl

@[simp] theorem layoutText_cons (p : Part) (ps : List Part) :
    layoutText (p :: ps) = p.text ++ layoutText ps := by
  simp [layoutText]

@[simp] theorem layoutText_append (ps qs : List Part) :
    layoutText (ps ++ qs) = layoutText ps ++ layoutText qs := by
  simp [layoutText]

@[simp] theorem tokensOf_nil : tokensOf [] = [] := rfl

@[simp] theorem tokensOf_char (c : Char) (ps : List Part) :
    tokensOf (.char c :: ps) = tokensOf ps := rfl

@[simp] theorem tokensOf_token (i : Nat) (ps : List Part) :
    tokensOf (.token i :: ps) = i :: tokensOf ps := rfl

@[simp] theorem tokensOf_append (ps qs : List Part) :
    tokensOf (ps ++ qs) = tokensOf ps ++ tokensOf qs := by
  simp [tokensOf]

theorem mem_tokensOf {ps : List Part} {i : Nat} : i ∈ tokensOf ps ↔ Part.token i ∈ ps := by
  induction ps with
  | nil => simp
  | cons p ps ih => cases p <;> simp [ih]

/-! ## 3. Reading a layout back -/

theorem takeWhile_digits_append (i : Nat) (rest : List Char) :
    (digitsOf i ++ closeBrace :: rest).takeWhile Char.isDigit = digitsOf i := by
  rw [List.takeWhile_append_of_pos fun c hc => isDigit_of_mem_digitsOf hc,
    List.takeWhile_cons_of_neg (by simp [isDigit_closeBrace]), List.append_nil]

theorem dropWhile_digits_append (i : Nat) (rest : List Char) :
    (digitsOf i ++ closeBrace :: rest).dropWhile Char.isDigit = closeBrace :: rest := by
  rw [List.dropWhile_append_of_pos fun c hc => isDigit_of_mem_digitsOf hc,
    List.dropWhile_cons_of_neg (by simp [isDigit_closeBrace])]

theorem digitsAfterBrace_digitsOf (i : Nat) (rest : List Char) :
    digitsAfterBrace (digitsOf i ++ closeBrace :: rest) = some (digitsOf i) := by
  unfold digitsAfterBrace
  rw [takeWhile_digits_append, dropWhile_digits_append]
  obtain ⟨d, ds, hd⟩ := List.exists_cons_of_ne_nil (digitsOf_ne_nil i)
  simp [hd]

theorem scanPlaces_skip (as cs : List Char) :
    scanPlaces as.length (as ++ cs) = scanPlaces 0 cs := by
  induction as with
  | nil => rfl
  | cons a as ih => simpa [scanPlaces] using ih

/-- Reading the text of a layout finds its parts. -/
theorem scanPlaces_layoutText {ps : List Part} (hps : ∀ p ∈ ps, p.Plain) :
    scanPlaces 0 (layoutText ps) = ps.map Part.place := by
  induction ps with
  | nil => rfl
  | cons p ps ih =>
    have ih' := ih fun q hq => hps q (List.mem_cons_of_mem _ hq)
    cases p with
    | char c =>
      have hc : c ≠ openBrace := (hps (.char c) List.mem_cons_self).1
      simp [Part.text, Part.place, scanPlaces, hc, ih']
    | token i =>
      -- the whole token is read at its opening brace
      have hread := digitsAfterBrace_digitsOf i (layoutText ps)
      have hskip := scanPlaces_skip (digitsOf i ++ [closeBrace]) (layoutText ps)
      simp only [List.length_append, List.length_cons, List.length_nil, List.append_assoc,
        List.cons_append, List.nil_append] at hskip
      simp [Part.text, Part.place, positionToken, scanPlaces, hread, hskip, ih']

theorem places_layoutText {ps : List Part} (hps : ∀ p ∈ ps, p.Plain) :
    places (String.ofList (layoutText ps)) = ps.map Part.place := by
  rw [places, String.toList_ofList, scanPlaces_layoutText hps]

/-! ## 4. Positions of a layout -/

theorem position?_place (i : Nat) :
    (Part.token i).place.position? = if i < wordBound then some i else none := by
  simp [Part.place, Place.position?]

theorem filterMap_position?_layout {ps : List Part} (hbound : ∀ i ∈ tokensOf ps, i < wordBound) :
    (ps.map Part.place).filterMap Place.position? = tokensOf ps := by
  induction ps with
  | nil => rfl
  | cons p ps ih =>
    cases p with
    | char c =>
      rw [List.map_cons, List.filterMap_cons_none rfl, tokensOf_char]
      exact ih hbound
    | token i =>
      have hi : i < wordBound := hbound i (by simp)
      have ih' := ih fun j hj => hbound j (by simp [hj])
      rw [List.map_cons, List.filterMap_cons_some (by rw [position?_place, if_pos hi]), ih',
        tokensOf_token]

/-- The positions in the text of a layout are among its tokens, even where a number is too
    large for a machine word. -/
theorem mem_tokensOf_of_mem_survivingPositions {ps : List Part} (hps : ∀ p ∈ ps, p.Plain) {i : Nat}
    (hi : i ∈ survivingPositions (String.ofList (layoutText ps))) : i ∈ tokensOf ps := by
  rw [survivingPositions, places_layoutText hps, List.mem_filterMap] at hi
  obtain ⟨place, hplace, hi⟩ := hi
  obtain ⟨p, hp, rfl⟩ := List.mem_map.mp hplace
  cases p with
  | char c => cases hi
  | token j =>
    rw [position?_place] at hi
    split at hi
    · obtain rfl := Option.some.inj hi
      exact mem_tokensOf.mpr hp
    · cases hi

theorem survivingPositions_layoutText {ps : List Part} (hps : ∀ p ∈ ps, p.Plain)
    (hbound : ∀ i ∈ tokensOf ps, i < wordBound) :
    survivingPositions (String.ofList (layoutText ps)) = tokensOf ps := by
  rw [survivingPositions, places_layoutText hps, filterMap_position?_layout hbound]

end Wayfinder.Pattern
