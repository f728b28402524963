/-
  Wayfinder/Proofs/Json/RoundTrip.lean
  ====================================
  **What is written as JSON is read back.**

  The writer spreads a document over indented lines and escapes what a text may not hold;
  the reader takes the grammar as it stands.  Here each part of the writer meets the part
  of the reader that undoes it, always in front of an arbitrary rest: a text, a number, a
  value, the items of an array and the members of an object.  A document that holds
  numbers other than natural ones, or a text that is none, has no written form of its own,
  so it is left out.
-/
import Wayfinder.Json.Reader
import Wayfinder.Json.Writer

namespace Wayfinder.Json

/-! ## 1. Texts -/

theorem codeUnit?_hexDigit :
    ∀ n < 32, codeUnit? '0' '0' (hexDigit (n / 16)) (hexDigit (n % 16)) = some n := by
  decide

/-- A character in quotes is read as the code unit with its number, even where the number
    is too large for one. -/
theorem unitsToQuote_quotedChar (c : Char) (rest : List Char) :
    unitsToQuote (quotedChar c ++ rest) =
      (unitsToQuote rest).map fun r => (c.toNat :: r.1, r.2) := by
  unfold quotedChar
  split
  · subst_vars; rfl
  split
  · subst_vars; rfl
  split
  · subst_vars; rfl
  split
  · subst_vars; rfl
  split
  · subst_vars; rfl
  split
  · subst_vars; rfl
  split
  · subst_vars; rfl
  split
  · rename_i hcontrol
    simp only [List.cons_append, List.nil_append, unitsToQuote, codeUnit?_hexDigit _ hcontrol]
    rfl
  · rename_i hquote hbackslash _ _ _ _ _ hcontrol
    have hplain : ¬(c.toNat < 32 ∨ c = '\\') := by simpa [hbackslash] using hcontrol
    rw [List.singleton_append, unitsToQuote.eq_def]
    split
    · rename_i h
      cases h
    · rename_i h
      exact absurd (List.cons.inj h).1 hquote
    · rename_i h
      exact absurd (List.cons.inj h).1 hbackslash
    · rename_i h
      exact absurd (List.cons.inj h).1 hbackslash
    · rename_i h
      obtain ⟨rfl, rfl⟩ := List.cons.inj h
      rw [if_neg hplain]

theorem unitsToQuote_quotedChars (cs rest : List Char) :
    unitsToQuote (cs.flatMap quotedChar ++ '"' :: rest) = some (cs.map Char.toNat, rest) := by
  induction cs with
  | nil => rfl
  | cons c cs ih =>
    rw [List.flatMap_cons, List.append_assoc, unitsToQuote_quotedChar, ih]
    rfl

/-- No character is half of a surrogate pair. -/
theorem not_surrogate (c : Char) :
    isHighSurrogate c.toNat = false ∧ isLowSurrogate c.toNat = false := by
  have hvalid : c.toNat < 0xD800 ∨ (0xDFFF < c.toNat ∧ c.toNat < 0x110000) := c.valid
  simp only [isHighSurrogate, isLowSurrogate, Bool.and_eq_false_iff, decide_eq_false_iff_not]
  omega

theorem charsOfUnits_map_toNat (cs : List Char) : charsOfUnits (cs.map Char.toNat) = some cs := by
  induction cs with
  | nil => rfl
  | cons c cs ih =>
    obtain ⟨hhigh, hlow⟩ := not_surrogate c
    cases cs with
    | nil => simp [charsOfUnits, hhigh, hlow]
    | cons d cs =>
      rw [List.map_cons, List.map_cons, charsOfUnits]
      rw [List.map_cons] at ih
      simp [hhigh, hlow, ih]

/-- A text in quotes is read back behind its opening quote. -/
theorem readText_quoted (s : String) (rest : List Char) :
    readText (s.toList.flatMap quotedChar ++ '"' :: rest) = some (some s, rest) := by
  rw [readText, unitsToQuote_quotedChars, Option.map_some, charsOfUnits_map_toNat,
    Option.map_some, String.ofList_toList]

/-! ## 2. Numbers -/

/-- Whether a rest is what the writer puts behind a value: nothing, a comma or a line
    break. -/
def Stops (rest : List Char) : Prop := ∀ c ∈ rest.head?, c = ',' ∨ c = '\n'

theorem stops_nil : Stops [] := by
  intro c hc
  cases hc

theorem stops_cons {c : Char} (hc : c = ',' ∨ c = '\n') (rest : List Char) : Stops (c :: rest) := by
  intro d hd
  obtain rfl := Option.some.inj hd
  exact hc

theorem exists_toDigits_eq_cons (n : Nat) :
    ∃ d ds, Nat.toDigits 10 n = d :: ds ∧ d.isDigit = true := by
  obtain ⟨d, ds, hds⟩ := List.exists_cons_of_ne_nil (@Nat.toDigits_ne_nil n 10)
  refine ⟨d, ds, hds, ?_⟩
  exact Nat.isDigit_of_mem_toDigits (b := 10) (n := n) (by decide) (by decide) (by simp [hds])

/-- A number does not start with the digit zero, unless it is zero. -/
theorem head?_toDigits_ne {n : Nat} (hn : 0 < n) : (Nat.toDigits 10 n).head? ≠ some '0' := by
  induction n using Nat.strongRecOn with
  | ind n ih =>
    rw [Nat.toDigits_eq_if (by decide)]
    split
    · rename_i hlt
      have hdigits : ∀ d < 10, 0 < d → ([Nat.digitChar d] : List Char).head? ≠ some '0' := by decide
      exact hdigits n hlt hn
    · rename_i hge
      have hhead := ih (n / 10) (by omega) (by omega)
      obtain ⟨d, ds, hds, -⟩ := exists_toDigits_eq_cons (n / 10)
      rw [hds] at hhead ⊢
      exact hhead

theorem isDigit_of_stops {rest : List Char} (hrest : Stops rest) :
    ∀ c ∈ rest.head?, c.isDigit = false := by
  intro c hc
  rcases hrest c hc with rfl | rfl <;> rfl

theorem takeWhile_digits {ds rest : List Char} (hds : ∀ c ∈ ds, c.isDigit = true)
    (hrest : Stops rest) : (ds ++ rest).takeWhile Char.isDigit = ds ∧
      (ds ++ rest).dropWhile Char.isDigit = rest := by
  rw [List.takeWhile_append_of_pos hds, List.dropWhile_append_of_pos hds]
  have hstop := isDigit_of_stops hrest
  cases rest with
  | nil => simp
  | cons c rest =>
    have hc : c.isDigit = false := hstop c rfl
    simp [hc]

theorem wholePart_toDigits (n : Nat) {rest : List Char} (hrest : Stops rest) :
    wholePart (Nat.toDigits 10 n ++ rest) = some (Nat.toDigits 10 n, rest) := by
  have hdigits : ∀ c ∈ Nat.toDigits 10 n, c.isDigit = true :=
    fun c hc => Nat.isDigit_of_mem_toDigits (by decide) (by decide) hc
  have hstop := isDigit_of_stops hrest
  rcases Nat.eq_zero_or_pos n with rfl | hn
  · rw [Nat.toDigits_zero]
    cases rest with
    | nil => rfl
    | cons c rest =>
      have hc : c.isDigit = false := hstop c rfl
      simp [wholePart, hc]
  · have hhead := head?_toDigits_ne hn
    obtain ⟨d, ds, hds, -⟩ := exists_toDigits_eq_cons n
    rw [hds] at hdigits hhead ⊢
    rw [List.forall_mem_cons] at hdigits
    have hd : d ≠ '0' := fun h => hhead (congrArg some h)
    obtain ⟨htake, hdrop⟩ := takeWhile_digits hdigits.2 hrest
    rw [List.cons_append, wholePart.eq_def]
    split
    · rename_i h
      exact absurd (List.cons.inj h).1 hd
    · rename_i d' rest' _ h
      obtain ⟨rfl, rfl⟩ := List.cons.inj h
      rw [if_pos hdigits.1, htake, hdrop]
    · rename_i h
      cases h

theorem digitsValue_toDigits (n : Nat) : digitsValue (Nat.toDigits 10 n) = n := by
  rw [digitsValue]
  exact Nat.ofDigitChars_eq_foldl.symm.trans Nat.ofDigitChars_ten_toDigits

/-- A number is read back where it cannot go on. -/
theorem readNumber_toDigits (n : Nat) {rest : List Char} (hrest : Stops rest) :
    readNumber (Nat.toDigits 10 n ++ rest) = some (.natural n, rest) := by
  have hsign : ((Nat.toDigits 10 n ++ rest).head? == some '-') = false := by
    obtain ⟨d, ds, hds, hd⟩ := exists_toDigits_eq_cons n
    have hne : d ≠ '-' := by
      rintro rfl
      cases hd
    simpa [hds] using hne
  have hfraction : afterFraction rest = some (false, rest) := by
    rw [afterFraction.eq_def]
    split
    · rename_i h
      rcases hrest '.' rfl with h | h <;> cases h
    · rfl
  have hexponent : afterExponent rest = some (false, rest) := by
    rw [afterExponent.eq_def]
    split
    · rcases hrest 'e' rfl with h | h <;> cases h
    · rcases hrest 'E' rfl with h | h <;> cases h
    · rfl
  rw [readNumber]
  simp only [hsign, Bool.false_eq_true, if_false, wholePart_toDigits n hrest, hfraction, hexponent,
    Option.bind_eq_bind, Option.bind_some, Bool.or_false, Option.pure_def, digitsValue_toDigits]

/-! ## 3. Blanks -/

theorem skipSpace_cons {c : Char} (hc : isSpace c = false) (cs : List Char) :
    skipSpace (c :: cs) = c :: cs :=
  List.dropWhile_cons_of_neg (by rw [hc]; exact Bool.false_ne_true)

theorem isSpace_of_isDigit {c : Char} (hc : c.isDigit = true) : isSpace c = false := by
  rw [← Bool.not_eq_true]
  intro hspace
  simp only [isSpace, Bool.or_eq_true, beq_iff_eq] at hspace
  rcases hspace with ((rfl | rfl) | rfl) | rfl <;> cases hc

/-- A line break and its indentation are skipped. -/
theorem skipSpace_newline (level : Nat) (cs : List Char) :
    skipSpace (newline level ++ cs) = skipSpace cs := by
  refine List.dropWhile_append_of_pos fun c hc => ?_
  rcases List.mem_cons.mp hc with rfl | hc
  · rfl
  · rw [(List.mem_replicate.mp hc).2]
    rfl

theorem readValue_newline (fuel level : Nat) (cs : List Char) :
    readValue fuel (newline level ++ cs) = readValue fuel cs := by
  cases fuel with
  | zero => rw [readValue, readValue]
  | succ fuel => rw [readValue, readValue, skipSpace_newline]

theorem readItems_newline (fuel level : Nat) (cs : List Char) :
    readItems fuel (newline level ++ cs) = readItems fuel cs := by
  cases fuel with
  | zero => rw [readItems, readItems]
  | succ fuel => rw [readItems, readItems, readValue_newline]

theorem readMembers_newline (fuel level : Nat) (cs : List Char) :
    readMembers fuel (newline level ++ cs) = readMembers fuel cs := by
  cases fuel with
  | zero => rw [readMembers, readMembers]
  | succ fuel => rw [readMembers, readMembers, skipSpace_newline]

/-! ## 4. Documents -/

mutual

/-- Whether a document is read back from what is written for it: all its numbers are
    natural, and its texts and names are texts. -/
def Plain : Json → Prop
  | .null | .bool _ | .natural _ => True
  | .otherNumber => False
  | .string text => text.isSome = true
  | .array items => PlainItems items
  | .object members => PlainMembers members

/-- Whether all items are plain. -/
def PlainItems : List Json → Prop
  | [] => True
  | j :: js => j.Plain ∧ PlainItems js

/-- Whether all members are plain. -/
def PlainMembers : List (Option String × Json) → Prop
  | [] => True
  | (k, j) :: ms => k.isSome = true ∧ j.Plain ∧ PlainMembers ms

end

theorem plainItems_iff {js : List Json} : PlainItems js ↔ ∀ j ∈ js, j.Plain := by
  induction js with
  | nil => simp [PlainItems]
  | cons j js ih => rw [PlainItems, ih, List.forall_mem_cons]

theorem plainMembers_iff {ms : List (Option String × Json)} :
    PlainMembers ms ↔ ∀ m ∈ ms, m.1.isSome = true ∧ m.2.Plain := by
  induction ms with
  | nil => simp [PlainMembers]
  | cons m ms ih =>
    obtain ⟨k, j⟩ := m
    rw [PlainMembers, ih, List.forall_mem_cons, and_assoc]

/-- What is written for a document starts with a character that is no blank and closes no
    array. -/
theorem exists_write_eq_cons (level : Nat) (j : Json) :
    ∃ c cs, write level j = c :: cs ∧ isSpace c = false ∧ c ≠ ']' := by
  cases j with
  | null => exact ⟨'n', _, rfl, rfl, by decide⟩
  | bool b => cases b <;> exact ⟨_, _, rfl, rfl, by decide⟩
  | otherNumber => exact ⟨'n', _, rfl, rfl, by decide⟩
  | string text => exact ⟨'"', _, rfl, rfl, by decide⟩
  | array items => cases items <;> exact ⟨'[', _, rfl, rfl, by decide⟩
  | object members =>
    rcases members with - | ⟨⟨k, j⟩, ms⟩ <;> exact ⟨'\x7b', _, rfl, rfl, by decide⟩
  | natural n =>
    have htext : write level (.natural n) = Nat.toDigits 10 n := by
      rw [write, Nat.toString_eq_ofList_toDigits, String.toList_ofList]
    obtain ⟨d, ds, hds, hd⟩ := exists_toDigits_eq_cons n
    refine ⟨d, ds, htext.trans hds, isSpace_of_isDigit hd, ?_⟩
    rintro rfl
    cases hd

theorem length_write_pos (level : Nat) (j : Json) : 0 < (write level j).length := by
  obtain ⟨c, cs, hwrite, -, -⟩ := exists_write_eq_cons level j
  rw [hwrite]
  exact Nat.succ_pos _

/-- A digit starts a number and nothing else. -/
theorem readValue_digit {c : Char} (hc : c.isDigit = true) (fuel : Nat) (cs : List Char) :
    readValue (fuel + 1) (c :: cs) = readNumber (c :: cs) := by
  rw [readValue, skipSpace_cons (isSpace_of_isDigit hc)]
  split <;> first
    | rfl
    | (rename_i h
       obtain rfl := (List.cons.inj h).1
       cases hc)

/-- An array with items is read item by item. -/
theorem readValue_bracket {c : Char} {cs tail : List Char} (hskip : skipSpace cs = c :: tail)
    (hc : c ≠ ']') (fuel : Nat) :
    readValue (fuel + 1) ('[' :: cs) =
      (readItems fuel (c :: tail)).map fun r => (.array r.1, r.2) := by
  rw [readValue, skipSpace_cons rfl]
  simp only [hskip]
  split
  · rename_i h
    exact absurd (List.cons.inj h).1 hc
  · rfl

/-- An object with members is read member by member. -/
theorem readValue_brace {cs tail : List Char} (hskip : skipSpace cs = '"' :: tail) (fuel : Nat) :
    readValue (fuel + 1) ('\x7b' :: cs) =
      (readMembers fuel ('"' :: tail)).map fun r => (.object r.1, r.2) := by
  rw [readValue, skipSpace_cons rfl]
  simp only [hskip]
  rfl

theorem stops_writeItems (level up : Nat) (js : List Json) (rest : List Char) :
    Stops (writeItems level js ++ (newline up ++ ']' :: rest)) := by
  cases js with
  | nil => exact stops_cons (Or.inr rfl) _
  | cons j js => exact stops_cons (Or.inl rfl) _

theorem stops_writeMembers (level up : Nat) (ms : List (Option String × Json)) (rest : List Char) :
    Stops (writeMembers level ms ++ (newline up ++ '\x7d' :: rest)) := by
  cases ms with
  | nil => exact stops_cons (Or.inr rfl) _
  | cons m ms => exact stops_cons (Or.inl rfl) _

theorem readValue_blank (fuel : Nat) (cs : List Char) :
    readValue fuel (' ' :: cs) = readValue fuel cs := by
  cases fuel with
  | zero => rw [readValue, readValue]
  | succ fuel =>
    rw [readValue, readValue]
    rfl

/-- A member that a brace follows is the last one. -/
theorem readMembers_last {fuel : Nat} (k : String) {cs after rest : List Char} {j : Json}
    (hread : readValue fuel cs = some (j, after)) (hnext : skipSpace after = '\x7d' :: rest) :
    readMembers (fuel + 1) (quoted k ++ ':' :: cs) = some ([(some k, j)], rest) := by
  have hkey := readText_quoted k (':' :: cs)
  rw [readMembers, quoted]
  simp only [List.cons_append, List.append_assoc, List.nil_append, skipSpace_cons (c := '"') rfl,
    hkey, skipSpace_cons (c := ':') rfl, hread, hnext]

/-- A member that a comma follows is not the last one. -/
theorem readMembers_more {fuel : Nat} (k : String) {cs after rest : List Char} {j : Json}
    (hread : readValue fuel cs = some (j, after)) (hnext : skipSpace after = ',' :: rest) :
    readMembers (fuel + 1) (quoted k ++ ':' :: cs) =
      (readMembers fuel rest).map fun r => ((some k, j) :: r.1, r.2) := by
  have hkey := readText_quoted k (':' :: cs)
  rw [readMembers, quoted]
  simp only [List.cons_append, List.append_assoc, List.nil_append, skipSpace_cons (c := '"') rfl,
    hkey, skipSpace_cons (c := ':') rfl, hread, hnext]

theorem exists_fuel {level fuel : Nat} {j : Json} (hfuel : 2 * (write level j).length ≤ fuel) :
    ∃ k, fuel = k + 1 := by
  have hpos := length_write_pos level j
  exact ⟨fuel - 1, by omega⟩

mutual

/-- A plain document is read back, in front of any rest that a document may stand before. -/
theorem readValue_write : ∀ j : Json, j.Plain → ∀ level fuel : Nat,
    2 * (write level j).length ≤ fuel → ∀ {rest : List Char}, Stops rest →
      readValue fuel (write level j ++ rest) = some (j, rest)
  | .null, _, level, fuel, hfuel, rest, _ => by
    obtain ⟨k, rfl⟩ := exists_fuel hfuel
    rfl
  | .bool true, _, level, fuel, hfuel, rest, _ => by
    obtain ⟨k, rfl⟩ := exists_fuel hfuel
    rfl
  | .bool false, _, level, fuel, hfuel, rest, _ => by
    obtain ⟨k, rfl⟩ := exists_fuel hfuel
    rfl
  | .otherNumber, hj, _, _, _, _, _ => by
    rw [Plain] at hj
    cases hj
  | .natural n, _, level, fuel, hfuel, rest, hrest => by
    obtain ⟨k, rfl⟩ := exists_fuel hfuel
    obtain ⟨d, ds, hds, hd⟩ := exists_toDigits_eq_cons n
    have hnumber := readNumber_toDigits n hrest
    rw [write, Nat.toString_eq_ofList_toDigits, String.toList_ofList]
    rw [hds] at hnumber ⊢
    exact (readValue_digit hd k (ds ++ rest)).trans hnumber
  | .string none, hj, _, _, _, _, _ => by
    rw [Plain] at hj
    cases hj
  | .string (some s), _, level, fuel, hfuel, rest, _ => by
    obtain ⟨k, rfl⟩ := exists_fuel hfuel
    have htext := readText_quoted s rest
    rw [write, quoted, Option.getD_some]
    simp only [List.cons_append, List.append_assoc, List.nil_append]
    rw [readValue, skipSpace_cons rfl]
    simp only [htext, Option.map_some]
  | .array [], _, level, fuel, hfuel, rest, _ => by
    obtain ⟨k, rfl⟩ := exists_fuel hfuel
    rfl
  | .array (i :: items), hj, level, fuel, hfuel, rest, _ => by
    obtain ⟨k, rfl⟩ := exists_fuel hfuel
    rw [Plain, PlainItems] at hj
    have hitems := readItems_write i items hj.1 hj.2 (level + 1) level k rest
    obtain ⟨c, cs, hwrite, hspace, hc⟩ := exists_write_eq_cons (level + 1) i
    rw [write] at hfuel ⊢
    rw [hwrite] at hfuel hitems ⊢
    simp only [List.append_assoc, List.cons_append, List.nil_append, List.length_cons,
      List.length_append] at hfuel hitems ⊢
    rw [readValue_bracket (by rw [skipSpace_newline, skipSpace_cons hspace]) hc,
      hitems (by omega)]
    rfl
  | .object [], _, level, fuel, hfuel, rest, _ => by
    obtain ⟨k, rfl⟩ := exists_fuel hfuel
    rfl
  | .object ((none, i) :: members), hj, _, _, _, _, _ => by
    rw [Plain, PlainMembers] at hj
    cases hj.1
  | .object ((some k, i) :: members), hj, level, fuel, hfuel, rest, _ => by
    obtain ⟨f, rfl⟩ := exists_fuel hfuel
    rw [Plain, PlainMembers] at hj
    have hmembers := readMembers_write k i members hj.2.1 hj.2.2 (level + 1) level f rest
    rw [write] at hfuel ⊢
    simp only [quoted, Option.getD_some, List.append_assoc, List.cons_append, List.nil_append,
      List.length_cons, List.length_append] at hfuel hmembers ⊢
    rw [readValue_brace (by rw [skipSpace_newline, skipSpace_cons rfl]), hmembers (by omega)]
    rfl
termination_by j => sizeOf j

/-- The items of an array are read back, up to its bracket. -/
theorem readItems_write : ∀ (j : Json) (js : List Json), j.Plain → PlainItems js →
    ∀ (level up fuel : Nat) (rest : List Char),
      2 * (write level j ++ writeItems level js).length + 1 ≤ fuel →
        readItems fuel (write level j ++ (writeItems level js ++ (newline up ++ ']' :: rest))) =
          some (j :: js, rest)
  | j, [], hj, _, level, up, fuel, rest, hfuel => by
    obtain ⟨k, rfl⟩ : ∃ k, fuel = k + 1 := ⟨fuel - 1, by omega⟩
    rw [List.length_append] at hfuel
    rw [readItems, readValue_write j hj level _ (by omega) (stops_writeItems level up [] rest)]
    simp only [writeItems, List.nil_append, skipSpace_newline, skipSpace_cons (c := ']') rfl]
  | j, i :: items, hj, hjs, level, up, fuel, rest, hfuel => by
    obtain ⟨k, rfl⟩ : ∃ k, fuel = k + 1 := ⟨fuel - 1, by omega⟩
    have hpos := length_write_pos level j
    rw [PlainItems] at hjs
    rw [List.length_append] at hfuel
    rw [readItems, readValue_write j hj level _ (by omega)
      (stops_writeItems level up (i :: items) rest)]
    have hitems := readItems_write i items hjs.1 hjs.2 level up k rest
    rw [writeItems] at hfuel ⊢
    simp only [List.append_assoc, List.cons_append, List.length_cons, List.length_append]
      at hfuel hitems ⊢
    rw [skipSpace_cons rfl]
    simp only [readItems_newline, hitems (by omega), Option.map_some]
termination_by j js => sizeOf j + sizeOf js

/-- The members of an object are read back, up to its brace. -/
theorem readMembers_write : ∀ (k : String) (j : Json) (ms : List (Option String × Json)),
    j.Plain → PlainMembers ms → ∀ (level up fuel : Nat) (rest : List Char),
      2 * (quoted k ++ write level j ++ writeMembers level ms).length + 1 ≤ fuel →
        readMembers fuel (quoted k ++ ':' :: ' ' :: (write level j ++
          (writeMembers level ms ++ (newline up ++ '\x7d' :: rest)))) =
            some ((some k, j) :: ms, rest)
  | k, j, [], hj, _, level, up, fuel, rest, hfuel => by
    obtain ⟨f, rfl⟩ : ∃ f, fuel = f + 1 := ⟨fuel - 1, by omega⟩
    simp only [List.length_append] at hfuel
    have hread := @readValue_write j hj level f (by omega) _ (stops_writeMembers level up [] rest)
    simp only [writeMembers, List.nil_append] at hread ⊢
    refine readMembers_last k ((readValue_blank f _).trans hread) ?_
    rw [skipSpace_newline, skipSpace_cons rfl]
  | _, _, (none, _) :: _, _, hms, _, _, _, _, _ => by
    rw [PlainMembers] at hms
    cases hms.1
  | k, j, (some l, i) :: members, hj, hms, level, up, fuel, rest, hfuel => by
    obtain ⟨f, rfl⟩ : ∃ f, fuel = f + 1 := ⟨fuel - 1, by omega⟩
    have hpos := length_write_pos level j
    rw [PlainMembers] at hms
    simp only [List.length_append] at hfuel
    have hread := @readValue_write j hj level f (by omega) _
      (stops_writeMembers level up ((some l, i) :: members) rest)
    have hmembers := readMembers_write l i members hms.2.1 hms.2.2 level up f rest
    rw [writeMembers] at hfuel hread ⊢
    simp only [Option.getD_some, List.append_assoc, List.cons_append, List.length_cons,
      List.length_append] at hfuel hmembers hread ⊢
    rw [readMembers_more k ((readValue_blank f _).trans hread) (skipSpace_cons rfl _)]
    simp only [readMembers_newline, hmembers (by omega), Option.map_some]
termination_by _ j ms => sizeOf j + sizeOf ms

end

/-! ## 5. Texts of documents -/

@[simp] theorem plain_null : Json.null.Plain := by simp only [Plain]

@[simp] theorem plain_bool (b : Bool) : (Json.bool b).Plain := by simp only [Plain]

@[simp] theorem plain_natural (n : Nat) : (Json.natural n).Plain := by simp only [Plain]

@[simp] theorem plain_ofText (s : String) : (ofText s).Plain := by
  simp only [ofText, Plain, Option.isSome_some]

@[simp] theorem plain_ofText? (s : Option String) : (ofText? s).Plain := by
  cases s <;> simp only [ofText?, plain_null, plain_ofText]

@[simp] theorem plain_array_map {α : Type} {f : α → Json} {as : List α} :
    (Json.array (as.map f)).Plain ↔ ∀ a ∈ as, (f a).Plain := by
  simp only [Plain, plainItems_iff, List.forall_mem_map]

@[simp] theorem plain_ofTexts (ss : List String) : (ofTexts ss).Plain :=
  plain_array_map.mpr fun _ _ => plain_ofText _

@[simp] theorem plain_ofNaturals (ns : List Nat) : (ofNaturals ns).Plain :=
  plain_array_map.mpr fun _ _ => plain_natural _

@[simp] theorem plain_record {ms : List (String × Json)} :
    (record ms).Plain ↔ ∀ m ∈ ms, m.2.Plain := by
  simp only [record, Plain, plainMembers_iff, List.forall_mem_map, Option.isSome_some, true_and]

/-- The text of a plain document is read as the document. -/
theorem parse_render {j : Json} (hj : j.Plain) : parse j.render = some j := by
  have hread := readValue_write j hj 0 (2 * (write 0 j).length + 2) (by omega) stops_nil
  rw [List.append_nil] at hread
  rw [parse, render, String.toList_ofList, parseChars, hread]
  rfl

end Wayfinder.Json
