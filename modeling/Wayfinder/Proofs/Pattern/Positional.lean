/-
  Wayfinder/Proofs/Pattern/Positional.lean
  ========================================
  **The positional form of a declared pattern.**

  Extraction writes each wildcard as its number, so the positional form has the layout
  of the pieces with the wildcards numbered from the left.  Two rules of raw text are
  read off the pieces as well: that no two slashes stand side by side, and that the text
  starts with one.
-/
import Mathlib.Data.List.Chain
import Mathlib.Data.List.Nodup
import Wayfinder.Proofs.Pattern.Declared
import Wayfinder.Pattern.Wildcards

namespace Wayfinder.Pattern

/-! ## 1. Numbering -/

/-- The layout of pieces, with the wildcards numbered from `start`. -/
def numbered (start : Nat) : List Piece → List Part
  | [] => []
  | .char c :: ps => .char c :: numbered start ps
  | .wildcard _ :: ps => .token start :: numbered (start + 1) ps

theorem positionalText_eq_layoutText (start : Nat) (ps : List Piece) :
    positionalText start ps = layoutText (numbered start ps) := by
  induction ps generalizing start with
  | nil => rfl
  | cons p ps ih => cases p <;> simp [positionalText, numbered, Part.text, ih]

theorem tokensOf_numbered (start : Nat) (ps : List Piece) :
    tokensOf (numbered start ps) = List.range' start (wildcardsIn ps).length := by
  induction ps generalizing start with
  | nil => rfl
  | cons p ps ih =>
    cases p with
    | char c => exact ih start
    | wildcard w => simp [numbered, ih, List.range'_succ]

theorem plain_numbered {ps : List Piece} (hps : ∀ p ∈ ps, p.Plain) (start : Nat) :
    ∀ q ∈ numbered start ps, q.Plain := by
  induction ps generalizing start with
  | nil => simp [numbered]
  | cons p ps ih =>
    have ih' := ih fun q hq => hps q (List.mem_cons_of_mem _ hq)
    cases p with
    | char c =>
      intro q hq
      rcases List.mem_cons.mp hq with rfl | hq
      · exact hps (.char c) List.mem_cons_self
      · exact ih' start q hq
    | wildcard w =>
      intro q hq
      rcases List.mem_cons.mp hq with rfl | hq
      · exact trivial
      · exact ih' (start + 1) q hq

theorem char_mem_numbered {ps : List Piece} {start : Nat} {c : Char} :
    Part.char c ∈ numbered start ps ↔ Piece.char c ∈ ps := by
  induction ps generalizing start with
  | nil => simp [numbered]
  | cons p ps ih => cases p <;> simp [numbered, ih]

/-! ## 2. Doubled characters -/

theorem hasDoubled_eq_false_iff {c : Char} {cs : List Char} :
    hasDoubled c cs = false ↔ cs.IsChain fun a b => ¬(a = c ∧ b = c) := by
  induction cs with
  | nil => simp [hasDoubled]
  | cons a cs ih =>
    cases cs with
    | nil => simp [hasDoubled]
    | cons b cs =>
      rw [List.isChain_cons_cons, ← ih]
      simp [hasDoubled]

/-- No two slashes stand side by side in a layout. -/
def SingleSlashes (ps : List Part) : Prop :=
  ps.IsChain fun p q => ¬(p = .char '/' ∧ q = .char '/')

/-- Where the text of pieces has no doubled slash, neither have the pieces. -/
theorem isChain_pieces_of_hasDoubled {ps : List Piece}
    (h : hasDoubled '/' (ps.flatMap Piece.text) = false) :
    ps.IsChain fun p q => ¬(p = .char '/' ∧ q = .char '/') := by
  rw [hasDoubled_eq_false_iff] at h
  induction ps with
  | nil => exact .nil
  | cons p ps ih =>
    rw [List.flatMap_cons, List.isChain_append] at h
    refine List.isChain_cons.mpr ⟨?_, ih h.2.1⟩
    rintro q hq ⟨rfl, rfl⟩
    obtain ⟨qs, rfl⟩ := List.head?_eq_some_iff.mp hq
    exact h.2.2 '/' (by simp [Piece.text]) '/' (by simp [Piece.text]) ⟨rfl, rfl⟩

theorem singleSlashes_numbered {ps : List Piece}
    (h : ps.IsChain fun p q => ¬(p = .char '/' ∧ q = .char '/')) (start : Nat) :
    SingleSlashes (numbered start ps) := by
  induction ps generalizing start with
  | nil => exact .nil
  | cons p ps ih =>
    rw [List.isChain_cons] at h
    cases p with
    | wildcard w =>
      exact List.isChain_cons.mpr ⟨fun q _ hq => by simp at hq, ih h.2 (start + 1)⟩
    | char c =>
      refine List.isChain_cons.mpr ⟨?_, ih h.2 start⟩
      rintro q hq ⟨hc, rfl⟩
      cases ps with
      | nil => simp [numbered] at hq
      | cons p' ps' =>
        cases p' with
        | wildcard w => simp [numbered] at hq
        | char d =>
          obtain rfl : c = '/' := Part.char.inj hc
          have hd : d = '/' := by simpa [numbered] using hq
          exact h.1 (.char d) rfl ⟨rfl, by rw [hd]⟩

/-! ## 3. Extraction -/

theorem firstRepeated?_eq_none_iff {seen : List String} {ws : List Wildcard} :
    firstRepeated? seen ws = none ↔
      (∀ w ∈ ws, w.name ∉ seen) ∧ (ws.map (·.name)).Nodup := by
  induction ws generalizing seen with
  | nil => simp [firstRepeated?]
  | cons w ws ih =>
    by_cases hw : w.name ∈ seen
    · simp [firstRepeated?, hw]
    · simp only [firstRepeated?, List.contains_iff_mem, hw, if_false, ih, List.mem_cons, not_or,
        List.map_cons, List.nodup_cons, List.mem_map, not_exists, not_and]
      constructor
      · rintro ⟨hseen, hnodup⟩
        refine ⟨?_, fun v hv heq => (hseen v hv).1 heq, hnodup⟩
        rintro v (rfl | hv)
        · exact hw
        · exact (hseen v hv).2
      · rintro ⟨hseen, hfresh, hnodup⟩
        exact ⟨fun v hv => ⟨fun heq => hfresh v hv heq, hseen v (Or.inr hv)⟩, hnodup⟩

/-- What extraction finds, when it finds no repeated name. -/
theorem extract_eq_ok_iff {text : String} {ws : Wildcards} :
    extract text = .ok ws ↔
      ((wildcardsIn (pieces text)).map (·.name)).Nodup ∧
      ws = { positionalForm := String.ofList (layoutText (numbered 0 (pieces text)))
             names := (wildcardsIn (pieces text)).map (·.name)
             optional := (wildcardsIn (pieces text)).map (·.optional) } := by
  have hfirst := @firstRepeated?_eq_none_iff [] (wildcardsIn (pieces text))
  simp only [List.not_mem_nil, not_false_eq_true, implies_true, true_and] at hfirst
  rw [← hfirst, ← positionalText_eq_layoutText]
  unfold extract
  cases hrep : firstRepeated? [] (wildcardsIn (pieces text)) with
  | some name => simp [hrep]
  | none => simp [hrep, eq_comm]

/-- A text has no more wildcards than characters. -/
theorem length_wildcardsIn_pieces_le (text : String) :
    (wildcardsIn (pieces text)).length ≤ text.length := by
  have hvalid : ∀ w, Piece.wildcard w ∈ pieces text → ValidName w.name :=
    fun w hw => validName_of_mem_pieces hw
  have hcount := count_brace_flatMap_text hvalid (Or.inl rfl)
  rw [flatMap_text_pieces] at hcount
  have hle := List.count_le_length (a := openBrace) (l := text.toList)
  rw [String.length_toList] at hle
  omega

/-- Where no name repeats, a name has the position at which it stands. -/
theorem Wildcards.indexOf?_eq_some_iff {ws : Wildcards} (hnodup : ws.names.Nodup) {name : String}
    {i : Nat} : ws.indexOf? name = some i ↔ ws.names[i]? = some name := by
  rw [indexOf?, List.findIdx?_eq_some_iff_getElem, List.getElem?_eq_some_iff]
  constructor
  · rintro ⟨hi, hname, -⟩
    exact ⟨hi, by simpa using hname⟩
  · rintro ⟨hi, hname⟩
    refine ⟨hi, by simpa using hname, ?_⟩
    intro j hj hsame
    have hsame : ws.names[j] = ws.names[i] := by simpa [hname] using hsame
    exact hj.ne ((List.Nodup.getElem_inj_iff hnodup).mp hsame)

end Wayfinder.Pattern
