/-
  Wayfinder/Proofs/Decomposition.lean
  ===================================
  **A match takes a path apart.**

  An outcome of the slots of a variant covers the whole text: literal characters stand
  where the slots say, and between them the groups around the fragments hold values that
  fill the gaps.  So whatever the fragments are, the values of these groups, put into
  the slots, give the text back.
-/
import Wayfinder.Proofs.Assembly

namespace Wayfinder.Pattern

open Wayfinder.Regex

/-! ## 1. Values and groups of slots -/

/-- The text of slots with values in place of the fragments. -/
def fill : List Slot → List (List Char) → List Char
  | [], _ => []
  | .char c :: slots, values => c :: fill slots values
  | .fragment _ :: slots, [] => fill slots []
  | .fragment _ :: slots, v :: values => v ++ fill slots values

/-- The numbers of the groups around the fragments, when the next group has the number
    `n`. -/
def groupNumbers : Nat → List Slot → List Nat
  | _, [] => []
  | n, .char _ :: slots => groupNumbers n slots
  | n, .fragment f :: slots => n :: groupNumbers (n + 1 + fragmentGroups f) slots

/-- Whether a group is among those that slots have: the groups around the fragments, and
    those that are left of the fragments' own. -/
def Present : Nat → List Slot → Nat → Prop
  | _, [], _ => False
  | n, .char _ :: slots, i => Present n slots i
  | n, .fragment f :: slots, i =>
    (n ≤ i ∧ i ≤ n + innerGroups f) ∨ Present (n + 1 + fragmentGroups f) slots i

theorem le_of_present {n i : Nat} {slots : List Slot} (h : Present n slots i) : n ≤ i := by
  induction slots generalizing n with
  | nil => cases h
  | cons slot slots ih =>
    cases slot with
    | char c => exact ih h
    | fragment f =>
      rcases h with h | h
      · exact h.1
      · have := ih h
        omega

/-! ## 2. Reading marks -/

/-- The position at which a mark starts a group. -/
def startOf? (i : Nat) : Mark → Option Nat
  | .opened j p => if j = i then some p else none
  | .closed _ _ => none

/-- The position at which a mark ends a group. -/
def stopOf? (i : Nat) : Mark → Option Nat
  | .closed j p => if j = i then some p else none
  | .opened _ _ => none

/-- The span of a group lies between its latest marks. -/
theorem groupSpan?_eq (m : Marks) (i : Nat) :
    groupSpan? m i =
      (m.findSome? (startOf? i)).bind fun a => (m.findSome? (stopOf? i)).map fun b => (a, b) := by
  unfold groupSpan?
  simp only
  split
  · rename_i a b hstart hstop
    have hstart' : m.findSome? (startOf? i) = some a := hstart
    have hstop' : m.findSome? (stopOf? i) = some b := hstop
    rw [hstart', hstop']
    rfl
  · rename_i hnone
    cases hstart : m.findSome? (startOf? i) with
    | none => rfl
    | some a =>
      cases hstop : m.findSome? (stopOf? i) with
      | none => rfl
      | some b => exact absurd hstop (hnone a b hstart)

theorem findSome?_marks_eq_none {m : Marks} {i : Nat} (h : MarksIn (· ≠ i) m) :
    m.findSome? (startOf? i) = none ∧ m.findSome? (stopOf? i) = none := by
  simp only [List.findSome?_eq_none_iff]
  constructor
  · intro mark hmark
    have hne := h mark hmark
    cases mark with
    | opened j p => exact if_neg hne
    | closed j p => rfl
  · intro mark hmark
    have hne := h mark hmark
    cases mark with
    | opened j p => rfl
    | closed j p => exact if_neg hne

theorem groupSpan?_append {new m : Marks} {i : Nat} (h : MarksIn (· ≠ i) new) :
    groupSpan? (new ++ m) i = groupSpan? m i := by
  obtain ⟨hstart, hstop⟩ := findSome?_marks_eq_none h
  rw [groupSpan?_eq, groupSpan?_eq, List.findSome?_append, List.findSome?_append, hstart, hstop,
    Option.none_or, Option.none_or]

theorem groupSpan?_eq_none {m : Marks} {i : Nat} (h : MarksIn (· ≠ i) m) :
    groupSpan? m i = none := by
  rw [groupSpan?_eq, (findSome?_marks_eq_none h).1]
  rfl

/-- A group whose body makes no marks of it spans what lies between its own. -/
theorem groupSpan?_group {body m : Marks} {i a b : Nat} (hbody : MarksIn (· ≠ i) body) :
    groupSpan? (.closed i b :: (body ++ .opened i a :: m)) i = some (a, b) := by
  rw [groupSpan?_eq, List.findSome?_cons, List.findSome?_cons, List.findSome?_append,
    (findSome?_marks_eq_none hbody).1]
  simp [startOf?, stopOf?]

/-- A group holds the text between its marks, where no other mark is of it. -/
theorem group?_of_marks {inside new m : Marks} {i : Nat} (hinside : MarksIn (· ≠ i) inside)
    (hnew : MarksIn (· ≠ i) new) (past taken left : List Char) :
    (Captures.mk (past ++ (taken ++ left)) (new ++ .closed i (past ++ taken).length ::
      (inside ++ .opened i past.length :: m))).group? i = some taken := by
  rw [Captures.group?, groupSpan?_append hnew, groupSpan?_group hinside]
  simp

/-! ## 3. Outcomes of slots -/

/-- At the end of a variant the text has to end. -/
theorem outcomes_textEnd (position : Nat) (before : Option Char) (cs : List Char) (m : Marks) :
    outcomes position before cs [.run (.look .textEnd)] m = if cs = [] then [m] else [] := by
  cases cs with
  | nil =>
    rw [outcomes, endsAt, stackItems_look]
    rfl
  | cons c cs =>
    rw [outcomes, endsAt, stackItems_look]
    rfl

theorem slotFrames_char (n : Nat) (c : Char) (slots : List Slot) :
    slotFrames n (.char c :: slots) = .run (.literal [c]) :: slotFrames n slots := rfl

theorem slotFrames_fragment (n : Nat) (f : String) (slots : List Slot) :
    slotFrames n (.fragment f :: slots) =
      .run (.capture n ((fragmentExpr f).shift n)) ::
        slotFrames (n + 1 + fragmentGroups f) slots := rfl

theorem outcomes_char (position : Nat) (before : Option Char) (c : Char) (cs : List Char)
    (fs : List Frame) (m : Marks) :
    outcomes position before cs (.run (.literal [c]) :: fs) m =
      match cs with
      | [] => []
      | d :: cs => if c = d then outcomes (position + 1) (some d) cs fs m else [] := by
  cases cs with
  | nil => exact outcomes_literal_cons_nil position before fs m c []
  | cons d cs => exact outcomes_literal_cons_cons position before cs fs m c d []

/-- An outcome of slots takes the text apart: the values of the groups around the fragments
    fill the slots to the text. -/
theorem exists_values_of_mem_outcomes {slots : List Slot}
    (husable : ∀ f, Slot.fragment f ∈ slots → Usable f) {n : Nat} {past cs : List Char}
    {before : Option Char} {m m' : Marks}
    (h : m' ∈ outcomes past.length before cs (slotFrames n slots) m) :
    ∃ values new, cs = fill slots values ∧ m' = new ++ m ∧ MarksIn (Present n slots) new ∧
      (groupNumbers n slots).map (fun g => (Captures.mk (past ++ cs) m').group? g) =
        values.map some := by
  -- slot by slot; the marks of later slots do not hide those of earlier ones
  induction slots generalizing n past cs before m with
  | nil =>
    change m' ∈ outcomes past.length before cs [.run (.look .textEnd)] m at h
    rw [outcomes_textEnd] at h
    split at h
    · rename_i hend
      obtain rfl := List.mem_singleton.mp h
      exact ⟨[], [], hend, rfl, by simp [MarksIn], rfl⟩
    · cases h
  | cons slot slots ih =>
    have husable' : ∀ f, Slot.fragment f ∈ slots → Usable f :=
      fun f hf => husable f (List.mem_cons_of_mem _ hf)
    cases slot with
    | char c =>
      rw [slotFrames_char, outcomes_char] at h
      cases cs with
      | nil => cases h
      | cons d cs =>
        simp only at h
        split at h
        · rename_i hcd
          subst hcd
          have hlength : past.length + 1 = (past ++ [c]).length := by simp
          rw [hlength] at h
          obtain ⟨values, new, hfill, hnew, hmarks, hgroups⟩ := ih husable' h
          rw [List.append_assoc, List.singleton_append] at hgroups
          exact ⟨values, new, by rw [fill, ← hfill], hnew, hmarks, hgroups⟩
        · cases h
    | fragment f =>
      obtain ⟨hle, hbody⟩ := (husable f List.mem_cons_self).groups
      have hinner : ((fragmentExpr f).shift n).GroupsIn fun i => n < i ∧ i ≤ n + innerGroups f :=
        Expr.groupsIn_shift n (hbody.imp fun i hi => by omega)
      rw [slotFrames_fragment, outcomes_capture] at h
      obtain ⟨taken, left, inside, rfl, hinside, hrest⟩ :=
        @exists_of_mem_outcomes_append _ [.run ((fragmentExpr f).shift n)] _
          (by simpa [Frame.GroupsIn] using hinner) _ _ _ _ _ h
      rw [outcomes_close] at hrest
      have hlength : past.length + taken.length = (past ++ taken).length := by simp
      rw [hlength] at hrest
      obtain ⟨values, new, hfill, hnew, hmarks, hgroups⟩ := ih husable' hrest
      have hlater : MarksIn (· ≠ n) new := hmarks.imp fun i hi => by
        have := le_of_present hi
        omega
      have hvalue := @group?_of_marks inside new m n (hinside.imp fun i hi => by omega) hlater past
        taken left
      rw [← hnew] at hvalue
      refine ⟨taken :: values,
        new ++ .closed n (past ++ taken).length :: (inside ++ [.opened n past.length]), ?_, ?_, ?_, ?_⟩
      · rw [fill, hfill]
      · rw [hnew]
        simp
      · refine (hmarks.imp fun i hi => Or.inr hi).append ?_
        refine MarksIn.cons (Or.inl ⟨Nat.le_refl _, Nat.le_add_right _ _⟩) ?_
        refine (hinside.imp fun i hi => Or.inl ⟨by omega, hi.2⟩).append ?_
        exact MarksIn.cons (Or.inl ⟨Nat.le_refl _, Nat.le_add_right _ _⟩) (by simp [MarksIn])
      · rw [groupNumbers, List.map_cons, List.map_cons, hvalue, ← List.append_assoc, hgroups]

end Wayfinder.Pattern
