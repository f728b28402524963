/-
  Wayfinder/Proofs/Outcome.lean
  =============================
  **Computations that can fail.**

  How a chain of steps, a run over a list and a map over a list succeed, each told once
  in terms of the single steps; and what the first result of a list depends on.
-/
import Mathlib.Data.List.Forall2

namespace Wayfinder

variable {ε α β γ : Type}

theorem bind_eq_ok_iff {x : Except ε α} {f : α → Except ε β} {b : β} :
    (x >>= f) = .ok b ↔ ∃ a, x = .ok a ∧ f a = .ok b := by
  cases x with
  | error e => simp [bind, Except.bind]
  | ok a => simp [bind, Except.bind]

theorem bind_eq_error_iff {x : Except ε α} {f : α → Except ε β} {e : ε} :
    (x >>= f) = .error e ↔ x = .error e ∨ ∃ a, x = .ok a ∧ f a = .error e := by
  cases x with
  | error e' => simp [bind, Except.bind]
  | ok a => simp [bind, Except.bind]

theorem exists_ok_of_isSome {x : Except ε α} (h : x.toOption.isSome = true) : ∃ a, x = .ok a := by
  cases x with
  | error e => cases h
  | ok a => exact ⟨a, rfl⟩

/-- What holds at the start and is kept by every step holds after a run. -/
theorem foldlM_invariant {step : β → α → Except ε β} (P : β → Prop)
    (hstep : ∀ b a b', P b → step b a = .ok b' → P b') {as : List α} {b b' : β} (hb : P b)
    (hrun : as.foldlM step b = .ok b') : P b' := by
  induction as generalizing b with
  | nil =>
    obtain rfl : b = b' := Except.ok.inj hrun
    exact hb
  | cons a as ih =>
    rw [List.foldlM_cons, bind_eq_ok_iff] at hrun
    obtain ⟨c, hc, hrest⟩ := hrun
    exact ih (hstep b a c hb hc) hrest

/-- What is said of every failing step that a run can reach is said of the failure of a run. -/
theorem foldlM_error {step : β → α → Except ε β} (P : β → Prop) (Q : ε → Prop)
    (hstep : ∀ b a b', P b → step b a = .ok b' → P b')
    (hfail : ∀ b a e, P b → step b a = .error e → Q e) {as : List α} {b : β} {e : ε} (hb : P b)
    (hrun : as.foldlM step b = .error e) : Q e := by
  induction as generalizing b with
  | nil => cases hrun
  | cons a as ih =>
    rw [List.foldlM_cons, bind_eq_error_iff] at hrun
    rcases hrun with hfirst | ⟨c, hc, hrest⟩
    · exact hfail b a e hb hfirst
    · exact ih (hstep b a c hb hc) hrest

theorem mapM_eq_ok_iff {f : α → Except ε β} {as : List α} {bs : List β} :
    as.mapM f = .ok bs ↔ List.Forall₂ (fun a b => f a = .ok b) as bs := by
  induction as generalizing bs with
  | nil => simp [pure, Except.pure, eq_comm]
  | cons a as ih =>
    simp only [List.mapM_cons, bind_eq_ok_iff, ih, List.forall₂_cons_left_iff, pure, Except.pure,
      Except.ok.injEq]
    constructor
    · rintro ⟨b, hb, bs', hbs', rfl⟩
      exact ⟨b, bs', hb, hbs', rfl⟩
    · rintro ⟨b, bs', hb, hbs', rfl⟩
      exact ⟨b, hb, bs', hbs', rfl⟩

theorem exists_mapM_eq_ok_iff {f : α → Except ε β} {as : List α} :
    (∃ bs, as.mapM f = .ok bs) ↔ ∀ a ∈ as, ∃ b, f a = .ok b := by
  simp only [mapM_eq_ok_iff]
  induction as with
  | nil => simp
  | cons a as ih =>
    simp only [List.forall₂_cons_left_iff, List.forall_mem_cons, ← ih]
    constructor
    · rintro ⟨bs, b, bs', hb, hbs', rfl⟩
      exact ⟨⟨b, hb⟩, bs', hbs'⟩
    · rintro ⟨⟨b, hb⟩, bs', hbs'⟩
      exact ⟨b :: bs', b, bs', hb, hbs', rfl⟩

/-- A step that is taken in a run that succeeds succeeds itself. -/
theorem exists_step_of_mem_foldlM {step : β → α → Except ε β} {as : List α} {b b' : β}
    (hrun : as.foldlM step b = .ok b') {a : α} (ha : a ∈ as) : ∃ c c', step c a = .ok c' := by
  induction as generalizing b with
  | nil => cases ha
  | cons x as ih =>
    rw [List.foldlM_cons, bind_eq_ok_iff] at hrun
    obtain ⟨c, hc, hrest⟩ := hrun
    rcases List.mem_cons.mp ha with rfl | ha
    · exact ⟨b, c, hc⟩
    · exact ih hrest ha

/-- Why a computation fails, if it does. -/
def failure? (x : Except ε α) : Option ε :=
  match x with
  | .ok _ => none
  | .error e => some e

theorem failure?_eq_some_iff {x : Except ε α} {e : ε} : failure? x = some e ↔ x = .error e := by
  cases x <;> simp [failure?]

theorem failure?_eq_none_iff {x : Except ε α} : failure? x = none ↔ ∃ a, x = .ok a := by
  cases x <;> simp [failure?]

/-- A map over a list fails where it fails first. -/
theorem mapM_eq_error_iff {f : α → Except ε β} {as : List α} {e : ε} :
    as.mapM f = .error e ↔ as.findSome? (fun a => failure? (f a)) = some e := by
  induction as with
  | nil => simp [pure, Except.pure]
  | cons a as ih =>
    rw [List.mapM_cons, List.findSome?_cons]
    cases hfa : f a with
    | error e' => simp [failure?, bind, Except.bind]
    | ok b =>
      change _ ↔ as.findSome? (fun a => failure? (f a)) = some e
      rw [← ih]
      cases as.mapM f <;> simp [bind, Except.bind, pure, Except.pure]

theorem mapM_congr_left {f g : α → Except ε β} {as : List α} (h : ∀ a ∈ as, f a = g a) :
    as.mapM f = as.mapM g := by
  induction as with
  | nil => rfl
  | cons a as ih =>
    rw [List.mapM_cons, List.mapM_cons, h a List.mem_cons_self,
      ih fun b hb => h b (List.mem_cons_of_mem _ hb)]

/-- An optional map that yields a list yields each of its elements from one of the source. -/
theorem exists_of_mem_mapM {f : α → Option β} {as : List α} {bs : List β} {b : β}
    (h : as.mapM f = some bs) (hb : b ∈ bs) : ∃ a ∈ as, f a = some b := by
  induction as generalizing bs with
  | nil =>
    obtain rfl := Option.some.inj h
    cases hb
  | cons a as ih =>
    simp only [List.mapM_cons, Option.bind_eq_bind, Option.bind_eq_some_iff, Option.pure_def,
      Option.some.injEq] at h
    obtain ⟨b', hb', bs', hbs', rfl⟩ := h
    rcases List.mem_cons.mp hb with rfl | hb
    · exact ⟨a, List.mem_cons_self, hb'⟩
    · obtain ⟨a', ha', heq⟩ := ih hbs' hb
      exact ⟨a', List.mem_cons_of_mem _ ha', heq⟩

/-- What can be read off each element of a mapped list can be read off its result. -/
theorem map_eq_map_of_mapM_eq_ok {f : α → Except ε β} {as : List α} {bs : List β} {g : β → γ}
    {h : α → γ} (hrun : as.mapM f = .ok bs) (hread : ∀ a b, a ∈ as → f a = .ok b → g b = h a) :
    bs.map g = as.map h := by
  have hall := mapM_eq_ok_iff.mp hrun
  clear hrun
  induction hall with
  | nil => rfl
  | cons hab _ ih =>
    rw [List.map_cons, List.map_cons, hread _ _ List.mem_cons_self hab,
      ih fun a b ha => hread a b (List.mem_cons_of_mem _ ha)]

theorem findSome?_congr {f g : α → Option β} {as : List α} (h : ∀ a ∈ as, f a = g a) :
    as.findSome? f = as.findSome? g := by
  rw [← List.head?_filterMap, ← List.head?_filterMap, List.filterMap_congr h]

/-- The first result is the same where both agree up to the first that there is. -/
theorem findSome?_congr_first {f g : α → Option β} {as : List α}
    (h : ∀ before a after, as = before ++ a :: after → (∀ b ∈ before, f b = none) → f a = g a) :
    as.findSome? f = as.findSome? g := by
  induction as with
  | nil => rfl
  | cons a as ih =>
    have ha : f a = g a := h [] a as rfl (by simp)
    rw [List.findSome?_cons, List.findSome?_cons, ← ha]
    cases hfa : f a with
    | some b => rfl
    | none =>
      refine ih fun before c after has hnone => h (a :: before) c after (by rw [has]; rfl) ?_
      exact List.forall_mem_cons.mpr ⟨hfa, hnone⟩

theorem findSome?_flatMap (as : List α) (f : α → List β) (g : β → Option γ) :
    (as.flatMap f).findSome? g = as.findSome? fun a => (f a).findSome? g := by
  rw [← List.head?_filterMap, List.filterMap_flatMap, List.head?_flatMap]
  simp only [List.head?_filterMap]

/-- The first result of a mapped list is that of the results one by one. -/
theorem findSome?_of_mapM_eq_ok {f : α → Except ε β} {as : List α} {bs : List β}
    (h : as.mapM f = .ok bs) (g : β → Option γ) :
    bs.findSome? g = as.findSome? fun a => (f a).toOption.bind g := by
  have hall := mapM_eq_ok_iff.mp h
  clear h
  induction hall with
  | nil => rfl
  | cons hab _ ih => rw [List.findSome?_cons, List.findSome?_cons, ih, hab]; rfl

end Wayfinder
