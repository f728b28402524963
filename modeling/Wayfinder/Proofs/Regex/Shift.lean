/-
  Wayfinder/Proofs/Regex/Shift.lean
  =================================
  **Lowering from another number.**

  A fragment is lowered twice: alone, with its groups numbered from 1, and inside the
  expression of a variant, where they come after others.  Both results are the same up
  to a shift of all numbers, because no decision that lowering takes looks at them
  except by comparing one with another.
-/
import Wayfinder.Proofs.Regex.Lowering

namespace Wayfinder.Regex

/-! ## 1. Shifted expressions -/

namespace Expr

/-- An expression with `k` added to the number of every group. -/
def shift (k : Nat) : Expr → Expr
  | .empty => .empty
  | .literal cs => .literal cs
  | .set s => .set s
  | .look l => .look l
  | .repeated min max greedy body => .repeated min max greedy (body.shift k)
  | .capture i body => .capture (i + k) (body.shift k)
  | .seq first rest => .seq (first.shift k) (rest.shift k)
  | .alt first rest => .alt (first.shift k) (rest.shift k)

variable (k : Nat)

theorem shift_injective : Function.Injective (shift k) := by
  intro a
  induction a with
  | repeated min max greedy body ih =>
    intro b h
    cases b <;> simp only [shift, repeated.injEq, reduceCtorEq] at h
    obtain ⟨rfl, rfl, rfl, hbody⟩ := h
    rw [ih hbody]
  | capture i body ih =>
    intro b h
    cases b <;> simp only [shift, capture.injEq, reduceCtorEq, Nat.add_right_cancel_iff] at h
    obtain ⟨rfl, hbody⟩ := h
    rw [ih hbody]
  | seq first rest ihFirst ihRest =>
    intro b h
    cases b <;> simp only [shift, seq.injEq, reduceCtorEq] at h
    rw [ihFirst h.1, ihRest h.2]
  | alt first rest ihFirst ihRest =>
    intro b h
    cases b <;> simp only [shift, alt.injEq, reduceCtorEq] at h
    rw [ihFirst h.1, ihRest h.2]
  | _ =>
    intro b h
    cases b <;> simp_all [shift]

theorem groupsIn_shift {P : Nat → Prop} {e : Expr} (he : e.GroupsIn fun i => P (i + k)) :
    (e.shift k).GroupsIn P := by
  induction e with
  | repeated min max greedy body ih => exact ih he
  | capture i body ih => exact ⟨he.1, ih he.2⟩
  | seq first rest ihFirst ihRest => exact ⟨ihFirst he.1, ihRest he.2⟩
  | alt first rest ihFirst ihRest => exact ⟨ihFirst he.1, ihRest he.2⟩
  | _ => trivial

theorem shift_of_no_groups {e : Expr} (he : e.GroupsIn fun _ => False) : e.shift k = e := by
  induction e with
  | repeated min max greedy body ih => rw [shift, ih he]
  | capture i body => exact he.1.elim
  | seq first rest ihFirst ihRest => rw [shift, ihFirst he.1, ihRest he.2]
  | alt first rest ihFirst ihRest => rw [shift, ihFirst he.1, ihRest he.2]
  | _ => rfl

/-! ## 2. The constructors -/

theorem size_shift (e : Expr) : (e.shift k).size = e.size := by
  induction e <;> simp_all [shift, size]

theorem onlyEmpty_shift (e : Expr) : (e.shift k).onlyEmpty = e.onlyEmpty := by
  induction e <;> simp_all [shift, onlyEmpty]

theorem shift_ofSet (s : Unicode.CodeSet) : (ofSet s).shift k = ofSet s :=
  shift_of_no_groups k (groupsIn_ofSet s)

theorem factors_shift (e : Expr) : (e.shift k).factors = e.factors.map (shift k) := by
  induction e <;> simp_all [shift, factors]

theorem ofFactors_map_shift (es : List Expr) :
    ofFactors (es.map (shift k)) = (ofFactors es).shift k := by
  induction es with
  | nil => rfl
  | cons e es ih =>
    cases es with
    | nil => rfl
    | cons e' es =>
      change Expr.seq (e.shift k) (ofFactors ((e' :: es).map (shift k))) = _
      rw [ih]
      rfl

theorem prependFactor_map_shift (e : Expr) (es : List Expr) :
    prependFactor (e.shift k) (es.map (shift k)) = (prependFactor e es).map (shift k) := by
  cases e <;> cases es with
  | nil => rfl
  | cons f es => cases f <;> rfl

theorem concat_map_shift (es : List Expr) : concat (es.map (shift k)) = (concat es).shift k := by
  have hfactors : (es.map (shift k)).flatMap factors = (es.flatMap factors).map (shift k) := by
    rw [List.flatMap_map, List.map_flatMap]
    simp only [factors_shift]
  rw [concat, concat, hfactors, ← ofFactors_map_shift]
  congr 1
  generalize es.flatMap factors = fs
  induction fs with
  | nil => rfl
  | cons e fs ih => rw [List.map_cons, List.foldr_cons, ih, prependFactor_map_shift, List.foldr_cons]

theorem repetition_shift (min : Nat) (max : Option Nat) (greedy : Bool) (body : Expr) :
    repetition min max greedy (body.shift k) = (repetition min max greedy body).shift k := by
  simp only [repetition, onlyEmpty_shift]
  generalize (if body.onlyEmpty = true then some (Nat.min (max.getD 1) 1) else max) = high
  generalize (if body.onlyEmpty = true then Nat.min min 1 else min) = low
  split
  · rfl
  · split <;> rfl

theorem branches_shift (e : Expr) : (e.shift k).branches = e.branches.map (shift k) := by
  induction e <;> simp_all [shift, branches]

theorem ofBranches_map_shift (es : List Expr) :
    ofBranches (es.map (shift k)) = (ofBranches es).shift k := by
  induction es with
  | nil => rfl
  | cons e es ih =>
    cases es with
    | nil => rfl
    | cons e' es =>
      change Expr.alt (e.shift k) (ofBranches ((e' :: es).map (shift k))) = _
      rw [ih]
      rfl

theorem singleChar?_shift (e : Expr) : (e.shift k).singleChar? = e.singleChar? := by
  cases e <;> rfl

theorem set?_shift (e : Expr) : (e.shift k).set? = e.set? := by
  cases e <;> rfl

theorem row?_shift (e : Expr) : (e.shift k).row? = e.row?.map (List.map (shift k)) := by
  cases e <;> simp [shift, row?, factors_shift]

theorem commonStart_map_shift (as bs : List Expr) :
    commonStart (as.map (shift k)) (bs.map (shift k)) = (commonStart as bs).map (shift k) := by
  fun_induction commonStart as bs with
  | case1 a as bs ih => simp [commonStart, ih]
  | case2 a as b bs hne =>
    have hne' : a.shift k ≠ b.shift k := fun h => hne (shift_injective k h)
    simp [commonStart, hne']
  | case3 as bs h =>
    cases as with
    | nil => rfl
    | cons a as =>
      cases bs with
      | nil => rfl
      | cons b bs => exact absurd rfl (h a as b bs rfl)

theorem sharedStart_map_shift (rows : List (List Expr)) :
    sharedStart (rows.map (List.map (shift k))) = (sharedStart rows).map (shift k) := by
  cases rows with
  | nil => rfl
  | cons row rows =>
    simp only [List.map_cons, sharedStart]
    induction rows generalizing row with
    | nil => rfl
    | cons r rows ih => rw [List.map_cons, List.foldl_cons, commonStart_map_shift, ih, List.foldl_cons]

theorem mapM_row?_shift (es : List Expr) :
    (es.map (shift k)).mapM row? = (es.mapM row?).map (List.map (List.map (shift k))) := by
  induction es with
  | nil => rfl
  | cons e es ih =>
    rw [List.map_cons, List.mapM_cons, List.mapM_cons, ih, row?_shift]
    cases e.row? with
    | none => rfl
    | some row => cases es.mapM row? <;> rfl

theorem mapM_map_shift {α : Type} {f : Expr → Option α} (hf : ∀ e, f (e.shift k) = f e)
    (es : List Expr) : (es.map (shift k)).mapM f = es.mapM f := by
  have hsame : f ∘ shift k = f := funext hf
  rw [List.mapM_map, hsame]

theorem alternationWithin_map_shift (fuel : Nat) (es : List Expr) :
    alternationWithin fuel (es.map (shift k)) = (alternationWithin fuel es).shift k := by
  induction fuel generalizing es with
  | zero => exact ofBranches_map_shift k es
  | succ fuel ih =>
    have hflat : (es.map (shift k)).flatMap branches = (es.flatMap branches).map (shift k) := by
      rw [List.flatMap_map, List.map_flatMap]
      simp only [branches_shift]
    rw [alternationWithin, alternationWithin]
    simp only [hflat]
    generalize es.flatMap branches = flat
    obtain _ | ⟨e, _ | ⟨e', rest⟩⟩ := flat
    · rfl
    · rfl
    · -- each test on the branches has the same result, so the same form is chosen
      have hchars := mapM_map_shift k (singleChar?_shift k) (e :: e' :: rest)
      have hsets := mapM_map_shift k (set?_shift k) (e :: e' :: rest)
      have hrows := mapM_row?_shift k (e :: e' :: rest)
      have hbranches := ofBranches_map_shift k (e :: e' :: rest)
      simp only [List.map_cons] at hchars hsets hrows hbranches ⊢
      rw [hchars, hsets, hrows]
      split
      · rw [shift_ofSet]
      · split
        · rw [shift_ofSet]
        · cases (e :: e' :: rest).mapM row? with
          | none => exact hbranches
          | some rows =>
            simp only [Option.map_some, sharedStart_map_shift, List.isEmpty_map, List.map_map,
              List.length_map]
            split
            · exact hbranches
            · have htails : (rows.map fun row => concat ((row.map (shift k)).drop
                  (sharedStart rows).length)) =
                  (rows.map fun row => concat (row.drop (sharedStart rows).length)).map
                    (shift k) := by
                rw [List.map_map]
                refine List.map_congr_left fun row _ => ?_
                rw [← List.map_drop, concat_map_shift]
                rfl
              rw [← concat_map_shift, List.map_append, List.map_singleton, ← ih, ← htails]
              rfl

theorem alternation_map_shift (es : List Expr) :
    alternation (es.map (shift k)) = (alternation es).shift k := by
  have hsize : (es.map (shift k)).foldr (fun e n => e.size + n) 1 =
      es.foldr (fun e n => e.size + n) 1 := by
    rw [List.foldr_map]
    simp only [size_shift]
  have hwithin := alternationWithin_map_shift k (es.foldr (fun e n => e.size + n) 1) es
  rw [← hsize] at hwithin
  obtain _ | ⟨e, _ | ⟨e', rest⟩⟩ := es
  · exact hwithin.trans (by rw [hsize]; rfl)
  · rfl
  · exact hwithin.trans (by rw [hsize]; rfl)

end Expr

/-! ## 3. Lowering -/

/-- A result with `k` added to all numbers. -/
def Lowered.shift (k : Nat) (r : Lowered) : Lowered :=
  ⟨r.branches.map (Expr.shift k), r.flags, r.next + k⟩

theorem Lowered.expr_shift (k : Nat) (r : Lowered) : (r.shift k).expr = r.expr.shift k :=
  Expr.alternation_map_shift k r.branches

/-- Lowering from a later number shifts the result. -/
theorem lower_shift {fl : Flags} {next : Nat} {t : Tree} {r : Lowered}
    (h : lower fl next t = .ok r) (k : Nat) : lower fl (next + k) t = .ok (r.shift k) := by
  induction t generalizing fl next r with
  | empty | settings fs | assertion a =>
    obtain rfl := Except.ok.inj h
    rfl
  | letter l =>
    obtain ⟨e, he, hr⟩ := bind_eq_ok_iff.mp h
    obtain rfl := Except.ok.inj hr
    simp [lower, he, Lowered.shift, Lowered.one,
      Expr.shift_of_no_groups k (Flags.groupsIn_letter he), bind, Except.bind, pure, Except.pure]
  | dot =>
    obtain ⟨e, he, hr⟩ := bind_eq_ok_iff.mp h
    obtain rfl := Except.ok.inj hr
    simp [lower, he, Lowered.shift, Lowered.one,
      Expr.shift_of_no_groups k (Flags.groupsIn_dot he), bind, Except.bind, pure, Except.pure]
  | short kind negated =>
    obtain ⟨s, hs, hr⟩ := bind_eq_ok_iff.mp h
    obtain rfl := Except.ok.inj hr
    simp [lower, hs, Lowered.shift, Lowered.one, Expr.shift_ofSet, bind, Except.bind, pure,
      Except.pure]
  | unicode query negated =>
    obtain ⟨s, hs, hr⟩ := bind_eq_ok_iff.mp h
    obtain rfl := Except.ok.inj hr
    simp [lower, hs, Lowered.shift, Lowered.one, Expr.shift_ofSet, bind, Except.bind, pure,
      Except.pure]
  | bracketed negated inner =>
    obtain ⟨inside, hinside, hrest⟩ := bind_eq_ok_iff.mp h
    obtain ⟨s, hs, hr⟩ := bind_eq_ok_iff.mp hrest
    obtain rfl := Except.ok.inj hr
    simp [lower, hinside, hs, Lowered.shift, Lowered.one, Expr.shift_ofSet, bind, Except.bind, pure,
      Except.pure]
  | repeated min max greedy body ih =>
    obtain ⟨a, ha, hr⟩ := bind_eq_ok_iff.mp h
    obtain rfl := Except.ok.inj hr
    simp only [lower, ih ha, bind, Except.bind, pure, Except.pure, Lowered.expr_shift,
      Expr.repetition_shift]
    rfl
  | group kind body ih =>
    cases kind with
    | capture name =>
      obtain ⟨a, ha, hr⟩ := bind_eq_ok_iff.mp h
      obtain rfl := Except.ok.inj hr
      have hbody := ih ha
      rw [Nat.add_right_comm] at hbody
      simp only [lower, hbody, bind, Except.bind, pure, Except.pure, Lowered.expr_shift]
      rfl
    | plain fs =>
      obtain ⟨a, ha, hr⟩ := bind_eq_ok_iff.mp h
      obtain rfl := Except.ok.inj hr
      simp only [lower, ih ha, bind, Except.bind, pure, Except.pure, Lowered.expr_shift]
      rfl
  | cat first rest ihFirst ihRest =>
    obtain ⟨a, ha, hrest⟩ := bind_eq_ok_iff.mp h
    obtain ⟨b, hb, hr⟩ := bind_eq_ok_iff.mp hrest
    obtain rfl := Except.ok.inj hr
    have hconcat := Expr.concat_map_shift k [a.expr, b.expr]
    have hb' : lower (a.shift k).flags (a.shift k).next rest = .ok (b.shift k) := ihRest hb
    simp only [List.map_cons, List.map_nil] at hconcat
    simp only [lower, ihFirst ha, hb', bind, Except.bind, pure, Except.pure, Lowered.expr_shift,
      hconcat]
    rfl
  | either first rest ihFirst ihRest =>
    obtain ⟨a, ha, hrest⟩ := bind_eq_ok_iff.mp h
    obtain ⟨b, hb, hr⟩ := bind_eq_ok_iff.mp hrest
    obtain rfl := Except.ok.inj hr
    have hb' : lower (a.shift k).flags (a.shift k).next rest = .ok (b.shift k) := ihRest hb
    simp only [lower, ihFirst ha, hb', bind, Except.bind, pure, Except.pure, Lowered.expr_shift]
    rfl

end Wayfinder.Regex
