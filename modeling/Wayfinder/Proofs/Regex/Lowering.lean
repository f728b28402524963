/-
  Wayfinder/Proofs/Regex/Lowering.lean
  ====================================
  **How lowering numbers groups.**

  Lowering numbers the capturing groups of a tree in the order in which they open, so
  the next free number tells how many there are.  An expression may hold fewer groups
  than its tree: what is repeated no times is dropped.  The number from which lowering
  starts shifts all numbers and changes nothing else.
-/
import Wayfinder.Proofs.Outcome
import Wayfinder.Proofs.Regex.Groups
import Wayfinder.Regex.Compile

namespace Wayfinder.Regex

/-! ## 1. Groups through the constructors -/

namespace Expr

variable {P : Nat → Prop}

theorem groupsIn_ofSet (s : Unicode.CodeSet) : (ofSet s).GroupsIn P := by
  unfold ofSet
  split <;> trivial

theorem groupsIn_factors {e : Expr} (he : e.GroupsIn P) : ∀ f ∈ e.factors, f.GroupsIn P := by
  induction e with
  | empty => intro f hf; cases hf
  | seq first rest _ ih => exact List.forall_mem_cons.mpr ⟨he.1, ih he.2⟩
  | _ =>
    intro f hf
    obtain rfl := List.mem_singleton.mp hf
    exact he

theorem groupsIn_ofFactors {es : List Expr} (hes : ∀ e ∈ es, e.GroupsIn P) :
    (ofFactors es).GroupsIn P := by
  induction es with
  | nil => trivial
  | cons e es ih =>
    have hes' := List.forall_mem_cons.mp hes
    cases es with
    | nil => exact hes'.1
    | cons e' es => exact ⟨hes'.1, ih hes'.2⟩

theorem groupsIn_prependFactor {e : Expr} {es : List Expr} (he : e.GroupsIn P)
    (hes : ∀ f ∈ es, f.GroupsIn P) : ∀ f ∈ prependFactor e es, f.GroupsIn P := by
  unfold prependFactor
  split
  · exact List.forall_mem_cons.mpr ⟨trivial, (List.forall_mem_cons.mp hes).2⟩
  · exact List.forall_mem_cons.mpr ⟨he, hes⟩

theorem groupsIn_concat {es : List Expr} (hes : ∀ e ∈ es, e.GroupsIn P) :
    (concat es).GroupsIn P := by
  have hfactors : ∀ f ∈ es.flatMap factors, f.GroupsIn P := by
    intro f hf
    obtain ⟨e, he, hf⟩ := List.mem_flatMap.mp hf
    exact groupsIn_factors (hes e he) f hf
  rw [concat]
  generalize es.flatMap factors = fs at hfactors
  refine groupsIn_ofFactors ?_
  induction fs with
  | nil => intro f hf; cases hf
  | cons e fs ih =>
    have hfactors' := List.forall_mem_cons.mp hfactors
    exact groupsIn_prependFactor hfactors'.1 (ih hfactors'.2)

theorem groupsIn_repetition {min : Nat} {max : Option Nat} {greedy : Bool} {body : Expr}
    (hbody : body.GroupsIn P) : (repetition min max greedy body).GroupsIn P := by
  simp only [repetition]
  generalize (if body.onlyEmpty = true then some (Nat.min (max.getD 1) 1) else max) = high
  generalize (if body.onlyEmpty = true then Nat.min min 1 else min) = low
  split
  · trivial
  · split
    · exact hbody
    · exact hbody

theorem groupsIn_branches {e : Expr} (he : e.GroupsIn P) : ∀ f ∈ e.branches, f.GroupsIn P := by
  induction e with
  | alt first rest _ ih => exact List.forall_mem_cons.mpr ⟨he.1, ih he.2⟩
  | _ =>
    intro f hf
    obtain rfl := List.mem_singleton.mp hf
    exact he

theorem groupsIn_ofBranches {es : List Expr} (hes : ∀ e ∈ es, e.GroupsIn P) :
    (ofBranches es).GroupsIn P := by
  induction es with
  | nil => trivial
  | cons e es ih =>
    have hes' := List.forall_mem_cons.mp hes
    cases es with
    | nil => exact hes'.1
    | cons e' es => exact ⟨hes'.1, ih hes'.2⟩

theorem mem_of_mem_commonStart {as bs : List Expr} {e : Expr} (h : e ∈ commonStart as bs) :
    e ∈ as := by
  fun_induction commonStart as bs with
  | case1 a as bs ih =>
    rcases List.mem_cons.mp h with rfl | h
    · exact List.mem_cons_self
    · exact List.mem_cons_of_mem _ (ih h)
  | case2 => cases h
  | case3 => cases h

theorem mem_of_mem_sharedStart {row : List Expr} {rows : List (List Expr)} {e : Expr}
    (h : e ∈ sharedStart (row :: rows)) : e ∈ row := by
  simp only [sharedStart] at h
  induction rows generalizing row with
  | nil => exact h
  | cons r rows ih => exact mem_of_mem_commonStart (ih h)

theorem groupsIn_row {e : Expr} {row : List Expr} (he : e.GroupsIn P) (hrow : e.row? = some row) :
    ∀ f ∈ row, f.GroupsIn P := by
  cases e <;> simp only [row?, Option.some.injEq, reduceCtorEq] at hrow
  subst hrow
  exact groupsIn_factors he

theorem groupsIn_alternationWithin (fuel : Nat) {es : List Expr} (hes : ∀ e ∈ es, e.GroupsIn P) :
    (alternationWithin fuel es).GroupsIn P := by
  induction fuel generalizing es with
  | zero => exact groupsIn_ofBranches hes
  | succ fuel ih =>
    have hflat : ∀ f ∈ es.flatMap branches, f.GroupsIn P := by
      intro f hf
      obtain ⟨e, he, hf⟩ := List.mem_flatMap.mp hf
      exact groupsIn_branches (hes e he) f hf
    rw [alternationWithin]
    simp only
    split
    · trivial
    · rename_i e heq
      exact hflat e (by rw [heq]; exact List.mem_singleton.mpr rfl)
    · split
      · exact groupsIn_ofSet _
      · split
        · exact groupsIn_ofSet _
        · split
          · rename_i rows hrows
            -- the rows, whole or without their start, hold factors of the branches only
            have hall : ∀ row ∈ rows, ∀ f ∈ row, f.GroupsIn P := by
              intro row hrow
              obtain ⟨e, he, heq⟩ := exists_of_mem_mapM hrows hrow
              exact groupsIn_row (hflat e he) heq
            split
            · exact groupsIn_ofBranches hflat
            · refine groupsIn_concat ?_
              refine List.forall_mem_append.mpr ⟨?_, ?_⟩
              · intro f hf
                cases rows with
                | nil => cases hf
                | cons row rows =>
                  exact hall row List.mem_cons_self f (mem_of_mem_sharedStart hf)
              · intro f hf
                obtain rfl := List.mem_singleton.mp hf
                refine ih ?_
                intro e he
                obtain ⟨row, hrow, rfl⟩ := List.mem_map.mp he
                exact groupsIn_concat fun f hf => hall row hrow f (List.mem_of_mem_drop hf)
          · exact groupsIn_ofBranches hflat

theorem groupsIn_alternation {es : List Expr} (hes : ∀ e ∈ es, e.GroupsIn P) :
    (alternation es).GroupsIn P := by
  unfold alternation
  split
  · exact hes _ (List.mem_singleton.mpr rfl)
  · exact groupsIn_alternationWithin _ hes

end Expr

/-! ## 2. The groups of a tree -/

/-- The number of capturing groups that a tree opens. -/
def Tree.groups : Tree → Nat
  | .group (.capture _) body => body.groups + 1
  | .group (.plain _) body => body.groups
  | .repeated _ _ _ body => body.groups
  | .cat first rest => first.groups + rest.groups
  | .either first rest => first.groups + rest.groups
  | _ => 0

/-- The groups of an expression have numbers from `n` on, as many as `count`. -/
def Expr.Numbered (n count : Nat) : Expr → Prop := Expr.GroupsIn fun i => n ≤ i ∧ i < n + count

theorem Expr.Numbered.widen {n count n' count' : Nat} (hlow : n' ≤ n)
    (hhigh : n + count ≤ n' + count') {e : Expr} (he : e.Numbered n count) :
    e.Numbered n' count' :=
  Expr.GroupsIn.imp (fun i hi => by omega) he

theorem Flags.groupsIn_letter {P : Nat → Prop} {fl : Flags} {l : Letter} {e : Expr}
    (h : fl.letter l = .ok e) : e.GroupsIn P := by
  unfold letter at h
  split at h
  · cases h
  · split at h
    · split at h
      · split at h
        · obtain rfl := Except.ok.inj h
          exact Expr.groupsIn_ofSet _
        · obtain rfl := Except.ok.inj h
          trivial
      · obtain rfl := Except.ok.inj h
        exact Expr.groupsIn_ofSet _
    · obtain rfl := Except.ok.inj h
      trivial

theorem Flags.groupsIn_dot {P : Nat → Prop} {fl : Flags} {e : Expr} (h : fl.dot = .ok e) :
    e.GroupsIn P := by
  unfold dot at h
  split at h
  · obtain rfl := Except.ok.inj h
    trivial
  · cases h

theorem numbered_one {e : Expr} {fl : Flags} {next n count : Nat} (he : e.Numbered n count) :
    ∀ e' ∈ (Lowered.one e fl next).branches, e'.Numbered n count := by
  intro e' he'
  obtain rfl := List.mem_singleton.mp he'
  exact he

/-- Lowering gives every group a number, from `next` on. -/
theorem lower_eq_ok {fl : Flags} {next : Nat} {t : Tree} {r : Lowered}
    (h : lower fl next t = .ok r) :
    r.next = next + t.groups ∧ ∀ e ∈ r.branches, e.Numbered next t.groups := by
  induction t generalizing fl next r with
  | empty | settings fs | assertion a =>
    obtain rfl := Except.ok.inj h
    exact ⟨rfl, numbered_one trivial⟩
  | letter l =>
    obtain ⟨e, he, hr⟩ := bind_eq_ok_iff.mp h
    obtain rfl := Except.ok.inj hr
    exact ⟨rfl, numbered_one (Flags.groupsIn_letter he)⟩
  | dot =>
    obtain ⟨e, he, hr⟩ := bind_eq_ok_iff.mp h
    obtain rfl := Except.ok.inj hr
    exact ⟨rfl, numbered_one (Flags.groupsIn_dot he)⟩
  | short kind negated =>
    obtain ⟨s, -, hr⟩ := bind_eq_ok_iff.mp h
    obtain rfl := Except.ok.inj hr
    exact ⟨rfl, numbered_one (Expr.groupsIn_ofSet s)⟩
  | unicode query negated =>
    obtain ⟨s, -, hr⟩ := bind_eq_ok_iff.mp h
    obtain rfl := Except.ok.inj hr
    exact ⟨rfl, numbered_one (Expr.groupsIn_ofSet s)⟩
  | bracketed negated inner =>
    obtain ⟨inside, -, hrest⟩ := bind_eq_ok_iff.mp h
    obtain ⟨s, -, hr⟩ := bind_eq_ok_iff.mp hrest
    obtain rfl := Except.ok.inj hr
    exact ⟨rfl, numbered_one (Expr.groupsIn_ofSet s)⟩
  | repeated min max greedy body ih =>
    obtain ⟨a, ha, hr⟩ := bind_eq_ok_iff.mp h
    obtain rfl := Except.ok.inj hr
    obtain ⟨hnext, hbranches⟩ := ih ha
    exact ⟨hnext, numbered_one (Expr.groupsIn_repetition (Expr.groupsIn_alternation hbranches))⟩
  | group kind body ih =>
    cases kind with
    | capture name =>
      obtain ⟨a, ha, hr⟩ := bind_eq_ok_iff.mp h
      obtain rfl := Except.ok.inj hr
      obtain ⟨hnext, hbranches⟩ := ih ha
      have hbody : a.expr.Numbered next (body.groups + 1) :=
        Expr.Numbered.widen (by omega) (by omega) (Expr.groupsIn_alternation hbranches)
      refine ⟨?_, numbered_one ⟨⟨Nat.le_refl _, ?_⟩, hbody⟩⟩
      · simp only [Lowered.one, hnext, Tree.groups]
        omega
      · simp only [Tree.groups]
        omega
    | plain fs =>
      obtain ⟨a, ha, hr⟩ := bind_eq_ok_iff.mp h
      obtain rfl := Except.ok.inj hr
      obtain ⟨hnext, hbranches⟩ := ih ha
      exact ⟨hnext, numbered_one (Expr.groupsIn_alternation hbranches)⟩
  | cat first rest ihFirst ihRest =>
    obtain ⟨a, ha, hrest⟩ := bind_eq_ok_iff.mp h
    obtain ⟨b, hb, hr⟩ := bind_eq_ok_iff.mp hrest
    obtain rfl := Except.ok.inj hr
    obtain ⟨hnext, hbranches⟩ := ihFirst ha
    obtain ⟨hnext', hbranches'⟩ := ihRest hb
    simp only [hnext] at hnext' hbranches'
    refine ⟨?_, numbered_one (Expr.groupsIn_concat ?_)⟩
    · simp only [Lowered.one, hnext', Tree.groups]
      omega
    · intro e he
      simp only [List.mem_cons, List.not_mem_nil, or_false] at he
      simp only [Tree.groups]
      rcases he with rfl | rfl
      · exact Expr.Numbered.widen (by omega) (by omega) (Expr.groupsIn_alternation hbranches)
      · exact Expr.Numbered.widen (by omega) (by omega) (Expr.groupsIn_alternation hbranches')
  | either first rest ihFirst ihRest =>
    obtain ⟨a, ha, hrest⟩ := bind_eq_ok_iff.mp h
    obtain ⟨b, hb, hr⟩ := bind_eq_ok_iff.mp hrest
    obtain rfl := Except.ok.inj hr
    obtain ⟨hnext, hbranches⟩ := ihFirst ha
    obtain ⟨hnext', hbranches'⟩ := ihRest hb
    simp only [hnext] at hnext' hbranches'
    refine ⟨?_, ?_⟩
    · simp only [hnext', Tree.groups]
      omega
    · intro e he
      simp only [Tree.groups]
      rcases List.mem_cons.mp he with rfl | he
      · exact Expr.Numbered.widen (by omega) (by omega) (Expr.groupsIn_alternation hbranches)
      · exact Expr.Numbered.widen (by omega) (by omega) (hbranches' e he)

theorem Tree.expr_of_lower {t : Tree} {low : Lowered} (h : lower {} 1 t = .ok low) :
    t.expr = .ok low.expr := by
  rw [Tree.expr, h]
  rfl

/-- What is known of a text that compiles. -/
theorem compile_eq_ok [SizeLimit] {text : String} {r : Regex}
    (h : compile text = .ok r) :
    ∃ t, parse text.toList = .ok t ∧ ∃ low, lower {} 1 t = .ok low ∧ r.expr = low.expr := by
  simp only [compile, compileChars, Tree.expr, bind_eq_ok_iff, pure, Except.pure,
    Except.ok.injEq] at h
  obtain ⟨t, ht, e, ⟨low, hlow, rfl⟩, hfits⟩ := h
  split at hfits
  · obtain rfl := Except.ok.inj hfits
    exact ⟨t, ht, low, hlow, rfl⟩
  · cases hfits

theorem numbered_expr {fl : Flags} {next : Nat} {t : Tree} {r : Lowered}
    (h : lower fl next t = .ok r) : r.expr.Numbered next t.groups :=
  Expr.groupsIn_alternation (lower_eq_ok h).2

end Wayfinder.Regex
