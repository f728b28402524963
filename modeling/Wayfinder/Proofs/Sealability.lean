/-
  Wayfinder/Proofs/Sealability.lean
  =================================
  **When a registry can be sealed.**

  A fragment that does not compile is refused while its route is declared, so sealing never
  meets one.  It compiles the expressions of variants, though, in which the fragments stand
  together, and that can fail for the reasons that fragments cannot be used together.  Here
  sealing is told in terms of these reasons alone: it succeeds unless there is one, and
  reports the first variant that has one.  This is so whatever limit is set on the size of
  expressions, as long as it leaves the default fragment usable.
-/
import Wayfinder.Proofs.Composition
import Wayfinder.Proofs.Faithfulness

namespace Wayfinder

open Wayfinder.Pattern

section AnyLimit

variable [Regex.SizeLimit]

/-! ## 1. Declarations -/

/-- The fragments that are bound in a declaration that succeeds are usable alone. -/
theorem Draft.usable_of_build {uri : String} {steps : List Step} {d : Draft}
    (h : build uri steps = .ok d) {wildcard f : String} (hf : Step.constraint wildcard f ∈ steps) :
    Usable f := by
  obtain ⟨d₀, -, hrun⟩ := bind_eq_ok_iff.mp h
  obtain ⟨d₁, d₂, hstep⟩ := exists_step_of_mem_foldlM hrun hf
  cases takes_of_take hstep with
  | constraint _ _ hr => exact ⟨_, hr⟩

/-! ## 2. Flaws -/

/-- Why a variant of a route cannot be sealed.  A variant without tokens always can. -/
def Route.variantFlaw? (r : Route) (v : AnchoredVariant) : Option RouteError :=
  if v.indices = [] then none
  else (shapeFault? (r.shapeOf v)).map (.invalidRegex r.uri v.pattern v.regex)

/-- Why a registry cannot be sealed: the flaw of the first variant that has one. -/
def Registry.flaw? (reg : Registry) : Option RouteError :=
  reg.routes.toList.findSome? fun r => r.variants.findSome? r.variantFlaw?

/-- The error for a row that does not compile. -/
def RowFault.toError (f : RowFault) : RouteError := .invalidRegex f.uri f.variant f.regex f.reason

namespace Route

variable {r : Route} {v : AnchoredVariant}

/-- A row fails as its variant does, whatever the number of the route. -/
theorem failure?_ready (r : Route) (v : AnchoredVariant) (i : Nat) :
    failure? (Registry.ready (⟨v.regex, i, v.indices⟩, r)) = failure? (r.matcher v) := by
  have hmatcher : Router.matcherFor r (r.variants.find? fun w => w.regex == v.regex)
      ⟨v.regex, i, v.indices⟩ = r.matcher v := rfl
  rw [Registry.ready, Router.readyRow]
  simp only [hmatcher]
  cases r.matcher v <;> rfl

/-- A variant with tokens fails when its expression does not compile.  The fault names the
    first variant with this expression. -/
theorem failure?_matcher (hsome : v.indices ≠ []) :
    failure? (r.matcher v) = (failure? (Regex.compile v.regex)).map fun reason =>
      ⟨r.uri, ((r.variants.find? fun w => w.regex == v.regex).map (·.pattern)).getD "", v.regex,
        reason⟩ := by
  have hempty : v.indices.isEmpty = false := by simpa using hsome
  unfold matcher Router.matcherFor
  cases Regex.compile v.regex <;>
    cases r.variants.find? (fun w => w.regex == v.regex) <;> simp [hempty, failure?]

end Route

namespace Draft.Declared

variable {d : Draft} {v : AnchoredVariant}

/-- The first variant of a route whose expression does not compile is the one that sealing
    reports: variants before it have other expressions. -/
theorem findSome?_matcher (hd : d.Declared) :
    d.finish.variants.findSome? (fun v => failure? (d.finish.matcher v)) =
      d.finish.variants.findSome? fun v =>
        if v.indices = [] then none
        else (failure? (Regex.compile v.regex)).map (⟨d.finish.uri, v.pattern, v.regex, ·⟩) := by
  refine findSome?_congr_first fun before v after hvariants hbefore => ?_
  have hv : v ∈ d.finish.variants := by simp [hvariants]
  by_cases hnone : v.indices = []
  · rw [hd.matcher_of_literal hv hnone, if_pos hnone]
    rfl
  · rw [Route.failure?_matcher hnone, if_neg hnone]
    cases hcompile : Regex.compile v.regex with
    | ok r => rfl
    | error reason =>
      -- an earlier variant with this expression would have failed
      have hother : ∀ w ∈ before, ¬(w.regex == v.regex) = true := by
        intro w hw hregex
        have hregex : w.regex = v.regex := by simpa using hregex
        have hw' : w ∈ d.finish.variants := by simp [hvariants, hw]
        obtain ⟨ps, hps⟩ := hd.exists_layout hv
        obtain ⟨qs, hqs⟩ := hd.exists_layout hw'
        have hsome : w.indices ≠ [] := by
          intro hw₀
          obtain rfl := hqs.eq_of_regex_eq hps hw₀ hregex
          exact hnone hw₀
        have hfail := hbefore w hw
        rw [Route.failure?_matcher hsome, hregex, hcompile] at hfail
        cases hfail
      rw [hvariants, List.find?_append, List.find?_eq_none.mpr hother]
      simp [failure?]

/-- The expression of a variant fails to compile for the reason that its fragments cannot be
    used together. -/
theorem failure?_compile (hd : d.Declared) (hdefault : Usable defaultFragment)
    (hgroups : ∀ f ∈ d.finish.constraints, ReadsInGroup f) (hv : v ∈ d.finish.variants) :
    failure? (Regex.compile v.regex) = shapeFault? (d.finish.shapeOf v) := by
  have hfragments : ∀ f, Slot.fragment f ∈ d.finish.shapeOf v → f ∈ d.finish.constraints :=
    fun _ => hd.mem_constraints hv
  refine Option.ext fun reason => ?_
  rw [failure?_eq_some_iff, Regex.compile, regex_eq_of_mem hv, String.toList_ofList]
  exact compileChars_shapeText_eq_error_iff
    (fun f hf => hd.usable_of_default hdefault (hfragments f hf))
    (fun f hf => hgroups f (hfragments f hf)) reason

/-- Sealing the variants of a declared route fails for their flaws. -/
theorem findSome?_ready (hd : d.Declared) (hdefault : Usable defaultFragment)
    (hgroups : ∀ f ∈ d.finish.constraints, ReadsInGroup f) (i : Nat) :
    (d.finish.variants.findSome? fun v =>
        failure? (Registry.ready (⟨v.regex, i, v.indices⟩, d.finish))).map RowFault.toError =
      d.finish.variants.findSome? d.finish.variantFlaw? := by
  simp only [Route.failure?_ready]
  rw [hd.findSome?_matcher, List.map_findSome?]
  refine findSome?_congr fun v hv => ?_
  rw [Function.comp_apply, Route.variantFlaw?, ← hd.failure?_compile hdefault hgroups hv]
  split
  · rfl
  · rw [Option.map_map]
    rfl

end Draft.Declared

/-! ## 3. Sealing -/

namespace Registry

/-- Sealing fails for the first row that is not made ready. -/
theorem toRouter_eq_error_iff {reg : Registry} {e : RouteError} :
    reg.toRouter = .error e ↔
      ((table reg.routes.toList.zipIdx).findSome? fun p => failure? (ready p)).map
        RowFault.toError = some e := by
  rw [Option.map_eq_some_iff]
  simp only [← mapM_eq_error_iff]
  unfold toRouter
  simp only [Router.assemble, readyRows_entriesFrom]
  cases (table reg.routes.toList.zipIdx).mapM ready with
  | error f => simp [bind, Except.bind, RowFault.toError]
  | ok rows => simp [bind, Except.bind, pure, Except.pure]

variable {ds : List Draft} {reg : Registry}

theorem toRouter_eq_error_iff_flaw? (hdefault : Usable defaultFragment)
    (hds : ∀ d ∈ ds, d.Declared) (hrun : empty.addAll ds = .ok reg)
    (hgroups : ∀ r ∈ reg.routes.toList, ∀ f ∈ r.constraints, ReadsInGroup f) (e : RouteError) :
    reg.toRouter = .error e ↔ reg.flaw? = some e := by
  have hroutes : reg.routes.toList = reg.routes.toList.zipIdx.map Prod.fst :=
    (List.zipIdx_map_fst 0 _).symm
  rw [toRouter_eq_error_iff, table, findSome?_flatMap, List.map_findSome?, flaw?, hroutes,
    List.findSome?_map, ← hroutes]
  refine iff_of_eq (congrArg (· = some e) (findSome?_congr ?_))
  rintro ⟨r, i⟩ hp
  obtain ⟨d, hd, rfl⟩ := exists_draft_of_getElem? hrun
    (by simpa using List.mk_mem_zipIdx_iff_getElem?.mp hp)
  rw [Function.comp_apply, List.findSome?_map]
  exact (hds d hd).findSome?_ready hdefault (hgroups _ (List.fst_mem_of_mem_zipIdx hp)) i

theorem exists_toRouter_iff_flaw? (hdefault : Usable defaultFragment)
    (hds : ∀ d ∈ ds, d.Declared) (hrun : empty.addAll ds = .ok reg)
    (hgroups : ∀ r ∈ reg.routes.toList, ∀ f ∈ r.constraints, ReadsInGroup f) :
    (∃ router, reg.toRouter = .ok router) ↔ reg.flaw? = none := by
  rw [← failure?_eq_none_iff, Option.eq_none_iff_forall_ne_some,
    Option.eq_none_iff_forall_ne_some]
  exact forall_congr' fun e => not_congr
    (failure?_eq_some_iff.trans (toRouter_eq_error_iff_flaw? hdefault hds hrun hgroups e))

/-- A fragment that is not usable alone is refused in its declaration, so all fragments of a
    registry are usable.  Sealing the registry then fails only for reasons that fragments
    have together, for the first variant with tokens that has such a reason, and succeeds
    otherwise; this is so where the parentheses around each fragment hold the fragment, under
    any limit on the size of expressions that leaves the default fragment usable. -/
theorem seals_unless_flawed (hdefault : Usable defaultFragment) (hds : ∀ d ∈ ds, d.Declared)
    (hrun : empty.addAll ds = .ok reg)
    (hgroups : ∀ r ∈ reg.routes.toList, ∀ f ∈ r.constraints, ReadsInGroup f) :
    (∀ uri steps wildcard f, Draft.Step.constraint wildcard f ∈ steps → ¬Usable f →
      ∃ e, Draft.build uri steps = .error e) ∧
    (∀ r ∈ reg.routes.toList, ∀ f ∈ r.constraints, Usable f) ∧
    ((∃ router, reg.toRouter = .ok router) ↔ reg.flaw? = none) ∧
    ∀ e, reg.toRouter = .error e ↔ reg.flaw? = some e := by
  refine ⟨?_, ?_, exists_toRouter_iff_flaw? hdefault hds hrun hgroups,
    toRouter_eq_error_iff_flaw? hdefault hds hrun hgroups⟩
  · intro uri steps wildcard f hstep hf
    cases hbuild : Draft.build uri steps with
    | error e => exact ⟨e, rfl⟩
    | ok d => exact absurd (Draft.usable_of_build hbuild hstep) hf
  · intro r hr f hf
    obtain ⟨i, hi⟩ := List.mem_iff_getElem?.mp hr
    obtain ⟨d, hd, rfl⟩ := exists_draft_of_getElem? hrun (by simpa using hi)
    exact (hds d hd).usable_of_default hdefault hf

end Registry

end AnyLimit

namespace Registry

/-- The draft of two wildcards whose fragments name their groups. -/
def namedGroupsDraft (x y : String) : Draft :=
  ⟨"/{x}/{y}", none, ⟨"/{0}/{1}", ["x", "y"], [false, false]⟩, ⟨[some x, some y]⟩, [], [], none⟩

/-- Groups with two names do not get in each other's way. -/
theorem seals_named_groups :
    ∃ reg router,
      Draft.build "/{x}/{y}" [.constraint "x" "(?P<_>a)", .constraint "y" "(?P<__>b)"] =
        .ok (namedGroupsDraft "(?P<_>a)" "(?P<__>b)") ∧
      empty.addAll [namedGroupsDraft "(?P<_>a)" "(?P<__>b)"] = .ok reg ∧
      reg.toRouter = .ok router := by
  have hbuild : Draft.build "/{x}/{y}" [.constraint "x" "(?P<_>a)", .constraint "y" "(?P<__>b)"] =
      .ok (namedGroupsDraft "(?P<_>a)" "(?P<__>b)") := by decide
  have hdeclared : (namedGroupsDraft "(?P<_>a)" "(?P<__>b)").Declared := ⟨by decide, _, hbuild⟩
  obtain ⟨reg, hrun⟩ := @Indexed.exists_addAll _ indexed_empty
    [namedGroupsDraft "(?P<_>a)" "(?P<__>b)"] (by decide) (by simp [empty])
  have hroutes := routes_of_empty_addAll hrun
  have hgroups : ∀ r ∈ reg.routes.toList, ∀ f ∈ r.constraints, ReadsInGroup f := by
    rw [hroutes]
    intro r hr f hf
    obtain rfl := List.mem_singleton.mp hr
    refine (hdeclared.usable hf).readsInGroup ?_
    rcases List.mem_pair.mp hf with rfl | rfl <;> decide
  have hflaw : reg.flaw? = none := by
    rw [flaw?, hroutes]
    decide
  obtain ⟨-, -, hseals, -⟩ :=
    seals_unless_flawed usable_defaultFragment (by simpa using hdeclared) hrun hgroups
  obtain ⟨router, hrouter⟩ := hseals.mpr hflaw
  exact ⟨reg, router, hbuild, hrun, hrouter⟩

/-- Groups with one name are fine one by one and not together, so sealing fails although
    every fragment was accepted. -/
theorem exists_unsealable :
    ∃ reg,
      Draft.build "/{x}/{y}" [.constraint "x" "(?P<_>a)", .constraint "y" "(?P<_>b)"] =
        .ok (namedGroupsDraft "(?P<_>a)" "(?P<_>b)") ∧
      empty.addAll [namedGroupsDraft "(?P<_>a)" "(?P<_>b)"] = .ok reg ∧
      reg.toRouter =
        .error (.invalidRegex "/{x}/{y}" "/{0}/{1}" "^/((?P<_>a))/((?P<_>b))$" .malformed) := by
  have hbuild : Draft.build "/{x}/{y}" [.constraint "x" "(?P<_>a)", .constraint "y" "(?P<_>b)"] =
      .ok (namedGroupsDraft "(?P<_>a)" "(?P<_>b)") := by decide
  obtain ⟨reg, hrun⟩ := @Indexed.exists_addAll _ indexed_empty
    [namedGroupsDraft "(?P<_>a)" "(?P<_>b)"] (by decide) (by simp [empty])
  refine ⟨reg, hbuild, hrun, ?_⟩
  rw [toRouter_eq_error_iff, routes_of_empty_addAll hrun]
  decide

/-! ## 4. The limit of the program -/

/-- Under the limit of the program, a registry can be sealed exactly when in every variant
    with tokens the names of groups differ from fragment to fragment, no fragment nests too
    deeply, and there is memory for all. -/
theorem exists_toRouter_iff_room {ds : List Draft} {reg : Registry} (hds : ∀ d ∈ ds, d.Declared)
    (hrun : empty.addAll ds = .ok reg)
    (hgroups : ∀ r ∈ reg.routes.toList, ∀ f ∈ r.constraints, ReadsInGroup f) :
    (∃ router, reg.toRouter = .ok router) ↔
      ∀ r ∈ reg.routes.toList, ∀ v ∈ r.variants, v.indices ≠ [] →
        NamesApart (fragmentsOf (r.shapeOf v)) ∧
        (∀ f ∈ fragmentsOf (r.shapeOf v), fragmentDepth f + 2 ≤ Regex.nestingLimit) ∧
        ∀ dir, shapeMemory dir (r.shapeOf v) ≤ Regex.memoryLimit := by
  rw [exists_toRouter_iff_flaw? usable_defaultFragment hds hrun hgroups, flaw?]
  simp only [List.findSome?_eq_none_iff]
  refine forall₂_congr fun r hr => forall₂_congr fun v hv => ?_
  obtain ⟨i, hi⟩ := List.mem_iff_getElem?.mp hr
  obtain ⟨d, hd, rfl⟩ := exists_draft_of_getElem? hrun (by simpa using hi)
  have husable : ∀ f, Slot.fragment f ∈ d.finish.shapeOf v → Usable f :=
    fun f hf => (hds d hd).usable ((hds d hd).mem_constraints hv hf)
  rw [← shapeFault?_eq_none_iff husable, Route.variantFlaw?]
  by_cases hnone : v.indices = [] <;> simp [hnone]

end Registry

end Wayfinder
