/-
  Wayfinder/Proofs/StepOrder.lean
  ===============================
  **The order in which a route is declared.**

  A step of a declaration is refused for what it says itself, or because an earlier step gave
  a value to the same wildcard or the same method.  Neither depends on which of two steps
  comes first, so the steps may come in any order, as long as names, tags and middlewares keep
  theirs.  In particular the handler of HEAD may be bound before that of GET or after it, and
  a route that answers GET answers HEAD in either case.
-/
import Mathlib.Data.List.Sort
import Wayfinder.Proofs.Recording
import Wayfinder.Proofs.Requests

namespace Wayfinder

open Wayfinder.Pattern

namespace Draft

/-! ## 1. Steps that can be taken -/

/-- What is given one value at most. -/
inductive Target where
  | wildcard (name : String)
  | method (m : Method)
deriving DecidableEq, Repr

def Step.target? : Step → Option Target
  | .constraint wildcard _ => some (.wildcard wildcard)
  | .method m _ => some (.method m)
  | .methodToken token _ => (Method.ofToken? token).map .method
  | _ => none

/-- Whether a step can be taken by itself, given the names of the wildcards. -/
def Step.Fits (names : List String) : Step → Prop
  | .name n => isRouteName n = true
  | .constraint wildcard fragment => wildcard ∈ names ∧ ∃ r, Regex.compile fragment = .ok r
  | .methodToken token _ => ∃ m, Method.ofToken? token = some m
  | .method _ _ | .middleware _ | .provenance _ => True

/-- Whether a draft has a value for a target. -/
def Taken (d : Draft) : Target → Prop
  | .wildcard name => ∃ i fragment,
    d.wildcards.indexOf? name = some i ∧ d.constraints.get? i = some fragment
  | .method m => Bindings.has d.methods m = true

theorem exists_bindMethod_iff {d : Draft} {m : Method} {handler : String} :
    (∃ d', d.bindMethod m handler = .ok d') ↔ Bindings.has d.methods m = false := by
  unfold bindMethod
  split
  · rename_i htaken
    simp [htaken]
  · rename_i hfree
    simp [Bool.eq_false_iff.mpr hfree]

theorem exists_constrain_iff {d : Draft} {wildcard fragment : String} :
    (∃ d', d.constrain wildcard fragment = .ok d') ↔
      ∃ i, d.wildcards.indexOf? wildcard = some i ∧ d.constraints.get? i = none ∧
        ∃ r, Regex.compile fragment = .ok r := by
  simp only [constrain, bind_eq_ok_iff]
  constructor
  · rintro ⟨d', cs, hcs, -⟩
    obtain ⟨i, r, hi, hfree, hr, -⟩ := bind_eq_ok hcs
    exact ⟨i, hi, hfree, r, hr⟩
  · rintro ⟨i, hi, hfree, r, hr⟩
    refine ⟨_, ⟨d.constraints.bound.set i (some fragment)⟩, ?_, rfl⟩
    simp [Constraints.bind, hi, hfree, hr]

/-- A step is refused for what it says, or because its target is taken. -/
theorem Sound.exists_take_iff {d : Draft} (hsound : d.Sound) {step : Step} :
    (∃ d', d.take step = .ok d') ↔
      step.Fits d.wildcards.names ∧ ∀ target, step.target? = some target → ¬d.Taken target := by
  cases step with
  | name n =>
    simp only [Draft.take, setName, Step.Fits, Step.target?]
    by_cases hn : isRouteName n = true
    · simp [hn]
    · simp [hn]
  | constraint wildcard fragment =>
    simp only [Draft.take, exists_constrain_iff, Step.Fits, Step.target?, Option.some.injEq,
      forall_eq', Taken]
    constructor
    · rintro ⟨i, hi, hfree, hr⟩
      have hname := (Wildcards.indexOf?_eq_some_iff hsound.nodup_names).mp hi
      refine ⟨⟨List.mem_of_getElem? hname, hr⟩, ?_⟩
      rintro ⟨j, f, hj, hf⟩
      obtain rfl := Option.some.inj (hi.symm.trans hj)
      rw [hfree] at hf
      cases hf
    · rintro ⟨⟨hmem, hr⟩, hfree⟩
      obtain ⟨i, hname⟩ := List.mem_iff_getElem?.mp hmem
      have hi := (Wildcards.indexOf?_eq_some_iff hsound.nodup_names).mpr hname
      refine ⟨i, hi, ?_, hr⟩
      rw [Option.eq_none_iff_forall_ne_some]
      intro f hf
      exact hfree ⟨i, f, hi, hf⟩
  | method m handler =>
    simp [Draft.take, exists_bindMethod_iff, Step.Fits, Step.target?, Taken]
  | methodToken token handler =>
    simp only [Draft.take, bindToken, Step.Fits, Step.target?]
    cases Method.ofToken? token with
    | none => simp
    | some m => simp [exists_bindMethod_iff, Taken]
  | middleware id => simp [Draft.take, Step.Fits, Step.target?]
  | provenance tag => simp [Draft.take, Step.Fits, Step.target?]

/-! ## 2. Runs of steps -/

theorem wildcard_mem_targets_iff {steps : List Step} {name : String} :
    .wildcard name ∈ steps.filterMap Step.target? ↔
      ∃ fragment, (name, fragment) ∈ steps.filterMap Step.constraint? := by
  have hstep : ∀ step : Step, step.target? = some (.wildcard name) ↔
      ∃ fragment, step.constraint? = some (name, fragment) := by
    intro step
    cases step <;> simp [Step.target?, Step.constraint?]
  simp only [List.mem_filterMap, hstep, exists_comm (α := String), ← exists_and_left]

theorem method_mem_targets_iff {steps : List Step} {m : Method} :
    .method m ∈ steps.filterMap Step.target? ↔
      ∃ handler, (m, handler) ∈ steps.filterMap Step.handler? := by
  have hstep : ∀ step : Step, step.target? = some (.method m) ↔
      ∃ handler, step.handler? = some (m, handler) := by
    intro step
    cases step <;> simp [Step.target?, Step.handler?]
  simp only [List.mem_filterMap, hstep, exists_comm (α := String), ← exists_and_left]

/-- The targets that are taken after a run are those of its steps. -/
theorem Records.taken_iff {uri : String} {steps : List Step} {d : Draft}
    (h : Records uri steps d) (hsound : d.Sound) {target : Target} :
    d.Taken target ↔ target ∈ steps.filterMap Step.target? := by
  cases target with
  | wildcard name =>
    rw [wildcard_mem_targets_iff, Taken]
    constructor
    · rintro ⟨i, fragment, hi, hfragment⟩
      rw [Wildcards.indexOf?_eq_some_iff hsound.nodup_names] at hi
      exact ⟨fragment, (h.fragments i name hi fragment).mp hfragment⟩
    · rintro ⟨fragment, hmem⟩
      obtain ⟨i, hi⟩ := List.mem_iff_getElem?.mp (h.constrained _ hmem)
      exact ⟨i, fragment, (Wildcards.indexOf?_eq_some_iff hsound.nodup_names).mpr hi,
        (h.fragments i name hi fragment).mpr hmem⟩
  | method m =>
    rw [method_mem_targets_iff, Taken, Bindings.has_iff]
    simp only [h.handlers]
    constructor
    · rintro ⟨_, handler, -, hmem⟩
      exact ⟨handler, hmem⟩
    · rintro ⟨handler, hmem⟩
      exact ⟨_, handler, rfl, hmem⟩

section Run

variable {uri : String} {done : List Step} {d : Draft}

theorem Records.exists_take_iff (h : Records uri done d) (hsound : d.Sound)
    (hdone : (done.filterMap Step.target?).Nodup) {step : Step} :
    (∃ c, d.take step = .ok c) ↔
      step.Fits d.wildcards.names ∧ ((done ++ [step]).filterMap Step.target?).Nodup := by
  rw [hsound.exists_take_iff, filterMap_concat]
  simp only [h.taken_iff hsound]
  cases step.target? with
  | none => simpa using fun _ => hdone
  | some target =>
    have hconcat : (done.filterMap Step.target? ++ [target]).Nodup ↔
        target ∉ done.filterMap Step.target? := by
      rw [List.nodup_append_comm, List.singleton_append, List.nodup_cons, and_iff_left hdone]
    rw [Option.toList_some, hconcat]
    simp only [Option.some.injEq, forall_eq']

/-- A run succeeds when every step fits, and no two steps of it or of the run before have one
    target. -/
theorem Records.exists_takeAll_iff {steps : List Step} (h : Records uri done d) (hsound : d.Sound)
    (hdone : (done.filterMap Step.target?).Nodup) :
    (∃ d', d.takeAll steps = .ok d') ↔
      (∀ step ∈ steps, step.Fits d.wildcards.names) ∧
        ((done ++ steps).filterMap Step.target?).Nodup := by
  induction steps generalizing done d with
  | nil => simpa [Draft.takeAll, pure, Except.pure] using hdone
  | cons step steps ih =>
    have hfirst : (∃ c, d.take step = .ok c) ↔ step.Fits d.wildcards.names ∧
        ((done ++ [step]).filterMap Step.target?).Nodup :=
      h.exists_take_iff hsound hdone
    have hrest : ∀ c, d.take step = .ok c → ((∃ d', c.takeAll steps = .ok d') ↔
        (∀ step ∈ steps, step.Fits d.wildcards.names) ∧
          ((done ++ step :: steps).filterMap Step.target?).Nodup) := by
      intro c hc
      have hnext := h.take hsound (takes_of_take hc).effect
      rw [ih hnext (hsound.take hc) (hfirst.mp ⟨c, hc⟩).2, (take_eq_ok hc).2.1,
        ← List.append_cons]
    simp only [takeAll_cons_eq_ok_iff]
    rw [exists_comm, List.forall_mem_cons]
    simp only [exists_and_left]
    constructor
    · rintro ⟨c, hc, hlater⟩
      obtain ⟨hfits, hnodup⟩ := (hrest c hc).mp hlater
      exact ⟨⟨(hfirst.mp ⟨c, hc⟩).1, hfits⟩, hnodup⟩
    · rintro ⟨⟨hfit, hfits⟩, hnodup⟩
      have hprefix : ((done ++ [step]).filterMap Step.target?).Nodup := by
        rw [List.append_cons, List.filterMap_append] at hnodup
        exact (List.nodup_append.mp hnodup).1
      obtain ⟨c, hc⟩ := hfirst.mpr ⟨hfit, hprefix⟩
      exact ⟨c, hc, (hrest c hc).mpr ⟨hfits, hnodup⟩⟩

end Run

/-- Which drafts can be built, told without the order of the steps. -/
theorem exists_build_iff {uri : String} {steps : List Step} :
    (∃ d, build uri steps = .ok d) ↔
      ∃ b, start uri = .ok b ∧ (∀ step ∈ steps, step.Fits b.wildcards.names) ∧
        (steps.filterMap Step.target?).Nodup := by
  simp only [build, bind_eq_ok_iff]
  rw [exists_comm]
  simp only [exists_and_left]
  refine exists_congr fun b => and_congr_right fun hstart => ?_
  exact (records_start hstart).exists_takeAll_iff (sound_of_start hstart) List.nodup_nil

/-! ## 3. Steps in another order -/

/-- Some steps are others in another order, in which names, tags and middlewares keep theirs. -/
structure Reordered (steps steps' : List Step) : Prop where
  perm : steps.Perm steps'
  names : steps.filterMap Step.name? = steps'.filterMap Step.name?
  tags : steps.filterMap Step.tag? = steps'.filterMap Step.tag?
  middlewares : steps.filterMap Step.middleware? = steps'.filterMap Step.middleware?

section Reordered

variable {uri : String} {steps steps' : List Step} {d d' : Draft}

theorem Reordered.exists_build_iff (h : Reordered steps steps') :
    (∃ d, build uri steps = .ok d) ↔ ∃ d, build uri steps' = .ok d := by
  have htargets := (h.perm.filterMap Step.target?).nodup_iff
  simp only [Draft.exists_build_iff, h.perm.mem_iff, htargets]

theorem constraints_eq {cs cs' : Constraints} (hsize : cs.bound.length = cs'.bound.length)
    (hget : ∀ i < cs.bound.length, cs.get? i = cs'.get? i) : cs = cs' := by
  have hbound : cs.bound = cs'.bound := by
    apply List.ext_getElem hsize
    intro i hi hi'
    simpa [Constraints.get?, hi, hi'] using hget i hi
  cases cs
  cases cs'
  simpa using hbound

/-- A draft is known by what its steps say. -/
theorem Reordered.eq_of_build (h : Reordered steps steps') (hd : build uri steps = .ok d)
    (hd' : build uri steps' = .ok d') : d = d' := by
  have hrecords := records_of_build hd
  have hrecords' := records_of_build hd'
  have hsound := sound_of_build hd
  have hsound' := sound_of_build hd'
  have huri : d.uri = d'.uri := hrecords.uri.trans hrecords'.uri.symm
  have hwildcards : d.wildcards = d'.wildcards := by
    have hextracted := hsound.extracted
    rw [huri, hsound'.extracted] at hextracted
    exact (Except.ok.inj hextracted).symm
  have hmethods : d.methods = d'.methods := by
    refine (sorted_methods_of_build hd).eq_of_mem_iff (sorted_methods_of_build hd') ?_
    rintro ⟨m, b⟩
    rw [hrecords.handlers, hrecords'.handlers]
    simp only [(h.perm.filterMap Step.handler?).mem_iff]
  have hconstraints : d.constraints = d'.constraints := by
    apply constraints_eq
    · rw [hsound.size, hsound'.size, hwildcards]
    · intro i hi
      rw [hsound.size] at hi
      obtain ⟨wildcard, hname⟩ : ∃ wildcard, d.wildcards.names[i]? = some wildcard :=
        ⟨_, List.getElem?_eq_getElem hi⟩
      have hname' := hname
      rw [hwildcards] at hname'
      apply Option.ext
      intro fragment
      rw [hrecords.fragments i wildcard hname, hrecords'.fragments i wildcard hname',
        (h.perm.filterMap Step.constraint?).mem_iff]
  have hname : d.name = d'.name := by rw [hrecords.name, hrecords'.name, h.names]
  have htag : d.provenance = d'.provenance := by rw [hrecords.tag, hrecords'.tag, h.tags]
  have hmiddlewares : d.middlewares = d'.middlewares := by
    rw [hrecords.middlewares, hrecords'.middlewares, h.middlewares]
  cases d
  cases d'
  congr 1

end Reordered

end Draft

/-! ## 4. HEAD where there is GET -/

theorem Bindings.has_head_withHead {bs : Bindings} (h : has (withHead bs) .get = true) :
    has (withHead bs) .head = true := by
  unfold withHead at h ⊢
  split
  · split
    · assumption
    · rename_i b _ hfree
      rw [has_iff]
      exact ⟨_, (mem_insert_iff (by simpa using hfree)).mpr (Or.inl rfl)⟩
  · rename_i hnone
    rw [hnone] at h
    simp [has, hnone] at h

theorem Draft.answers_head_of_get {d : Draft} (h : d.finish.answers .get = true) :
    d.finish.answers .head = true := by
  rw [Route.answers, Bool.or_eq_true] at h ⊢
  rcases h with hnone | hget
  · exact Or.inl hnone
  · exact Or.inr (Bindings.has_head_withHead hget)

namespace Registry

theorem exists_draft_of_mem_calls {reg : Registry} {cs : List Call}
    (hreg : ∀ r ∈ reg.routes.toList, ∃ d : Draft, r = d.finish) :
    ∀ r ∈ (reg.calls cs).1.routes.toList, ∃ d : Draft, r = d.finish := by
  induction cs generalizing reg with
  | nil => exact hreg
  | cons c cs ih =>
    apply ih
    cases hcall : (reg.call c).2 with
    | error e =>
      rw [call_eq_error hcall]
      exact hreg
    | ok i =>
      obtain ⟨-, s, hroute, hroutes⟩ := call_eq_ok hcall
      rw [hroutes, Array.toList_push]
      intro r hr
      rcases List.mem_append.mp hr with hr | hr
      · exact hreg r hr
      · obtain rfl := List.mem_singleton.mp hr
        exact Call.exists_draft hroute

/-- A path that is resolved for GET is resolved for HEAD. -/
theorem exists_resolve_head {reg : Registry}
    (hreg : ∀ r ∈ reg.routes.toList, ∃ d : Draft, r = d.finish) {router : Router}
    (hseal : reg.toRouter = .ok router) {path : String} {res : Resolved}
    (hget : router.resolve path (some .get) = .ok res) :
    ∃ res', router.resolve path (some .head) = .ok res' := by
  rw [resolve_eq_ok_iff, find?_eq_findSome? hseal] at hget
  obtain ⟨⟨r, i⟩, hr, hby⟩ := List.exists_of_findSome?_eq_some hget
  have hi : reg.routes[i]? = some r := by
    simpa using List.mk_mem_zipIdx_iff_getElem?.mp hr
  obtain ⟨-, -, hanswer⟩ := eq_of_resolvedBy hby
  have hmethod : r.answers .get = true := by
    by_contra hno
    simp [resolvedBy, Router.considered, hno] at hby
  obtain ⟨d, rfl⟩ := hreg r (List.fst_mem_of_mem_zipIdx hr)
  have hconsidered : Router.considered (some .head) d.finish = true :=
    Draft.answers_head_of_get hmethod
  obtain ⟨res', hhead, -⟩ := exists_resolve_le hseal hi hconsidered hanswer
  exact ⟨res', hhead⟩

end Registry

namespace Draft

/-- Whether all steps are taken does not depend on their order, and neither does the finished
    route.  Its handlers are those that the steps bind, and that of GET for HEAD if no step
    binds HEAD, wherever the steps stand.  So whatever drafts are registered, the router
    answers HEAD where it answers GET. -/
theorem build_order_independent {uri : String} {steps steps' : List Step}
    (h : Reordered steps steps') :
    ((∃ d, build uri steps = .ok d) ↔ ∃ d, build uri steps' = .ok d) ∧
    (∀ d d', build uri steps = .ok d → build uri steps' = .ok d' → d.finish = d'.finish) ∧
    (∀ d, build uri steps = .ok d →
      Bindings.Sorted d.finish.methods ∧
      ∀ m b, (m, b) ∈ d.finish.methods ↔
        (∃ handler, (m, handler) ∈ steps.filterMap Step.handler? ∧ b = ⟨handler, false⟩) ∨
          m = .head ∧
            (∃ handler, (.get, handler) ∈ steps.filterMap Step.handler? ∧ b = ⟨handler, true⟩) ∧
            ∀ handler, (.head, handler) ∉ steps.filterMap Step.handler?) ∧
    ∀ (cs : List Registry.Call) (router : Router),
      (Registry.empty.calls cs).1.toRouter = .ok router →
      ∀ path res, router.resolve path (some .get) = .ok res →
        ∃ res', router.resolve path (some .head) = .ok res' := by
  refine ⟨h.exists_build_iff, ?_, ?_, ?_⟩
  · intro d d' hd hd'
    rw [h.eq_of_build hd hd']
  · intro d hd
    exact ⟨sorted_of_build hd, fun m b => mem_methods_finish_iff hd⟩
  · intro cs router hseal path res hget
    have hroutes : ∀ r ∈ (Registry.empty.calls cs).1.routes.toList, ∃ d : Draft, r = d.finish :=
      Registry.exists_draft_of_mem_calls (by simp [Registry.empty])
    exact Registry.exists_resolve_head hroutes hseal hget

/-- The steps of one declaration, with HEAD left to GET, and in another order. -/
def postSteps : List Step :=
  [.method .get "show", .constraint "id" "[0-9]+", .middleware "auth", .name "post",
    .methodToken "PUT" "update", .middleware "log"]

def postStepsReordered : List Step :=
  [.middleware "auth", .methodToken "PUT" "update", .middleware "log", .name "post",
    .constraint "id" "[0-9]+", .method .get "show"]

def postDraft : Draft :=
  ⟨"/posts/{id}", some "post", ⟨"/posts/{0}", ["id"], [false]⟩, ⟨[some "[0-9]+"]⟩,
    [(.get, ⟨"show", false⟩), (.put, ⟨"update", false⟩)], ["auth", "log"], none⟩

theorem build_order_independent_post :
    Reordered postSteps postStepsReordered ∧
    build "/posts/{id}" postSteps = .ok postDraft ∧
    (∃ d, build "/posts/{id}" postStepsReordered = .ok d ∧ d.finish = postDraft.finish) ∧
    (.head, ⟨"show", true⟩) ∈ postDraft.finish.methods ∧
    ∃ router, (Registry.empty.calls [.add postDraft]).1.toRouter = .ok router ∧
      (∃ res, router.resolve "/posts/7" (some .get) = .ok res) ∧
      ∃ res, router.resolve "/posts/7" (some .head) = .ok res := by
  have hreordered : Reordered postSteps postStepsReordered :=
    ⟨by decide, by decide, by decide, by decide⟩
  have hbuild : build "/posts/{id}" postSteps = .ok postDraft := by decide +kernel
  obtain ⟨hiff, hsame, hmethods, hhead⟩ :=
    @build_order_independent "/posts/{id}" _ _ hreordered
  obtain ⟨d, hd⟩ := hiff.mp ⟨postDraft, hbuild⟩
  have hroutes : (Registry.empty.calls [.add postDraft]).1.routes.toList = [postDraft.finish] := by
    cbv
  obtain ⟨router, hseal⟩ : ∃ router,
      (Registry.empty.calls [.add postDraft]).1.toRouter = .ok router := by
    rw [Registry.exists_toRouter_iff, hroutes, List.forall_mem_singleton]
    exact Route.seals_of_ready (by cbv)
  obtain ⟨res, hget⟩ : ∃ res, router.resolve "/posts/7" (some .get) = .ok res := by
    refine ⟨⟨0, postDraft.finish, [("id", "7")]⟩, ?_⟩
    rw [Registry.resolve_eq_ok_iff, Registry.find?_eq_findSome? hseal, hroutes]
    cbv
  refine ⟨hreordered, hbuild, ⟨d, hd, (hsame _ _ hbuild hd).symm⟩, ?_, router, hseal,
    ⟨res, hget⟩, hhead _ _ hseal _ _ hget⟩
  have hhandlers : postSteps.filterMap Step.handler? = [(.get, "show"), (.put, "update")] := by
    decide
  have hbound := (hmethods _ hbuild).2
  simp only [hhandlers] at hbound
  exact (hbound _ _).mpr (Or.inr ⟨rfl, ⟨"show", by simp, rfl⟩, by simp⟩)

end Draft

end Wayfinder
