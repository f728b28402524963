/-
  Wayfinder/Proofs/Requests.lean
  ==============================
  **Runs of requests to an open registry.**

  Requests to register a route come one after the other, and some of them fail.  Whatever
  came before, the indices agree with the routes, no two routes have one name, and no two
  that answer a common method have one pattern.  So whether all requests of a list are
  met is a question to pairs of routes, and their order does not matter.
-/
import Wayfinder.Proofs.Consistency
import Wayfinder.Proofs.Sealing

namespace Wayfinder

open Wayfinder.Pattern

namespace Registry

/-! ## 1. Requests -/

/-- A request to register a route. -/
inductive Call where
  /-- Register a route that was finished before. -/
  | register (d : Draft)
  | add (d : Draft)
  | declare (uri : String) (name : Option String) (constraints : List (String × String))
deriving DecidableEq, Repr

/-- The route that is asked to be registered, if it can be declared. -/
def Call.route : Call → Except RouteError Route
  | .register d | .add d => .ok d.finish
  | .declare uri name constraints => do
    let naming := (name.map Draft.Step.name).toList
    return (← Draft.build uri (naming ++ constraints.map fun c => .constraint c.1 c.2)).finish

/-- What a request makes of a registry, or why it fails. -/
def Call.perform (reg : Registry) : Call → Except RouteError (Registry × Nat)
  | .register d => reg.register d.finish
  | .add d => reg.add d
  | .declare uri name constraints => reg.declare uri name constraints

/-- The registry after a request, and its answer.  A request that fails changes nothing. -/
def call (reg : Registry) (c : Call) : Registry × Except RouteError Nat :=
  match c.perform reg with
  | .ok (next, i) => (next, .ok i)
  | .error e => (reg, .error e)

/-- The registry after requests, and their answers in order. -/
def calls (reg : Registry) : List Call → Registry × List (Except RouteError Nat)
  | [] => (reg, [])
  | c :: cs => (((reg.call c).1.calls cs).1, (reg.call c).2 :: ((reg.call c).1.calls cs).2)

/-- Every request registers the route that it declares. -/
theorem Call.perform_eq (reg : Registry) (c : Call) :
    c.perform reg = c.route >>= reg.register := by
  cases c with
  | register d => rfl
  | add d => rfl
  | declare uri name constraints =>
    simp only [perform, Registry.declare, route, Registry.add, bind_assoc, pure_bind]

theorem Call.exists_draft {c : Call} {r : Route} (h : c.route = .ok r) :
    ∃ d : Draft, r = d.finish := by
  cases c with
  | register d => exact ⟨d, (Except.ok.inj h).symm⟩
  | add d => exact ⟨d, (Except.ok.inj h).symm⟩
  | declare uri name constraints =>
    obtain ⟨d, -, hd⟩ := bind_eq_ok_iff.mp h
    exact ⟨d, (Except.ok.inj hd).symm⟩

/-- All that a request can do: it declares no route, or its route is in conflict, or it is
    registered. -/
theorem call_cases (reg : Registry) (c : Call) :
    (∃ e, c.route = .error e ∧ reg.call c = (reg, .error e)) ∨
      ∃ r, c.route = .ok r ∧
        ((∃ e, reg.conflict? r = some e ∧ reg.call c = (reg, .error e)) ∨
          (reg.conflict? r = none ∧
            ∃ next, reg.register r = .ok (next, reg.size) ∧ reg.call c = (next, .ok reg.size))) := by
  -- every request goes through registration, which decides by the first conflict
  rw [call, c.perform_eq]
  cases hroute : c.route with
  | error e => exact Or.inl ⟨e, rfl, rfl⟩
  | ok r =>
    refine Or.inr ⟨r, rfl, ?_⟩
    have hbind : (Except.ok r >>= reg.register) = reg.register r := rfl
    rw [hbind]
    cases hconflict : reg.conflict? r with
    | some e =>
      have hregister : reg.register r = .error e := by rw [register, hconflict]
      exact Or.inl ⟨e, rfl, by rw [hregister]⟩
    | none =>
      obtain ⟨next, hregister⟩ : ∃ next, reg.register r = .ok (next, reg.size) :=
        ⟨_, register_eq_ok_iff.mpr ⟨hconflict, rfl, rfl⟩⟩
      exact Or.inr ⟨rfl, next, hregister, by rw [hregister]⟩

section Call

variable {reg : Registry} {c : Call} {r : Route}

theorem Consistent.call (h : reg.Consistent) (c : Call) : (reg.call c).1.Consistent := by
  obtain ⟨e, -, hcall⟩ | ⟨r, hroute, ⟨e, -, hcall⟩ | ⟨-, next, hregister, hcall⟩⟩ :=
    call_cases reg c
  · rw [hcall]
    exact h
  · rw [hcall]
    exact h
  · obtain ⟨d, rfl⟩ := Call.exists_draft hroute
    rw [hcall]
    exact h.register (nodup_patterns_finish d) hregister

/-- A request for a route fails with a reason exactly when the route is refused for it, and
    leaves the registry as it was. -/
theorem Consistent.call_eq_error_iff (h : reg.Consistent) (hroute : c.route = .ok r)
    {e : RouteError} : (reg.call c).2 = .error e ↔ reg.Refuses r e := by
  rw [← h.conflict?_eq_some_iff]
  obtain ⟨e', herror, -⟩ | ⟨r', hroute', hcases⟩ := call_cases reg c
  · rw [hroute] at herror
    cases herror
  · obtain rfl := Except.ok.inj (hroute.symm.trans hroute')
    obtain ⟨e', hconflict, hcall⟩ | ⟨hconflict, next, -, hcall⟩ := hcases
    · simp [hconflict, hcall]
    · simp [hconflict, hcall]

theorem Consistent.call_eq_ok_iff (h : reg.Consistent) (hroute : c.route = .ok r) :
    (∃ i, (reg.call c).2 = .ok i) ↔ ∀ s ∈ reg.routes.toList, s.Compatible r := by
  rw [← h.conflict?_eq_none_iff]
  obtain ⟨e', herror, -⟩ | ⟨r', hroute', hcases⟩ := call_cases reg c
  · rw [hroute] at herror
    cases herror
  · obtain rfl := Except.ok.inj (hroute.symm.trans hroute')
    obtain ⟨e', hconflict, hcall⟩ | ⟨hconflict, next, -, hcall⟩ := hcases
    · simp [hconflict, hcall]
    · simp [hconflict, hcall]

/-- A request that succeeds appends its route, and answers with its number. -/
theorem call_eq_ok {i : Nat} (hcall : (reg.call c).2 = .ok i) :
    i = reg.size ∧ ∃ r, c.route = .ok r ∧ (reg.call c).1.routes = reg.routes.push r := by
  obtain ⟨e, -, heq⟩ | ⟨r, hroute, ⟨e, -, heq⟩ | ⟨-, next, hregister, heq⟩⟩ := call_cases reg c
  · rw [heq] at hcall
    cases hcall
  · rw [heq] at hcall
    cases hcall
  · obtain ⟨-, -, hnext⟩ := register_eq_ok_iff.mp hregister
    rw [heq] at hcall ⊢
    exact ⟨(Except.ok.inj hcall).symm, r, hroute, by rw [hnext]⟩

theorem call_eq_error {e : RouteError} (hcall : (reg.call c).2 = .error e) :
    (reg.call c).1 = reg := by
  obtain ⟨e, -, heq⟩ | ⟨r, -, ⟨e, -, heq⟩ | ⟨-, next, -, heq⟩⟩ := call_cases reg c
  · rw [heq]
  · rw [heq]
  · rw [heq] at hcall
    cases hcall

end Call

/-! ## 2. Runs of requests -/

theorem Consistent.calls {reg : Registry} (h : reg.Consistent) (cs : List Call) :
    (reg.calls cs).1.Consistent := by
  induction cs generalizing reg with
  | nil => exact h
  | cons c cs ih => exact ih (h.call c)

theorem getElem?_routes_calls {reg : Registry} {cs : List Call} {i : Nat} {r : Route}
    (hi : reg.routes[i]? = some r) : (reg.calls cs).1.routes[i]? = some r := by
  induction cs generalizing reg with
  | nil => exact hi
  | cons c cs ih =>
    refine ih ?_
    cases hcall : (reg.call c).2 with
    | error e => rw [call_eq_error hcall, hi]
    | ok k =>
      obtain ⟨-, s, -, hroutes⟩ := call_eq_ok hcall
      have hlt := (Array.getElem?_eq_some_iff.mp hi).1
      rw [hroutes, Array.getElem?_push, if_neg (Nat.ne_of_lt hlt), hi]

/-- The numbers that requests are answered with follow one another. -/
theorem filterMap_answers (reg : Registry) (cs : List Call) :
    ∃ count, (reg.calls cs).1.size = reg.size + count ∧
      (reg.calls cs).2.filterMap Except.toOption = List.range' reg.size count := by
  induction cs generalizing reg with
  | nil => exact ⟨0, rfl, rfl⟩
  | cons c cs ih =>
    obtain ⟨count, hsize, hanswers⟩ := ih (reg.call c).1
    rw [calls]
    cases hcall : (reg.call c).2 with
    | error e =>
      rw [call_eq_error hcall] at hsize hanswers ⊢
      exact ⟨count, hsize, hanswers⟩
    | ok k =>
      obtain ⟨rfl, s, -, hroutes⟩ := call_eq_ok hcall
      have hnext : (reg.call c).1.size = reg.size + 1 := by rw [size, hroutes, Array.size_push, size]
      rw [hnext] at hsize hanswers
      refine ⟨count + 1, by simp only [hsize]; omega, ?_⟩
      rw [List.filterMap_cons, hanswers]
      rfl

/-- A request that is met leaves its route at the number it is answered with. -/
theorem getElem?_routes_of_answer {reg : Registry} {cs : List Call} {k i : Nat} {c : Call}
    (hc : cs[k]? = some c) (hi : (reg.calls cs).2[k]? = some (.ok i)) :
    ∃ r, c.route = .ok r ∧ (reg.calls cs).1.routes[i]? = some r := by
  induction cs generalizing reg k with
  | nil => cases hc
  | cons c' cs ih =>
    cases k with
    | zero =>
      obtain rfl : c' = c := by simpa using hc
      have hcall : (reg.call c').2 = .ok i := by simpa [calls] using hi
      obtain ⟨rfl, r, hroute, hroutes⟩ := call_eq_ok hcall
      refine ⟨r, hroute, @getElem?_routes_calls (reg.call c').1 cs _ _ ?_⟩
      rw [hroutes, size, Array.getElem?_push_size]
    | succ k => exact ih hc hi

/-- All requests are met exactly when all declare routes, and these can stand beside one
    another and beside the routes that were there. -/
theorem Consistent.forall_answers_iff {reg : Registry} (h : reg.Consistent) (cs : List Call) :
    (∀ answer ∈ (reg.calls cs).2, ∃ i, answer = .ok i) ↔
      (∀ c ∈ cs, ∃ r, c.route = .ok r) ∧
        (reg.routes.toList ++ cs.filterMap (·.route.toOption)).Pairwise Route.Compatible := by
  induction cs generalizing reg with
  | nil => simpa [Registry.calls] using h.pairwise_compatible
  | cons c cs ih =>
    rw [Registry.calls, List.forall_mem_cons, List.forall_mem_cons, ih (h.call c)]
    cases hroute : c.route with
    | error e =>
      obtain ⟨e, -, hcall⟩ | ⟨r, hroute', -⟩ := call_cases reg c
      · simp [hcall]
      · rw [hroute] at hroute'
        cases hroute'
    | ok r =>
      rw [h.call_eq_ok_iff hroute]
      by_cases hcompatible : ∀ s ∈ reg.routes.toList, s.Compatible r
      · obtain ⟨i, hi⟩ := (h.call_eq_ok_iff hroute).mpr hcompatible
        obtain ⟨-, r', hroute', hroutes⟩ := call_eq_ok hi
        obtain rfl := Except.ok.inj (hroute.symm.trans hroute')
        have hnext : (reg.call c).1.routes.toList = reg.routes.toList ++ [r] := by
          rw [hroutes, Array.toList_push]
        rw [hnext, List.append_assoc, List.filterMap_cons_some (by rw [hroute]; rfl)]
        have hbeside : ∀ s ∈ reg.routes, s.Compatible r := by simpa using hcompatible
        simpa using fun _ _ => hbeside
      · -- the route stands beside one that it is not compatible with
        have hapart : ¬(reg.routes.toList ++ (c :: cs).filterMap (·.route.toOption)).Pairwise
            Route.Compatible := by
          intro hall
          refine hcompatible fun s hs => (List.pairwise_append.mp hall).2.2 s hs r ?_
          simp [hroute, Except.toOption]
        simp only [hcompatible, hapart, false_and, and_false]

theorem forall_answers_perm {cs cs' : List Call} (h : cs.Perm cs') :
    (∀ answer ∈ (empty.calls cs).2, ∃ i, answer = .ok i) ↔
      ∀ answer ∈ (empty.calls cs').2, ∃ i, answer = .ok i := by
  have hroutes : (cs.filterMap (·.route.toOption)).Pairwise Route.Compatible ↔
      (cs'.filterMap (·.route.toOption)).Pairwise Route.Compatible :=
    (h.filterMap _).pairwise_iff Route.Compatible.symm
  simp only [consistent_empty.forall_answers_iff, h.mem_iff]
  simpa [empty] using fun _ => hroutes

theorem Consistent.byName?_eq_some_iff {reg : Registry} (h : reg.Consistent) {router : Router}
    (hseal : reg.toRouter = .ok router) {name : String} {i : Nat} {r : Route} :
    router.byName? name = some (i, r) ↔ reg.routes[i]? = some r ∧ r.name = some name := by
  obtain ⟨rows, -, rfl⟩ := toRouter_eq_ok_iff.mp hseal
  rw [Router.byName?, ← h.table]
  simp only [Option.bind_eq_some_iff, Option.map_eq_some_iff, Prod.mk.injEq, h.named]
  constructor
  · rintro ⟨_, ⟨s, hs, hname⟩, r, hr, rfl, rfl⟩
    obtain rfl := Option.some.inj (hs.symm.trans hr)
    exact ⟨hs, hname⟩
  · rintro ⟨hr, hname⟩
    exact ⟨i, ⟨r, hr, hname⟩, r, hr, rfl, rfl⟩

/-- Whatever requests came before, failing ones included: the numbers of the routes are
    those of their registration; both indices agree with the routes; any two routes can
    stand side by side; the next request for a route fails exactly when its name is taken
    or a pattern of it is blocked, with the first reason there is, and changes nothing
    then.  So the order of requests does not decide whether all are met, and a sealed
    registry finds by name exactly the route that has it. -/
theorem calls_invariant (cs : List Call) :
    let reg := (empty.calls cs).1
    let answers := (empty.calls cs).2
    (answers.filterMap Except.toOption = List.range reg.size ∧
      ∀ (k : Nat) (c : Call) (i : Nat), cs[k]? = some c → answers[k]? = some (.ok i) →
        ∃ r : Route, c.route = .ok r ∧ reg.routes[i]? = some r) ∧
    (∀ name i, reg.names[name]? = some i ↔
      ∃ r : Route, reg.routes[i]? = some r ∧ r.name = some name) ∧
    (∀ pattern, (reg.patterns[pattern]?.getD []).Pairwise (· < ·) ∧
      ∀ i, i ∈ reg.patterns[pattern]?.getD [] ↔
        ∃ r : Route, reg.routes[i]? = some r ∧ ∃ v ∈ r.variants, v.pattern = pattern) ∧
    (∀ (i j : Nat) (r s : Route), i ≠ j → reg.routes[i]? = some r → reg.routes[j]? = some s →
      r.Compatible s) ∧
    (∀ c r, c.route = .ok r →
      ((∃ e, (reg.call c).2 = .error e) ↔
        (∃ s ∈ reg.routes.toList, ∃ name, s.name = some name ∧ r.name = some name) ∨
          ∃ v ∈ r.variants, ∃ i s, reg.Blocks r v.pattern i s) ∧
      ∀ e, (reg.call c).2 = .error e ↔ reg.Refuses r e) ∧
    (∀ c e, (reg.call c).2 = .error e → (reg.call c).1 = reg) ∧
    (∀ cs', cs.Perm cs' →
      ((∀ answer ∈ answers, ∃ i, answer = .ok i) ↔
        ∀ answer ∈ (empty.calls cs').2, ∃ i, answer = .ok i)) ∧
    ∀ router, reg.toRouter = .ok router → ∀ name i r,
      router.byName? name = some (i, r) ↔ reg.routes[i]? = some r ∧ r.name = some name := by
  intro reg answers
  have h : reg.Consistent := consistent_empty.calls cs
  refine ⟨⟨?_, fun _ _ _ hc hi => getElem?_routes_of_answer hc hi⟩, h.named, ?_,
    fun _ _ _ _ hij hi hj => h.compatible hij hi hj, ?_, fun _ _ he => call_eq_error he,
    fun _ hperm => forall_answers_perm hperm, fun _ hseal _ _ _ => h.byName?_eq_some_iff hseal⟩
  · obtain ⟨count, hsize, hanswers⟩ := filterMap_answers empty cs
    rw [hanswers, hsize, List.range_eq_range']
    simp [empty, size]
  · intro pattern
    refine ⟨?_, fun i => h.mem_patterns_iff⟩
    rw [h.holders]
    exact pairwise_holdersFrom _ _ _
  · intro c r hroute
    refine ⟨?_, fun e => h.call_eq_error_iff hroute⟩
    rw [← not_forall_compatible_iff, ← h.call_eq_ok_iff hroute]
    cases (reg.call c).2 with
    | ok i => simp
    | error e => simp

end Registry

end Wayfinder
