/-
  Wayfinder/Proofs/Registration.lean
  ==================================
  **Runs of registrations.**

  A run adds drafts to a registry one after the other.  The routes of the result are the
  finished drafts in order, and the index of patterns lists, for every pattern, the
  numbers of the routes that have it as a variant.  A route is only registered when
  none of its patterns belongs to an earlier route with a common method, so after any
  run no two routes that can answer a common method share a pattern.
-/
import Std.Data.HashMap.Lemmas
import Wayfinder.Proofs.Declaration
import Wayfinder.Registry

namespace Wayfinder

open Wayfinder.Pattern

/-! ## 1. Common methods -/

theorem Bindings.has_iff {bs : Bindings} {m : Method} :
    Bindings.has bs m = true ↔ ∃ b, (m, b) ∈ bs := by
  simp [Bindings.has, Bindings.get?, List.find?_isSome]

/-- Two routes share a method when some method is answered by both. -/
theorem Route.sharesMethod_iff {r s : Route} :
    r.sharesMethod s = true ↔ ∃ m, r.answers m = true ∧ s.answers m = true := by
  simp only [sharesMethod, answers, Bool.or_eq_true, List.isEmpty_iff, List.any_eq_true]
  constructor
  · rintro ((hr | hs) | ⟨⟨m, b⟩, hb, hm⟩)
    · cases hmethods : s.methods with
      | nil => exact ⟨.get, Or.inl hr, Or.inl rfl⟩
      | cons b bs => exact ⟨b.1, Or.inl hr, Or.inr (Bindings.has_iff.mpr ⟨b.2, by simp⟩)⟩
    · cases hmethods : r.methods with
      | nil => exact ⟨.get, Or.inl rfl, Or.inl hs⟩
      | cons b bs => exact ⟨b.1, Or.inr (Bindings.has_iff.mpr ⟨b.2, by simp⟩), Or.inl hs⟩
    · exact ⟨m, Or.inr (Bindings.has_iff.mpr ⟨b, hb⟩), Or.inr hm⟩
  · rintro ⟨m, hr | hr, hs | hs⟩
    · exact Or.inl (Or.inl hr)
    · exact Or.inl (Or.inl hr)
    · exact Or.inl (Or.inr hs)
    · obtain ⟨b, hb⟩ := Bindings.has_iff.mp hr
      exact Or.inr ⟨(m, b), hb, hs⟩

/-- Whether two routes share no pattern, if they share a method. -/
def Route.Apart (r s : Route) : Prop :=
  r.sharesMethod s = true → ∀ v ∈ r.variants, ∀ w ∈ s.variants, v.pattern ≠ w.pattern

theorem Route.sharesMethod_comm (r s : Route) : r.sharesMethod s = s.sharesMethod r := by
  rw [Bool.eq_iff_iff, Route.sharesMethod_iff, Route.sharesMethod_iff]
  exact exists_congr fun m => and_comm

namespace Registry

/-! ## 2. Runs -/

/-- Add drafts in order, up to the first that is refused. -/
def addAll (reg : Registry) (ds : List Draft) : Except RouteError Registry :=
  ds.foldlM (fun reg d => do return (← reg.add d).1) reg

/-- What registering a route does when nothing is in its way. -/
theorem register_eq_ok_iff {reg reg' : Registry} {route : Route} {i : Nat} :
    reg.register route = .ok (reg', i) ↔
      reg.conflict? route = none ∧ i = reg.size ∧
      reg' =
        { routes := reg.routes.push route
          names := match route.name with
            | some name => reg.names.insert name reg.size
            | none => reg.names
          patterns := route.variants.foldl (notePattern reg.size) reg.patterns } := by
  unfold register
  cases reg.conflict? route with
  | some e => simp
  | none =>
    simp only [Except.ok.injEq, Prod.mk.injEq, true_and]
    exact ⟨fun h => ⟨h.2.symm, h.1.symm⟩, fun h => ⟨h.2.symm, h.1.symm⟩⟩

theorem addAll_cons_eq_ok_iff {reg reg' : Registry} {d : Draft} {ds : List Draft} :
    reg.addAll (d :: ds) = .ok reg' ↔
      ∃ mid i, reg.register d.finish = .ok (mid, i) ∧ mid.addAll ds = .ok reg' := by
  simp only [addAll, List.foldlM_cons, bind_eq_ok_iff, add, pure, Except.pure, Except.ok.injEq,
    Prod.exists]
  constructor
  · rintro ⟨mid, ⟨mid', i, h, rfl⟩, hrest⟩
    exact ⟨mid', i, h, hrest⟩
  · rintro ⟨mid, i, h, hrest⟩
    exact ⟨mid, ⟨mid, i, h, rfl⟩, hrest⟩

theorem routes_of_addAll {ds : List Draft} {reg reg' : Registry} (h : reg.addAll ds = .ok reg') :
    reg'.routes.toList = reg.routes.toList ++ ds.map Draft.finish := by
  induction ds generalizing reg with
  | nil =>
    obtain rfl := Except.ok.inj h
    simp
  | cons d ds ih =>
    obtain ⟨mid, i, hmid, hrest⟩ := addAll_cons_eq_ok_iff.mp h
    obtain ⟨-, -, rfl⟩ := register_eq_ok_iff.mp hmid
    simp [ih hrest]

theorem routes_of_empty_addAll {ds : List Draft} {reg : Registry}
    (h : empty.addAll ds = .ok reg) : reg.routes.toList = ds.map Draft.finish := by
  simpa [empty] using routes_of_addAll h

theorem exists_draft_of_getElem? {ds : List Draft} {reg : Registry}
    (h : empty.addAll ds = .ok reg) {i : Nat} {r : Route} (hi : reg.routes[i]? = some r) :
    ∃ d ∈ ds, r = d.finish := by
  rw [← Array.getElem?_toList, routes_of_empty_addAll h] at hi
  obtain ⟨d, hd, rfl⟩ := List.mem_map.mp (List.mem_of_getElem? hi)
  exact ⟨d, hd, rfl⟩

/-! ## 3. The index of patterns -/

/-- Whether a route has a variant with a pattern. -/
def hasPattern (pattern : String) (route : Route) : Bool :=
  route.variants.any fun v => v.pattern == pattern

theorem hasPattern_iff {pattern : String} {route : Route} :
    hasPattern pattern route = true ↔ ∃ v ∈ route.variants, v.pattern = pattern := by
  simp [hasPattern]

/-- The numbers of the routes that have a pattern, counting from `i`. -/
def holdersFrom (pattern : String) (i : Nat) : List Route → List Nat
  | [] => []
  | r :: rs =>
    if hasPattern pattern r then i :: holdersFrom pattern (i + 1) rs
    else holdersFrom pattern (i + 1) rs

theorem holdersFrom_append (pattern : String) (i : Nat) (rs ss : List Route) :
    holdersFrom pattern i (rs ++ ss) =
      holdersFrom pattern i rs ++ holdersFrom pattern (i + rs.length) ss := by
  induction rs generalizing i with
  | nil => simp [holdersFrom]
  | cons r rs ih =>
    rw [List.cons_append, holdersFrom, holdersFrom, ih, List.length_cons,
      show i + 1 + rs.length = i + (rs.length + 1) by omega]
    split <;> rfl

theorem mem_holdersFrom {pattern : String} {i j : Nat} {rs : List Route} :
    j ∈ holdersFrom pattern i rs ↔
      ∃ k r, j = i + k ∧ rs[k]? = some r ∧ hasPattern pattern r = true := by
  induction rs generalizing i with
  | nil => simp [holdersFrom]
  | cons r rs ih =>
    have hsplit : (∃ k s, j = i + k ∧ (r :: rs)[k]? = some s ∧ hasPattern pattern s = true) ↔
        (j = i ∧ hasPattern pattern r = true) ∨
          ∃ k s, j = i + 1 + k ∧ rs[k]? = some s ∧ hasPattern pattern s = true := by
      constructor
      · rintro ⟨k, s, rfl, hget, hs⟩
        cases k with
        | zero =>
          obtain rfl : r = s := by simpa using hget
          exact Or.inl ⟨rfl, hs⟩
        | succ k => exact Or.inr ⟨k, s, by omega, by simpa using hget, hs⟩
      · rintro (⟨rfl, hr⟩ | ⟨k, s, rfl, hget, hs⟩)
        · exact ⟨0, r, rfl, rfl, hr⟩
        · exact ⟨k + 1, s, by omega, by simpa using hget, hs⟩
    rw [hsplit, holdersFrom, ← ih]
    by_cases hr : hasPattern pattern r = true <;> simp [hr]

theorem getD_foldl_notePattern (i : Nat) (pattern : String) {vs : List AnchoredVariant}
    (hnodup : (vs.map (·.pattern)).Nodup) (patterns : Std.HashMap String (List Nat)) :
    (vs.foldl (notePattern i) patterns)[pattern]?.getD [] =
      patterns[pattern]?.getD [] ++ (if vs.any fun v => v.pattern == pattern then [i] else []) := by
  induction vs generalizing patterns with
  | nil => simp
  | cons v vs ih =>
    rw [List.map_cons, List.nodup_cons] at hnodup
    rw [List.foldl_cons, ih hnodup.2, notePattern, Std.HashMap.getElem?_insert, List.any_cons]
    by_cases hv : v.pattern = pattern
    · -- no later variant has the pattern again
      have hlater : (vs.any fun u => u.pattern == pattern) = false := by
        rw [List.any_eq_false]
        intro u hu heq
        exact hnodup.1 (List.mem_map.mpr ⟨u, hu, by rw [hv]; simpa using heq⟩)
      simp [hv, hlater]
    · simp [hv]

/-- The index of patterns and the separation that it enforces. -/
structure Indexed (reg : Registry) : Prop where
  holders : ∀ pattern, reg.patterns[pattern]?.getD [] = holdersFrom pattern 0 reg.routes.toList
  apart : reg.routes.toList.Pairwise Route.Apart

theorem indexed_empty : empty.Indexed where
  holders pattern := by simp [empty, holdersFrom]
  apart := .nil

/-- A route that meets no conflict shares no pattern with an earlier route of a common
    method. -/
theorem Indexed.ne_of_conflict?_eq_none {reg : Registry} (h : reg.Indexed) {route : Route}
    (hfree : reg.conflict? route = none) {r : Route} (hr : r ∈ reg.routes.toList)
    (hshares : r.sharesMethod route = true) {v w : AnchoredVariant} (hv : v ∈ r.variants)
    (hw : w ∈ route.variants) : v.pattern ≠ w.pattern := by
  intro heq
  unfold conflict? at hfree
  split at hfree
  · cases hfree
  · rw [List.findSome?_eq_none_iff] at hfree
    have hnone := hfree w hw
    simp only [patternHolder?, h.holders, Option.map_eq_none_iff, List.find?_eq_none,
      List.mem_filterMap] at hnone
    obtain ⟨k, hk⟩ := List.mem_iff_getElem?.mp hr
    refine hnone r ⟨k, ?_, by simpa using hk⟩ hshares
    exact mem_holdersFrom.mpr ⟨k, r, by omega, hk, hasPattern_iff.mpr ⟨v, hv, heq⟩⟩

/-- A route registers where its name is free and no earlier route of a common method has
    one of its patterns. -/
theorem Indexed.exists_register {reg : Registry} (h : reg.Indexed) {route : Route}
    (hname : reg.nameHolder? route = none)
    (hfree : ∀ r ∈ reg.routes.toList, r.Apart route) :
    ∃ reg', reg.register route = .ok (reg', reg.size) := by
  refine ⟨_, register_eq_ok_iff.mpr ⟨?_, rfl, rfl⟩⟩
  unfold conflict?
  rw [hname, List.findSome?_eq_none_iff]
  intro w hw
  simp only [patternHolder?, h.holders, Option.map_eq_none_iff, List.find?_eq_none,
    List.mem_filterMap]
  rintro r ⟨k, hk, hget⟩ hshares
  obtain ⟨k', r', rfl, hget', hr'⟩ := mem_holdersFrom.mp hk
  rw [Nat.zero_add, ← Array.getElem?_toList, hget'] at hget
  obtain rfl := Option.some.inj hget
  obtain ⟨v, hv, hpattern⟩ := hasPattern_iff.mp hr'
  exact hfree r' (List.mem_of_getElem? hget') hshares v hv w hw hpattern

/-- Two routes at different places that answer a common method share no pattern. -/
theorem Indexed.pattern_ne {reg : Registry} (h : reg.Indexed) {i j : Nat} {r s : Route}
    (hi : reg.routes[i]? = some r) (hj : reg.routes[j]? = some s) (hij : i ≠ j)
    (hshares : r.sharesMethod s = true) {v w : AnchoredVariant} (hv : v ∈ r.variants)
    (hw : w ∈ s.variants) : v.pattern ≠ w.pattern := by
  rw [← Array.getElem?_toList] at hi hj
  obtain ⟨hilt, rfl⟩ := List.getElem?_eq_some_iff.mp hi
  obtain ⟨hjlt, rfl⟩ := List.getElem?_eq_some_iff.mp hj
  have hapart := List.pairwise_iff_getElem.mp h.apart
  rcases Nat.lt_or_gt_of_ne hij with hlt | hlt
  · exact hapart i j hilt hjlt hlt hshares v hv w hw
  · rw [Route.sharesMethod_comm] at hshares
    exact (hapart j i hjlt hilt hlt hshares w hw v hv).symm

theorem Indexed.register {reg reg' : Registry} (h : reg.Indexed) {route : Route} {i : Nat}
    (hnodup : (route.variants.map (·.pattern)).Nodup)
    (hreg : reg.register route = .ok (reg', i)) : reg'.Indexed := by
  obtain ⟨hfree, -, rfl⟩ := register_eq_ok_iff.mp hreg
  refine ⟨?_, ?_⟩
  · intro pattern
    rw [getD_foldl_notePattern _ _ hnodup, h.holders, Array.toList_push, holdersFrom_append,
      Nat.zero_add, Array.length_toList]
    rfl
  · rw [Array.toList_push, List.pairwise_append]
    refine ⟨h.apart, List.pairwise_singleton _ _, ?_⟩
    intro r hr s hs hshares v hv w hw
    obtain rfl := List.mem_singleton.mp hs
    exact h.ne_of_conflict?_eq_none hfree hr hshares hv hw

theorem nodup_patterns_finish (d : Draft) : (d.finish.variants.map (·.pattern)).Nodup := by
  have hpatterns : d.finish.variants.map (·.pattern) =
      (expand d.wildcards.positionalForm d.wildcards.optional).map (·.pattern) := by
    simp [Draft.finish, Variant.anchor, Function.comp_def]
  rw [hpatterns]
  exact nodup_patterns_expand _ _

/-- Drafts without names whose routes are apart from one another register in any order. -/
theorem Indexed.exists_addAll {reg : Registry} (h : reg.Indexed) {ds : List Draft}
    (hnames : ∀ d ∈ ds, d.name = none)
    (hfree : (reg.routes.toList ++ ds.map Draft.finish).Pairwise Route.Apart) :
    ∃ reg', reg.addAll ds = .ok reg' := by
  induction ds generalizing reg with
  | nil => exact ⟨reg, rfl⟩
  | cons d ds ih =>
    have hname : reg.nameHolder? d.finish = none := by
      rw [nameHolder?, show d.finish.name = none from hnames d List.mem_cons_self]
      rfl
    have hnew : ∀ r ∈ reg.routes.toList, r.Apart d.finish := fun r hr =>
      (List.pairwise_append.mp hfree).2.2 r hr d.finish (by simp)
    obtain ⟨mid, hmid⟩ := h.exists_register hname hnew
    have hroutes : mid.routes.toList = reg.routes.toList ++ [d.finish] := by
      obtain ⟨-, -, rfl⟩ := register_eq_ok_iff.mp hmid
      simp
    obtain ⟨reg', hrest⟩ := ih (h.register (nodup_patterns_finish d) hmid)
      (fun e he => hnames e (List.mem_cons_of_mem _ he)) (by simpa [hroutes] using hfree)
    exact ⟨reg', addAll_cons_eq_ok_iff.mpr ⟨mid, _, hmid, hrest⟩⟩

theorem Indexed.addAll {reg reg' : Registry} (h : reg.Indexed) {ds : List Draft}
    (hrun : reg.addAll ds = .ok reg') : reg'.Indexed := by
  induction ds generalizing reg with
  | nil =>
    obtain rfl := Except.ok.inj hrun
    exact h
  | cons d ds ih =>
    obtain ⟨mid, i, hmid, hrest⟩ := addAll_cons_eq_ok_iff.mp hrun
    exact ih (h.register (nodup_patterns_finish d) hmid) hrest

end Registry

end Wayfinder
