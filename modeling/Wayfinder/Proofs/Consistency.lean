/-
  Wayfinder/Proofs/Consistency.lean
  =================================
  **What the open registry knows of its routes.**

  The registry keeps an index of names and an index of patterns.  While both agree with
  the routes, a new route is refused exactly when it cannot stand beside some route: the
  two have one name, or one pattern for a common method.  The reason told is the first
  there is, and a route that is accepted leaves both indices in agreement.
-/
import Mathlib.Data.List.Perm.Basic
import Wayfinder.Proofs.Registration

namespace Wayfinder

open Wayfinder.Pattern

/-! ## 1. Routes that can stand side by side -/

/-- Whether two routes can be registered together: they do not have one name, and no
    method is answered by both if they have one pattern. -/
structure Route.Compatible (r s : Route) : Prop where
  name_ne : ∀ name, r.name = some name → s.name ≠ some name
  apart : ∀ v ∈ r.variants, ∀ w ∈ s.variants, v.pattern = w.pattern →
    ∀ m, r.answers m = true → s.answers m = false

theorem Route.Compatible.symm {r s : Route} (h : r.Compatible s) : s.Compatible r where
  name_ne name hs hr := h.name_ne name hr hs
  apart w hw v hv hpattern m hs := by
    by_contra hr
    rw [h.apart v hv w hw hpattern.symm m (by simpa using hr)] at hs
    cases hs

theorem Route.apart_iff {r s : Route} :
    r.Apart s ↔ ∀ v ∈ r.variants, ∀ w ∈ s.variants, v.pattern = w.pattern →
      ∀ m, r.answers m = true → s.answers m = false := by
  constructor
  · intro h v hv w hw hpattern m hr
    by_contra hs
    exact h (Route.sharesMethod_iff.mpr ⟨m, hr, by simpa using hs⟩) v hv w hw hpattern
  · intro h hshares v hv w hw hpattern
    obtain ⟨m, hr, hs⟩ := Route.sharesMethod_iff.mp hshares
    rw [h v hv w hw hpattern m hr] at hs
    cases hs

theorem Route.compatible_iff {r s : Route} :
    r.Compatible s ↔ (∀ name, r.name = some name → s.name ≠ some name) ∧ r.Apart s := by
  rw [Route.apart_iff]
  exact ⟨fun h => ⟨h.name_ne, h.apart⟩, fun h => ⟨h.1, h.2⟩⟩

namespace Registry

/-! ## 2. Both indices -/

/-- The index of patterns and the index of names agree with the routes.  The index of names
    is the one that sealing makes anew. -/
structure Consistent (reg : Registry) : Prop extends Indexed reg where
  named : ∀ name i, reg.names[name]? = some i ↔
    ∃ r : Route, reg.routes[i]? = some r ∧ r.name = some name
  table : reg.names = Router.nameTable ∅ 0 reg.routes.toList

theorem consistent_empty : empty.Consistent where
  toIndexed := indexed_empty
  named name i := by simp [empty]
  table := rfl

theorem nameTable_concat (names : Std.HashMap String Nat) (n : Nat) (rs : List Route) (r : Route) :
    Router.nameTable names n (rs ++ [r]) =
      match r.name with
      | some name => (Router.nameTable names n rs).insert name (n + rs.length)
      | none => Router.nameTable names n rs := by
  induction rs generalizing names n with
  | nil => cases hname : r.name <;> simp [Router.nameTable, hname]
  | cons s rs ih =>
    rw [List.cons_append, Router.nameTable, Router.nameTable]
    cases s.name <;> simp only [ih, List.length_cons, Nat.add_assoc, Nat.add_comm 1]

theorem pairwise_holdersFrom (pattern : String) (i : Nat) (rs : List Route) :
    (holdersFrom pattern i rs).Pairwise (· < ·) := by
  induction rs generalizing i with
  | nil => exact .nil
  | cons r rs ih =>
    rw [holdersFrom]
    split
    · refine List.pairwise_cons.mpr ⟨?_, ih (i + 1)⟩
      intro j hj
      obtain ⟨k, s, rfl, -, -⟩ := mem_holdersFrom.mp hj
      omega
    · exact ih (i + 1)

theorem Indexed.mem_patterns_iff {reg : Registry} (h : reg.Indexed) {pattern : String} {i : Nat} :
    i ∈ reg.patterns[pattern]?.getD [] ↔
      ∃ r, reg.routes[i]? = some r ∧ ∃ v ∈ r.variants, v.pattern = pattern := by
  rw [h.holders, mem_holdersFrom]
  simp [hasPattern_iff]

theorem Consistent.eq_of_name {reg : Registry} (h : reg.Consistent) {name : String} {i j : Nat}
    {r s : Route} (hi : reg.routes[i]? = some r) (hj : reg.routes[j]? = some s)
    (hr : r.name = some name) (hs : s.name = some name) : i = j :=
  Option.some.inj (((h.named name i).mpr ⟨r, hi, hr⟩).symm.trans ((h.named name j).mpr ⟨s, hj, hs⟩))

theorem Consistent.nameHolder?_eq_some_iff {reg : Registry} (h : reg.Consistent) {route : Route}
    {name : String} {holder : Route} :
    reg.nameHolder? route = some (name, holder) ↔
      route.name = some name ∧ holder ∈ reg.routes.toList ∧ holder.name = some name := by
  simp only [nameHolder?, Option.bind_eq_some_iff, Option.map_eq_some_iff, Prod.mk.injEq]
  constructor
  · rintro ⟨_, hname, r, ⟨i, hi, hget⟩, rfl, rfl⟩
    obtain ⟨s, hs, hholder⟩ := (h.named _ _).mp hi
    obtain rfl := Option.some.inj (hs.symm.trans hget)
    exact ⟨hname, List.mem_of_getElem? (by simpa using hget), hholder⟩
  · rintro ⟨hname, hmem, hholder⟩
    obtain ⟨i, hi⟩ := List.mem_iff_getElem?.mp hmem
    rw [Array.getElem?_toList] at hi
    exact ⟨name, hname, holder, ⟨i, (h.named name i).mpr ⟨holder, hi, hholder⟩, hi⟩, rfl, rfl⟩

theorem Consistent.nameHolder?_eq_none_iff {reg : Registry} (h : reg.Consistent) {route : Route} :
    reg.nameHolder? route = none ↔
      ∀ r ∈ reg.routes.toList, ∀ name, r.name = some name → route.name ≠ some name := by
  rw [Option.eq_none_iff_forall_ne_some]
  simp only [Prod.forall, ne_eq, h.nameHolder?_eq_some_iff]
  constructor
  · intro hfree r hr name hname hroute
    exact hfree name r ⟨hroute, hr, hname⟩
  · rintro hfree name r ⟨hroute, hr, hname⟩
    exact hfree r hr name hname hroute

/-! ## 3. Why a route is refused -/

/-- Whether the route with a number has a pattern and answers a method of a new route. -/
structure Blocks (reg : Registry) (route : Route) (pattern : String) (i : Nat) (holder : Route) :
    Prop where
  get : reg.routes[i]? = some holder
  pattern : ∃ v ∈ holder.variants, v.pattern = pattern
  method : ∃ m, holder.answers m = true ∧ route.answers m = true

/-- Why a new route is refused.  A taken name comes first; else it is the first variant
    that is blocked, and the earliest route that blocks it. -/
inductive Refuses (reg : Registry) (route : Route) : RouteError → Prop where
  | name {name : String} {holder : Route} (hholder : holder ∈ reg.routes.toList)
      (hname : holder.name = some name) (hroute : route.name = some name) :
      Refuses reg route (.duplicateName route.uri name holder.uri)
  | variant {i : Nat} {holder : Route} {before after : List AnchoredVariant} {v : AnchoredVariant}
      (hfree : ∀ r ∈ reg.routes.toList, ∀ name, r.name = some name → route.name ≠ some name)
      (hvariants : route.variants = before ++ v :: after)
      (hbefore : ∀ w ∈ before, ∀ j r, ¬reg.Blocks route w.pattern j r)
      (hblocks : reg.Blocks route v.pattern i holder)
      (hearliest : ∀ j r, reg.Blocks route v.pattern j r → i ≤ j) :
      Refuses reg route (.duplicateVariant route.uri v.pattern holder.uri)

section Holders

variable {reg : Registry} {route : Route} {pattern : String}

theorem Indexed.filterMap_patterns (h : reg.Indexed) (pattern : String) :
    (reg.patterns[pattern]?.getD []).filterMap (fun i => reg.routes[i]?) =
      reg.routes.toList.filter (hasPattern pattern) := by
  have hnumbered : ∀ (rs : List Route) (i : Nat), (∀ k, reg.routes[i + k]? = rs[k]?) →
      (holdersFrom pattern i rs).filterMap (fun i => reg.routes[i]?) =
        rs.filter (hasPattern pattern) := by
    intro rs
    induction rs with
    | nil => intro i _; rfl
    | cons r rs ih =>
      intro i hget
      have hhere : reg.routes[i]? = some r := hget 0
      have hrest := ih (i + 1) fun k => by
        rw [Nat.add_right_comm]
        exact hget (k + 1)
      rw [holdersFrom, List.filter_cons]
      split
      · rw [List.filterMap_cons, hhere, hrest]
      · exact hrest
  rw [h.holders]
  exact hnumbered _ 0 (by simp)

theorem Indexed.patternHolder?_eq (h : reg.Indexed) (route : Route) (pattern : String) :
    reg.patternHolder? route pattern =
      reg.routes.toList.find? fun r => hasPattern pattern r && r.sharesMethod route := by
  simp [patternHolder?, h.filterMap_patterns, List.find?_filter]

theorem blocks_iff {i : Nat} {holder : Route} :
    reg.Blocks route pattern i holder ↔
      reg.routes[i]? = some holder ∧
        (hasPattern pattern holder && holder.sharesMethod route) = true := by
  rw [Bool.and_eq_true, hasPattern_iff, Route.sharesMethod_iff]
  exact ⟨fun h => ⟨h.get, h.pattern, h.method⟩, fun h => ⟨h.1, h.2.1, h.2.2⟩⟩

theorem Indexed.patternHolder?_eq_none_iff (h : reg.Indexed) :
    reg.patternHolder? route pattern = none ↔ ∀ i r, ¬reg.Blocks route pattern i r := by
  rw [h.patternHolder?_eq, List.find?_eq_none]
  simp only [blocks_iff, not_and]
  constructor
  · intro hnone i r hget
    exact hnone r (List.mem_of_getElem? (by simpa using hget))
  · intro hnone r hr
    obtain ⟨i, hi⟩ := List.mem_iff_getElem?.mp hr
    exact hnone i r (by simpa using hi)

theorem Indexed.patternHolder?_eq_some_iff (h : reg.Indexed) {holder : Route} :
    reg.patternHolder? route pattern = some holder ↔
      ∃ i, reg.Blocks route pattern i holder ∧ ∀ j r, reg.Blocks route pattern j r → i ≤ j := by
  rw [h.patternHolder?_eq, List.find?_eq_some_iff_getElem]
  simp only [blocks_iff, ← Array.getElem?_toList]
  constructor
  · rintro ⟨hholder, i, hi, rfl, hearlier⟩
    refine ⟨i, ⟨List.getElem?_eq_getElem hi, hholder⟩, ?_⟩
    rintro j r ⟨hget, hr⟩
    by_contra hlt
    obtain ⟨hj, rfl⟩ := List.getElem?_eq_some_iff.mp hget
    have hfree := hearlier j (Nat.lt_of_not_le hlt)
    rw [hr] at hfree
    cases hfree
  · rintro ⟨i, ⟨hget, hholder⟩, hearliest⟩
    obtain ⟨hi, rfl⟩ := List.getElem?_eq_some_iff.mp hget
    refine ⟨hholder, i, hi, rfl, ?_⟩
    intro j hj
    by_contra hblocks
    have hle := hearliest j _ ⟨List.getElem?_eq_getElem (hj.trans hi), by simpa using hblocks⟩
    omega

end Holders

/-- A conflict is found exactly where the route is refused, and for that reason. -/
theorem Consistent.conflict?_eq_some_iff {reg : Registry} (h : reg.Consistent) {route : Route}
    {e : RouteError} : reg.conflict? route = some e ↔ reg.Refuses route e := by
  have hfree := @Consistent.nameHolder?_eq_none_iff _ h route
  unfold conflict?
  -- a taken name is told before any variant is looked at
  cases hname : reg.nameHolder? route with
  | some p =>
    obtain ⟨name, holder⟩ := p
    obtain ⟨hroute, hholder, hheld⟩ := h.nameHolder?_eq_some_iff.mp hname
    simp only [Option.some.injEq]
    constructor
    · rintro rfl
      exact .name hholder hheld hroute
    · rintro (⟨hother, hheld', hroute'⟩ | ⟨hfree', -, -, -, -⟩)
      · obtain rfl := Option.some.inj (hroute'.symm.trans hroute)
        obtain ⟨i, hi⟩ := List.mem_iff_getElem?.mp hholder
        obtain ⟨j, hj⟩ := List.mem_iff_getElem?.mp hother
        rw [Array.getElem?_toList] at hi hj
        obtain rfl := h.eq_of_name hi hj hheld hheld'
        obtain rfl := Option.some.inj (hi.symm.trans hj)
        rfl
      · exact absurd hroute (hfree' holder hholder name hheld)
  | none =>
    have hnone := hfree.mp hname
    simp only [List.findSome?_eq_some_iff, Option.map_eq_some_iff, Option.map_eq_none_iff,
      h.patternHolder?_eq_some_iff, h.patternHolder?_eq_none_iff]
    constructor
    · rintro ⟨before, v, after, hvariants, ⟨holder, ⟨i, hblocks, hearliest⟩, rfl⟩, hbefore⟩
      exact .variant hnone hvariants hbefore hblocks hearliest
    · rintro (⟨hholder, hheld, hroute⟩ | ⟨-, hvariants, hbefore, hblocks, hearliest⟩)
      · exact absurd hroute (hnone _ hholder _ hheld)
      · exact ⟨_, _, _, hvariants, ⟨_, ⟨_, hblocks, hearliest⟩, rfl⟩, hbefore⟩

/-! ## 4. Registering one route -/

section Register

variable {reg reg' : Registry} {route : Route}

/-- A route is refused exactly when it cannot stand beside some route before it. -/
theorem Consistent.conflict?_eq_none_iff (h : reg.Consistent) :
    reg.conflict? route = none ↔ ∀ r ∈ reg.routes.toList, r.Compatible route := by
  simp only [Route.compatible_iff]
  constructor
  · intro hfree r hr
    refine ⟨?_, fun hshares v hv w hw => h.ne_of_conflict?_eq_none hfree hr hshares hv hw⟩
    unfold conflict? at hfree
    split at hfree
    · cases hfree
    · rename_i hname
      exact h.nameHolder?_eq_none_iff.mp hname r hr
  · intro hcompatible
    obtain ⟨_, hregister⟩ := h.exists_register
      (h.nameHolder?_eq_none_iff.mpr fun r hr => (hcompatible r hr).1) fun r hr => (hcompatible r hr).2
    exact (register_eq_ok_iff.mp hregister).1

theorem exists_getElem?_push_iff {name : String} {j : Nat} :
    (∃ r : Route, (reg.routes.push route)[j]? = some r ∧ r.name = some name) ↔
      (j = reg.size ∧ route.name = some name) ∨
        ∃ r : Route, reg.routes[j]? = some r ∧ r.name = some name := by
  rw [Array.getElem?_push, size]
  constructor
  · rintro ⟨r, hget, hr⟩
    split at hget
    · rename_i hj
      obtain rfl := Option.some.inj hget
      exact Or.inl ⟨hj, hr⟩
    · exact Or.inr ⟨r, hget, hr⟩
  · rintro (⟨hj, hname⟩ | ⟨r, hget, hr⟩)
    · exact ⟨route, if_pos hj, hname⟩
    · have hlt := (Array.getElem?_eq_some_iff.mp hget).1
      exact ⟨r, by rw [if_neg (Nat.ne_of_lt hlt)]; exact hget, hr⟩

theorem Consistent.register {i : Nat} (h : reg.Consistent)
    (hnodup : (route.variants.map (·.pattern)).Nodup)
    (hregister : reg.register route = .ok (reg', i)) : reg'.Consistent where
  toIndexed := h.toIndexed.register hnodup hregister
  named := by
    obtain ⟨hfree, -, rfl⟩ := register_eq_ok_iff.mp hregister
    have hcompatible := h.conflict?_eq_none_iff.mp hfree
    intro name j
    rw [exists_getElem?_push_iff]
    cases hname : route.name with
    | none => simpa using h.named name j
    | some new =>
      rw [Std.HashMap.getElem?_insert]
      by_cases hnew : new = name
      · -- the name was free before
        have hfresh : ¬∃ r : Route, reg.routes[j]? = some r ∧ r.name = some name := by
          rintro ⟨r, hget, hr⟩
          have hr' := (hcompatible r (List.mem_of_getElem? (by simpa using hget))).name_ne name hr
          exact hr' (by rw [hname, hnew])
        simp only [hnew, hfresh, beq_self_eq_true, if_true, Option.some.injEq, and_true, or_false]
        exact eq_comm
      · simp [hnew, h.named]
  table := by
    obtain ⟨-, -, rfl⟩ := register_eq_ok_iff.mp hregister
    rw [Array.toList_push, nameTable_concat, ← h.table, Nat.zero_add, Array.length_toList]
    rfl

theorem Consistent.compatible (h : reg.Consistent) {i j : Nat} {r s : Route}
    (hij : i ≠ j) (hi : reg.routes[i]? = some r) (hj : reg.routes[j]? = some s) :
    r.Compatible s := by
  rw [Route.compatible_iff]
  refine ⟨fun name hr hs => hij (h.eq_of_name hi hj hr hs), ?_⟩
  intro hshares v hv w hw
  exact h.pattern_ne hi hj hij hshares hv hw

theorem Consistent.pairwise_compatible (h : reg.Consistent) :
    reg.routes.toList.Pairwise Route.Compatible := by
  rw [List.pairwise_iff_getElem]
  intro i j hi hj hij
  exact h.compatible (Nat.ne_of_lt hij) (by rw [← Array.getElem?_toList, List.getElem?_eq_getElem hi])
    (by rw [← Array.getElem?_toList, List.getElem?_eq_getElem hj])

/-- A route cannot stand beside all others when its name is taken, or when one of its
    patterns is blocked. -/
theorem not_forall_compatible_iff {r : Route} :
    (¬∀ s ∈ reg.routes.toList, s.Compatible r) ↔
      (∃ s ∈ reg.routes.toList, ∃ name, s.name = some name ∧ r.name = some name) ∨
        ∃ v ∈ r.variants, ∃ i s, reg.Blocks r v.pattern i s := by
  constructor
  · intro hnot
    by_contra hnone
    rw [not_or] at hnone
    obtain ⟨hname, hfree⟩ := hnone
    refine hnot fun s hs => ⟨fun name hsname hrname => hname ⟨s, hs, name, hsname, hrname⟩, ?_⟩
    intro w hw v hv hpattern m hm
    by_contra hanswers
    obtain ⟨i, hi⟩ := List.mem_iff_getElem?.mp hs
    exact hfree ⟨v, hv, i, s, by simpa using hi, ⟨w, hw, hpattern⟩, m, hm, by simpa using hanswers⟩
  · rintro (⟨s, hs, name, hsname, hrname⟩ | ⟨v, hv, i, s, hget, ⟨w, hw, hpattern⟩, m, hsm, hrm⟩) hall
    · exact (hall s hs).name_ne name hsname hrname
    · have hfree := (hall s (List.mem_of_getElem? (by simpa using hget))).apart w hw v hv hpattern m hsm
      rw [hrm] at hfree
      cases hfree

end Register

/-! ## 5. Runs of drafts -/

theorem Consistent.addAll {reg reg' : Registry} (h : reg.Consistent) {ds : List Draft}
    (hrun : reg.addAll ds = .ok reg') : reg'.Consistent := by
  induction ds generalizing reg with
  | nil =>
    obtain rfl := Except.ok.inj hrun
    exact h
  | cons d ds ih =>
    obtain ⟨mid, i, hmid, hrest⟩ := addAll_cons_eq_ok_iff.mp hrun
    exact ih (h.register (nodup_patterns_finish d) hmid) hrest

/-- Drafts register in a run exactly when their routes can stand side by side, and beside
    those that were there. -/
theorem Consistent.exists_addAll_iff {reg : Registry} (h : reg.Consistent) {ds : List Draft} :
    (∃ reg', reg.addAll ds = .ok reg') ↔
      (reg.routes.toList ++ ds.map Draft.finish).Pairwise Route.Compatible := by
  constructor
  · rintro ⟨reg', hrun⟩
    rw [← routes_of_addAll hrun]
    exact (h.addAll hrun).pairwise_compatible
  · intro hall
    induction ds generalizing reg with
    | nil => exact ⟨reg, rfl⟩
    | cons d ds ih =>
      have hfree : reg.conflict? d.finish = none := h.conflict?_eq_none_iff.mpr fun r hr =>
        (List.pairwise_append.mp hall).2.2 r hr d.finish (by simp)
      obtain ⟨mid, hmid⟩ : ∃ mid, reg.register d.finish = .ok (mid, reg.size) :=
        ⟨_, register_eq_ok_iff.mpr ⟨hfree, rfl, rfl⟩⟩
      have hroutes : mid.routes.toList = reg.routes.toList ++ [d.finish] := by
        obtain ⟨-, -, rfl⟩ := register_eq_ok_iff.mp hmid
        simp
      obtain ⟨reg', hrest⟩ := ih (h.register (nodup_patterns_finish d) hmid)
        (by simpa [hroutes] using hall)
      exact ⟨reg', addAll_cons_eq_ok_iff.mpr ⟨mid, _, hmid, hrest⟩⟩

end Registry

end Wayfinder
