/-
  Wayfinder/Proofs/Precedence.lean
  ================================
  **Routers of parts of a registry.**

  Routes that register and seal together also do so when some of them are left out.  The
  answer of the whole can be read off the answers of its parts: the routes registered
  first come first, and only those that answer the method count.
-/
import Mathlib
import Wayfinder.Proofs.Consistency
import Wayfinder.Proofs.Sealing

namespace Wayfinder

open Wayfinder.Pattern

/-- The same answer with the route numbered anew. -/
def Resolved.renumber (f : Nat → Nat) (res : Resolved) : Resolved := { res with id := f res.id }

namespace Registry

/-! ## 1. Leaving routes out -/

/-- Drafts that register and seal also do so when some of them are left out. -/
theorem exists_of_sublist {ds es : List Draft} (hsub : es.Sublist ds) {reg : Registry}
    (hrun : empty.addAll ds = .ok reg) {router : Router} (hseal : reg.toRouter = .ok router) :
    ∃ part partRouter, empty.addAll es = .ok part ∧ part.toRouter = .ok partRouter := by
  have hroutes := hsub.map Draft.finish
  have hcompatible := consistent_empty.exists_addAll_iff.mp ⟨reg, hrun⟩
  have hpart : (empty.routes.toList ++ es.map Draft.finish).Pairwise Route.Compatible :=
    hcompatible.sublist (hroutes.append_left _)
  obtain ⟨part, hrun'⟩ := consistent_empty.exists_addAll_iff.mpr hpart
  have hseals := exists_toRouter_iff.mp ⟨router, hseal⟩
  rw [routes_of_empty_addAll hrun] at hseals
  obtain ⟨partRouter, hseal'⟩ : ∃ partRouter, part.toRouter = .ok partRouter := by
    rw [exists_toRouter_iff, routes_of_empty_addAll hrun']
    intro r hr
    exact hseals r (hroutes.subset hr)
  exact ⟨part, partRouter, hrun', hseal'⟩

/-! ## 2. Scans with other numbers -/

/-- What the first of some routes that accepts a path makes of it, the routes being
    numbered from zero. -/
def scan (routes : List Route) (path : String) (method : Option Method) : Option Resolved :=
  routes.zipIdx.findSome? (resolvedBy path method)

theorem find?_eq_scan {ds : List Draft} {reg : Registry} (hrun : empty.addAll ds = .ok reg)
    {router : Router} (hseal : reg.toRouter = .ok router) (path : String)
    (method : Option Method) :
    router.find? path method = scan (ds.map Draft.finish) path method := by
  rw [find?_eq_findSome? hseal, routes_of_empty_addAll hrun, scan]

/-- Numbering the routes otherwise only changes the number in the answer. -/
theorem findSome?_renumbered (f : Nat → Nat) (routes : List Route) (path : String)
    (method : Option Method) :
    (routes.zipIdx.map fun p => (p.1, f p.2)).findSome? (resolvedBy path method) =
      (scan routes path method).map (Resolved.renumber f) := by
  rw [scan, List.findSome?_map, List.map_findSome?]
  refine findSome?_congr fun p _ => ?_
  simp only [Function.comp_apply, resolvedBy]
  split
  · rw [Option.map_map]
    rfl
  · rfl

theorem scan_append (rs ss : List Route) (path : String) (method : Option Method) :
    scan (rs ++ ss) path method =
      (scan rs path method).or
        ((scan ss path method).map (Resolved.renumber (rs.length + ·))) := by
  have hlater : ss.zipIdx (0 + rs.length) = ss.zipIdx.map fun p => (p.1, rs.length + p.2) := by
    rw [Nat.zero_add, List.zipIdx_eq_map_add]
  rw [scan, List.zipIdx_append, List.findSome?_append, hlater, findSome?_renumbered]
  rfl

/-! ## 3. Routes registered later -/

/-- Registration order is precedence.  Two parts of a registry, the first drafts and the
    others, register and seal by themselves.  The whole answers as the first part does,
    and where that finds nothing as the second part does, with the number of the route
    among all of them. -/
theorem resolve_append {as bs : List Draft} {reg : Registry}
    (hrun : empty.addAll (as ++ bs) = .ok reg) {router : Router}
    (hseal : reg.toRouter = .ok router) :
    ∃ first firstRouter second secondRouter,
      empty.addAll as = .ok first ∧ first.toRouter = .ok firstRouter ∧
      empty.addAll bs = .ok second ∧ second.toRouter = .ok secondRouter ∧
      ∀ path method, router.resolve path method =
        match firstRouter.resolve path method, secondRouter.resolve path method with
        | .ok res, _ => .ok res
        | .error _, .ok res => .ok (res.renumber (as.length + ·))
        | .error _, .error _ => .error (.notFound path) := by
  obtain ⟨first, firstRouter, hfirst, hfirstSeal⟩ :=
    exists_of_sublist (List.sublist_append_left as bs) hrun hseal
  obtain ⟨second, secondRouter, hsecond, hsecondSeal⟩ :=
    exists_of_sublist (List.sublist_append_right as bs) hrun hseal
  refine ⟨first, firstRouter, second, secondRouter, hfirst, hfirstSeal, hsecond, hsecondSeal, ?_⟩
  intro path method
  have hfind := find?_eq_scan hrun hseal path method
  rw [List.map_append, scan_append, ← find?_eq_scan hfirst hfirstSeal,
    ← find?_eq_scan hsecond hsecondSeal, List.length_map] at hfind
  simp only [Router.resolve, hfind]
  cases firstRouter.find? path method with
  | some res => rfl
  | none =>
    cases secondRouter.find? path method with
    | some res => rfl
    | none => rfl

/-- The draft of one pattern, handled for one method only. -/
def usersDraft (method : Method) : Draft :=
  ⟨"/users/{id}", none, ⟨"/users/{0}", ["id"], [false]⟩, ⟨[none]⟩, [(method, ⟨"users", false⟩)], [],
    none⟩

theorem exists_usersDrafts :
    ∃ reg router, empty.addAll [usersDraft .get, usersDraft .post] = .ok reg ∧
      reg.toRouter = .ok router := by
  have hcompatible : (usersDraft .get).finish.Compatible (usersDraft .post).finish := by
    have hanswers : ∀ m ∈ Method.all, (usersDraft .get).finish.answers m = true →
        (usersDraft .post).finish.answers m = false := by decide
    refine ⟨?_, fun _ _ _ _ _ m => hanswers m (Method.mem_all m)⟩
    rintro name ⟨⟩
  obtain ⟨reg, hrun⟩ := (@Consistent.exists_addAll_iff _ consistent_empty
    [usersDraft .get, usersDraft .post]).mpr (by simpa [empty] using hcompatible)
  have hseals : ∀ method, (usersDraft method).finish.Seals := by
    intro method v hv
    have hvariants : (usersDraft .get).finish.variants =
        [⟨"/users/{0}", [0], "^/users/([A-Za-z0-9_%-]+)$"⟩] := by decide
    have hmethod : (usersDraft method).finish.variants = (usersDraft .get).finish.variants := by
      simp only [usersDraft, Draft.finish]
    rw [hmethod, hvariants] at hv
    obtain rfl := List.mem_singleton.mp hv
    obtain ⟨regex, hregex⟩ : ∃ regex, Regex.compile "^/users/([A-Za-z0-9_%-]+)$" = .ok regex :=
      exists_ok_of_isSome (by cbv)
    exact ⟨_, (Route.matcher_eq_ok_iff (by simp)).mpr ⟨regex, hregex, rfl⟩⟩
  obtain ⟨router, hseal⟩ : ∃ router, reg.toRouter = .ok router := by
    rw [exists_toRouter_iff, routes_of_empty_addAll hrun]
    simp [hseals]
  exact ⟨reg, router, hrun, hseal⟩

/-- The first draft answers where it can, the second one for its own method. -/
theorem resolve_append_users :
    Draft.build "/users/{id}" [.method .get "users"] = .ok (usersDraft .get) ∧
    Draft.build "/users/{id}" [.method .post "users"] = .ok (usersDraft .post) ∧
    ∃ reg router, empty.addAll ([usersDraft .get] ++ [usersDraft .post]) = .ok reg ∧
      reg.toRouter = .ok router ∧
      router.resolve "/users/7" (some .get) =
        .ok ⟨0, (usersDraft .get).finish, [("id", "7")]⟩ ∧
      router.resolve "/users/7" (some .post) =
        .ok ⟨1, (usersDraft .post).finish, [("id", "7")]⟩ ∧
      router.resolve "/users/7" (some .put) = .error (.notFound "/users/7") := by
  obtain ⟨reg, router, hrun, hseal⟩ := exists_usersDrafts
  obtain ⟨first, firstRouter, second, secondRouter, hfirst, hfirstSeal, hsecond, hsecondSeal,
    hresolve⟩ := @resolve_append [usersDraft .get] [usersDraft .post] _ hrun _ hseal
  refine ⟨by decide, by decide, reg, router, hrun, hseal, ?_⟩
  rw [hresolve, hresolve, hresolve]
  simp only [Router.resolve, find?_eq_scan hfirst hfirstSeal,
    find?_eq_scan hsecond hsecondSeal]
  cbv
  exact ⟨rfl, rfl, rfl⟩

/-! ## 4. Routes that answer a method -/

/-- The numbers of the routes that answer a method, in order. -/
def answering (method : Method) (routes : List Route) : List Nat :=
  (routes.zipIdx.filter fun p => p.1.answers method).map (·.2)

/-- The routes that answer a method, with the numbers that they have among all routes. -/
theorem filter_zipIdx_eq (method : Method) (routes : List Route) :
    (routes.zipIdx.filter fun p => p.1.answers method) =
      (routes.filter fun r => r.answers method).zipIdx.map fun p =>
        (p.1, (answering method routes).getD p.2 0) := by
  have hroutes : (routes.filter fun r => r.answers method) =
      (routes.zipIdx.filter fun p => p.1.answers method).map (·.1) := by
    conv_lhs => rw [← List.zipIdx_map_fst 0 routes, List.filter_map]
    rfl
  rw [hroutes, answering]
  -- the route at a place is numbered by the number at that place
  apply List.ext_getElem?
  intro k
  rw [List.getElem?_map, List.getElem?_zipIdx, List.getElem?_map, Option.map_map, Option.map_map]
  cases hk : (routes.zipIdx.filter fun p => p.1.answers method)[k]? with
  | none => rfl
  | some p => simp [List.getD_eq_getElem?_getD, hk]

/-- For a method a scan only asks the routes that answer it. -/
theorem scan_method (routes : List Route) (path : String) (method : Method) :
    scan routes path (some method) =
      (scan (routes.filter fun r => r.answers method) path none).map
        (Resolved.renumber fun i => (answering method routes).getD i 0) := by
  rw [← findSome?_renumbered, ← filter_zipIdx_eq, ← List.head?_filterMap, List.filterMap_filter,
    List.head?_filterMap]
  rfl

theorem getElem?_of_scan {routes : List Route} {path : String} {method : Option Method}
    {res : Resolved} (h : scan routes path method = some res) :
    routes[res.id]? = some res.route := by
  obtain ⟨⟨r, i⟩, hr, hby⟩ := List.exists_of_findSome?_eq_some h
  obtain ⟨hid, hroute, -⟩ := eq_of_resolvedBy hby
  rw [hid, hroute]
  exact List.mk_mem_zipIdx_iff_getElem?.mp hr

/-- Resolving for a method is resolving in the registry of the routes that answer it.  These
    routes register and seal by themselves, and what they make of a path, for any method,
    is what all routes make of it for this one, with the number of the route among all. -/
theorem resolve_method {ds : List Draft} {reg : Registry} (hrun : empty.addAll ds = .ok reg)
    {router : Router} (hseal : reg.toRouter = .ok router) (method : Method) :
    ∃ part partRouter,
      empty.addAll (ds.filter fun d => d.finish.answers method) = .ok part ∧
      part.toRouter = .ok partRouter ∧
      ∀ path,
        match partRouter.resolve path none with
        | .ok res => ∃ i, (answering method reg.routes.toList)[res.id]? = some i ∧
          router.resolve path (some method) = .ok { res with id := i }
        | .error e => e = .notFound path ∧
          router.resolve path (some method) = .error (.notFound path) := by
  obtain ⟨part, partRouter, hpart, hpartSeal⟩ :=
    exists_of_sublist (List.filter_sublist (p := fun d => d.finish.answers method)) hrun hseal
  refine ⟨part, partRouter, hpart, hpartSeal, ?_⟩
  intro path
  have hroutes : (ds.filter fun d => d.finish.answers method).map Draft.finish =
      (ds.map Draft.finish).filter fun r => r.answers method := by
    rw [List.filter_map]
    rfl
  have hfind := find?_eq_scan hrun hseal path (some method)
  have hpartFind := find?_eq_scan hpart hpartSeal path none
  rw [hroutes] at hpartFind
  rw [scan_method, ← hpartFind] at hfind
  rw [routes_of_empty_addAll hrun, Router.resolve, Router.resolve, hfind]
  cases hres : partRouter.find? path none with
  | none => exact ⟨rfl, rfl⟩
  | some res =>
    -- the numbers are as many as the routes of the part
    have hlt : res.id < (answering method (ds.map Draft.finish)).length := by
      rw [hpartFind] at hres
      obtain ⟨hlt, -⟩ := List.getElem?_eq_some_iff.mp (getElem?_of_scan hres)
      have hlength := congrArg List.length (filter_zipIdx_eq method (ds.map Draft.finish))
      rw [List.length_map, List.length_zipIdx] at hlength
      rwa [answering, List.length_map, hlength]
    refine ⟨_, List.getElem?_eq_getElem hlt, ?_⟩
    simp [Resolved.renumber, List.getD_eq_getElem?_getD, List.getElem?_eq_getElem hlt]

/-- What the only draft for a method makes of a path is what both make of it for the method. -/
theorem resolve_method_users :
    ∃ reg router, empty.addAll [usersDraft .get, usersDraft .post] = .ok reg ∧
      reg.toRouter = .ok router ∧
      router.resolve "/users/7" (some .post) =
        .ok ⟨1, (usersDraft .post).finish, [("id", "7")]⟩ := by
  obtain ⟨reg, router, hrun, hseal⟩ := exists_usersDrafts
  obtain ⟨part, partRouter, hpart, hpartSeal, hresolve⟩ := resolve_method hrun hseal .post
  refine ⟨reg, router, hrun, hseal, ?_⟩
  have hpartResolve : partRouter.resolve "/users/7" none =
      .ok ⟨0, (usersDraft .post).finish, [("id", "7")]⟩ := by
    rw [Router.resolve, find?_eq_scan hpart hpartSeal]
    cbv
  have hpath := hresolve "/users/7"
  rw [hpartResolve] at hpath
  obtain ⟨i, hi, hroute⟩ := hpath
  rw [routes_of_empty_addAll hrun] at hi
  obtain rfl : 1 = i := Option.some.inj hi
  exact hroute

end Registry

end Wayfinder
