/-
  Wayfinder/Proofs/Restoration.lean
  =================================
  **Snapshots restore their routers.**

  A snapshot keeps the routes and the rows of a router, and the loader computes the rest
  again: the table of names, the groups of the tokens, and how each row is compared.  It
  does not trust the rows, though, and compares each with the variants of its route.
  Here the check is stated as a property of rows.  Every row that sealing makes has it,
  also where several variants of a route are written alike, so a snapshot of a sealed
  registry is accepted, and the router it gives back is the same in every part.
-/
import Mathlib
import Wayfinder.Proofs.Sealing
import Wayfinder.Snapshot

namespace Wayfinder

open Wayfinder.Pattern

/-! ## 1. Rows that fit their routes -/

namespace Snapshot

/-- Whether a row is written like a variant of its route, with the positions of that
    variant, and names no wildcard that the route lacks. -/
def Fits (routes : Array Route) (e : Entry) : Prop :=
  ∃ route, routes[e.route]? = some route ∧ (∀ i ∈ e.indices, i < route.wildcards.size) ∧
    ∃ v ∈ route.variants, v.regex = e.regex ∧ v.indices = e.indices

theorem rowFault?_eq_none_iff {routes : Array Route} (row : Nat) {e : Entry} :
    rowFault? routes row e = none ↔ Fits routes e := by
  unfold rowFault? Fits
  cases routes[e.route]? with
  | none => simp
  | some route =>
    simp only [Option.some.injEq, exists_eq_left']
    split
    · rename_i i hfind
      have hle : route.wildcards.size ≤ i := by simpa using List.find?_some hfind
      have hmem := List.mem_of_find?_eq_some hfind
      simp only [reduceCtorEq, false_iff, not_and]
      intro hlt
      exact absurd (hlt i hmem) (Nat.not_lt.mpr hle)
    · rename_i hfind
      have hlt : ∀ i ∈ e.indices, i < route.wildcards.size := by
        simpa using List.find?_eq_none.mp hfind
      have hany : (route.variants.any fun v => v.regex == e.regex && v.indices == e.indices) =
          true ↔ ∃ v ∈ route.variants, v.regex = e.regex ∧ v.indices = e.indices := by simp
      rw [← hany]
      split
      · rename_i hvariant
        exact iff_of_true rfl ⟨hlt, hvariant⟩
      · rename_i hvariant
        exact iff_of_false nofun fun h => hvariant h.2

/-- A table is accepted when every row fits. -/
theorem firstFault?_eq_none_iff {routes : Array Route} (row : Nat) {es : List Entry} :
    firstFault? routes row es = none ↔ ∀ e ∈ es, Fits routes e := by
  induction es generalizing row with
  | nil => simp [firstFault?]
  | cons e es ih =>
    rw [firstFault?, List.forall_mem_cons, ← ih (row + 1),
      ← rowFault?_eq_none_iff row]
    cases rowFault? routes row e <;> simp

/-- Loading a snapshot is checking it and assembling its routes and rows. -/
theorem toRouter_eq_ok_iff {s : Snapshot} {router : Router} :
    s.toRouter = .ok router ↔
      s.version = formatVersion ∧ (∀ e ∈ s.entries, Fits s.routes.toArray e) ∧
        Router.assemble s.routes.toArray s.entries = .ok router := by
  unfold toRouter
  by_cases hversion : s.version = formatVersion
  · rw [← firstFault?_eq_none_iff 0]
    simp only [hversion, ne_eq, not_true_eq_false, if_false, true_and]
    cases firstFault? s.routes.toArray 0 s.entries with
    | some f => simp
    | none => cases Router.assemble s.routes.toArray s.entries <;> simp
  · simp [hversion]

end Snapshot

/-! ## 2. Routers that can be restored -/

namespace Router

/-- Every row is found by the number of its route, so none is lost. -/
theorem map_fst_withRoutes {routes : Array Route} {es : List Entry}
    (h : ∀ e ∈ es, Snapshot.Fits routes e) : (withRoutes routes es).map (·.1) = es := by
  induction es with
  | nil => rfl
  | cons e es ih =>
    rw [List.forall_mem_cons] at h
    obtain ⟨⟨route, hroute, -⟩, hrest⟩ := h
    rw [withRoutes, List.filterMap_cons_some (by rw [hroute]; rfl), List.map_cons]
    exact congrArg (e :: ·) (ih hrest)

theorem routes_of_assemble {routes : Array Route} {es : List Entry} {router : Router}
    (h : assemble routes es = .ok router) : router.routes = routes := by
  obtain ⟨rows, -, hrouter⟩ := bind_eq_ok_iff.mp h
  obtain rfl := Except.ok.inj hrouter
  rfl

/-- The rows of an assembled router are those it was given. -/
theorem entries_of_assemble {routes : Array Route} {es : List Entry} {router : Router}
    (hfits : ∀ e ∈ es, Snapshot.Fits routes e) (h : assemble routes es = .ok router) :
    router.entries = es := by
  obtain ⟨rows, hrows, hrouter⟩ := bind_eq_ok_iff.mp h
  obtain rfl := Except.ok.inj hrouter
  refine (map_eq_map_of_mapM_eq_ok hrows ?_).trans (map_fst_withRoutes hfits)
  rintro ⟨e, route⟩ row - hrow
  obtain ⟨m, -, hm⟩ := bind_eq_ok_iff.mp hrow
  obtain rfl := Except.ok.inj hm
  rfl

/-- A router whose rows fit its routes, and which is what they assemble to. -/
structure Restorable (r : Router) : Prop where
  fits : ∀ e ∈ r.entries, Snapshot.Fits r.routes e
  assembled : assemble r.routes r.entries = .ok r

theorem restorable_of_assemble {routes : Array Route} {es : List Entry} {router : Router}
    (hfits : ∀ e ∈ es, Snapshot.Fits routes e) (h : assemble routes es = .ok router) :
    router.Restorable := by
  have hroutes := routes_of_assemble h
  have hentries := entries_of_assemble hfits h
  constructor
  · rw [hroutes, hentries]
    exact hfits
  · rw [hroutes, hentries]
    exact h

end Router

namespace Snapshot

/-- The snapshot of a router gives the router back when the router can be restored. -/
theorem toRouter_ofRouter_iff {router : Router} :
    (ofRouter router).toRouter = .ok router ↔ router.Restorable := by
  rw [toRouter_eq_ok_iff]
  constructor
  · rintro ⟨-, hfits, hassembled⟩
    exact ⟨hfits, hassembled⟩
  · rintro ⟨hfits, hassembled⟩
    exact ⟨rfl, hfits, hassembled⟩

/-- The hash of a snapshot does not matter to its router. -/
theorem toRouter_withHash (s : Snapshot) (hash : Option String) :
    Snapshot.toRouter { s with sourceHash := hash } = s.toRouter := rfl

/-- What was loaded from a snapshot can be stored and loaded again. -/
theorem restorable_of_toRouter {s : Snapshot} {router : Router} (h : s.toRouter = .ok router) :
    router.Restorable := by
  obtain ⟨-, hfits, hassembled⟩ := toRouter_eq_ok_iff.mp h
  exact Router.restorable_of_assemble hfits hassembled

end Snapshot

/-! ## 3. Sealed registries -/

namespace Registry

theorem mem_entriesFrom {rs : List Route} {i : Nat} {e : Entry} (he : e ∈ entriesFrom i rs) :
    ∃ k r, rs[k]? = some r ∧ ∃ v ∈ r.variants, e = ⟨v.regex, i + k, v.indices⟩ := by
  induction rs generalizing i with
  | nil => cases he
  | cons r rs ih =>
    rcases List.mem_append.mp he with he | he
    · obtain ⟨v, hv, rfl⟩ := List.mem_map.mp he
      exact ⟨0, r, rfl, v, hv, rfl⟩
    · obtain ⟨k, s, hs, v, hv, rfl⟩ := ih he
      exact ⟨k + 1, s, hs, v, hv, by rw [Nat.add_right_comm, Nat.add_assoc]⟩

theorem assemble_of_toRouter {reg : Registry} {router : Router} (h : reg.toRouter = .ok router) :
    Router.assemble reg.routes (entriesFrom 0 reg.routes.toList) = .ok router := by
  unfold toRouter at h
  split at h
  · rename_i hassembled
    rwa [← Except.ok.inj h]
  · cases h

/-- Every row of registered drafts is one of the variants of its route, under its own
    positions. -/
theorem fits_of_addAll {ds : List Draft} (hds : ∀ d ∈ ds, d.Sound) {reg : Registry}
    (hrun : empty.addAll ds = .ok reg) {e : Entry} (he : e ∈ entriesFrom 0 reg.routes.toList) :
    Snapshot.Fits reg.routes e := by
  obtain ⟨k, r, hr, v, hv, rfl⟩ := mem_entriesFrom he
  rw [Nat.zero_add]
  rw [Array.getElem?_toList] at hr
  obtain ⟨d, hd, rfl⟩ := exists_draft_of_getElem? hrun hr
  exact ⟨d.finish, hr, fun i hi => (hds d hd).lt_of_mem_indices hv hi, v, hv, rfl, rfl⟩

theorem restorable_of_addAll {ds : List Draft} (hds : ∀ d ∈ ds, d.Sound) {reg : Registry}
    (hrun : empty.addAll ds = .ok reg) {router : Router} (hseal : reg.toRouter = .ok router) :
    router.Restorable :=
  Router.restorable_of_assemble (fun _ he => fits_of_addAll hds hrun he)
    (assemble_of_toRouter hseal)

theorem entries_of_addAll {ds : List Draft} (hds : ∀ d ∈ ds, d.Sound) {reg : Registry}
    (hrun : empty.addAll ds = .ok reg) {router : Router} (hseal : reg.toRouter = .ok router) :
    router.entries = entriesFrom 0 (ds.map Draft.finish) := by
  rw [← routes_of_empty_addAll hrun]
  exact Router.entries_of_assemble (fun _ he => fits_of_addAll hds hrun he)
    (assemble_of_toRouter hseal)

/-- The persisted form of a sealed registry loses nothing: it is accepted, and it gives
    the same router back, with its routes, names, rows and matchers, and therefore with
    the same answer to every request.  The routes of the registry come from declarations,
    so each is the finished form of a draft that `Draft.build` gives. -/
theorem restored_of_sealed {ds : List Draft}
    (hds : ∀ d ∈ ds, ∃ uri steps, Draft.build uri steps = .ok d) {reg : Registry}
    (hrun : empty.addAll ds = .ok reg) {router : Router} (hseal : reg.toRouter = .ok router) :
    (Snapshot.ofRouter router).toRouter = .ok router := by
  have hsound : ∀ d ∈ ds, d.Sound := by
    intro d hd
    obtain ⟨uri, steps, hbuild⟩ := hds d hd
    exact Draft.sound_of_build hbuild
  exact Snapshot.toRouter_ofRouter_iff.mpr (restorable_of_addAll hsound hrun hseal)

/-- The draft of two optional wildcards side by side. -/
def optionalPairDraft : Draft :=
  ⟨"/{a?}/{b?}", none, ⟨"/{0}/{1}", ["a", "b"], [true, true]⟩, ⟨[none, none]⟩, [], [], none⟩

theorem variants_optionalPairDraft :
    optionalPairDraft.finish.variants =
      [⟨"/{0}/{1}", [0, 1], "^/([A-Za-z0-9_%-]+)/([A-Za-z0-9_%-]+)$"⟩,
        ⟨"/{1}", [1], "^/([A-Za-z0-9_%-]+)$"⟩, ⟨"/{0}", [0], "^/([A-Za-z0-9_%-]+)$"⟩,
        ⟨"/", [], "^/$"⟩] := by
  simp only [Draft.finish, optionalPairDraft]
  rw [expand_of_nodup (by decide) (by decide)]
  decide

/-- Two of the rows are written alike and differ in their positions only; both are kept. -/
theorem restored_optional_pair :
    ∃ d reg router, Draft.build "/{a?}/{b?}" [] = .ok d ∧ empty.addAll [d] = .ok reg ∧
      reg.toRouter = .ok router ∧
      router.entries =
        [⟨"^/([A-Za-z0-9_%-]+)/([A-Za-z0-9_%-]+)$", 0, [0, 1]⟩,
          ⟨"^/([A-Za-z0-9_%-]+)$", 0, [1]⟩, ⟨"^/([A-Za-z0-9_%-]+)$", 0, [0]⟩, ⟨"^/$", 0, []⟩] ∧
      (Snapshot.ofRouter router).toRouter = .ok router := by
  have hbuild : Draft.build "/{a?}/{b?}" [] = .ok optionalPairDraft := by decide
  have hdeclared : optionalPairDraft.Declared := ⟨by decide, [], hbuild⟩
  obtain ⟨reg, hrun⟩ := @Indexed.exists_addAll _ indexed_empty [optionalPairDraft] (by decide)
    (by simp [empty])
  obtain ⟨router, hseal⟩ : ∃ router, reg.toRouter = .ok router := by
    have hone : ∃ r, Regex.compile "^/([A-Za-z0-9_%-]+)$" = .ok r := exists_ok_of_isSome (by cbv)
    have htwo : ∃ r, Regex.compile "^/([A-Za-z0-9_%-]+)/([A-Za-z0-9_%-]+)$" = .ok r :=
      exists_ok_of_isSome (by cbv)
    rw [exists_toRouter_iff, routes_of_empty_addAll hrun, List.map_singleton,
      List.forall_mem_singleton, hdeclared.seals_iff, variants_optionalPairDraft]
    simpa using ⟨htwo, hone⟩
  refine ⟨optionalPairDraft, reg, router, hbuild, hrun, hseal, ?_, ?_⟩
  · rw [entries_of_addAll (by simpa using hdeclared.sound) hrun hseal, List.map_singleton,
      entriesFrom, variants_optionalPairDraft]
    rfl
  · refine restored_of_sealed ?_ hrun hseal
    intro d hd
    obtain rfl := List.mem_singleton.mp hd
    exact ⟨_, _, hbuild⟩

end Registry

end Wayfinder
