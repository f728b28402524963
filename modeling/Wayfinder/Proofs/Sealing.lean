/-
  Wayfinder/Proofs/Sealing.lean
  =============================
  **A router as its routes.**

  Sealing lays the variants of all routes out in one table of rows, and a request is
  compared with the rows in order.  Here the table is folded back: a router asks its
  routes one after the other, a route asks its variants one after the other, and
  whether a registry can be sealed is a question to each route alone.
-/
import Wayfinder.Proofs.Registration
import Wayfinder.Proofs.Pattern.Expression

namespace Wayfinder

open Wayfinder.Pattern

/-! ## 1. Routes by themselves -/

theorem Router.paramsOf_cons (names : List String) (groups : Nat → Option String) (i slot : Nat)
    (is slots : List Nat) :
    Router.paramsOf names groups (i :: is) (slot :: slots) =
      (names[i]?.bind fun name => (groups slot).map fun value => (name, value)).toList ++
        Router.paramsOf names groups is slots := by
  cases hname : names[i]? <;> cases hvalue : groups slot <;> simp [paramsOf, hname, hvalue]

namespace Route

variable [Regex.SizeLimit]

/-- How a variant of a route is compared with paths once the route is sealed. -/
def matcher (r : Route) (v : AnchoredVariant) : Except RowFault Matcher :=
  Router.matcherFor r (r.variants.find? fun w => w.regex == v.regex) ⟨v.regex, 0, v.indices⟩

/-- Whether every variant can be made ready. -/
def Seals (r : Route) : Prop := ∀ v ∈ r.variants, ∃ m, r.matcher v = .ok m

theorem seals_of_ready {r : Route}
    (h : (r.variants.all fun v => (r.matcher v).toOption.isSome) = true) : r.Seals := by
  intro v hv
  exact exists_ok_of_isSome (List.all_eq_true.mp h v hv)

/-- The values that a variant finds in a path. -/
def accept? (r : Route) (path : String) (v : AnchoredVariant) : Option (List (String × String)) :=
  match r.matcher v with
  | .ok m =>
    (m.groups? path).map fun groups =>
      Router.paramsOf r.wildcards.names groups v.indices (captureSlots v.indices r.constraints)
  | .error _ => none

/-- The values that the first accepting variant finds in a path. -/
def answer? (r : Route) (path : String) : Option (List (String × String)) :=
  r.variants.findSome? (r.accept? path)

/-- A row is ready when its variant is, whatever the number of the route. -/
theorem readyRow_eq_ok_iff {r : Route} {v : AnchoredVariant} {i : Nat} {row : Row} :
    Router.readyRow r (r.constraints.map innerGroups) ⟨v.regex, i, v.indices⟩ = .ok row ↔
      ∃ m, r.matcher v = .ok m ∧
        row = ⟨⟨v.regex, i, v.indices⟩, captureSlots v.indices r.constraints, m⟩ := by
  simp only [Router.readyRow, bind_eq_ok_iff, pure, Except.pure, Except.ok.injEq]
  constructor
  · rintro ⟨m, hm, rfl⟩
    exact ⟨m, hm, rfl⟩
  · rintro ⟨m, hm, rfl⟩
    exact ⟨m, hm, rfl⟩

/-- A variant with tokens is compared by its expression. -/
theorem matcher_eq_ok_iff {r : Route} {v : AnchoredVariant} {m : Matcher}
    (hsome : v.indices ≠ []) :
    r.matcher v = .ok m ↔ ∃ regex, Regex.compile v.regex = .ok regex ∧ m = .regex regex := by
  have hempty : v.indices.isEmpty = false := by simpa using hsome
  unfold matcher Router.matcherFor
  cases Regex.compile v.regex with
  | ok regex =>
    cases r.variants.find? (fun w => w.regex == v.regex) <;> simp [hempty, eq_comm]
  | error reason =>
    cases r.variants.find? (fun w => w.regex == v.regex) <;> simp [hempty]

theorem accept?_of_compile {r : Route} {v : AnchoredVariant} {regex : Regex}
    (hsome : v.indices ≠ []) (hregex : Regex.compile v.regex = .ok regex) (path : String) :
    r.accept? path v = (regex.captures? path.toList).map fun caps =>
      Router.paramsOf r.wildcards.names (fun i => (caps.group? i).map String.ofList) v.indices
        (captureSlots v.indices r.constraints) := by
  rw [accept?, (matcher_eq_ok_iff hsome).mpr ⟨regex, hregex, rfl⟩]
  simp [Matcher.groups?, Option.map_map, Function.comp_def]

/-- A variant with tokens that accepts a path has an expression that compiles. -/
theorem compile_of_accept? {r : Route} {v : AnchoredVariant} (hsome : v.indices ≠ [])
    {path : String} {params : List (String × String)} (h : r.accept? path v = some params) :
    ∃ regex, Regex.compile v.regex = .ok regex := by
  unfold accept? at h
  split at h
  · rename_i m hm
    obtain ⟨regex, hregex, -⟩ := (matcher_eq_ok_iff hsome).mp hm
    exact ⟨regex, hregex⟩
  · cases h

end Route

/-! ## 2. The table of rows -/

namespace Registry

/-- The rows of numbered routes before they are made ready, each with its route. -/
def table (numbered : List (Route × Nat)) : List (Entry × Route) :=
  numbered.flatMap fun p => p.1.variants.map fun v => (⟨v.regex, p.2, v.indices⟩, p.1)

theorem mem_table {numbered : List (Route × Nat)} {e : Entry} {r : Route} :
    (e, r) ∈ table numbered ↔
      ∃ i, (r, i) ∈ numbered ∧ ∃ v ∈ r.variants, e = ⟨v.regex, i, v.indices⟩ := by
  simp only [table, List.mem_flatMap, List.mem_map, Prod.mk.injEq]
  constructor
  · rintro ⟨⟨s, i⟩, hs, v, hv, rfl, rfl⟩
    exact ⟨i, hs, v, hv, rfl⟩
  · rintro ⟨i, hr, v, hv, rfl⟩
    exact ⟨(r, i), hr, v, hv, rfl, rfl⟩

/-- The declared rows find their routes. -/
theorem withRoutes_entriesFrom {routes : Array Route} {i : Nat} {rs : List Route}
    (h : ∀ k r, rs[k]? = some r → routes[i + k]? = some r) :
    Router.withRoutes routes (entriesFrom i rs) = table (rs.zipIdx i) := by
  induction rs generalizing i with
  | nil => rfl
  | cons r rs ih =>
    have hhere : routes[i]? = some r := h 0 r rfl
    have hrest : ∀ k s, rs[k]? = some s → routes[i + 1 + k]? = some s := by
      intro k s hs
      rw [Nat.add_right_comm]
      exact h (k + 1) s hs
    have ih' := ih hrest
    rw [Router.withRoutes] at ih'
    rw [Router.withRoutes, entriesFrom, List.filterMap_append, ih', List.zipIdx_cons,
      List.filterMap_map]
    simp [table, hhere]

theorem resolve_eq_ok_iff {router : Router} {path : String} {method : Option Method}
    {res : Resolved} :
    router.resolve path method = .ok res ↔ router.find? path method = some res := by
  unfold Router.resolve
  cases router.find? path method <;> simp

variable [Regex.SizeLimit]

/-- Make a row of the table ready. -/
def ready (p : Entry × Route) : Except RowFault Row :=
  Router.readyRow p.2 (p.2.constraints.map innerGroups) p.1

/-- The rows of the declared routes are made ready one by one. -/
theorem readyRows_entriesFrom (routes : Array Route) :
    Router.readyRows routes (routes.map fun r => r.constraints.map innerGroups)
      (entriesFrom 0 routes.toList) = (table routes.toList.zipIdx).mapM ready := by
  have htable : Router.withRoutes routes (entriesFrom 0 routes.toList) =
      table routes.toList.zipIdx := withRoutes_entriesFrom (by simp)
  rw [Router.readyRows, htable]
  refine mapM_congr_left ?_
  rintro ⟨e, r⟩ hp
  -- a row asks for the group counts of its own route
  obtain ⟨i, hi, v, -, rfl⟩ := mem_table.mp hp
  have hget := List.mk_mem_zipIdx_iff_getElem?.mp hi
  rw [Array.getElem?_toList] at hget
  simp [ready, hget]

/-- A registry seals to the rows of its table, each made ready by itself. -/
theorem toRouter_eq_ok_iff {reg : Registry} {router : Router} :
    reg.toRouter = .ok router ↔
      ∃ rows, (table reg.routes.toList.zipIdx).mapM ready = .ok rows ∧
        router = ⟨reg.routes, Router.nameTable ∅ 0 reg.routes.toList, rows⟩ := by
  unfold toRouter
  simp only [Router.assemble, readyRows_entriesFrom]
  cases (table reg.routes.toList.zipIdx).mapM ready with
  | error f => simp [bind, Except.bind]
  | ok rows => simp [bind, Except.bind, pure, Except.pure, eq_comm]

theorem routes_of_toRouter {reg : Registry} {router : Router} (h : reg.toRouter = .ok router) :
    router.routes = reg.routes := by
  obtain ⟨rows, -, rfl⟩ := toRouter_eq_ok_iff.mp h
  rfl

/-- A registry can be sealed when each of its routes can. -/
theorem exists_toRouter_iff {reg : Registry} :
    (∃ router, reg.toRouter = .ok router) ↔ ∀ r ∈ reg.routes.toList, r.Seals := by
  have hrows : (∃ router, reg.toRouter = .ok router) ↔
      ∀ p ∈ table reg.routes.toList.zipIdx, ∃ row, ready p = .ok row := by
    rw [← exists_mapM_eq_ok_iff]
    simp only [toRouter_eq_ok_iff]
    exact ⟨fun ⟨_, rows, h, _⟩ => ⟨rows, h⟩, fun ⟨rows, h⟩ => ⟨_, rows, h, rfl⟩⟩
  rw [hrows]
  constructor
  · intro h r hr v hv
    obtain ⟨i, hi⟩ := List.mem_iff_getElem?.mp hr
    obtain ⟨row, hrow⟩ := h (⟨v.regex, i, v.indices⟩, r)
      (mem_table.mpr ⟨i, List.mk_mem_zipIdx_iff_getElem?.mpr hi, v, hv, rfl⟩)
    obtain ⟨m, hm, -⟩ := Route.readyRow_eq_ok_iff.mp hrow
    exact ⟨m, hm⟩
  · rintro h ⟨e, r⟩ hp
    obtain ⟨i, hi, v, hv, rfl⟩ := mem_table.mp hp
    obtain ⟨m, hm⟩ := h r (List.fst_mem_of_mem_zipIdx hi) v hv
    exact ⟨_, Route.readyRow_eq_ok_iff.mpr ⟨m, hm, rfl⟩⟩

/-- The rows of a sealed registry are the variants of its routes. -/
theorem mem_entries_iff {reg : Registry} {router : Router} (h : reg.toRouter = .ok router)
    {e : Entry} :
    e ∈ router.entries ↔
      ∃ r, reg.routes[e.route]? = some r ∧ ∃ v ∈ r.variants, e = ⟨v.regex, e.route, v.indices⟩ := by
  obtain ⟨rows, hrows, rfl⟩ := toRouter_eq_ok_iff.mp h
  have hentries : rows.map (·.entry) = (table reg.routes.toList.zipIdx).map (·.1) := by
    refine map_eq_map_of_mapM_eq_ok hrows ?_
    rintro ⟨e, r⟩ row hp hrow
    obtain ⟨i, -, v, -, rfl⟩ := mem_table.mp hp
    obtain ⟨m, -, rfl⟩ := Route.readyRow_eq_ok_iff.mp hrow
    rfl
  simp only [Router.entries, hentries, List.mem_map, Prod.exists, mem_table]
  constructor
  · rintro ⟨e, r, ⟨i, hi, v, hv, rfl⟩, rfl⟩
    exact ⟨r, by simpa using List.mk_mem_zipIdx_iff_getElem?.mp hi, v, hv, rfl⟩
  · rintro ⟨r, hr, v, hv, he⟩
    exact ⟨e, r, ⟨e.route, List.mk_mem_zipIdx_iff_getElem?.mpr (by simpa using hr), v, hv, he⟩, rfl⟩

/-! ## 3. Requests -/

/-- What a numbered route makes of a request. -/
def resolvedBy (path : String) (method : Option Method) (p : Route × Nat) : Option Resolved :=
  if Router.considered method p.1 then (p.1.answer? path).map fun params => ⟨p.2, p.1, params⟩
  else none

theorem eq_of_resolvedBy {path : String} {method : Option Method} {p : Route × Nat}
    {res : Resolved} (h : resolvedBy path method p = some res) :
    res.id = p.2 ∧ res.route = p.1 ∧ p.1.answer? path = some res.params := by
  unfold resolvedBy at h
  split at h
  · obtain ⟨params, hanswer, rfl⟩ := Option.map_eq_some_iff.mp h
    exact ⟨rfl, rfl, hanswer⟩
  · cases h

theorem tryRow_of_ready {routes : Array Route} {path : String} {method : Option Method}
    {r : Route} {i : Nat} (hi : routes[i]? = some r) {v : AnchoredVariant} {row : Row}
    (hrow : ready (⟨v.regex, i, v.indices⟩, r) = .ok row) :
    Router.tryRow routes path method row =
      if Router.considered method r then (r.accept? path v).map fun params => ⟨i, r, params⟩
      else none := by
  obtain ⟨m, hm, rfl⟩ := Route.readyRow_eq_ok_iff.mp hrow
  simp [Router.tryRow, hi, Route.accept?, hm, Option.map_map, Function.comp_def]

/-- A sealed registry asks its routes in order. -/
theorem find?_eq_findSome? {reg : Registry} {router : Router} (h : reg.toRouter = .ok router)
    (path : String) (method : Option Method) :
    router.find? path method = reg.routes.toList.zipIdx.findSome? (resolvedBy path method) := by
  obtain ⟨rows, hrows, rfl⟩ := toRouter_eq_ok_iff.mp h
  rw [Router.find?, findSome?_of_mapM_eq_ok hrows, table, findSome?_flatMap]
  refine findSome?_congr ?_
  rintro ⟨r, i⟩ hp
  have hget : reg.routes[i]? = some r := by
    simpa using List.mk_mem_zipIdx_iff_getElem?.mp hp
  -- every variant of the route has a ready row
  have hvariant : ∀ v ∈ r.variants,
      (ready (⟨v.regex, i, v.indices⟩, r)).toOption.bind (Router.tryRow reg.routes path method) =
        if Router.considered method r then (r.accept? path v).map fun params => ⟨i, r, params⟩
        else none := by
    intro v hv
    obtain ⟨row, hrow⟩ := exists_mapM_eq_ok_iff.mp ⟨rows, hrows⟩ (⟨v.regex, i, v.indices⟩, r)
      (mem_table.mpr ⟨i, hp, v, hv, rfl⟩)
    rw [← tryRow_of_ready hget hrow, hrow]
    rfl
  rw [List.findSome?_map, resolvedBy, Route.answer?]
  refine (findSome?_congr hvariant).trans ?_
  split
  · rw [List.map_findSome?]
    rfl
  · exact List.findSome?_eq_none_iff.mpr fun _ _ => rfl

/-- A path that a route has an answer for is resolved to this route or to one before it. -/
theorem exists_resolve_le {reg : Registry} {router : Router} (h : reg.toRouter = .ok router)
    {i : Nat} {r : Route} (hi : reg.routes[i]? = some r) {method : Option Method}
    (hmethod : Router.considered method r = true) {path : String}
    {params : List (String × String)} (hanswer : r.answer? path = some params) :
    ∃ res, router.resolve path method = .ok res ∧ res.id ≤ i := by
  -- the search ends among the first routes, up to this one
  have hsplit := @List.zipIdx_append _ (reg.routes.toList.take (i + 1))
    (reg.routes.toList.drop (i + 1)) 0
  rw [List.take_append_drop] at hsplit
  have hfirst : (r, i) ∈ (reg.routes.toList.take (i + 1)).zipIdx := by
    rw [List.mk_mem_zipIdx_iff_getElem?, List.getElem?_take_of_lt (Nat.lt_succ_self i),
      Array.getElem?_toList, hi]
  have hsome : ((reg.routes.toList.take (i + 1)).zipIdx.findSome?
      (resolvedBy path method)).isSome := by
    rw [List.findSome?_isSome_iff]
    exact ⟨(r, i), hfirst, by simp [resolvedBy, hmethod, hanswer]⟩
  obtain ⟨res, hres⟩ := Option.isSome_iff_exists.mp hsome
  obtain ⟨⟨s, k⟩, hs, hby⟩ := List.exists_of_findSome?_eq_some hres
  refine ⟨res, ?_, ?_⟩
  · rw [resolve_eq_ok_iff, find?_eq_findSome? h, hsplit, List.findSome?_append, hres,
      Option.some_or]
  · rw [(eq_of_resolvedBy hby).1]
    have hlt := List.snd_lt_of_mem_zipIdx hs
    rw [List.length_take] at hlt
    omega

end Registry

/-! ## 4. Variants of declared drafts -/

/-- The shape of a variant: its pattern with the fragments in place of the numbers. -/
def Route.shapeOf (r : Route) (v : AnchoredVariant) : List Slot := shape v.pattern r.constraints

theorem Draft.regex_eq_of_mem {d : Draft} {v : AnchoredVariant} (hv : v ∈ d.finish.variants) :
    v.regex = String.ofList (shapeText (d.finish.shapeOf v)) := by
  simp only [finish] at hv
  obtain ⟨u, -, rfl⟩ := List.mem_map.mp hv
  exact anchoredExpression_eq_shapeText _ _

/-- Two variants have one expression when their shapes are spelled alike. -/
theorem Draft.regex_eq_iff {d d' : Draft} {v w : AnchoredVariant} (hv : v ∈ d.finish.variants)
    (hw : w ∈ d'.finish.variants) :
    v.regex = w.regex ↔ shapeText (d.finish.shapeOf v) = shapeText (d'.finish.shapeOf w) := by
  rw [regex_eq_of_mem hv, regex_eq_of_mem hw]
  exact String.ofList_inj

namespace Draft.LayoutOf

variable {d d' : Draft} {v w : AnchoredVariant} {ps qs : List Part}

theorem shape_pattern (h : d.LayoutOf v ps) (fragments : List String) :
    shape v.pattern fragments = ps.map (Part.slot fragments) := by
  rw [h.pattern, shape_layoutText h.plain h.bound]

/-- A variant without tokens is known by its expression. -/
theorem eq_of_regex_eq (hv : d.LayoutOf v ps) (hw : d'.LayoutOf w qs) (hnone : v.indices = [])
    (h : v.regex = w.regex) : v = w := by
  rw [hv.indices] at hnone
  have hshape : shape v.pattern d.constraints.fragments =
      shape w.pattern d'.constraints.fragments := by
    refine slots_eq_of_shapeText_eq ?_ (by
      rw [← toList_anchoredExpression, ← toList_anchoredExpression, ← hv.regex, ← hw.regex, h])
    intro f g hf
    -- the first of the two has no fragment
    rw [hv.shape_pattern, List.mem_map] at hf
    obtain ⟨p, hp, hslot⟩ := hf
    cases p with
    | char c => cases hslot
    | token i =>
      have hi := mem_tokensOf.mpr hp
      rw [hnone] at hi
      cases hi
  rw [hv.shape_pattern, hw.shape_pattern] at hshape
  have hlength := length_tokensOf_eq_of_slots_eq hshape
  rw [hnone, List.length_nil, eq_comm, List.length_eq_zero_iff] at hlength
  obtain rfl := parts_eq_of_slots_eq (hnone.trans hlength.symm) hshape
  have hpattern : v.pattern = w.pattern := hv.pattern.trans hw.pattern.symm
  have hindices : v.indices = w.indices := hv.indices.trans hw.indices.symm
  cases v
  cases w
  simp only at h hpattern hindices
  rw [h, hpattern, hindices]

end Draft.LayoutOf

namespace Draft.Declared

variable [Regex.SizeLimit] {d : Draft} {v : AnchoredVariant}

theorem mem_constraints (hd : d.Declared) (hv : v ∈ d.finish.variants) {f : String}
    (hf : Slot.fragment f ∈ d.finish.shapeOf v) : f ∈ d.finish.constraints := by
  obtain ⟨ps, hps⟩ := hd.exists_layout hv
  rw [Route.shapeOf, hps.shape_pattern, List.mem_map] at hf
  obtain ⟨p, hp, hslot⟩ := hf
  cases p with
  | char c => cases hslot
  | token i =>
    have hi : i ∈ v.indices := by rw [hps.indices]; exact mem_tokensOf.mpr hp
    have hlt : i < d.finish.constraints.length := by
      rw [show d.finish.constraints = d.constraints.fragments from rfl, hd.sound.length_fragments]
      exact hps.lt_of_mem_indices hd hi
    have hget : d.finish.constraints[i] = f := by
      simpa [Part.slot, List.getElem?_eq_getElem hlt] using hslot
    rw [← hget]
    exact List.getElem_mem hlt

/-- A variant without tokens is compared with the path as it is. -/
theorem matcher_of_literal (hd : d.Declared) (hv : v ∈ d.finish.variants) (hnone : v.indices = []) :
    d.finish.matcher v = .ok (.literal v.pattern) := by
  obtain ⟨ps, hps⟩ := hd.exists_layout hv
  obtain ⟨w, hfind⟩ : ∃ w, d.finish.variants.find? (fun w => w.regex == v.regex) = some w :=
    Option.isSome_iff_exists.mp (List.find?_isSome.mpr ⟨v, hv, beq_self_eq_true _⟩)
  obtain ⟨qs, hqs⟩ := hd.exists_layout (List.mem_of_find?_eq_some hfind)
  have hregex : w.regex = v.regex := by simpa using List.find?_some hfind
  obtain rfl := hps.eq_of_regex_eq hqs hnone hregex.symm
  rw [Route.matcher, hfind, Router.matcherFor]
  simp [hnone]

theorem accept?_of_literal (hd : d.Declared) (hv : v ∈ d.finish.variants) (hnone : v.indices = [])
    (path : String) : d.finish.accept? path v = if v.pattern = path then some [] else none := by
  rw [Route.accept?, hd.matcher_of_literal hv hnone]
  simp only [Matcher.groups?, hnone]
  split <;> rfl

/-- Variants with one expression accept the same paths. -/
theorem exists_accept?_of_regex_eq {d' : Draft} {w : AnchoredVariant} (hd : d.Declared)
    (hd' : d'.Declared) (hv : v ∈ d.finish.variants) (hw : w ∈ d'.finish.variants)
    (h : v.regex = w.regex) {path : String} {params : List (String × String)}
    (haccept : d'.finish.accept? path w = some params) :
    ∃ params', d.finish.accept? path v = some params' := by
  obtain ⟨ps, hps⟩ := hd.exists_layout hv
  obtain ⟨qs, hqs⟩ := hd'.exists_layout hw
  by_cases hnone : w.indices = []
  · obtain rfl := hqs.eq_of_regex_eq hps hnone h.symm
    rw [hd'.accept?_of_literal hw hnone] at haccept
    split at haccept
    · rename_i hpath
      exact ⟨[], by rw [hd.accept?_of_literal hv hnone, if_pos hpath]⟩
    · cases haccept
  · have hsome : v.indices ≠ [] := by
      intro hv'
      obtain rfl := hps.eq_of_regex_eq hqs hv' h
      exact hnone hv'
    obtain ⟨regex, hregex⟩ := Route.compile_of_accept? hnone haccept
    rw [Route.accept?_of_compile hnone hregex, Option.map_eq_some_iff] at haccept
    obtain ⟨caps, hcaps, -⟩ := haccept
    rw [← h] at hregex
    exact ⟨_, by rw [Route.accept?_of_compile hsome hregex, hcaps]; rfl⟩

/-- A route seals when the expressions of its variants with tokens compile. -/
theorem seals_iff (hd : d.Declared) :
    d.finish.Seals ↔
      ∀ v ∈ d.finish.variants, v.indices ≠ [] → ∃ regex, Regex.compile v.regex = .ok regex := by
  constructor
  · intro h v hv hsome
    obtain ⟨m, hm⟩ := h v hv
    obtain ⟨regex, hregex, -⟩ := (Route.matcher_eq_ok_iff hsome).mp hm
    exact ⟨regex, hregex⟩
  · intro h v hv
    by_cases hnone : v.indices = []
    · exact ⟨_, hd.matcher_of_literal hv hnone⟩
    · obtain ⟨regex, hregex⟩ := h v hv hnone
      exact ⟨_, (Route.matcher_eq_ok_iff hnone).mpr ⟨regex, hregex, rfl⟩⟩

end Draft.Declared

end Wayfinder
