/-
  Wayfinder/Proofs/Compilation.lean
  =================================
  **A manifest is compiled faithfully, or its culprit is named.**

  The declarations of a manifest become routes one by one.  The route has all that its
  declaration says: nothing is lost on the way, and nothing is added but the default
  fragments and the handler of HEAD that comes from GET.  When a declaration cannot be
  taken, or is refused by the routes before it, the failure names it and tells an error
  about its pattern; otherwise only sealing can fail.
-/
import Wayfinder.Proofs.Pattern.Grammar
import Wayfinder.Proofs.Precedence
import Wayfinder.Proofs.Recording
import Wayfinder.Proofs.Sealability

namespace Wayfinder

open Wayfinder.Pattern

/-! ## 1. What a declaration becomes -/

/-- Whether a route is just what a declaration says, with a tag that tells where the
    declaration stands. -/
structure Declaration.CompiledAs (decl : Declaration) (tag : String) (r : Route) : Prop where
  uri : r.uri = decl.uri
  name : r.name = decl.name
  middlewares : r.middlewares = decl.middlewares
  provenance : r.provenance = some tag
  /-- The wildcards of the pattern have the declared fragments or the default. -/
  wildcards : extract decl.uri = .ok r.wildcards
  fragments : r.constraints =
    r.wildcards.names.map fun w => (decl.constraints.lookup w).getD defaultFragment
  constrained : ∀ c ∈ decl.constraints, c.1 ∈ r.wildcards.names
  /-- The handlers are the declared ones, and that of GET for HEAD if HEAD has none. -/
  handlers : ∀ m b, (m, b) ∈ r.methods ↔
    (∃ handler, (m.token, handler) ∈ decl.methods ∧ b = ⟨handler, false⟩) ∨
      m = .head ∧ (∃ handler, (Method.get.token, handler) ∈ decl.methods ∧ b = ⟨handler, true⟩) ∧
        ∀ handler, (Method.head.token, handler) ∉ decl.methods
  tokens : ∀ p ∈ decl.methods, ∃ m : Method, m.token = p.1
  sorted : Bindings.Sorted r.methods

namespace Declaration

variable {decl : Declaration} {tag : String} {d : Draft}

/-- What can be read off single steps is read off a declaration kind by kind. -/
theorem filterMap_steps {β : Type} (f : Draft.Step → Option β) :
    (decl.steps tag).filterMap f =
      (f (.provenance tag)).toList ++ (decl.name.bind fun n => f (.name n)).toList ++
        decl.methods.filterMap (fun p => f (.methodToken p.1 p.2)) ++
        decl.constraints.filterMap (fun c => f (.constraint c.1 c.2)) ++
        decl.middlewares.filterMap (fun id => f (.middleware id)) := by
  have hname : (decl.name.map Draft.Step.name).toList.filterMap f =
      (decl.name.bind fun n => f (.name n)).toList := by
    cases decl.name with
    | none => rfl
    | some n => cases hn : f (.name n) <;> simp [hn]
  have htag : ∀ later, (Draft.Step.provenance tag :: later).filterMap f =
      (f (.provenance tag)).toList ++ later.filterMap f := by
    intro later
    cases ht : f (.provenance tag) <;> simp [ht]
  rw [steps, List.filterMap_append, List.filterMap_append, List.filterMap_append,
    List.filterMap_map, List.filterMap_map, List.filterMap_map, htag, hname]
  rfl

theorem names_steps : (decl.steps tag).filterMap Draft.Step.name? = decl.name.toList := by
  simp [filterMap_steps, Draft.Step.name?]

theorem tags_steps : (decl.steps tag).filterMap Draft.Step.tag? = [tag] := by
  simp [filterMap_steps, Draft.Step.tag?]

theorem middlewares_steps :
    (decl.steps tag).filterMap Draft.Step.middleware? = decl.middlewares := by
  simp [filterMap_steps, Draft.Step.middleware?]

theorem constraints_steps :
    (decl.steps tag).filterMap Draft.Step.constraint? = decl.constraints := by
  simp [filterMap_steps, Draft.Step.constraint?]

theorem mem_handlers_steps {m : Method} {handler : String} :
    (m, handler) ∈ (decl.steps tag).filterMap Draft.Step.handler? ↔
      (m.token, handler) ∈ decl.methods := by
  have hhandlers : (decl.steps tag).filterMap Draft.Step.handler? =
      decl.methods.filterMap fun p => (Method.ofToken? p.1).map fun m => (m, p.2) := by
    simp [filterMap_steps, Draft.Step.handler?]
  rw [hhandlers, List.mem_filterMap]
  constructor
  · rintro ⟨p, hp, hm⟩
    obtain ⟨m', hm', hpair⟩ := Option.map_eq_some_iff.mp hm
    obtain ⟨rfl, rfl⟩ := Prod.mk.inj hpair
    rwa [Method.token_of_ofToken? hm']
  · intro hmem
    exact ⟨_, hmem, by rw [Method.ofToken?_token]; rfl⟩

theorem get?_eq_lookup (h : decl.draft tag = .ok d) {i : Nat} {wildcard : String}
    (hi : d.wildcards.names[i]? = some wildcard) :
    d.constraints.get? i = decl.constraints.lookup wildcard := by
  have hmem : ∀ fragment, d.constraints.get? i = some fragment ↔
      (wildcard, fragment) ∈ decl.constraints := by
    intro fragment
    rw [(Draft.records_of_build h).fragments i wildcard hi, constraints_steps]
  cases hlookup : decl.constraints.lookup wildcard with
  | some fragment =>
    obtain ⟨before, after, hsplit, -⟩ := List.lookup_eq_some_iff.mp hlookup
    rw [hmem, hsplit]
    exact List.mem_append_right _ List.mem_cons_self
  | none =>
    rw [Option.eq_none_iff_forall_ne_some]
    intro fragment hfragment
    have hother := List.lookup_eq_none_iff.mp hlookup _ ((hmem fragment).mp hfragment)
    simp at hother

theorem fragments_of_draft (h : decl.draft tag = .ok d) :
    d.constraints.fragments =
      d.wildcards.names.map fun w => (decl.constraints.lookup w).getD defaultFragment := by
  have hsize := (Draft.sound_of_build h).size
  apply List.ext_getElem?
  intro i
  rw [Constraints.fragments, List.getElem?_map, List.getElem?_map]
  cases hi : d.wildcards.names[i]? with
  | none =>
    rw [List.getElem?_eq_none_iff] at hi
    rw [List.getElem?_eq_none (by rw [hsize]; exact hi)]
    rfl
  | some wildcard =>
    have hlt : i < d.constraints.bound.length := by
      rw [hsize]
      exact (List.getElem?_eq_some_iff.mp hi).1
    have hget := get?_eq_lookup h hi
    rw [Constraints.get?, List.getElem?_eq_getElem hlt, Option.join_some] at hget
    rw [List.getElem?_eq_getElem hlt, Option.map_some, Option.map_some, hget]

/-- The route of a declaration is just what the declaration says. -/
theorem compiledAs_of_draft (h : decl.draft tag = .ok d) : decl.CompiledAs tag d.finish := by
  have hrecords := Draft.records_of_build h
  have hsound := Draft.sound_of_build h
  have hsorted := Draft.sorted_methods_of_build h
  refine ⟨hrecords.uri, ?_, ?_, ?_, ?_, fragments_of_draft h, ?_, ?_, ?_, hsorted.withHead⟩
  · change d.name = _
    rw [hrecords.name, names_steps]
    cases decl.name <;> rfl
  · change d.middlewares = _
    rw [hrecords.middlewares, middlewares_steps]
  · change d.provenance = _
    rw [hrecords.tag, tags_steps]
    rfl
  · rw [← hrecords.uri]
    exact hsound.extracted
  · intro c hc
    refine hrecords.constrained c ?_
    rwa [constraints_steps]
  · intro m b
    rw [Draft.mem_methods_finish_iff h]
    simp only [mem_handlers_steps]
  · intro p hp
    have hstep : Draft.Step.methodToken p.1 p.2 ∈ decl.steps tag := by
      simp only [steps, List.mem_append]
      exact Or.inl (Or.inl (Or.inr (List.mem_map.mpr ⟨p, hp, rfl⟩)))
    obtain ⟨m, hm⟩ := hrecords.tokens p.1 p.2 hstep
    exact ⟨m, Method.token_of_ofToken? hm⟩

end Declaration

/-! ## 2. Errors about a pattern -/

namespace Draft

theorem uri?_of_take {d : Draft} {step : Step} {e : RouteError} (h : d.take step = .error e) :
    e.uri? = some d.uri := by
  have hmethod : ∀ m handler, d.bindMethod m handler = .error e → e.uri? = some d.uri := by
    intro m handler hm
    unfold bindMethod at hm
    split at hm
    · obtain rfl := Except.error.inj hm
      rfl
    · cases hm
  cases step with
  | name n =>
    simp only [take, setName] at h
    split at h
    · cases h
    · obtain rfl := Except.error.inj h
      rfl
  | constraint wildcard fragment =>
    simp only [take, constrain, bind_eq_error_iff] at h
    rcases h with h | ⟨cs, -, h⟩
    · unfold Constraints.bind at h
      split at h
      · obtain rfl := Except.error.inj h
        rfl
      · split at h
        · obtain rfl := Except.error.inj h
          rfl
        · split at h
          · obtain rfl := Except.error.inj h
            rfl
          · cases h
    · cases h
  | method m handler => exact hmethod m handler h
  | methodToken token handler =>
    simp only [take, bindToken] at h
    split at h
    · exact hmethod _ handler h
    · obtain rfl := Except.error.inj h
      rfl
  | middleware id => cases h
  | provenance tag => cases h

theorem uri?_of_build {uri : String} {steps : List Step} {e : RouteError}
    (h : build uri steps = .error e) : e.uri? = some uri := by
  rcases bind_eq_error_iff.mp h with hstart | ⟨d, hstart, hrun⟩
  · cases refused_of_start hstart <;> rfl
  · refine foldlM_error (fun b : Draft => b.uri = uri) (fun e => e.uri? = some uri) ?_ ?_ ?_ hrun
    · intro b step b' hb hstep
      exact (take_eq_ok hstep).1.trans hb
    · intro b step e hb hstep
      rw [uri?_of_take hstep, hb]
    · exact (records_start hstart).uri

end Draft

namespace Registry

theorem uri?_of_add {reg : Registry} {d : Draft} {e : RouteError} (h : reg.add d = .error e) :
    e.uri? = some d.uri := by
  unfold add register at h
  split at h
  · rename_i conflict hconflict
    obtain rfl := Except.error.inj h
    unfold conflict? at hconflict
    split at hconflict
    · obtain rfl := Option.some.inj hconflict
      rfl
    · obtain ⟨v, -, hv⟩ := List.exists_of_findSome?_eq_some hconflict
      obtain ⟨holder, -, rfl⟩ := Option.map_eq_some_iff.mp hv
      rfl
  · cases h

theorem uri_of_matcherFor {r : Route} {variant : Option AnchoredVariant} {entry : Entry}
    {f : RowFault} (h : Router.matcherFor r variant entry = .error f) : f.uri = r.uri := by
  unfold Router.matcherFor at h
  cases hcompile : Regex.compile entry.regex with
  | ok regex =>
    simp only [hcompile] at h
    split at h
    · split at h <;> cases h
    · cases h
  | error reason =>
    simp only [hcompile] at h
    split at h
    · split at h
      · cases h
      · rw [← Except.error.inj h]
    · rw [← Except.error.inj h]

/-- What keeps a registry from being sealed is an expression of one of its routes. -/
theorem exists_of_toRouter_eq_error {reg : Registry} {e : RouteError}
    (h : reg.toRouter = .error e) :
    ∃ r ∈ reg.routes.toList, ∃ name regex reason, e = .invalidRegex r.uri name regex reason := by
  obtain ⟨f, hf, rfl⟩ := Option.map_eq_some_iff.mp (toRouter_eq_error_iff.mp h)
  obtain ⟨⟨entry, r⟩, hmem, hfail⟩ := List.exists_of_findSome?_eq_some hf
  obtain ⟨i, hi, -⟩ := mem_table.mp hmem
  have hready := failure?_eq_some_iff.mp hfail
  have huri : f.uri = r.uri := by
    simp only [ready, Router.readyRow, bind_eq_error_iff] at hready
    rcases hready with hmatcher | ⟨m, -, hm⟩
    · exact uri_of_matcherFor hmatcher
    · cases hm
  exact ⟨r, List.fst_mem_of_mem_zipIdx hi, f.variant, f.regex, f.reason, by rw [← huri]; rfl⟩

end Registry

/-! ## 3. Manifests -/

namespace Manifest

/-- Whether some declarations can be built, each with the tag of its number, and register in
    order in a registry. -/
def Registers (origin : String) (decls : List Declaration) (reg : Registry) : Prop :=
  ∃ ds : List Draft,
    (decls.mapIdx fun i decl => decl.draft (provenanceTag origin i)) = ds.map .ok ∧
      Registry.empty.addAll ds = .ok reg

/-- Whether a router has a route for each declaration of a manifest, in order, and no others. -/
structure CompiledAs (m : Manifest) (origin : String) (router : Router) : Prop where
  size : router.size = m.routes.length
  routes : ∀ i (decl : Declaration), m.routes[i]? = some decl →
    ∃ r, router.routes[i]? = some r ∧ decl.CompiledAs (provenanceTag origin i) r

/-- Why a manifest is not compiled, and how that is told. -/
inductive Blames (m : Manifest) (origin : String) : Failure → Prop where
  /-- The declarations before one register, and it cannot be built or is refused.  The error is
      about its pattern. -/
  | declaration {i : Nat} {decl : Declaration} {reg : Registry} {e : RouteError} :
    m.routes[i]? = some decl → Registers origin (m.routes.take i) reg →
    (decl.draft (provenanceTag origin i) = .error e ∨
      ∃ d, decl.draft (provenanceTag origin i) = .ok d ∧ reg.add d = .error e) →
    e.uri? = some decl.uri → Blames m origin ⟨[decl.context origin i], .route e⟩
  /-- All declarations register, and an expression of one of them keeps the registry from being
      sealed. -/
  | sealing {decl : Declaration} {reg : Registry} {name regex : String} {reason : Regex.Fault} :
    Registers origin m.routes reg → decl ∈ m.routes →
    reg.toRouter = .error (.invalidRegex decl.uri name regex reason) →
    Blames m origin
      ⟨["failed to seal routes from " ++ origin], .route (.invalidRegex decl.uri name regex reason)⟩

theorem addAll_empty_eq_ok_iff {origin : String} {decls : List Declaration} {reg : Registry} :
    addAll origin .empty 0 decls = .ok reg ↔ Registers origin decls reg := by
  simp only [addAll_eq_ok_iff, Registers, Nat.zero_add]

theorem addTo_eq_error_iff {decl : Declaration} {reg : Registry} {tag : String} {e : RouteError} :
    decl.addTo reg tag = .error e ↔
      decl.draft tag = .error e ∨ ∃ d, decl.draft tag = .ok d ∧ reg.add d = .error e := by
  rw [Declaration.addTo, bind_eq_error_iff]
  refine or_congr Iff.rfl (exists_congr fun d => and_congr Iff.rfl ?_)
  rw [bind_eq_error_iff]
  refine or_iff_left ?_
  rintro ⟨_, -, h⟩
  cases h

/-- A run of declarations fails at the first that cannot be taken after those before it. -/
theorem addAll_eq_error_iff {origin : String} {reg : Registry} {i : Nat} {decls : List Declaration}
    {f : Failure} :
    addAll origin reg i decls = .error f ↔
      ∃ j decl mid e, decls[j]? = some decl ∧ addAll origin reg i (decls.take j) = .ok mid ∧
        decl.addTo mid (provenanceTag origin (i + j)) = .error e ∧
          f = ⟨[decl.context origin (i + j)], .route e⟩ := by
  induction decls generalizing reg i with
  | nil => simp [addAll]
  | cons first decls ih =>
    rw [addAll]
    cases hfirst : first.addTo reg (provenanceTag origin i) with
    | error e =>
      constructor
      · intro h
        exact ⟨0, first, reg, e, rfl, rfl, hfirst, (Except.error.inj h).symm⟩
      · rintro ⟨_ | j, decl, mid, e', hdecl, hmid, hadd, rfl⟩
        · obtain rfl := Option.some.inj hdecl
          obtain rfl := Except.ok.inj hmid
          obtain rfl := Except.error.inj (hfirst.symm.trans hadd)
          rfl
        · rw [List.take_succ_cons, addAll, hfirst] at hmid
          cases hmid
    | ok next =>
      have hnumbers : ∀ j, i + 1 + j = i + (j + 1) := fun j => by omega
      simp only [ih, hnumbers]
      constructor
      · rintro ⟨j, decl, mid, e, hdecl, hmid, hadd, rfl⟩
        refine ⟨j + 1, decl, mid, e, hdecl, ?_, hadd, rfl⟩
        rwa [List.take_succ_cons, addAll, hfirst]
      · rintro ⟨_ | j, decl, mid, e, hdecl, hmid, hadd, rfl⟩
        · obtain rfl := Option.some.inj hdecl
          obtain rfl := Except.ok.inj hmid
          rw [Nat.add_zero, hfirst] at hadd
          cases hadd
        · rw [List.take_succ_cons, addAll, hfirst] at hmid
          exact ⟨j, decl, mid, e, hdecl, hmid, hadd, rfl⟩

section Registers

variable {origin : String} {decls : List Declaration} {reg : Registry}

theorem Registers.exists_draft {ds : List Draft}
    (hds : (decls.mapIdx fun i decl => decl.draft (provenanceTag origin i)) = ds.map .ok) {i : Nat}
    {decl : Declaration} (hi : decls[i]? = some decl) :
    ∃ d, ds[i]? = some d ∧ decl.draft (provenanceTag origin i) = .ok d := by
  have hget := congrArg (·[i]?) hds
  simp only [List.getElem?_mapIdx, hi, Option.map_some, List.getElem?_map] at hget
  obtain ⟨d, hd, hdraft⟩ := Option.map_eq_some_iff.mp hget.symm
  exact ⟨d, hd, hdraft.symm⟩

theorem Registers.exists_declaration (h : Registers origin decls reg) {r : Route}
    (hr : r ∈ reg.routes.toList) : ∃ decl ∈ decls, r.uri = decl.uri := by
  obtain ⟨ds, hds, hrun⟩ := h
  rw [Registry.routes_of_empty_addAll hrun] at hr
  obtain ⟨d, hd, rfl⟩ := List.mem_map.mp hr
  obtain ⟨decl, hdecl, tag, hdraft⟩ := exists_declaration_of_mem hds hd
  exact ⟨decl, hdecl, (Draft.records_of_build hdraft).uri⟩

theorem Registers.compiledAs {m : Manifest} (h : Registers origin m.routes reg) {router : Router}
    (hseal : reg.toRouter = .ok router) : m.CompiledAs origin router := by
  obtain ⟨ds, hds, hrun⟩ := h
  have hroutes := Registry.routes_of_empty_addAll hrun
  have hlength : m.routes.length = ds.length := by
    simpa using congrArg List.length hds
  have hrouter := Registry.routes_of_toRouter hseal
  refine ⟨?_, ?_⟩
  · rw [Router.size, hrouter, ← Array.length_toList, hroutes, List.length_map, hlength]
  · intro i decl hi
    obtain ⟨d, hd, hdraft⟩ := exists_draft hds hi
    refine ⟨d.finish, ?_, Declaration.compiledAs_of_draft hdraft⟩
    rw [hrouter, ← Array.getElem?_toList, hroutes, List.getElem?_map, hd]
    rfl

/-- Where declarations register and seal, so do the first of them. -/
theorem Registers.exists_take (h : Registers origin decls reg) {router : Router}
    (hseal : reg.toRouter = .ok router) (k : Nat) :
    ∃ part partRouter, Registers origin (decls.take k) part ∧ part.toRouter = .ok partRouter := by
  obtain ⟨ds, hds, hrun⟩ := h
  obtain ⟨part, partRouter, hpart, hpartSeal⟩ :=
    Registry.exists_of_sublist (List.take_sublist k ds) hrun hseal
  refine ⟨part, partRouter, ⟨ds.take k, ?_, hpart⟩, hpartSeal⟩
  rw [List.map_take, ← hds]
  apply List.ext_getElem?
  intro i
  simp only [List.getElem?_mapIdx, List.getElem?_take]
  split <;> rfl

end Registers

theorem toRouter_eq_ok_iff {m : Manifest} {origin : String} {router : Router} :
    m.toRouter origin = .ok router ↔
      ∃ reg, Registers origin m.routes reg ∧ reg.toRouter = .ok router := by
  rw [toRouter, bind_eq_ok_iff]
  refine exists_congr fun reg => and_congr addAll_empty_eq_ok_iff ?_
  cases reg.toRouter <;> simp

theorem blames_of_toRouter {m : Manifest} {origin : String} {f : Failure}
    (h : m.toRouter origin = .error f) : m.Blames origin f := by
  rcases bind_eq_error_iff.mp h with hadd | ⟨reg, hreg, hseal⟩
  · obtain ⟨i, decl, reg, e, hdecl, hreg, htaken, rfl⟩ := addAll_eq_error_iff.mp hadd
    rw [Nat.zero_add] at htaken ⊢
    have hreason := addTo_eq_error_iff.mp htaken
    refine .declaration hdecl (addAll_empty_eq_ok_iff.mp hreg) hreason ?_
    rcases hreason with hdraft | ⟨d, hdraft, hrefused⟩
    · exact Draft.uri?_of_build hdraft
    · rw [Registry.uri?_of_add hrefused, (Draft.records_of_build hdraft).uri]
  · have hregisters := addAll_empty_eq_ok_iff.mp hreg
    cases hsealed : reg.toRouter with
    | ok router => simp [hsealed] at hseal
    | error e =>
      simp only [hsealed, Except.error.injEq] at hseal
      obtain ⟨r, hr, name, regex, reason, rfl⟩ := Registry.exists_of_toRouter_eq_error hsealed
      obtain ⟨decl, hdecl, huri⟩ := hregisters.exists_declaration hr
      rw [huri] at hsealed hseal
      rw [← hseal]
      exact .sealing hregisters hdecl hsealed

theorem toRouter_of_blames {m : Manifest} {origin : String} {f : Failure}
    (h : m.Blames origin f) : m.toRouter origin = .error f := by
  cases h with
  | @declaration i decl reg e hdecl hreg hreason _ =>
    rw [toRouter, bind_eq_error_iff, addAll_eq_error_iff]
    refine Or.inl ⟨i, decl, reg, e, hdecl, addAll_empty_eq_ok_iff.mpr hreg, ?_, ?_⟩
    · rw [Nat.zero_add]
      exact addTo_eq_error_iff.mpr hreason
    · rw [Nat.zero_add]
  | @sealing decl reg name regex reason hreg _ hsealed =>
    rw [toRouter, bind_eq_error_iff]
    exact Or.inr ⟨reg, addAll_empty_eq_ok_iff.mpr hreg, by rw [hsealed]⟩

/-- A manifest is compiled faithfully, or its culprit is named.  Its router has the route that
    each declaration says, and every initial part of the manifest is compiled too; or it fails,
    and then for the first declaration that cannot be taken, with an error about its pattern, or
    for the expression of a declaration that keeps all of them from being sealed. -/
theorem toRouter_faithful (m : Manifest) (origin : String) :
    ((∃ router, m.toRouter origin = .ok router ∧ m.CompiledAs origin router ∧
        ∀ k, ∃ part, (⟨m.routes.take k⟩ : Manifest).toRouter origin = .ok part) ∨
      ∃ f, m.toRouter origin = .error f) ∧
    ∀ f, m.toRouter origin = .error f ↔ m.Blames origin f := by
  refine ⟨?_, fun f => ⟨blames_of_toRouter, toRouter_of_blames⟩⟩
  cases h : m.toRouter origin with
  | error f => exact Or.inr ⟨f, rfl⟩
  | ok router =>
    obtain ⟨reg, hreg, hseal⟩ := toRouter_eq_ok_iff.mp h
    refine Or.inl ⟨router, rfl, hreg.compiledAs hseal, ?_⟩
    intro k
    obtain ⟨part, partRouter, hpart, hpartSeal⟩ := hreg.exists_take hseal k
    exact ⟨partRouter, toRouter_eq_ok_iff.mpr ⟨part, hpart, hpartSeal⟩⟩

/-- Two declarations, one of them with a name, a handler and a fragment. -/
def blog : Manifest :=
  ⟨[⟨"/blog/{slug}", some "post", [("GET", "show")], [("slug", "[a-z]+")], []⟩,
    ⟨"/about", none, [], [], ["log"]⟩]⟩

def postDraft : Draft :=
  ⟨"/blog/{slug}", some "post", ⟨"/blog/{0}", ["slug"], [false]⟩, ⟨[some "[a-z]+"]⟩,
    [(.get, ⟨"show", false⟩)], [], some "routes.json#0"⟩

def aboutDraft : Draft :=
  ⟨"/about", none, ⟨"/about", [], []⟩, ⟨[]⟩, [], ["log"], some "routes.json#1"⟩

/-- The declarations register, as the drafts that they build, and can be sealed. -/
theorem registers_blog :
    ∃ reg router, Registers "routes.json" blog.routes reg ∧
      Registry.empty.addAll [postDraft, aboutDraft] = .ok reg ∧ reg.toRouter = .ok router := by
  have hdrafts : (blog.routes.mapIdx fun i decl => decl.draft (provenanceTag "routes.json" i)) =
      [postDraft, aboutDraft].map .ok := by
    decide +kernel
  have hpost : postDraft.finish.variants = [⟨"/blog/{0}", [0], "^/blog/([a-z]+)$"⟩] := by decide
  have habout : aboutDraft.finish.variants = [⟨"/about", [], "^/about$"⟩] := by decide
  have hcompatible : postDraft.finish.Compatible aboutDraft.finish := by
    refine ⟨by rintro name - ⟨⟩, ?_⟩
    rw [hpost, habout]
    simp
  obtain ⟨reg, hrun⟩ := (@Registry.Consistent.exists_addAll_iff _ Registry.consistent_empty
    [postDraft, aboutDraft]).mpr (by simpa [Registry.empty] using hcompatible)
  have hpostDeclared : postDraft.Declared :=
    ⟨by decide, [.provenance "routes.json#0", .name "post", .methodToken "GET" "show",
      .constraint "slug" "[a-z]+"], by decide +kernel⟩
  have haboutDeclared : aboutDraft.Declared :=
    ⟨by decide, [.provenance "routes.json#1", .middleware "log"], by decide +kernel⟩
  obtain ⟨router, hseal⟩ : ∃ router, reg.toRouter = .ok router := by
    rw [Registry.exists_toRouter_iff, Registry.routes_of_empty_addAll hrun]
    simp only [List.map_cons, List.map_nil, List.forall_mem_cons, hpostDeclared.seals_iff,
      haboutDeclared.seals_iff, hpost, habout]
    exact ⟨⟨fun _ => exists_ok_of_isSome (by cbv), by simp⟩, ⟨by simp, by simp⟩, by simp⟩
  exact ⟨reg, router, ⟨_, hdrafts, hrun⟩, hrun, hseal⟩

/-- Both declarations are compiled, and answer the paths that they stand for. -/
theorem toRouter_faithful_blog :
    ∃ router, blog.toRouter "routes.json" = .ok router ∧ blog.CompiledAs "routes.json" router ∧
      router.resolve "/blog/a" (some .get) =
        .ok ⟨0, postDraft.finish, [("slug", "a")]⟩ ∧
      router.resolve "/about" none = .ok ⟨1, aboutDraft.finish, []⟩ := by
  obtain ⟨reg, router, hregisters, hrun, hseal⟩ := registers_blog
  have hrouter := toRouter_eq_ok_iff.mpr ⟨reg, hregisters, hseal⟩
  obtain ⟨⟨found, hfound, hcompiled, -⟩ | ⟨f, hf⟩, -⟩ := toRouter_faithful blog "routes.json"
  · obtain rfl := Except.ok.inj (hfound.symm.trans hrouter)
    refine ⟨found, hfound, hcompiled, ?_, ?_⟩
    · rw [Router.resolve, Registry.find?_eq_scan hrun hseal]
      cbv
    · rw [Router.resolve, Registry.find?_eq_scan hrun hseal]
      cbv
  · cases hf.symm.trans hrouter

/-- The second fault of a declaration is not looked at. -/
example : (⟨[⟨"a", some "!", [], [], []⟩]⟩ : Manifest).toRouter "routes.json" =
    .error ⟨["route #0 `a` in routes.json"], .route (.invalidPath "a" [.leadingSlash])⟩ := rfl

end Manifest

end Wayfinder
