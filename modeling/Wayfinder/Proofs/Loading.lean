/-
  Wayfinder/Proofs/Loading.lean
  =============================
  **What loading a manifest gives.**

  Loading reads the file of a manifest and nothing else, so it depends on the content of
  that file alone.  A router that it gives comes from a run of registrations, one for each
  declaration, and so it can be restored from its snapshot.  The handlers of its routes
  stand in the order of their methods, whatever the order of the declaration, which is
  what the written form of a snapshot asks for.
-/
import Wayfinder.Proofs.Restoration
import Wayfinder.Proofs.Snapshot.Codec
import Wayfinder.Command.Run

namespace Wayfinder

open Wayfinder.Pattern

/-! ## 1. Handlers in order -/

theorem Method.rank_injective {m n : Method} (h : m.rank = n.rank) : m = n := by
  have hget : ∀ m : Method, all[m.rank]? = some m := by
    intro m
    cases m <;> rfl
  exact Option.some.inj ((hget m).symm.trans ((congrArg (all[·]?) h).trans (hget n)))

namespace Bindings

theorem mem_insert {bs : Bindings} {m : Method} {b : Binding} {c : Method × Binding}
    (h : c ∈ insert m b bs) : c = (m, b) ∨ c ∈ bs := by
  induction bs with
  | nil => exact Or.inl (List.mem_singleton.mp h)
  | cons d bs ih =>
    rw [insert] at h
    split at h
    · exact List.mem_cons.mp h
    · split at h
      · rcases List.mem_cons.mp h with rfl | h
        · exact Or.inl rfl
        · exact Or.inr (List.mem_cons_of_mem _ h)
      · rcases List.mem_cons.mp h with rfl | h
        · exact Or.inr List.mem_cons_self
        · rcases ih h with rfl | h
          · exact Or.inl rfl
          · exact Or.inr (List.mem_cons_of_mem _ h)

/-- Binding a method keeps the order. -/
theorem Sorted.insert {bs : Bindings} (h : bs.Sorted) (m : Method) (b : Binding) :
    Sorted (insert m b bs) := by
  induction bs with
  | nil => exact List.pairwise_singleton _ _
  | cons c bs ih =>
    obtain ⟨n, c⟩ := c
    obtain ⟨hfirst, hrest⟩ := List.pairwise_cons.mp h
    rw [Bindings.insert]
    split
    · rename_i hlt
      refine List.pairwise_cons.mpr ⟨?_, h⟩
      intro d hd
      rcases List.mem_cons.mp hd with rfl | hd
      · exact hlt
      · exact hlt.trans (hfirst d hd)
    · rename_i hge
      split
      · rename_i heq
        subst heq
        exact List.pairwise_cons.mpr ⟨hfirst, hrest⟩
      · rename_i hne
        refine List.pairwise_cons.mpr ⟨?_, ih hrest⟩
        intro d hd
        rcases mem_insert hd with rfl | hd
        · exact Nat.lt_of_le_of_ne (Nat.le_of_not_lt hge) fun h => hne (Method.rank_injective h.symm)
        · exact hfirst d hd

theorem Sorted.withHead {bs : Bindings} (h : bs.Sorted) : Sorted (withHead bs) := by
  unfold Bindings.withHead
  split
  · split
    · exact h
    · exact h.insert _ _
  · exact h

end Bindings

namespace Draft

/-- A step binds a method, or leaves the handlers alone. -/
theorem methods_of_take {d d' : Draft} {step : Step} (h : d.take step = .ok d') :
    d'.methods = d.methods ∨ ∃ m b, d'.methods = Bindings.insert m b d.methods := by
  cases takes_of_take h with
  | name => exact Or.inl rfl
  | constraint => exact Or.inl rfl
  | method => exact Or.inr ⟨_, _, rfl⟩
  | methodToken => exact Or.inr ⟨_, _, rfl⟩
  | middleware => exact Or.inl rfl
  | provenance => exact Or.inl rfl

theorem sorted_methods_of_build {uri : String} {steps : List Step} {d : Draft}
    (h : build uri steps = .ok d) : Bindings.Sorted d.methods := by
  obtain ⟨start, hstart, hrun⟩ := bind_eq_ok_iff.mp h
  refine foldlM_invariant (fun d => Bindings.Sorted d.methods) ?_ ?_ hrun
  · intro d step d' hsorted hstep
    rcases methods_of_take hstep with hsame | ⟨m, b, hinsert⟩
    · rw [hsame]
      exact hsorted
    · rw [hinsert]
      exact hsorted.insert m b
  · obtain ⟨-, ws, -, -, rfl⟩ := start_eq_ok_iff.mp hstart
    exact .nil

/-- The handlers of a finished draft stand in order, wherever they were bound. -/
theorem sorted_of_build {uri : String} {steps : List Step} {d : Draft}
    (h : build uri steps = .ok d) : Bindings.Sorted d.finish.methods :=
  (sorted_methods_of_build h).withHead

end Draft

/-! ## 2. Declarations as registrations -/

namespace Manifest

/-- Registering declarations is registering the drafts that they build. -/
theorem addAll_eq_ok_iff {origin : String} {reg reg' : Registry} {i : Nat}
    {decls : List Declaration} :
    addAll origin reg i decls = .ok reg' ↔
      ∃ ds : List Draft,
        (decls.mapIdx fun j decl => decl.draft (provenanceTag origin (i + j))) = ds.map .ok ∧
          reg.addAll ds = .ok reg' := by
  induction decls generalizing reg i with
  | nil =>
    constructor
    · intro h
      obtain rfl := Except.ok.inj h
      exact ⟨[], rfl, rfl⟩
    · rintro ⟨ds, hds, hrun⟩
      obtain rfl := List.map_eq_nil_iff.mp hds.symm
      obtain rfl := Except.ok.inj hrun
      rfl
  | cons decl decls ih =>
    have hcons : ((decl :: decls).mapIdx fun j decl => decl.draft (provenanceTag origin (i + j))) =
        decl.draft (provenanceTag origin i) ::
          decls.mapIdx fun j decl => decl.draft (provenanceTag origin (i + 1 + j)) := by
      have hnumbers : ∀ j, i + (j + 1) = i + 1 + j := fun j => by omega
      rw [List.mapIdx_cons]
      congr 2
      funext j later
      rw [hnumbers]
    rw [hcons]
    constructor
    · intro h
      unfold addAll at h
      split at h
      · rename_i mid hmid
        obtain ⟨d, hdraft, hadd⟩ := bind_eq_ok_iff.mp hmid
        obtain ⟨⟨mid', number⟩, hregister, hmid'⟩ := bind_eq_ok_iff.mp hadd
        obtain rfl := Except.ok.inj hmid'
        obtain ⟨ds, hds, hrest⟩ := ih.mp h
        refine ⟨d :: ds, ?_, Registry.addAll_cons_eq_ok_iff.mpr ⟨_, number, hregister, hrest⟩⟩
        rw [hds, hdraft, List.map_cons]
      · cases h
    · rintro ⟨_ | ⟨d, ds⟩, hds, hrun⟩
      · cases hds
      · rw [List.map_cons, List.cons.injEq] at hds
        obtain ⟨mid, number, hregister, hrest⟩ := Registry.addAll_cons_eq_ok_iff.mp hrun
        have hadd : decl.addTo reg (provenanceTag origin i) = .ok mid :=
          bind_eq_ok_iff.mpr ⟨d, hds.1, bind_eq_ok_iff.mpr ⟨(mid, number), hregister, rfl⟩⟩
        rw [addAll, hadd]
        exact ih.mpr ⟨ds, hds.2, hrest⟩

/-- Each draft of a run comes from one of the declarations. -/
theorem exists_declaration_of_mem {tags : Nat → String} {decls : List Declaration}
    {ds : List Draft} (hds : (decls.mapIdx fun j decl => decl.draft (tags j)) = ds.map .ok)
    {d : Draft} (hd : d ∈ ds) : ∃ decl ∈ decls, ∃ tag, decl.draft tag = .ok d := by
  have hmem : (.ok d : Except RouteError Draft) ∈ ds.map .ok := List.mem_map.mpr ⟨d, hd, rfl⟩
  rw [← hds] at hmem
  obtain ⟨j, hj, hdraft⟩ := List.mem_mapIdx.mp hmem
  exact ⟨decls[j], List.getElem_mem hj, _, hdraft⟩

theorem exists_addAll {origin : String} {reg reg' : Registry} {i : Nat} {decls : List Declaration}
    (h : addAll origin reg i decls = .ok reg') :
    ∃ ds : List Draft, (∀ d ∈ ds, ∃ uri steps, Draft.build uri steps = .ok d) ∧
      reg.addAll ds = .ok reg' := by
  obtain ⟨ds, hds, hrun⟩ := addAll_eq_ok_iff.mp h
  refine ⟨ds, ?_, hrun⟩
  intro d hd
  obtain ⟨decl, -, tag, hdraft⟩ := exists_declaration_of_mem hds hd
  exact ⟨decl.uri, decl.steps tag, hdraft⟩

end Manifest

namespace Router

/-- Routers that registrations and sealing can give. -/
def Declared (router : Router) : Prop :=
  ∃ ds reg, (∀ d ∈ ds, ∃ uri steps, Draft.build uri steps = .ok d) ∧
    Registry.empty.addAll ds = .ok reg ∧ reg.toRouter = .ok router

theorem Declared.restorable {router : Router} (h : router.Declared) : router.Restorable := by
  obtain ⟨ds, reg, hds, hrun, hseal⟩ := h
  refine Registry.restorable_of_addAll ?_ hrun hseal
  intro d hd
  obtain ⟨uri, steps, hbuild⟩ := hds d hd
  exact Draft.sound_of_build hbuild

theorem Declared.sorted {router : Router} (h : router.Declared) :
    (Snapshot.ofRouter router).Sorted := by
  obtain ⟨ds, reg, hds, hrun, hseal⟩ := h
  intro r hr
  rw [Snapshot.ofRouter, Registry.routes_of_toRouter hseal,
    Registry.routes_of_empty_addAll hrun] at hr
  obtain ⟨d, hd, rfl⟩ := List.mem_map.mp hr
  obtain ⟨uri, steps, hbuild⟩ := hds d hd
  exact Draft.sorted_of_build hbuild

/-! ## 3. Files -/

/-- A router is loaded from a content, and it is one that registrations can give. -/
theorem load_eq_ok {fs : Files} {path : String} {router : Router}
    (h : load fs path = .ok router) : (∃ content, fs.read path = .ok content) ∧ router.Declared := by
  obtain ⟨m, hm, hrouter⟩ := bind_eq_ok_iff.mp h
  constructor
  · unfold Manifest.load at hm
    split at hm
    · cases hm
    · split at hm
      · cases hm
      · rename_i text htext
        obtain ⟨content, hcontent, -⟩ := bind_eq_ok_iff.mp htext
        exact ⟨content, hcontent⟩
  · obtain ⟨reg, hreg, hseal⟩ := bind_eq_ok_iff.mp hrouter
    obtain ⟨ds, hds, hrun⟩ := Manifest.exists_addAll hreg
    split at hseal
    · rename_i sealed hsealed
      obtain rfl := Except.ok.inj hseal
      exact ⟨ds, reg, hds, hrun, hsealed⟩
    · cases hseal

/-- Loading looks at the file of the manifest and at no other. -/
theorem load_congr {fs fs' : Files} {path : String} (h : fs.read path = fs'.read path) :
    load fs path = load fs' path := by
  have htext : fs.readText path = fs'.readText path := by
    rw [Files.readText, Files.readText, h]
  simp only [load, Manifest.load, htext]

/-- Where a text stands that is a manifest, its router is loaded. -/
theorem load_of_text {fs : Files} {path text : String} {format : Manifest.Format} {m : Manifest}
    (hformat : Manifest.Format.ofPath? path = some format)
    (hread : fs.read path = .ok (bytesOfText text))
    (hparse : Manifest.parse? text format = some m) : load fs path = m.toRouter path := by
  have hm : Manifest.load fs path = .ok m := by
    simp only [Manifest.load, hformat, Files.readText_of_read hread, Manifest.parse, hparse]
    rfl
  rw [load, hm]
  rfl

/-- Where a text stands that is a manifest whose router is known in some respect, a router that
    is so is loaded, the same from all such files. -/
theorem exists_load_of_text {α : Type} {path text : String} {format : Manifest.Format}
    {m : Manifest} {respect : Router → α} {value : α}
    (hformat : Manifest.Format.ofPath? path = some format)
    (hparse : Manifest.parse? text format = some m)
    (hvalue : (m.toRouter path).toOption.map respect = some value) :
    ∃ router, respect router = value ∧
      ∀ fs : Files, fs.read path = .ok (bytesOfText text) → load fs path = .ok router := by
  cases hrouter : m.toRouter path with
  | error f => simp [hrouter, Except.toOption] at hvalue
  | ok router =>
    rw [hrouter] at hvalue
    refine ⟨router, Option.some.inj hvalue, fun fs hread => ?_⟩
    rw [load_of_text hformat hread hparse, hrouter]

end Router

/-- Resolving a path shows what the router of the manifest makes of it. -/
theorem Command.output_runResolve {fs : Files} {manifest : String} {router : Router}
    (h : Router.load fs manifest = .ok router) (p : String) :
    (runResolve fs manifest none none false [p]).output = router.resolutionLine none p := by
  have hopened : (openRouter fs manifest none).router = .ok router := h
  simp [runResolve, methodOf?, hopened, resolvePaths]

end Wayfinder
