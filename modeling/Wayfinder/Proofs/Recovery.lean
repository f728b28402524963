/-
  Wayfinder/Proofs/Recovery.lean
  ==============================
  **Opening a router recovers from any cache.**

  Whatever stands at the place of a cache, a router is opened: from the cache if it can be
  trusted, and otherwise by building it anew.  Only the second can fail, and then nothing
  was written.  A router that was built is written back, and what is written back passes
  every check of the next opening, the version, the hash of the source, the rows and their
  expressions, so that the next opening finds the same router in the cache.
-/
import Wayfinder.Proofs.Admission
import Wayfinder.Proofs.Loading
import Wayfinder.Proofs.Opening

namespace Wayfinder

open Wayfinder.Pattern

/-! ## 1. Routers that can be kept -/

/-- The positions of a declared variant are machine words. -/
theorem Draft.Declared.inWords {d : Draft} (hd : d.Declared) :
    d.finish.InWords := by
  intro v hv i hi
  exact (hd.sound.lt_of_mem_indices hv hi).trans hd.length_names_lt

namespace Router

/-- Routers that come from sealing a registry, or from loading a snapshot.  Their numbers are
    machine words, and no route has two handlers for one method. -/
inductive Obtained : Router → Prop where
  | sealed {ds : List Draft} {reg : Registry} {router : Router} (hds : ∀ d ∈ ds, d.Declared)
    (hcount : ds.length < wordBound) (hrun : Registry.empty.addAll ds = .ok reg)
    (hseal : reg.toRouter = .ok router) : Obtained router
  | loaded {s : Snapshot} {router : Router} (hsorted : s.Sorted) (hwords : s.InWords)
    (hload : s.toRouter = .ok router) : Obtained router

variable {router : Router}

theorem Obtained.restorable (h : router.Obtained) : router.Restorable := by
  cases h with
  | sealed hds _ hrun hseal =>
    exact Registry.restorable_of_addAll (fun d hd => (hds d hd).sound) hrun hseal
  | loaded _ _ hload => exact Snapshot.restorable_of_toRouter hload

theorem Obtained.sorted (h : router.Obtained) : (Snapshot.ofRouter router).Sorted := by
  cases h with
  | sealed hds _ hrun hseal =>
    refine Declared.sorted ⟨_, _, ?_, hrun, hseal⟩
    intro d hd
    obtain ⟨-, steps, hbuild⟩ := hds d hd
    exact ⟨d.uri, steps, hbuild⟩
  | loaded hsorted _ hload =>
    rw [Snapshot.ofRouter_of_toRouter hload]
    exact hsorted

theorem Obtained.inWords (h : router.Obtained) : (Snapshot.ofRouter router).InWords := by
  cases h with
  | @sealed ds reg _ hds hcount hrun hseal =>
    have hroutes : router.routes.toList = ds.map Draft.finish := by
      rw [Registry.routes_of_toRouter hseal, Registry.routes_of_empty_addAll hrun]
    have hversion : formatVersion < UInt32.size := by decide
    refine ⟨hversion, ?_, ?_⟩
    · intro r hr
      rw [Snapshot.ofRouter, hroutes] at hr
      obtain ⟨d, hd, rfl⟩ := List.mem_map.mp hr
      exact (hds d hd).inWords
    · intro e he
      rw [Snapshot.ofRouter, Registry.entries_of_addAll (fun d hd => (hds d hd).sound) hrun hseal]
        at he
      obtain ⟨k, r, hr, v, hv, rfl⟩ := Registry.mem_entriesFrom he
      rw [List.getElem?_map, Option.map_eq_some_iff] at hr
      obtain ⟨d, hd, rfl⟩ := hr
      refine ⟨?_, (hds d (List.mem_of_getElem? hd)).inWords v hv⟩
      rw [Nat.zero_add]
      exact (List.getElem?_eq_some_iff.mp hd).1.trans hcount
  | loaded _ hwords hload =>
    rw [Snapshot.ofRouter_of_toRouter hload]
    exact hwords

end Router

/-! ## 2. The next opening -/

namespace Cache

variable {fs : Files} {path : String} {source : Option String}
  {rebuild : Unit → Except Failure Router}

/-- What is written of a router passes every check. -/
theorem trusted?_of_write {router : Router} (h : router.Obtained) {hash : Option String}
    {fs' : Files} (hwrite : fs.write path (bytesOfText (labelled router hash).encode) = .ok fs') :
    trusted? fs' path hash = some router := by
  have hsorted : (labelled router hash).Sorted := h.sorted
  have hwords : (labelled router hash).InWords := h.inWords
  have hread : read fs' path = .ok (labelled router hash) := by
    rw [read_of_write hwrite, ofText_encode hsorted rfl, if_pos hwords]
  rw [trusted?_of_read h.restorable hread, bne_self_eq_false, Bool.and_false]
  rfl

theorem expected?_of_write {fs' : Files} {content : Bytes}
    (hplaces : ∀ file ∈ source, Files.place file ≠ Files.place path)
    (hwrite : fs.write path content = .ok fs') {hash : Option String}
    (h : expected? fs source = some hash) : expected? fs' source = some hash := by
  cases source with
  | none => exact h
  | some source =>
    rw [expected?] at h ⊢
    cases hread : fs.read source with
    | error fault =>
      rw [hread] at h
      cases h
    | ok found =>
      rw [hread] at h
      rw [Files.read_write_of_ne (hplaces source rfl) hwrite hread]
      exact h

/-- Opening a router recovers from any cache.  It fails only if building the router fails,
    and then the files are as they were, as they are when the router was not built.  And if
    the router was built, the source can be read and the cache can be written, then the next
    opening does not build anything: it gives the same router, equal in its routes, names
    and rows, whatever it could have built instead. -/
theorem recovers (hplaces : ∀ file ∈ source, Files.place file ≠ Files.place path)
    (hobtained : ∀ router, rebuild () = .ok router → router.Obtained) {first : Opening}
    (hfirst : loadOrRebuild fs path source rebuild = first) :
    (∀ f, first.router = .error f →
      first.rebuilt = true ∧ rebuild () = .error f ∧ first.files = fs) ∧
    (first.rebuilt = false → first.files = fs) ∧
    ∀ router, first.rebuilt = true → rebuild () = .ok router →
      (∀ file ∈ source, ∃ content, fs.read file = .ok content) → fs.Writable path →
        first.router = .ok router ∧ ∀ again,
          loadOrRebuild first.files path source again = ⟨.ok router, first.files, false⟩ := by
  have hopens := opens_loadOrRebuild fs path source rebuild
  rw [hfirst] at hopens
  refine ⟨?_, ?_, ?_⟩
  · intro f hf
    cases hopens with
    | bypassed hsource => exact ⟨rfl, hf, rfl⟩
    | found hsource htrusted => cases hf
    | replaced hsource htrusted hrebuild => cases hf
    | failed hsource htrusted hrebuild =>
      obtain rfl := Except.error.inj hf
      exact ⟨rfl, hrebuild, rfl⟩
  · intro hkept
    cases hopens with
    | bypassed hsource => rfl
    | found hsource htrusted => rfl
    | replaced hsource htrusted hrebuild => cases hkept
    | failed hsource htrusted hrebuild => rfl
  · intro router hbuilt hrouter hreadable hwritable
    obtain ⟨hash, hexpected⟩ := exists_expected? hreadable
    cases hopens with
    | bypassed hsource => cases hsource.symm.trans hexpected
    | found hsource htrusted => cases hbuilt
    | failed hsource htrusted hrebuild => cases hrebuild.symm.trans hrouter
    | @replaced hash' router' hsource htrusted hrebuild =>
      obtain rfl := Option.some.inj (hsource.symm.trans hexpected)
      obtain rfl := Except.ok.inj (hrebuild.symm.trans hrouter)
      refine ⟨rfl, ?_⟩
      intro again
      obtain ⟨fs', hwrite⟩ := hwritable.write (bytesOfText (labelled router' hash').encode)
      rw [keep_eq hwrite, loadOrRebuild_of_expected (expected?_of_write hplaces hwrite hexpected),
        useOrRebuild, trusted?_of_write (hobtained router' hrouter) hwrite]

/-- A directory with a manifest and with a cache that holds no snapshot. -/
def spoiled : Files :=
  ⟨[(["routes.json"], .file [123, 125]), (["routes.table"], .file [255, 0])]⟩

/-- The spoiled cache is replaced, and used from then on. -/
theorem recovers_spoiled :
    ∃ router first, (Snapshot.lopsided [[0]]).toRouter = .ok router ∧
      loadOrRebuild spoiled "routes.table" (some "routes.json") (fun _ => .ok router) = first ∧
        first.rebuilt = true ∧ ∀ again,
          loadOrRebuild first.files "routes.table" (some "routes.json") again =
            ⟨.ok router, first.files, false⟩ := by
  obtain ⟨router, hload⟩ : ∃ router, (Snapshot.lopsided [[0]]).toRouter = .ok router :=
    exists_ok_of_isSome (by cbv)
  have hobtained : router.Obtained := by
    refine .loaded ?_ (by decide) hload
    intro r hr
    obtain rfl := List.mem_singleton.mp hr
    exact .nil
  have hplaces : ∀ file ∈ some "routes.json", Files.place file ≠ Files.place "routes.table" := by
    intro file hfile
    obtain rfl := Option.some.inj hfile
    decide
  have hreadable : ∀ file ∈ some "routes.json", ∃ content, spoiled.read file = .ok content := by
    intro file hfile
    obtain rfl := Option.some.inj hfile
    exact ⟨[123, 125], by decide⟩
  have hwritable : spoiled.Writable "routes.table" := ⟨[], _, rfl⟩
  have hrebuilt : (loadOrRebuild spoiled "routes.table" (some "routes.json")
      (fun _ => .ok router)).rebuilt = true := by
    have hspoiled : spoiled.readText "routes.table" = .error .invalidData := by decide
    obtain ⟨hash, hexpected⟩ := exists_expected? hreadable
    rw [loadOrRebuild_of_expected hexpected, useOrRebuild, trusted?, read, hspoiled]
    rfl
  obtain ⟨-, -, hnext⟩ := @recovers spoiled _ _ (fun _ => .ok router) hplaces
    (fun found hfound => Except.ok.inj hfound ▸ hobtained) _ rfl
  obtain ⟨-, hagain⟩ := hnext router hrebuilt rfl hreadable hwritable
  exact ⟨router, _, hload, rfl, hrebuilt, hagain⟩

end Cache

end Wayfinder
