/-
  Wayfinder/Proofs/Opening.lean
  =============================
  **What opening a router through a cache does.**

  An opening ends in one of four ways: the source cannot be read, the cache is trusted, the
  cache is replaced, or no router can be built.  What replaces a cache is the snapshot of
  the router that was built, labelled with the hash of the source; and a labelled snapshot
  that is read is trusted exactly where the label is the hash that is asked for.
-/
import Wayfinder.Proofs.Restoration
import Wayfinder.Proofs.Snapshot.Codec
import Wayfinder.Cache

namespace Wayfinder.Cache

variable {fs : Files} {path : String} {source : Option String}
  {rebuild : Unit → Except Failure Router}

/-! ## 1. Four endings -/

/-- The hash that a source asks of its cache: none without a source, and nothing at all when
    the source cannot be read. -/
def expected? (fs : Files) : Option String → Option (Option String)
  | none => some none
  | some source =>
    match fs.read source with
    | .ok content => some (some (sourceHash content))
    | .error _ => none

/-- All that opening a router through a cache can be. -/
inductive Opens (fs : Files) (path : String) (source : Option String)
    (rebuild : Unit → Except Failure Router) : Opening → Prop where
  /-- The source cannot be read, and the cache is left alone. -/
  | bypassed (hsource : expected? fs source = none) :
    Opens fs path source rebuild ⟨rebuild (), fs, true⟩
  /-- The cache is trusted. -/
  | found {hash : Option String} {router : Router} (hsource : expected? fs source = some hash)
    (htrusted : trusted? fs path hash = some router) :
    Opens fs path source rebuild ⟨.ok router, fs, false⟩
  /-- The cache is not trusted, and the router that is built takes its place. -/
  | replaced {hash : Option String} {router : Router} (hsource : expected? fs source = some hash)
    (htrusted : trusted? fs path hash = none) (hrebuild : rebuild () = .ok router) :
    Opens fs path source rebuild ⟨.ok router, keep fs path hash router, true⟩
  /-- The cache is not trusted, and no router can be built. -/
  | failed {hash : Option String} {f : Failure} (hsource : expected? fs source = some hash)
    (htrusted : trusted? fs path hash = none) (hrebuild : rebuild () = .error f) :
    Opens fs path source rebuild ⟨.error f, fs, true⟩

theorem loadOrRebuild_of_expected {hash : Option String} (h : expected? fs source = some hash) :
    loadOrRebuild fs path source rebuild = useOrRebuild fs path hash rebuild := by
  unfold expected? at h
  unfold loadOrRebuild
  cases source with
  | none =>
    obtain rfl := Option.some.inj h
    rfl
  | some source =>
    simp only at h ⊢
    cases hread : fs.read source with
    | ok content =>
      rw [hread] at h
      obtain rfl := Option.some.inj h
      rfl
    | error fault =>
      rw [hread] at h
      cases h

theorem loadOrRebuild_of_unreadable (h : expected? fs source = none) :
    loadOrRebuild fs path source rebuild = ⟨rebuild (), fs, true⟩ := by
  unfold expected? at h
  unfold loadOrRebuild
  cases source with
  | none => cases h
  | some source =>
    simp only at h ⊢
    cases hread : fs.read source with
    | ok content =>
      rw [hread] at h
      cases h
    | error fault => rfl

theorem opens_loadOrRebuild (fs : Files) (path : String) (source : Option String)
    (rebuild : Unit → Except Failure Router) :
    Opens fs path source rebuild (loadOrRebuild fs path source rebuild) := by
  cases hsource : expected? fs source with
  | none =>
    rw [loadOrRebuild_of_unreadable hsource]
    exact .bypassed hsource
  | some hash =>
    rw [loadOrRebuild_of_expected hsource, useOrRebuild]
    cases htrusted : trusted? fs path hash with
    | some router => exact .found hsource htrusted
    | none =>
      simp only [rebuildInto]
      cases hrebuild : rebuild () with
      | ok router => exact .replaced hsource htrusted hrebuild
      | error f => exact .failed hsource htrusted hrebuild

theorem expected?_eq_some_iff {file : String} {hash : Option String} :
    expected? fs (some file) = some hash ↔
      ∃ content, fs.read file = .ok content ∧ hash = some (sourceHash content) := by
  rw [expected?]
  cases hread : fs.read file with
  | ok content => simp [eq_comm]
  | error fault => simp

/-- With a source that can be read, the cache is looked at. -/
theorem exists_expected? (hreadable : ∀ file ∈ source, ∃ content, fs.read file = .ok content) :
    ∃ hash, expected? fs source = some hash := by
  cases source with
  | none => exact ⟨none, rfl⟩
  | some source =>
    obtain ⟨content, hread⟩ := hreadable source rfl
    exact ⟨some (sourceHash content), by rw [expected?, hread]⟩

/-! ## 2. What is kept -/

/-- The snapshot that is written of a router. -/
def labelled (router : Router) (hash : Option String) : Snapshot :=
  { Snapshot.ofRouter router with sourceHash := hash }

theorem keep_cases (fs : Files) (path : String) (hash : Option String) (router : Router) :
    keep fs path hash router = fs ∨
      fs.write path (bytesOfText (labelled router hash).encode) =
        .ok (keep fs path hash router) := by
  unfold keep
  split
  · rename_i written hwritten
    exact Or.inr (write_eq_ok hwritten)
  · exact Or.inl rfl

/-- A router is kept where a file can be written. -/
theorem keep_eq {router : Router} {hash : Option String} {fs' : Files}
    (hwrite : fs.write path (bytesOfText (labelled router hash).encode) = .ok fs') :
    keep fs path hash router = fs' := by
  have hkept : write fs path (labelled router hash) = .ok fs' := by
    rw [write, hwrite]
    rfl
  rw [labelled] at hkept
  rw [keep, hkept]

theorem trusted?_eq_some {fs : Files} {cache expected : String} {router : Router}
    (h : trusted? fs cache (some expected) = some router) :
    ∃ s, read fs cache = .ok s ∧ s.sourceHash = some expected ∧ s.toRouter = .ok router := by
  unfold trusted? at h
  split at h
  · cases h
  · rename_i s hread
    split at h
    · cases h
    · rename_i hhash
      split at h
      · rename_i found hfound
        obtain rfl := Option.some.inj h
        exact ⟨s, hread, by simpa using hhash, hfound⟩
      · cases h

/-- A labelled snapshot that is read is trusted where its label is what is asked for, or nothing
    is. -/
theorem trusted?_of_read {router : Router} (hrestorable : router.Restorable)
    {hash : Option String} (hread : read fs path = .ok (labelled router hash))
    (expected : Option String) :
    trusted? fs path expected =
      if expected.isSome && hash != expected then none else some router := by
  have hrouter : (labelled router hash).toRouter = .ok router := by
    rw [labelled, Snapshot.toRouter_withHash]
    exact Snapshot.toRouter_ofRouter_iff.mpr hrestorable
  unfold trusted?
  simp only [hread, hrouter]
  rfl

end Wayfinder.Cache
