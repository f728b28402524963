/-
  Wayfinder/Proofs/Freshness.lean
  ===============================
  **The cache never serves stale routes.**

  A manifest is edited, removed, compiled into a cache, resolved through the cache and
  opened through it, in any order.  What stands in the cache was written by one of these
  uses, so it is the snapshot of what the manifest held at some time, stamped with the hash
  of that content.  It is used again only when the stamp is the hash of the content of now.
  As long as no two contents of the manifest have one hash, the content is then the same,
  loading it would give the same router, and the snapshot gives back exactly that router.
-/
import Wayfinder.Proofs.Loading
import Wayfinder.Proofs.Opening

namespace Wayfinder

/-! ## 1. Runs -/

namespace Cache

/-- What can happen to a manifest and its cache. -/
inductive Event where
  /-- The manifest is written anew, if it can be. -/
  | rewrite (content : Bytes)
  /-- The manifest is removed, if it is there. -/
  | remove
  /-- The manifest is compiled into the cache. -/
  | compile
  /-- Paths are resolved through the cache. -/
  | resolve (method : Option String) (failOnMiss : Bool) (paths : List String)
  /-- The manifest is opened through the cache. -/
  | load
deriving DecidableEq, Repr

/-- Open a manifest through a cache. -/
def openThrough (manifest cache : String) (fs : Files) : Opening :=
  loadOrRebuild fs cache (some manifest) fun _ => Router.load fs manifest

/-- The files after an event.  What cannot be done leaves them as they are. -/
def Event.after (manifest cache : String) (fs : Files) : Event → Files
  | .rewrite content => ((fs.write manifest content).toOption).getD fs
  | .remove => ((fs.remove manifest).toOption).getD fs
  | .compile => (Command.runCompile fs manifest cache).files
  | .resolve method failOnMiss paths =>
    (Command.runResolve fs manifest (some cache) method failOnMiss paths).files
  | .load => (openThrough manifest cache fs).files

/-- The files before, between and after some events. -/
def history (manifest cache : String) (fs : Files) (events : List Event) : List Files :=
  events.scanl (Event.after manifest cache) fs

/-- Whether no two contents that the manifest has in some states share a hash. -/
def DistinctHashes (manifest : String) (states : List Files) : Prop :=
  ∀ fs₁ ∈ states, ∀ fs₂ ∈ states, ∀ content₁ content₂,
    fs₁.read manifest = .ok content₁ → fs₂.read manifest = .ok content₂ →
      sourceHash content₁ = sourceHash content₂ → content₁ = content₂

/-! ## 2. What stands in a cache -/

/-- The snapshot that is kept of a router that comes from a content. -/
def stamped (router : Router) (content : Bytes) : Snapshot :=
  labelled router (some (sourceHash content))

/-- What one use of a manifest through a cache does to the files: nothing, or the router of
    the manifest is written into the cache, stamped with the hash of the manifest. -/
def Keeps (manifest cache : String) (fs fs' : Files) : Prop :=
  fs' = fs ∨ ∃ content router, fs.read manifest = .ok content ∧
    Router.load fs manifest = .ok router ∧
      fs.write cache (bytesOfText (stamped router content).encode) = .ok fs'

theorem keeps_openThrough (manifest cache : String) (fs : Files) :
    Keeps manifest cache fs (openThrough manifest cache fs).files := by
  have hopens := opens_loadOrRebuild fs cache (some manifest) fun _ => Router.load fs manifest
  rw [openThrough]
  generalize loadOrRebuild fs cache _ _ = opening at hopens
  cases hopens with
  | bypassed _ => exact Or.inl rfl
  | found _ _ => exact Or.inl rfl
  | failed _ _ _ => exact Or.inl rfl
  | @replaced hash router hsource _ hrebuild =>
    obtain ⟨content, hcontent, rfl⟩ := expected?_eq_some_iff.mp hsource
    rcases keep_cases fs cache (some (sourceHash content)) router with hsame | hwrite
    · exact Or.inl hsame
    · exact Or.inr ⟨content, router, hcontent, hrebuild, hwrite⟩

theorem keeps_runCompile (manifest cache : String) (fs : Files) :
    Keeps manifest cache fs (Command.runCompile fs manifest cache).files := by
  unfold Command.runCompile
  split
  · exact Or.inl rfl
  · rename_i s hs
    obtain ⟨router, hrouter, hsnapshot⟩ := bind_eq_ok_iff.mp hs
    split at hsnapshot
    · rename_i content hcontent
      obtain rfl := Except.ok.inj hsnapshot
      split
      · rename_i written hwritten
        exact Or.inr ⟨content, router, hcontent, hrouter, write_eq_ok hwritten⟩
      · exact Or.inl rfl
    · cases hsnapshot

theorem keeps_runResolve (manifest cache : String) (fs : Files) (method : Option String)
    (failOnMiss : Bool) (paths : List String) :
    Keeps manifest cache fs
      (Command.runResolve fs manifest (some cache) method failOnMiss paths).files := by
  have hopening := keeps_openThrough manifest cache fs
  unfold Command.runResolve
  split
  · exact Or.inl rfl
  · simp only [Command.openRouter]
    split
    · exact hopening
    · exact hopening

/-- All that an event can do: the manifest is written or removed, or it is used through its
    cache.  What fails does nothing. -/
theorem Event.after_cases (manifest cache : String) (fs : Files) (e : Event) :
    (∃ content, e = .rewrite content ∧
      fs.write manifest content = .ok (e.after manifest cache fs)) ∨
    (e = .remove ∧ fs.remove manifest = .ok (e.after manifest cache fs)) ∨
    Keeps manifest cache fs (e.after manifest cache fs) := by
  cases e with
  | rewrite content =>
    rw [Event.after]
    cases hwrite : fs.write manifest content with
    | error fault => exact Or.inr (Or.inr (Or.inl rfl))
    | ok written => exact Or.inl ⟨content, rfl, hwrite⟩
  | remove =>
    rw [Event.after]
    cases hremove : fs.remove manifest with
    | error fault => exact Or.inr (Or.inr (Or.inl rfl))
    | ok rest => exact Or.inr (Or.inl ⟨rfl, rfl⟩)
  | compile => exact Or.inr (Or.inr (keeps_runCompile manifest cache fs))
  | resolve method failOnMiss paths =>
    exact Or.inr (Or.inr (keeps_runResolve manifest cache fs method failOnMiss paths))
  | load => exact Or.inr (Or.inr (keeps_openThrough manifest cache fs))

/-- Whether a cache that can be read holds the router of some earlier state of the manifest,
    stamped with the content of that state. -/
def Traced (past : Files → Prop) (manifest cache : String) (fs : Files) : Prop :=
  ∀ bytes, fs.read cache = .ok bytes →
    ∃ fs₁ content router, past fs₁ ∧ fs₁.read manifest = .ok content ∧
      Router.load fs₁ manifest = .ok router ∧ bytes = bytesOfText (stamped router content).encode

section Step

variable {past : Files → Prop} {manifest cache : String} {fs : Files}

theorem Traced.keeps (h : Traced past manifest cache fs) (hpast : past fs) {fs' : Files}
    (hkeeps : Keeps manifest cache fs fs') : Traced past manifest cache fs' := by
  rcases hkeeps with rfl | ⟨content, router, hcontent, hrouter, hwrite⟩
  · exact h
  · intro bytes hbytes
    exact ⟨fs, content, router, hpast, hcontent, hrouter, Files.eq_of_read_write hwrite hbytes⟩

theorem Traced.after (hplaces : Files.place cache ≠ Files.place manifest)
    (h : Traced past manifest cache fs) (hpast : past fs) (e : Event) :
    Traced past manifest cache (e.after manifest cache fs) := by
  rcases e.after_cases manifest cache fs with ⟨content, -, hwrite⟩ | ⟨-, hremove⟩ | hkeeps
  · intro bytes hbytes
    exact h bytes (Files.read_of_write hplaces hwrite hbytes)
  · intro bytes hbytes
    exact h bytes (Files.read_of_remove hplaces hremove hbytes)
  · exact h.keeps hpast hkeeps

end Step

/-- In a run that starts with a cache that can be traced it always can. -/
theorem traced_of_mem_history {past : Files → Prop} {manifest cache : String}
    (hplaces : Files.place cache ≠ Files.place manifest) {events : List Event} {fs₀ : Files}
    (hstart : Traced past manifest cache fs₀)
    (hpast : ∀ fs ∈ history manifest cache fs₀ events, past fs) :
    ∀ fs ∈ history manifest cache fs₀ events, Traced past manifest cache fs := by
  -- `past` stays fixed: what was traced to a state of the whole run remains so
  induction events generalizing fs₀ with
  | nil =>
    intro fs hfs
    obtain rfl := List.mem_singleton.mp hfs
    exact hstart
  | cons e events ih =>
    rw [history, List.scanl_cons] at hpast ⊢
    rw [List.forall_mem_cons] at hpast ⊢
    exact ⟨hstart, ih (hstart.after hplaces hpast.1 e) hpast.2⟩

/-! ## 3. What a cache gives -/

/-- A snapshot that was written is the one that is read, if one is read at all. -/
theorem eq_stamped_of_read {fs : Files} {cache : String} {router : Router} {content : Bytes}
    (hrouter : router.Declared)
    (hwritten : fs.read cache = .ok (bytesOfText (stamped router content).encode)) {s : Snapshot}
    (hread : read fs cache = .ok s) : s = stamped router content := by
  rw [read_of_text hwritten, ofText_encode (s := stamped router content) hrouter.sorted rfl] at hread
  split at hread
  · exact (Except.ok.inj hread).symm
  · cases hread

/-- A cache that can be traced gives the router of the manifest as it is now, provided that
    no earlier content had the hash of the present one. -/
theorem router_openThrough {past : Files → Prop} {manifest cache : String} {fs : Files}
    (htraced : Traced past manifest cache fs)
    (hdistinct : ∀ fs₁, past fs₁ → ∀ content₁ content, fs₁.read manifest = .ok content₁ →
      fs.read manifest = .ok content → sourceHash content₁ = sourceHash content →
        content₁ = content) :
    (openThrough manifest cache fs).router = Router.load fs manifest := by
  have hopens := opens_loadOrRebuild fs cache (some manifest) fun _ => Router.load fs manifest
  rw [openThrough]
  generalize loadOrRebuild fs cache _ _ = opening at hopens
  cases hopens with
  | bypassed _ => rfl
  | replaced _ _ hrebuild => exact hrebuild.symm
  | failed _ _ hrebuild => exact hrebuild.symm
  | @found hash found hsource htrusted =>
    obtain ⟨content, hcontent, rfl⟩ := expected?_eq_some_iff.mp hsource
    obtain ⟨s, hread, hhash, hfound⟩ := trusted?_eq_some htrusted
    -- what was read from the cache was once written into it
    obtain ⟨bytes, hbytes⟩ : ∃ bytes, fs.read cache = .ok bytes := by
      unfold read at hread
      split at hread
      · rename_i text htext
        obtain ⟨bytes, hbytes, -⟩ := bind_eq_ok_iff.mp htext
        exact ⟨bytes, hbytes⟩
      · cases hread
    obtain ⟨fs₁, content₁, router, hpast, hcontent₁, hrouter, rfl⟩ := htraced bytes hbytes
    have hdeclared := (Router.load_eq_ok hrouter).2
    obtain rfl := eq_stamped_of_read hdeclared hbytes hread
    -- the stamp tells that the manifest is what it was then
    obtain rfl := hdistinct fs₁ hpast content₁ content hcontent₁ hcontent (Option.some.inj hhash)
    rw [← Router.load_congr (hcontent₁.trans hcontent.symm), hrouter]
    have hrestored := Snapshot.toRouter_ofRouter_iff.mpr hdeclared.restorable
    have hsame := hfound.symm.trans ((Snapshot.toRouter_withHash _ _).trans hrestored)
    rw [Except.ok.inj hsame]

/-- A stamped cache is trusted exactly while the hash that is asked for is its stamp. -/
theorem trusted?_of_stamped {fs : Files} {cache : String} {router : Router} {content : Bytes}
    (hrouter : router.Declared) (hwords : (stamped router content).InWords)
    (hcache : fs.read cache = .ok (bytesOfText (stamped router content).encode)) (hash : String) :
    trusted? fs cache (some hash) = if sourceHash content = hash then some router else none := by
  have hread : read fs cache = .ok (stamped router content) := by
    rw [read_of_text hcache, ofText_encode (s := stamped router content) hrouter.sorted rfl,
      if_pos hwords]
  rw [trusted?_of_read hrouter.restorable hread]
  by_cases hsame : sourceHash content = hash <;> simp [hsame]

section Opening

variable {manifest cache : String} {fs fs' : Files} {content : Bytes} {router : Router}

theorem openThrough_of_trusted (hcontent : fs.read manifest = .ok content)
    (htrusted : trusted? fs cache (some (sourceHash content)) = some router) :
    openThrough manifest cache fs = ⟨.ok router, fs, false⟩ := by
  rw [openThrough, loadOrRebuild_of_expected (expected?_eq_some_iff.mpr ⟨content, hcontent, rfl⟩),
    useOrRebuild, htrusted]

theorem openThrough_of_untrusted (hcontent : fs.read manifest = .ok content)
    (htrusted : trusted? fs cache (some (sourceHash content)) = none)
    (hrouter : Router.load fs manifest = .ok router)
    (hwrite : fs.write cache (bytesOfText (stamped router content).encode) = .ok fs') :
    openThrough manifest cache fs = ⟨.ok router, fs', true⟩ := by
  rw [openThrough, loadOrRebuild_of_expected (expected?_eq_some_iff.mpr ⟨content, hcontent, rfl⟩),
    useOrRebuild, htrusted]
  simp only [rebuildInto, hrouter, keep_eq hwrite]

theorem files_runCompile (hcontent : fs.read manifest = .ok content)
    (hrouter : Router.load fs manifest = .ok router)
    (hwrite : fs.write cache (bytesOfText (stamped router content).encode) = .ok fs') :
    (Command.runCompile fs manifest cache).files = fs' := by
  have hsnapshot : Command.snapshotOf fs manifest = .ok (stamped router content) := by
    rw [Command.snapshotOf, hrouter]
    simp only [bind, Except.bind, hcontent]
    rfl
  have hwritten : write fs cache (stamped router content) = .ok fs' := by
    rw [write, hwrite]
    rfl
  simp only [Command.runCompile, hsnapshot, hwritten]
  rfl

end Opening

/-- What resolving shows depends on the router alone, however it was opened. -/
theorem runResolve_of_router {manifest cache : String} {fs : Files}
    (h : (openThrough manifest cache fs).router = Router.load fs manifest)
    (method : Option String) (failOnMiss : Bool) (paths : List String) :
    (Command.runResolve fs manifest (some cache) method failOnMiss paths).output =
        (Command.runResolve fs manifest none method failOnMiss paths).output ∧
      (Command.runResolve fs manifest (some cache) method failOnMiss paths).failure =
        (Command.runResolve fs manifest none method failOnMiss paths).failure := by
  have hcached : (Command.openRouter fs manifest (some cache)).router =
      Router.load fs manifest := h
  have hplain : (Command.openRouter fs manifest none).router = Router.load fs manifest := rfl
  unfold Command.runResolve
  split
  · exact ⟨rfl, rfl⟩
  · simp only [hcached, hplain]
    cases Router.load fs manifest with
    | error f => exact ⟨rfl, rfl⟩
    | ok router => exact ⟨rfl, rfl⟩

/-! ## 4. Every state of a run -/

/-- What the manifest holds after an event it held before, or it was given by the event. -/
theorem Event.read_after {manifest cache : String}
    (hplaces : Files.place cache ≠ Files.place manifest) {fs : Files} {e : Event} {content : Bytes}
    (hread : (e.after manifest cache fs).read manifest = .ok content) :
    fs.read manifest = .ok content ∨ e = .rewrite content := by
  rcases e.after_cases manifest cache fs with ⟨written, rfl, hwrite⟩ | ⟨-, hremove⟩ | hkeeps
  · obtain rfl := Files.eq_of_read_write hwrite hread
    exact Or.inr rfl
  · exact absurd hread (Files.not_read_of_remove hremove content)
  · rcases hkeeps with hsame | ⟨_, _, -, -, hwrite⟩
    · rw [hsame] at hread
      exact Or.inl hread
    · exact Or.inl (Files.read_of_write hplaces.symm hwrite hread)

/-- The contents that the manifest has in a run are those it was given. -/
theorem content_of_mem_history {manifest cache : String}
    (hplaces : Files.place cache ≠ Files.place manifest) {events : List Event} {fs₀ fs : Files}
    (hfs : fs ∈ history manifest cache fs₀ events) {content : Bytes}
    (hread : fs.read manifest = .ok content) :
    fs₀.read manifest = .ok content ∨ .rewrite content ∈ events := by
  induction events generalizing fs₀ with
  | nil =>
    obtain rfl := List.mem_singleton.mp hfs
    exact Or.inl hread
  | cons e events ih =>
    rw [history, List.scanl_cons] at hfs
    rcases List.mem_cons.mp hfs with rfl | hfs
    · exact Or.inl hread
    · rcases ih hfs with hafter | hlater
      · rcases Event.read_after hplaces hafter with hbefore | rfl
        · exact Or.inl hbefore
        · exact Or.inr List.mem_cons_self
      · exact Or.inr (List.mem_cons_of_mem _ hlater)

/-- The cache never serves stale routes.  In every state of a run that starts without a
    cache, opening the manifest through the cache gives what loading it gives then, a router
    or a failure; and resolving through the cache shows and reports what resolving without
    it does. -/
theorem never_stale {manifest cache : String}
    (hplaces : Files.place cache ≠ Files.place manifest) {fs₀ : Files}
    (habsent : fs₀.exists? cache = false) {events : List Event}
    (hdistinct : DistinctHashes manifest (history manifest cache fs₀ events)) {fs : Files}
    (hfs : fs ∈ history manifest cache fs₀ events) :
    (loadOrRebuild fs cache (some manifest) fun _ => Router.load fs manifest).router =
        Router.load fs manifest ∧
      ∀ method failOnMiss paths,
        (Command.runResolve fs manifest (some cache) method failOnMiss paths).output =
            (Command.runResolve fs manifest none method failOnMiss paths).output ∧
          (Command.runResolve fs manifest (some cache) method failOnMiss paths).failure =
            (Command.runResolve fs manifest none method failOnMiss paths).failure := by
  have hstart : Traced (· ∈ history manifest cache fs₀ events) manifest cache fs₀ := by
    intro bytes hbytes
    exact absurd hbytes (Files.not_read_of_not_exists habsent bytes)
  have htraced := traced_of_mem_history hplaces hstart (fun _ h => h) fs hfs
  have hrouter := router_openThrough htraced fun fs₁ hfs₁ => hdistinct fs₁ hfs₁ fs hfs
  exact ⟨hrouter, runResolve_of_router hrouter⟩

/-- The text of a manifest that declares one route. -/
def pageText (uri : String) : String :=
  "\x7b\"routes\": [\x7b\"uri\": \"" ++ uri ++ "\"\x7d]\x7d"

def pageManifest (uri : String) : Bytes := bytesOfText (pageText uri)

/-- What matters of the router of a manifest that declares one route: where it is loaded from,
    that it can be kept, and what it makes of a path. -/
structure PageRouter (uri line : String) (router : Router) : Prop where
  load : ∀ fs : Files, fs.read "routes.json" = .ok (pageManifest uri) →
    Router.load fs "routes.json" = .ok router
  inWords : (stamped router (pageManifest uri)).InWords
  line : router.resolutionLine none "/old" = line

theorem exists_pageRouter {uri line : String} {m : Manifest}
    (hparse : Manifest.parse? (pageText uri) .json = some m)
    (hrouter : ((m.toRouter "routes.json").toOption.map fun router =>
      (decide (Snapshot.ofRouter router).InWords, router.resolutionLine none "/old")) =
        some (true, line)) :
    ∃ router, PageRouter uri line router := by
  obtain ⟨router, hvalue, hload⟩ := Router.exists_load_of_text rfl hparse hrouter
  obtain ⟨hwords, hline⟩ := Prod.mk.inj hvalue
  exact ⟨router, hload, of_decide_eq_true hwords, hline⟩

/-- A directory of files, the one that was written last in front. -/
def directory (files : List (String × Bytes)) : Files :=
  ⟨files.map fun file => ([file.1], .file file.2)⟩

theorem sourceHash_old_ne_new :
    sourceHash (pageManifest "/old") ≠ sourceHash (pageManifest "/new") := by
  decide +kernel

def editing : List Event :=
  [.rewrite (pageManifest "/old"), .load, .load, .rewrite (pageManifest "/new"), .compile]

theorem distinctHashes_editing :
    DistinctHashes "routes.json" (history "routes.json" "routes.table" .empty editing) := by
  have hplaces : Files.place "routes.table" ≠ Files.place "routes.json" := by decide
  have hcontents : ∀ fs ∈ history "routes.json" "routes.table" .empty editing, ∀ content,
      fs.read "routes.json" = .ok content →
        content = pageManifest "/old" ∨ content = pageManifest "/new" := by
    intro fs hfs content hread
    rcases content_of_mem_history hplaces hfs hread with hbefore | hwritten
    · exact absurd hbefore (Files.not_read_of_not_exists (by decide) content)
    · simpa [editing] using hwritten
  intro fs₁ hfs₁ fs₂ hfs₂ content₁ content₂ hread₁ hread₂ hsame
  rcases hcontents fs₁ hfs₁ content₁ hread₁ with rfl | rfl <;>
    rcases hcontents fs₂ hfs₂ content₂ hread₂ with rfl | rfl
  · rfl
  · exact absurd hsame sourceHash_old_ne_new
  · exact absurd hsame.symm sourceHash_old_ne_new
  · rfl

/-- The states of the run, with what is seen of each: whether the cache is replaced, and what
    the manifest makes of the path. -/
theorem history_editing {old new : Router} {found missed : String}
    (hold : PageRouter "/old" found old) (hnew : PageRouter "/new" missed new) :
    ∃ states, history "routes.json" "routes.table" .empty editing = .empty :: states ∧
      (states.map fun fs => (openThrough "routes.json" "routes.table" fs).rebuilt) =
        [true, false, false, true, false] ∧
      (states.map fun fs => (Command.runResolve fs "routes.json" none none false ["/old"]).output) =
        [found, found, found, missed, missed] := by
  -- what is written into the cache matters only where it is read again
  obtain ⟨oldTable, holdTable⟩ :
      ∃ table, table = bytesOfText (stamped old (pageManifest "/old")).encode := ⟨_, rfl⟩
  obtain ⟨newTable, hnewTable⟩ :
      ∃ table, table = bytesOfText (stamped new (pageManifest "/new")).encode := ⟨_, rfl⟩
  let fs₁ := directory [("routes.json", pageManifest "/old")]
  let fs₂ := directory [("routes.table", oldTable), ("routes.json", pageManifest "/old")]
  let fs₃ := directory [("routes.json", pageManifest "/new"), ("routes.table", oldTable)]
  let fs₄ := directory [("routes.table", newTable), ("routes.json", pageManifest "/new")]
  have hload₁ := hold.load fs₁ rfl
  have hload₃ := hnew.load fs₃ rfl
  have hkept : ∀ fs : Files, fs.read "routes.table" = .ok oldTable → ∀ hash,
      trusted? fs "routes.table" (some hash) =
        if sourceHash (pageManifest "/old") = hash then some old else none := by
    intro fs hread
    exact trusted?_of_stamped (Router.load_eq_ok hload₁).2 hold.inWords (by rw [hread, holdTable])
  have hopen₁ : openThrough "routes.json" "routes.table" fs₁ = ⟨.ok old, fs₂, true⟩ :=
    openThrough_of_untrusted rfl rfl hload₁ (by rw [← holdTable]; rfl)
  have hopen₂ : openThrough "routes.json" "routes.table" fs₂ = ⟨.ok old, fs₂, false⟩ := by
    refine openThrough_of_trusted rfl ?_
    rw [hkept fs₂ rfl, if_pos rfl]
  have hopen₃ : openThrough "routes.json" "routes.table" fs₃ = ⟨.ok new, fs₄, true⟩ := by
    refine openThrough_of_untrusted rfl ?_ hload₃ (by rw [← hnewTable]; rfl)
    rw [hkept fs₃ rfl, if_neg sourceHash_old_ne_new]
  have hopen₄ : openThrough "routes.json" "routes.table" fs₄ = ⟨.ok new, fs₄, false⟩ := by
    refine openThrough_of_trusted rfl ?_
    rw [trusted?_of_stamped (Router.load_eq_ok hload₃).2 hnew.inWords (by rw [← hnewTable]; rfl),
      if_pos rfl]
  refine ⟨[fs₁, fs₂, fs₂, fs₃, fs₄], ?_, ?_, ?_⟩
  · have hrewrite₁ : Event.after "routes.json" "routes.table" .empty
        (.rewrite (pageManifest "/old")) = fs₁ := rfl
    have hafter₁ : Event.after "routes.json" "routes.table" fs₁ .load = fs₂ := by
      rw [Event.after, hopen₁]
    have hafter₂ : Event.after "routes.json" "routes.table" fs₂ .load = fs₂ := by
      rw [Event.after, hopen₂]
    have hrewrite₂ : Event.after "routes.json" "routes.table" fs₂
        (.rewrite (pageManifest "/new")) = fs₃ := rfl
    have hafter₃ : Event.after "routes.json" "routes.table" fs₃ .compile = fs₄ :=
      files_runCompile rfl hload₃ (by rw [← hnewTable]; rfl)
    simp only [history, editing, List.scanl_cons, List.scanl_nil, hrewrite₁, hafter₁, hafter₂,
      hrewrite₂, hafter₃]
  · simp only [List.map_cons, List.map_nil, hopen₁, hopen₂, hopen₃, hopen₄]
  · simp only [List.map_cons, List.map_nil, Command.output_runResolve hload₁,
      Command.output_runResolve (hold.load fs₂ rfl), Command.output_runResolve hload₃,
      Command.output_runResolve (hnew.load fs₄ rfl), hold.line, hnew.line]

/-- The cache of the first manifest is used until the second is written, and not again, so the
    path that was moved is found until then, and not again. -/
theorem never_stale_editing :
    ((history "routes.json" "routes.table" .empty editing).map fun fs =>
        (openThrough "routes.json" "routes.table" fs).rebuilt) =
      [true, true, false, false, true, false] ∧
    ((history "routes.json" "routes.table" .empty editing).map fun fs =>
        (Command.runResolve fs "routes.json" (some "routes.table") none false ["/old"]).output) =
      ["", "/old -> #0 /old\n", "/old -> #0 /old\n", "/old -> #0 /old\n", "/old -> no route\n",
        "/old -> no route\n"] ∧
    ∀ fs ∈ history "routes.json" "routes.table" .empty editing,
      (loadOrRebuild fs "routes.table" (some "routes.json") fun _ =>
          Router.load fs "routes.json").router = Router.load fs "routes.json" ∧
        ∀ method failOnMiss paths,
          (Command.runResolve fs "routes.json" (some "routes.table") method failOnMiss
              paths).output =
              (Command.runResolve fs "routes.json" none method failOnMiss paths).output ∧
            (Command.runResolve fs "routes.json" (some "routes.table") method failOnMiss
              paths).failure =
              (Command.runResolve fs "routes.json" none method failOnMiss paths).failure := by
  have hfresh := fun fs hfs => @never_stale "routes.json" "routes.table" (by decide) .empty
    (by decide) editing distinctHashes_editing fs hfs
  obtain ⟨old, hold⟩ : ∃ router, PageRouter "/old" "/old -> #0 /old\n" router :=
    @exists_pageRouter _ _ ⟨[⟨"/old", none, [], [], []⟩]⟩ (by decide +kernel) (by cbv)
  obtain ⟨new, hnew⟩ : ∃ router, PageRouter "/new" "/old -> no route\n" router :=
    @exists_pageRouter _ _ ⟨[⟨"/new", none, [], [], []⟩]⟩ (by decide +kernel) (by cbv)
  obtain ⟨states, hhistory, hrebuilt, hlines⟩ := history_editing hold hnew
  refine ⟨?_, ?_, hfresh⟩
  · rw [hhistory, List.map_cons, hrebuilt]
    rfl
  · rw [List.map_congr_left fun fs hfs => ((hfresh fs hfs).2 none false ["/old"]).1, hhistory,
      List.map_cons, hlines]
    rfl

end Cache

end Wayfinder
