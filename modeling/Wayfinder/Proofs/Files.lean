/-
  Wayfinder/Proofs/Files.lean
  ===========================
  **What writing and removing a file changes.**

  A path leads to one place, whatever stands there, or to none.  Writing a file and
  removing one change what stands at the place of its path and nothing else; and since no
  directory comes into being, a file that can be read afterwards at another place could be
  read before, with the same content.
-/
import Wayfinder.Proofs.Outcome
import Wayfinder.Files

namespace Wayfinder

/-! ## 1. Texts as bytes -/

theorem toList_loop (bs : ByteArray) (i : Nat) (r : List UInt8) :
    ByteArray.toList.loop bs i r = r.reverse ++ bs.data.toList.drop i := by
  fun_induction ByteArray.toList.loop bs i r with
  | case1 i r hlt ih =>
    have hlength : i < bs.data.toList.length := hlt
    rw [ih, List.drop_eq_getElem_cons hlength]
    have hget : bs.get! i = bs.data.toList[i] := by
      rw [Array.getElem_toList]
      exact getElem!_pos bs.data i hlt
    simp [hget]
  | case2 i r hge =>
    have hlength : bs.data.toList.length ≤ i := Nat.le_of_not_lt hge
    rw [List.drop_eq_nil_of_le hlength, List.append_nil]

@[simp] theorem textOfBytes?_bytesOfText (s : String) : textOfBytes? (bytesOfText s) = some s := by
  have hbytes : (⟨(bytesOfText s).toArray⟩ : ByteArray) = s.toByteArray := by
    have hlist : bytesOfText s = s.toByteArray.data.toList := toList_loop s.toByteArray 0 []
    rw [hlist, Array.toArray_toList]
  rw [textOfBytes?, hbytes, String.fromUTF8?, dif_pos s.isValidUTF8]
  rfl

namespace Files

theorem readText_of_read {fs : Files} {path text : String}
    (h : fs.read path = .ok (bytesOfText text)) : fs.readText path = .ok text := by
  rw [readText, h]
  simp only [bind, Except.bind, textOfBytes?_bytesOfText]

/-! ## 2. Places -/

/-- The place of a path, if it leads to one. -/
def place (path : String) : List String :=
  (names path).1.foldl descend (origin path)

theorem follow_eq_ok {fs : Files} {here target : List String} {ns : List String}
    (h : fs.follow here ns = .ok target) : target = ns.foldl descend here := by
  induction ns generalizing here with
  | nil => exact (Except.ok.inj h).symm
  | cons name ns ih =>
    rw [follow] at h
    split at h
    · cases h
    · cases h
    · rw [List.foldl_cons, descend]
      split at h
      · rename_i hdot
        rw [if_pos hdot]
        exact ih h
      · rename_i hdot
        rw [if_neg hdot]
        split at h
        · rename_i hparent
          rw [if_pos hparent]
          exact ih h
        · rename_i hparent
          rw [if_neg hparent]
          split at h
          · cases h
          · exact ih h

theorem locate_eq_ok {fs : Files} {path : String} {target : List String}
    (h : fs.locate path = .ok target) : target = place path := by
  unfold locate at h
  split at h
  · cases h
  · split at h
    · cases h
    · split at h
      · cases h
      · exact follow_eq_ok h

/-- Where all directories were there before, so were the ways through them. -/
theorem follow_of_directories {fs fs' : Files}
    (hdirs : ∀ names, fs'.at? names = some .directory → fs.at? names = some .directory)
    {here target : List String} {ns : List String} (h : fs'.follow here ns = .ok target) :
    fs.follow here ns = .ok target := by
  induction ns generalizing here with
  | nil => exact h
  | cons name ns ih =>
    rw [follow] at h ⊢
    split at h
    · cases h
    · cases h
    · rename_i hhere
      rw [hdirs _ hhere]
      simp only
      split at h
      · rename_i hdot
        rw [if_pos hdot]
        exact ih h
      · rename_i hdot
        rw [if_neg hdot]
        split at h
        · rename_i hparent
          rw [if_pos hparent]
          exact ih h
        · rename_i hparent
          rw [if_neg hparent]
          split at h
          · cases h
          · rename_i hlength
            rw [if_neg hlength]
            exact ih h

theorem locate_of_directories {fs fs' : Files}
    (hdirs : ∀ names, fs'.at? names = some .directory → fs.at? names = some .directory)
    {path : String} {target : List String} (h : fs'.locate path = .ok target) :
    fs.locate path = .ok target := by
  unfold locate at h ⊢
  split at h
  · cases h
  · rename_i hzero
    rw [if_neg hzero]
    split at h
    · cases h
    · rename_i hempty
      rw [if_neg hempty]
      split at h
      · cases h
      · rename_i hlong
        rw [if_neg hlong]
        exact follow_of_directories hdirs h

/-! ## 3. Reading -/

/-- A file that is read stands at the place of its path. -/
theorem read_eq_ok_iff {fs : Files} {path : String} {content : Bytes} :
    fs.read path = .ok content ↔
      fs.locate path = .ok (place path) ∧ fs.at? (place path) = some (.file content) ∧
        (names path).2 = false := by
  unfold read node
  simp only [bind_eq_ok_iff]
  constructor
  · rintro ⟨n, ⟨target, htarget, hn⟩, hcontent⟩
    obtain rfl := locate_eq_ok htarget
    split at hn
    · cases hn
    · rename_i found hfound
      split at hn
      · cases hn
      · rename_i hslash
        obtain rfl := Except.ok.inj hn
        obtain rfl := Except.ok.inj hcontent
        exact ⟨htarget, hfound, by simpa using hslash⟩
    · obtain rfl := Except.ok.inj hn
      cases hcontent
  · rintro ⟨htarget, hfound, hslash⟩
    refine ⟨.file content, ⟨_, htarget, ?_⟩, rfl⟩
    rw [hfound]
    simp [hslash]

/-- What can be read afterwards could be read before, if no directory is new and nothing
    changed at the place itself. -/
theorem read_of_unchanged {fs fs' : Files}
    (hdirs : ∀ names, fs'.at? names = some .directory → fs.at? names = some .directory)
    {path : String} (hplace : fs'.at? (place path) = fs.at? (place path)) {content : Bytes}
    (h : fs'.read path = .ok content) : fs.read path = .ok content := by
  obtain ⟨htarget, hfound, hslash⟩ := read_eq_ok_iff.mp h
  exact read_eq_ok_iff.mpr ⟨locate_of_directories hdirs htarget, hplace ▸ hfound, hslash⟩

theorem not_read_of_not_exists {fs : Files} {path : String} (h : fs.exists? path = false)
    (content : Bytes) : fs.read path ≠ .ok content := by
  intro hread
  obtain ⟨n, hn, -⟩ := bind_eq_ok_iff.mp hread
  rw [exists?, hn] at h
  cases h

/-! ## 4. Writing and removing -/

/-- What stands nowhere is looked up in the list of what was put somewhere. -/
theorem at?_of_not_always {names : List String} (h : alwaysThere names = false) (fs : Files) :
    fs.at? names = fs.nodes.lookup names := by
  rw [at?, h]
  rfl

theorem lookup_cons_of_ne {names other : List String} (h : other ≠ names) (n : FileNode)
    (nodes : List (List String × FileNode)) :
    List.lookup other ((names, n) :: nodes) = nodes.lookup other := by
  have hne : (other == names) = false := by simpa using h
  rw [List.lookup_cons, hne]

theorem lookup_filter_of_ne {nodes : List (List String × FileNode)} {names other : List String}
    (h : other ≠ names) :
    (nodes.filter fun e => e.1 ≠ names).lookup other = nodes.lookup other := by
  induction nodes with
  | nil => rfl
  | cons e nodes ih =>
    obtain ⟨at', n⟩ := e
    by_cases hat : at' = names
    · subst hat
      rw [List.filter_cons_of_neg (by simp), ih, lookup_cons_of_ne h]
    · rw [List.filter_cons_of_pos (by simpa using hat), List.lookup_cons, List.lookup_cons, ih]

theorem at?_set_of_ne {names other : List String} (h : other ≠ names) (fs : Files) (n : FileNode) :
    (fs.set names n).at? other = fs.at? other := by
  have hlookup : (fs.set names n).nodes.lookup other = fs.nodes.lookup other := by
    rw [set, lookup_cons_of_ne h, lookup_filter_of_ne h]
  rw [at?, at?, hlookup]

theorem at?_set_self {names : List String} (h : alwaysThere names = false) (fs : Files)
    (n : FileNode) : (fs.set names n).at? names = some n := by
  rw [at?_of_not_always h, set, List.lookup_cons_self]

/-- Without what stood at some names. -/
def erase (fs : Files) (names : List String) : Files := ⟨fs.nodes.filter fun e => e.1 ≠ names⟩

theorem at?_erase_of_ne {names other : List String} (h : other ≠ names) (fs : Files) :
    (fs.erase names).at? other = fs.at? other := by
  rw [at?, at?, erase, lookup_filter_of_ne h]

theorem at?_erase_self {names : List String} (h : alwaysThere names = false) (fs : Files) :
    (fs.erase names).at? names = none := by
  rw [at?_of_not_always h, erase, List.lookup_eq_none_iff]
  intro e he
  have hne : e.1 ≠ names := by simpa using (List.mem_filter.mp he).2
  exact bne_iff_ne.mpr hne.symm

theorem not_always_of_ne_directory {fs : Files} {names : List String}
    (h : fs.at? names ≠ some .directory) : alwaysThere names = false := by
  rw [← Bool.not_eq_true]
  intro halways
  exact h (by rw [at?, if_pos halways])

/-- When a file can be written, and what that does. -/
theorem write_eq_ok_iff {fs fs' : Files} {path : String} {content : Bytes} :
    fs.write path content = .ok fs' ↔
      fs.locate path = .ok (place path) ∧ fs.at? (place path) ≠ some .directory ∧
        (names path).2 = false ∧ fs' = fs.set (place path) (.file content) := by
  rw [write, bind_eq_ok_iff]
  constructor
  · rintro ⟨target, htarget, hwrite⟩
    obtain rfl := locate_eq_ok htarget
    split at hwrite
    · cases hwrite
    · rename_i hfound
      split at hwrite
      · cases hwrite
      · rename_i hslash
        exact ⟨htarget, by rw [hfound]; simp, by simpa using hslash, (Except.ok.inj hwrite).symm⟩
    · rename_i hfound
      split at hwrite
      · cases hwrite
      · rename_i hslash
        exact ⟨htarget, by rw [hfound]; simp, by simpa using hslash, (Except.ok.inj hwrite).symm⟩
  · rintro ⟨htarget, hdirectory, hslash, rfl⟩
    refine ⟨place path, htarget, ?_⟩
    split
    · rename_i hfound
      exact absurd hfound hdirectory
    · simp [hslash]
    · simp [hslash]

theorem write_eq_ok {fs fs' : Files} {path : String} {content : Bytes}
    (h : fs.write path content = .ok fs') :
    fs.at? (place path) ≠ some .directory ∧ fs' = fs.set (place path) (.file content) := by
  obtain ⟨-, hdirectory, -, hset⟩ := write_eq_ok_iff.mp h
  exact ⟨hdirectory, hset⟩

/-- What removing a file does, if there is one. -/
theorem remove_eq_ok {fs fs' : Files} {path : String} (h : fs.remove path = .ok fs') :
    fs.at? (place path) ≠ some .directory ∧ fs' = fs.erase (place path) := by
  obtain ⟨n, hn, hremove⟩ := bind_eq_ok_iff.mp h
  obtain ⟨target, htarget, hnode⟩ := bind_eq_ok_iff.mp hn
  obtain rfl := locate_eq_ok htarget
  split at hremove
  · cases hremove
  · rename_i content
    have hfound : fs.at? (place path) ≠ some .directory := by
      intro hdirectory
      rw [hdirectory] at hnode
      cases hnode
    obtain ⟨target, htarget', hremove⟩ := bind_eq_ok_iff.mp hremove
    obtain rfl := locate_eq_ok htarget'
    exact ⟨hfound, (Except.ok.inj hremove).symm⟩

/-- A file that was written is read with its new content. -/
theorem read_write {fs fs' : Files} {path : String} {content : Bytes}
    (h : fs.write path content = .ok fs') : fs'.read path = .ok content := by
  obtain ⟨htarget, hdirectory, hslash, rfl⟩ := write_eq_ok_iff.mp h
  refine read_eq_ok_iff.mpr ⟨?_, at?_set_self (not_always_of_ne_directory hdirectory) fs _, hslash⟩
  -- no directory is gone, so the way to the file is still there
  apply locate_of_directories _ htarget
  intro names hnames
  have hother : names ≠ place path := by
    rintro rfl
    exact hdirectory hnames
  rwa [at?_set_of_ne hother]

theorem eq_of_read_write {fs fs' : Files} {path : String} {content found : Bytes}
    (h : fs.write path content = .ok fs') (hread : fs'.read path = .ok found) : found = content :=
  Except.ok.inj (hread.symm.trans (read_write h))

/-- A file that was removed is not read. -/
theorem not_read_of_remove {fs fs' : Files} {path : String} (h : fs.remove path = .ok fs')
    (found : Bytes) : fs'.read path ≠ .ok found := by
  intro hread
  obtain ⟨hdirectory, rfl⟩ := remove_eq_ok h
  obtain ⟨-, hfound, -⟩ := read_eq_ok_iff.mp hread
  rw [at?_erase_self (not_always_of_ne_directory hdirectory)] at hfound
  cases hfound

/-- Writing a file makes nothing readable at other places. -/
theorem read_of_write {fs fs' : Files} {path other : String} {content found : Bytes}
    (hplaces : place other ≠ place path) (h : fs.write path content = .ok fs')
    (hread : fs'.read other = .ok found) : fs.read other = .ok found := by
  obtain ⟨hdirectory, rfl⟩ := write_eq_ok h
  refine read_of_unchanged ?_ (at?_set_of_ne hplaces fs _) hread
  intro names hnames
  by_cases hhere : names = place path
  · subst hhere
    rw [at?_set_self (not_always_of_ne_directory hdirectory)] at hnames
    cases hnames
  · rwa [at?_set_of_ne hhere] at hnames

/-- Removing a file makes nothing readable at other places. -/
theorem read_of_remove {fs fs' : Files} {path other : String} {found : Bytes}
    (hplaces : place other ≠ place path) (h : fs.remove path = .ok fs')
    (hread : fs'.read other = .ok found) : fs.read other = .ok found := by
  obtain ⟨hdirectory, rfl⟩ := remove_eq_ok h
  refine read_of_unchanged ?_ (at?_erase_of_ne hplaces fs) hread
  intro names hnames
  by_cases hhere : names = place path
  · subst hhere
    rw [at?_erase_self (not_always_of_ne_directory hdirectory)] at hnames
    cases hnames
  · rwa [at?_erase_of_ne hhere] at hnames

/-- A file stays readable, with its content, when a file at another place is written. -/
theorem read_write_of_ne {fs fs' : Files} {path other : String} {content found : Bytes}
    (hplaces : place other ≠ place path) (h : fs.write path content = .ok fs')
    (hread : fs.read other = .ok found) : fs'.read other = .ok found := by
  obtain ⟨hdirectory, rfl⟩ := write_eq_ok h
  refine read_of_unchanged ?_ (at?_set_of_ne hplaces fs _).symm hread
  intro names hnames
  have hother : names ≠ place path := by
    rintro rfl
    exact hdirectory hnames
  rwa [at?_set_of_ne hother]

/-- Whether a file can be written at a path. -/
def Writable (fs : Files) (path : String) : Prop :=
  ∃ content fs', fs.write path content = .ok fs'

/-- Whether a file can be written does not depend on its content. -/
theorem Writable.write {fs : Files} {path : String} (h : fs.Writable path) (content : Bytes) :
    ∃ fs', fs.write path content = .ok fs' := by
  obtain ⟨_, _, hwrite⟩ := h
  obtain ⟨htarget, hdirectory, hslash, -⟩ := write_eq_ok_iff.mp hwrite
  exact ⟨_, write_eq_ok_iff.mpr ⟨htarget, hdirectory, hslash, rfl⟩⟩

end Files

end Wayfinder
