/-
  Wayfinder/Proofs/Snapshot/Codec.lean
  ====================================
  **Snapshots are read back exactly.**

  Every part of a snapshot is written as a record, and the reader of the part finds in it
  what was written.  Two things can stand in the way.  A position or a number of a route
  that is no machine word is refused, so a snapshot with one is not read at all; and the
  handlers of a route are read into the order of their methods, so they have to stand in
  that order.  Under these conditions the reader inverts the writer, part by part and then
  for the text of a whole snapshot.
-/
import Wayfinder.Proofs.Files
import Wayfinder.Proofs.Json.RoundTrip
import Wayfinder.Cache
import Wayfinder.Snapshot.Codec

namespace Wayfinder

open Wayfinder.Pattern

/-! ## 1. Records -/

namespace Json

variable {α : Type}

theorem valuesOf_cons (m : Option String × Json) (ms : List (Option String × Json))
    (name : String) :
    valuesOf (m :: ms) name = if m.1 = some name then m.2 :: valuesOf ms name
      else valuesOf ms name := by
  unfold valuesOf
  rw [List.filterMap_cons]
  split
  · rename_i h
    split at h
    · cases h
    · rename_i hname
      rw [if_neg hname]
  · rename_i h
    split at h
    · rename_i hname
      obtain rfl := Option.some.inj h
      rw [if_pos hname]
    · cases h

/-- Among members with distinct names, a name has the value that was given to it. -/
theorem valuesOf_record {ms : List (String × Json)} (hnodup : (ms.map (·.1)).Nodup)
    {m : String × Json} (hm : m ∈ ms) :
    valuesOf (ms.map fun m => (some m.1, m.2)) m.1 = [m.2] := by
  induction ms with
  | nil => cases hm
  | cons n ms ih =>
    rw [List.map_cons, List.nodup_cons] at hnodup
    rw [List.map_cons, valuesOf_cons]
    have hother : ∀ name, name ∉ ms.map (·.1) →
        valuesOf (ms.map fun m => (some m.1, m.2)) name = [] := by
      intro name hname
      rw [valuesOf, List.filterMap_map, List.filterMap_eq_nil_iff]
      intro m' hm'
      have hne : m'.1 ≠ name := fun h => hname (List.mem_map.mpr ⟨m', hm', h⟩)
      simpa using hne
    rcases List.mem_cons.mp hm with rfl | hm
    · rw [if_pos rfl, hother _ hnodup.1]
    · have hne : n.1 ≠ m.1 := fun h => hnodup.1 (List.mem_map.mpr ⟨m, hm, h.symm⟩)
      rw [if_neg (by simpa using hne), ih hnodup.2 hm]

/-- The fields of a record that was written with just these fields. -/
theorem fields_record {fs : List Field} {ms : List (String × Json)}
    (hnames : ms.map (·.1) = fs.map (·.name)) (hdistinct : (fs.map (·.name)).Nodup) :
    fields fs (record ms) = some (ms.map fun m => some m.2) := by
  have hnodup : (ms.map (·.1)).Nodup := hnames ▸ hdistinct
  -- the members are gone through with the fields, while look-ups are in all of them
  have hall : ∀ (fs : List Field) (later : List (String × Json)),
      later.map (·.1) = fs.map (·.name) → (∀ m ∈ later, m ∈ ms) →
        fs.mapM (memberField (ms.map fun m => (some m.1, m.2))) =
          some (later.map fun m => some m.2) := by
    intro fs
    induction fs with
    | nil =>
      intro later hnames _
      obtain rfl := List.map_eq_nil_iff.mp hnames
      rfl
    | cons f fs ih =>
      intro later hnames hmem
      cases later with
      | nil => cases hnames
      | cons m later =>
        rw [List.map_cons, List.map_cons, List.cons.injEq] at hnames
        rw [List.forall_mem_cons] at hmem
        have hvalue : memberField (ms.map fun m => (some m.1, m.2)) f = some (some m.2) := by
          rw [memberField, ← hnames.1, valuesOf_record hnodup hmem.1]
        rw [List.mapM_cons, hvalue, ih later hnames.2 hmem.2]
        rfl
  rw [record, fields, if_pos (by simp)]
  exact hall fs ms hnames fun _ hm => hm

/-- A list is read back when each of its elements is, and refused when one of them is. -/
theorem asList_map {f : Json → Option α} {g : α → Json} {P : α → Prop} [DecidablePred P]
    {as : List α} (h : ∀ a ∈ as, f (g a) = if P a then some a else none) :
    asList f (.array (as.map g)) = if ∀ a ∈ as, P a then some as else none := by
  rw [asList]
  induction as with
  | nil => rfl
  | cons a as ih =>
    rw [List.forall_mem_cons] at h
    rw [List.map_cons, List.mapM_cons, h.1, ih h.2]
    by_cases ha : P a
    · rw [if_pos ha]
      by_cases has : ∀ a ∈ as, P a
      · rw [if_pos has, if_pos (List.forall_mem_cons.mpr ⟨ha, has⟩)]
        rfl
      · rw [if_neg has, if_neg fun hall => has (List.forall_mem_cons.mp hall).2]
        rfl
    · rw [if_neg ha, if_neg fun hall => ha (List.forall_mem_cons.mp hall).1]
      rfl

/-- A list is read back when each of its elements always is. -/
theorem asList_map_eq_some {f : Json → Option α} {g : α → Json} {as : List α}
    (h : ∀ a ∈ as, f (g a) = some a) : asList f (.array (as.map g)) = some as := by
  have hall := @asList_map α f g (fun _ => True) _ as (fun a ha => by rw [h a ha, if_pos trivial])
  rw [hall, if_pos fun _ _ => trivial]

@[simp] theorem asList_ofTexts (ss : List String) : asList asText (ofTexts ss) = some ss :=
  asList_map_eq_some fun _ _ => rfl

@[simp] theorem asList_map_bool (bs : List Bool) : asList asBool (.array (bs.map .bool)) = some bs :=
  asList_map_eq_some fun _ _ => rfl

@[simp] theorem asOption_ofText? (s : Option String) :
    asOption asText (ofText? s) = some s := by
  cases s <;> rfl

end Json

/-! ## 2. Handlers -/

namespace Bindings

/-- Whether handlers stand in the order of their methods, one for each method. -/
def Sorted (bs : Bindings) : Prop := bs.Pairwise fun a b => a.1.rank < b.1.rank

theorem insert_append_of_lt {bs : Bindings} {m : Method} {b : Binding}
    (h : ∀ c ∈ bs, c.1.rank < m.rank) : insert m b bs = bs ++ [(m, b)] := by
  induction bs with
  | nil => rfl
  | cons c bs ih =>
    rw [List.forall_mem_cons] at h
    obtain ⟨n, c⟩ := c
    have hlt : n.rank < m.rank := h.1
    have hne : m ≠ n := by
      rintro rfl
      exact Nat.lt_irrefl _ hlt
    rw [insert, if_neg (Nat.lt_asymm hlt), if_neg hne, ih h.2]
    rfl

/-- Handlers in order are what binding them one by one gives. -/
theorem foldl_insert_of_sorted {done bs : Bindings} (h : Sorted (done ++ bs)) :
    bs.foldl (fun bs m => insert m.1 m.2 bs) done = done ++ bs := by
  induction bs generalizing done with
  | nil => rw [List.append_nil]; rfl
  | cons b bs ih =>
    obtain ⟨-, -, hbefore⟩ := List.pairwise_append.mp h
    rw [List.foldl_cons, insert_append_of_lt fun c hc => hbefore c hc b List.mem_cons_self,
      ih (by simpa using h)]
    simp

theorem ofJson?_toJson {bs : Bindings} (h : bs.Sorted) : ofJson? (toJson bs) = some bs := by
  have hbinding : ∀ b : Binding, Binding.ofJson? b.toJson = some b := by
    intro b
    rw [Binding.ofJson?, Binding.toJson, Json.fields_record rfl (by decide)]
    rfl
  have hmembers : Json.asMembers Method.ofToken? Binding.ofJson? (toJson bs) = some bs := by
    rw [toJson, Json.record, Json.asMembers]
    clear h
    induction bs with
    | nil => rfl
    | cons b bs ih =>
      rw [List.map_cons, List.map_cons, List.mapM_cons, ih]
      simp [Method.ofToken?_token, hbinding]
  have hsorted : Sorted ([] ++ bs) := h
  rw [ofJson?, hmembers]
  exact congrArg some (foldl_insert_of_sorted hsorted)

end Bindings

/-! ## 3. Routes and rows -/

/-- Whether all positions of a variant are machine words. -/
def Pattern.AnchoredVariant.InWords (v : AnchoredVariant) : Prop := ∀ i ∈ v.indices, i < wordBound

instance (v : AnchoredVariant) : Decidable v.InWords :=
  inferInstanceAs (Decidable (∀ i ∈ v.indices, i < wordBound))

/-- Whether all positions in a route are machine words. -/
def Route.InWords (r : Route) : Prop := ∀ v ∈ r.variants, v.InWords

instance (r : Route) : Decidable r.InWords :=
  inferInstanceAs (Decidable (∀ v ∈ r.variants, v.InWords))

/-- Whether the numbers in a row are machine words. -/
def Entry.InWords (e : Entry) : Prop := e.route < wordBound ∧ ∀ i ∈ e.indices, i < wordBound

instance (e : Entry) : Decidable e.InWords :=
  inferInstanceAs (Decidable (e.route < wordBound ∧ ∀ i ∈ e.indices, i < wordBound))

theorem asList_ofNaturals (ns : List Nat) :
    Json.asList asPosition (.ofNaturals ns) =
      if ∀ n ∈ ns, n < wordBound then some ns else none :=
  Json.asList_map fun _ _ => rfl

theorem Pattern.Wildcards.ofJson?_toJson (ws : Wildcards) : ofJson? ws.toJson = some ws := by
  rw [ofJson?, toJson, Json.fields_record rfl (by decide)]
  simp [Json.present, Json.ofText, Json.asText]

theorem Pattern.AnchoredVariant.ofJson?_toJson (v : AnchoredVariant) :
    ofJson? v.toJson = if v.InWords then some v else none := by
  rw [ofJson?, toJson, Json.fields_record rfl (by decide)]
  simp only [List.map_cons, List.map_nil, Json.present, Option.bind_eq_bind, Option.bind_some,
    Json.ofText, Json.asText, asList_ofNaturals, Option.pure_def]
  by_cases h : v.InWords
  · rw [if_pos (c := ∀ i ∈ v.indices, i < wordBound) h, if_pos h]
    rfl
  · rw [if_neg (c := ∀ i ∈ v.indices, i < wordBound) h, if_neg h]
    rfl

theorem Entry.ofJson?_toJson (e : Entry) :
    ofJson? e.toJson = if e.InWords then some e else none := by
  rw [ofJson?, toJson, Json.fields_record rfl (by decide)]
  simp only [List.map_cons, List.map_nil, Json.present, Option.bind_eq_bind, Option.bind_some,
    Json.ofText, Json.asText, asPosition, Json.asNatural, asList_ofNaturals, Option.pure_def]
  by_cases hroute : e.route < wordBound
  · rw [if_pos hroute, Option.bind_some]
    by_cases hindices : ∀ i ∈ e.indices, i < wordBound
    · rw [if_pos hindices, if_pos (c := e.InWords) ⟨hroute, hindices⟩]
      rfl
    · rw [if_neg hindices, if_neg (c := e.InWords) fun h => hindices h.2]
      rfl
  · rw [if_neg hroute, if_neg (c := e.InWords) fun h => hroute h.1]
    rfl

theorem Route.ofJson?_toJson {r : Route} (hsorted : Bindings.Sorted r.methods) :
    ofJson? r.toJson = if r.InWords then some r else none := by
  have hvariants := Json.asList_map fun v (_ : v ∈ r.variants) => v.ofJson?_toJson
  rw [ofJson?, toJson, Json.fields_record rfl (by decide)]
  simp only [List.map_cons, List.map_nil, Json.present, Json.orElse, Option.bind_eq_bind,
    Option.bind_some, Json.ofText, Json.asText, Json.asList_ofTexts, Json.asOption_ofText?,
    Wildcards.ofJson?_toJson, Bindings.ofJson?_toJson hsorted, hvariants, Option.pure_def]
  by_cases h : r.InWords
  · rw [if_pos (c := ∀ v ∈ r.variants, v.InWords) h, if_pos h]
    rfl
  · rw [if_neg (c := ∀ v ∈ r.variants, v.InWords) h, if_neg h]
    rfl

/-! ## 4. Snapshots -/

namespace Snapshot

/-- Whether the handlers of all routes stand in order. -/
def Sorted (s : Snapshot) : Prop := ∀ r ∈ s.routes, Bindings.Sorted r.methods

/-- Whether all numbers in a snapshot are machine words, the version one of half the size. -/
def InWords (s : Snapshot) : Prop :=
  s.version < UInt32.size ∧ (∀ r ∈ s.routes, r.InWords) ∧ ∀ e ∈ s.entries, e.InWords

instance (s : Snapshot) : Decidable s.InWords :=
  inferInstanceAs (Decidable (_ ∧ (∀ r ∈ s.routes, r.InWords) ∧ ∀ e ∈ s.entries, e.InWords))

/-- The fields of a written snapshot.  A hash that is not there is left out. -/
theorem fields_toJson (s : Snapshot) :
    s.toJson.fields [.needed "version", .defaulted "source_hash", .needed "routes",
        .needed "entries"] =
      some [some (.natural s.version), s.sourceHash.map Json.ofText,
        some (.array (s.routes.map Route.toJson)), some (.array (s.entries.map Entry.toJson))] := by
  rw [toJson]
  cases s.sourceHash with
  | none => rfl
  | some hash => exact Json.fields_record rfl (by decide)

/-- A written snapshot is read back when its numbers are machine words, and refused when
    they are not. -/
theorem ofJson?_toJson {s : Snapshot} (hsorted : s.Sorted) :
    ofJson? s.toJson = if s.InWords then some s else none := by
  have hroutes := Json.asList_map fun r hr => Route.ofJson?_toJson (hsorted r hr)
  have hentries := Json.asList_map fun e (_ : e ∈ s.entries) => e.ofJson?_toJson
  have hhash : Json.orElse none (Json.asOption Json.asText) (s.sourceHash.map Json.ofText) =
      some s.sourceHash := by
    cases s.sourceHash <;> rfl
  rw [ofJson?, fields_toJson]
  simp only [Json.present, Option.bind_eq_bind, Option.bind_some, asVersion, Json.asNatural, hhash,
    hroutes, hentries, Option.pure_def]
  by_cases h : s.InWords
  · obtain ⟨hversion, hr, he⟩ := h
    rw [if_pos hversion, if_pos hr, if_pos he, if_pos (c := s.InWords) ⟨hversion, hr, he⟩]
    rfl
  · rw [if_neg h]
    by_cases hversion : s.version < UInt32.size
    · rw [if_pos hversion, Option.bind_some]
      by_cases hr : ∀ r ∈ s.routes, r.InWords
      · rw [if_pos hr, if_neg fun he => h ⟨hversion, hr, he⟩]
        rfl
      · rw [if_neg hr]
        rfl
    · rw [if_neg hversion]
      rfl

theorem versionOf?_toJson (s : Snapshot) :
    versionOf? s.toJson = if s.version < UInt32.size then some s.version else none := by
  have hfields : s.toJson.fields [.needed "version"] = some [some (.natural s.version)] := by
    rw [toJson]
    cases s.sourceHash <;> rfl
  rw [versionOf?, hfields]
  rfl

/-- Nothing in a snapshot is lost in its written form. -/
theorem plain_toJson (s : Snapshot) : s.toJson.Plain := by
  have hwildcards : ∀ ws : Wildcards, ws.toJson.Plain := by
    intro ws
    simp [Wildcards.toJson]
  have hvariant : ∀ v : AnchoredVariant, v.toJson.Plain := by
    intro v
    simp [AnchoredVariant.toJson]
  have hbindings : ∀ bs : Bindings, (Bindings.toJson bs).Plain := by
    intro bs
    rw [Bindings.toJson, Json.plain_record, List.forall_mem_map]
    intro b _
    simp [Binding.toJson]
  have hroute : ∀ r : Route, r.toJson.Plain := by
    intro r
    simp [Route.toJson, hwildcards, hvariant, hbindings]
  have hentry : ∀ e : Entry, e.toJson.Plain := by
    intro e
    simp [Entry.toJson]
  cases hhash : s.sourceHash <;> simp [toJson, hhash, hroute, hentry]

/-- The text of a snapshot is read back when the numbers of the snapshot are machine
    words, and refused when they are not. -/
theorem decode?_encode {s : Snapshot} (hsorted : s.Sorted) :
    decode? s.encode = if s.InWords then some s else none := by
  rw [decode?, encode, Json.parse_render s.plain_toJson]
  exact ofJson?_toJson hsorted

end Snapshot

namespace Cache

/-- The version of a written snapshot is found, whatever else it holds. -/
theorem versionOf?_parse_encode {s : Snapshot} (hword : s.version < UInt32.size) :
    (Json.parse s.encode).bind Snapshot.versionOf? = some s.version := by
  rw [Snapshot.encode, Json.parse_render s.plain_toJson, Option.bind_some,
    Snapshot.versionOf?_toJson, if_pos hword]

/-- A written snapshot of this version is read back as it is, or not at all. -/
theorem ofText_encode {s : Snapshot} (hsorted : s.Sorted) (hversion : s.version = formatVersion) :
    ofText s.encode = if s.InWords then .ok s else .error .format := by
  have hword : s.version < UInt32.size := by
    rw [hversion]
    decide
  rw [ofText, versionOf?_parse_encode hword]
  simp only [hversion, ne_eq, not_true_eq_false, if_false]
  rw [Snapshot.decode?_encode hsorted]
  by_cases h : s.InWords
  · rw [if_pos h, if_pos h]
  · rw [if_neg h, if_neg h]

/-- A written snapshot of another version is refused for its version. -/
theorem ofText_encode_of_version_ne {s : Snapshot} (hword : s.version < UInt32.size)
    (hversion : s.version ≠ formatVersion) :
    ofText s.encode = .error (.refused (.version s.version)) := by
  rw [ofText, versionOf?_parse_encode hword]
  exact if_pos hversion

/-! ## 5. Snapshots in files -/

theorem write_eq_ok {fs fs' : Files} {path : String} {s : Snapshot}
    (h : write fs path s = .ok fs') : fs.write path (bytesOfText s.encode) = .ok fs' := by
  unfold write at h
  cases hwrite : fs.write path (bytesOfText s.encode) with
  | error fault => rw [hwrite] at h; cases h
  | ok written => rw [hwrite] at h; exact congrArg _ (Except.ok.inj h)

/-- What is read where a text stands. -/
theorem read_of_text {fs : Files} {path text : String}
    (h : fs.read path = .ok (bytesOfText text)) : read fs path = ofText text := by
  rw [read, Files.readText_of_read h]

/-- What is read where a text was written. -/
theorem read_of_write {fs fs' : Files} {path text : String}
    (h : fs.write path (bytesOfText text) = .ok fs') : read fs' path = ofText text :=
  read_of_text (Files.read_write h)

/-- A snapshot that was written into a file is read back as it is, or refused for its version
    if that is another one.  What is asked of the snapshot is what its stored form can tell at
    all: numbers that are machine words, and at most one handler for each method, in their
    order. -/
theorem read_write_snapshot {fs fs' : Files} {path : String} {s : Snapshot} (hsorted : s.Sorted)
    (hwords : s.InWords) (h : write fs path s = .ok fs') :
    read fs' path =
      if s.version = formatVersion then .ok s else .error (.refused (.version s.version)) := by
  rw [read_of_write (write_eq_ok h)]
  split
  · rename_i hversion
    rw [ofText_encode hsorted hversion, if_pos hwords]
  · rename_i hversion
    exact ofText_encode_of_version_ne hwords.1 hversion

/-- Control characters, the largest numbers, and names that are not there. -/
def unusual (version : Nat) : Snapshot :=
  { version := version
    sourceHash := some "\x00\"\\/\n"
    routes := [{
      uri := "/\u00e9\u2028\x7f"
      name := none
      wildcards := ⟨"/\x08", [""], [true, false]⟩
      constraints := ["\t"]
      variants := [⟨"", [18446744073709551615, 0], "\x1f"⟩]
      methods := [(.get, ⟨"\r", false⟩), (.head, ⟨"", true⟩)]
      middlewares := ["", "\u0085"]
      provenance := some "" }]
    entries := [⟨"^$", 18446744073709551615, []⟩] }

theorem read_write_unusual :
    (∃ fs, write .empty "routes.table" (unusual 2) = .ok fs ∧
      read fs "routes.table" = .ok (unusual 2)) ∧
    ∃ fs, write .empty "routes.table" (unusual 7) = .ok fs ∧
      read fs "routes.table" = .error (.refused (.version 7)) := by
  have hsorted : ∀ version, (unusual version).Sorted := by
    intro version
    simp [Snapshot.Sorted, unusual, Bindings.Sorted]
    decide
  have hwritten : ∀ s, ∃ fs, write .empty "routes.table" s = .ok fs := fun _ => ⟨_, rfl⟩
  obtain ⟨fs₂, hfs₂⟩ := hwritten (unusual 2)
  obtain ⟨fs₇, hfs₇⟩ := hwritten (unusual 7)
  exact ⟨⟨fs₂, hfs₂, read_write_snapshot (hsorted 2) (by decide) hfs₂⟩,
    ⟨fs₇, hfs₇, read_write_snapshot (hsorted 7) (by decide) hfs₇⟩⟩

end Cache

end Wayfinder
