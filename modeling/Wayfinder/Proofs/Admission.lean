/-
  Wayfinder/Proofs/Admission.lean
  ===============================
  **Untrusted snapshots.**

  The routes of a snapshot are taken as they stand: their names, constraints, variants and
  flags may disagree in length and content.  All that stands between such a table and a
  router are three checks on each row, that its route exists, that its route has the
  wildcards it names, and that it is written like a variant of its route.  Here a refusal
  is told apart from the checks, as an objection to the first row that deserves one, and the
  three checks are shown to be enough: a router that was loaded holds the rows it was given
  and finds every route and every name that it looks up.
-/
import Wayfinder.Proofs.Restoration

namespace Wayfinder

open Wayfinder.Pattern

/-! ## 1. Objections to rows -/

namespace Snapshot

/-- A row that names a route that is not there, or a wildcard that its route lacks, or that
    is not written like any variant of its route. -/
def Malformed (routes : Array Route) (e : Entry) : Prop :=
  routes[e.route]? = none ∨ ∃ route, routes[e.route]? = some route ∧
    ((∃ i ∈ e.indices, route.wildcards.size ≤ i) ∨
      ∀ v ∈ route.variants, ¬(v.regex = e.regex ∧ v.indices = e.indices))

theorem malformed_iff {routes : Array Route} {e : Entry} :
    Malformed routes e ↔ ¬Fits routes e := by
  unfold Malformed Fits
  cases routes[e.route]? with
  | none => simp
  | some route =>
    simp only [reduceCtorEq, false_or, Option.some.injEq, exists_eq_left']
    rw [not_and_or]
    apply or_congr
    · simp [Wildcards.size]
    · simp

/-- Why the row with a number is refused.  The three reasons are looked at in this order. -/
inductive Objection (routes : Array Route) (row : Nat) (e : Entry) : Fault → Prop where
  | route (hroute : routes[e.route]? = none) :
    Objection routes row e (.unknownRoute row e.route)
  | wildcard {r : Route} {i : Nat} {before after : List Nat} (hroute : routes[e.route]? = some r)
    (hindices : e.indices = before ++ i :: after)
    (hbefore : ∀ j ∈ before, j < r.wildcards.size)
    (hi : r.wildcards.size ≤ i) :
    Objection routes row e (.unknownWildcard row i r.uri)
  | variant {r : Route} (hroute : routes[e.route]? = some r)
    (hindices : ∀ i ∈ e.indices, i < r.wildcards.size)
    (hnone : ∀ v ∈ r.variants, ¬(v.regex = e.regex ∧ v.indices = e.indices)) :
    Objection routes row e (.noVariant row e.regex r.uri)

theorem rowFault?_eq_some_iff {routes : Array Route} {row : Nat} {e : Entry} {f : Fault} :
    rowFault? routes row e = some f ↔ Objection routes row e f := by
  constructor
  · intro h
    unfold rowFault? at h
    split at h
    · rename_i hroute
      obtain rfl := Option.some.inj h
      exact .route hroute
    · rename_i r hroute
      split at h
      · rename_i i hfind
        obtain rfl := Option.some.inj h
        obtain ⟨hi, before, after, hindices, hbefore⟩ := List.find?_eq_some_iff_append.mp hfind
        refine .wildcard hroute hindices ?_ (by simpa using hi)
        intro j hj
        simpa using hbefore j hj
      · rename_i hfind
        split at h
        · cases h
        · rename_i hvariant
          obtain rfl := Option.some.inj h
          refine .variant hroute ?_ ?_
          · intro i hi
            simpa using List.find?_eq_none.mp hfind i hi
          · rintro v hv ⟨hregex, hindices⟩
            exact hvariant (List.any_eq_true.mpr ⟨v, hv, by simp [hregex, hindices]⟩)
  · intro h
    cases h with
    | route hroute => simp [rowFault?, hroute]
    | @wildcard r i before after hroute hindices hbefore hi =>
      have hfind : e.indices.find? (fun i => r.wildcards.size ≤ i) = some i := by
        rw [List.find?_eq_some_iff_append]
        exact ⟨by simpa using hi, before, after, hindices, by simpa using hbefore⟩
      simp [rowFault?, hroute, hfind]
    | @variant r hroute hindices hnone =>
      have hfind : e.indices.find? (fun i => r.wildcards.size ≤ i) = none := by
        rw [List.find?_eq_none]
        simpa using hindices
      have hany : ¬∃ v ∈ r.variants, v.regex = e.regex ∧ v.indices = e.indices := by
        rintro ⟨v, hv, hsame⟩
        exact hnone v hv hsame
      simp only [rowFault?, hroute, hfind]
      rw [if_neg]
      simpa using hany

/-- A table is refused for its first malformed row. -/
theorem firstFault?_eq_some_iff {routes : Array Route} {row : Nat} {es : List Entry} {f : Fault} :
    firstFault? routes row es = some f ↔
      ∃ before e after, es = before ++ e :: after ∧ (∀ b ∈ before, ¬Malformed routes b) ∧
        Objection routes (row + before.length) e f := by
  induction es generalizing row with
  | nil => simp [firstFault?]
  | cons e es ih =>
    rw [firstFault?]
    cases hfault : rowFault? routes row e with
    | some found =>
      have hobjection := rowFault?_eq_some_iff.mp hfault
      have hmalformed : Malformed routes e := by
        rw [malformed_iff, ← rowFault?_eq_none_iff row, hfault]
        exact Option.some_ne_none found
      constructor
      · intro h
        obtain rfl := Option.some.inj h
        exact ⟨[], e, es, rfl, fun b hb => absurd hb List.not_mem_nil, hobjection⟩
      · rintro ⟨before, e', after, hes, hbefore, hlater⟩
        cases before with
        | nil =>
          obtain ⟨rfl, rfl⟩ := List.cons.inj hes
          exact hfault.symm.trans (rowFault?_eq_some_iff.mpr hlater)
        | cons b before =>
          obtain ⟨rfl, -⟩ := List.cons.inj hes
          exact absurd hmalformed (hbefore _ List.mem_cons_self)
    | none =>
      have hfits : ¬Malformed routes e := by
        rw [malformed_iff, not_not]
        exact (rowFault?_eq_none_iff row).mp hfault
      simp only [ih]
      constructor
      · rintro ⟨before, e', after, rfl, hbefore, hobjection⟩
        refine ⟨e :: before, e', after, rfl, List.forall_mem_cons.mpr ⟨hfits, hbefore⟩, ?_⟩
        rwa [List.length_cons, ← Nat.add_assoc, Nat.add_right_comm]
      · rintro ⟨before, e', after, hes, hbefore, hobjection⟩
        cases before with
        | nil =>
          obtain ⟨rfl, rfl⟩ := List.cons.inj hes
          rw [List.length_nil, Nat.add_zero, ← rowFault?_eq_some_iff, hfault] at hobjection
          cases hobjection
        | cons b before =>
          obtain ⟨rfl, rfl⟩ := List.cons.inj hes
          rw [List.length_cons, ← Nat.add_assoc, Nat.add_right_comm] at hobjection
          exact ⟨before, e', after, rfl, (List.forall_mem_cons.mp hbefore).2, hobjection⟩

theorem Objection.message_eq {routes : Array Route} {row : Nat} {e : Entry} {f : Fault}
    (h : Objection routes row e f) : f.message = corruptMessage f.detail := by
  cases h <;> rfl

theorem exists_rest_append {start text : String} (h : ∃ rest, text = start ++ rest) (more : String) :
    ∃ rest, text ++ more = start ++ rest := by
  obtain ⟨rest, rfl⟩ := h
  exact ⟨rest ++ more, String.append_assoc⟩

/-- What is said of a refused row starts with its number. -/
theorem Objection.exists_detail {routes : Array Route} {row : Nat} {e : Entry} {f : Fault}
    (h : Objection routes row e f) : ∃ rest, f.detail = "row " ++ toString row ++ " " ++ rest := by
  have hstart : ∀ {spaced word : String}, " " ++ word = spaced →
      ∃ rest, "row " ++ toString row ++ spaced = "row " ++ toString row ++ " " ++ rest := by
    rintro spaced word rfl
    exact ⟨word, String.append_assoc.symm⟩
  cases h with
  | route hroute =>
    have hword : " " ++ "references unknown route #" = " references unknown route #" := by simp
    exact exists_rest_append (hstart hword) _
  | wildcard hroute hindices hbefore hi =>
    have hword : " " ++ "references wildcard " = " references wildcard " := by simp
    refine exists_rest_append (exists_rest_append ?_ _) _
    exact exists_rest_append (exists_rest_append (hstart hword) _) _
  | variant hroute hindices hnone =>
    have hword : " " ++ "`" = " `" := by simp
    refine exists_rest_append (exists_rest_append ?_ _) _
    exact exists_rest_append (exists_rest_append (hstart hword) _) _

end Snapshot

/-! ## 2. Routers that look nothing up in vain -/

namespace Router

/-- Whether a row finds its route, a name for each of its positions, and a group for each. -/
def InRange (routes : Array Route) (row : Row) : Prop :=
  ∃ route, routes[row.entry.route]? = some route ∧
    (∀ i ∈ row.entry.indices, i < route.wildcards.names.length) ∧
    row.slots.length = row.entry.indices.length

/-- Every row of an assembled router has a group for each of its positions. -/
theorem length_slots_of_assemble {routes : Array Route} {es : List Entry} {router : Router}
    (h : assemble routes es = .ok router) {row : Row} (hrow : row ∈ router.rows) :
    row.slots.length = row.entry.indices.length := by
  obtain ⟨rows, hrows, hrouter⟩ := bind_eq_ok_iff.mp h
  obtain rfl := Except.ok.inj hrouter
  -- both lengths are read off the row as it was declared
  have hsame : rows.map (·.slots.length) = rows.map (·.entry.indices.length) := by
    refine (map_eq_map_of_mapM_eq_ok (h := (·.1.indices.length)) hrows ?_).trans
      (map_eq_map_of_mapM_eq_ok hrows ?_).symm
    · rintro ⟨e, route⟩ row - hready
      obtain ⟨m, -, hm⟩ := bind_eq_ok_iff.mp hready
      obtain rfl := Except.ok.inj hm
      exact length_slotsFrom _ _ _
    · rintro ⟨e, route⟩ row - hready
      obtain ⟨m, -, hm⟩ := bind_eq_ok_iff.mp hready
      obtain rfl := Except.ok.inj hm
      rfl
  exact List.map_inj_left.mp hsame row hrow

theorem inRange_of_restorable {router : Router} (h : router.Restorable) {row : Row}
    (hrow : row ∈ router.rows) : InRange router.routes row := by
  obtain ⟨route, hroute, hindices, -⟩ := h.fits row.entry (List.mem_map_of_mem hrow)
  exact ⟨route, hroute, hindices, length_slots_of_assemble h.assembled hrow⟩

/-- What is reported to come from a row: the number and the route of the row, and only names
    that the route has at positions of the row. -/
structure ReportedBy (routes : Array Route) (row : Row) (res : Resolved) : Prop where
  id : res.id = row.entry.route
  route : routes[res.id]? = some res.route
  names : ∀ p ∈ res.params, ∃ i ∈ row.entry.indices, res.route.wildcards.names[i]? = some p.1

theorem reportedBy_of_tryRow {routes : Array Route} {path : String} {method : Option Method}
    {row : Row} {res : Resolved} (h : tryRow routes path method row = some res) :
    ReportedBy routes row res := by
  unfold tryRow at h
  split at h
  · cases h
  · rename_i route hroute
    split at h
    · obtain ⟨groups, -, rfl⟩ := Option.map_eq_some_iff.mp h
      refine ⟨rfl, hroute, ?_⟩
      intro p hp
      obtain ⟨⟨i, slot⟩, hpair, hnamed⟩ := List.mem_filterMap.mp hp
      refine ⟨i, (List.of_mem_zip hpair).1, ?_⟩
      simp only at hnamed
      split at hnamed
      · rename_i name value hname hvalue
        obtain rfl := Option.some.inj hnamed
        exact hname
      · cases hnamed
    · cases h

/-- Every answer of a router is reported by one of its rows. -/
theorem exists_reportedBy {router : Router} {path : String} {method : Option Method}
    {res : Resolved} (h : router.resolve path method = .ok res) :
    ∃ row ∈ router.rows, ReportedBy router.routes row res := by
  obtain ⟨row, hrow, htry⟩ :=
    List.exists_of_findSome?_eq_some (Registry.resolve_eq_ok_iff.mp h)
  exact ⟨row, hrow, reportedBy_of_tryRow htry⟩

end Router

/-! ## 3. Loading an untrusted snapshot -/

namespace Snapshot

/-- Storing a loaded router gives its snapshot back, without the hash. -/
theorem ofRouter_of_toRouter {s : Snapshot} {router : Router} (h : s.toRouter = .ok router) :
    ofRouter router = { s with sourceHash := none } := by
  obtain ⟨hversion, hfits, hassembled⟩ := toRouter_eq_ok_iff.mp h
  simp only [ofRouter, Router.entries_of_assemble hfits hassembled,
    Router.routes_of_assemble hassembled, List.toList_toArray, hversion]

/-- A snapshot of the current version is safe to load.  If a row is malformed, the snapshot
    is refused, and what is said names the first such row and what is wrong with it.  If
    it is accepted, its rows are kept as they are, storing the router gives the snapshot
    back, loading it again gives the same router, no row looks up a route or a name that is
    not there, and every answer is reported by a row. -/
theorem toRouter_safe {s : Snapshot} (hversion : s.version = formatVersion) :
    ((∃ e ∈ s.entries, Malformed s.routes.toArray e) →
      ∃ before e after f, s.entries = before ++ e :: after ∧
        (∀ b ∈ before, ¬Malformed s.routes.toArray b) ∧
          Objection s.routes.toArray before.length e f ∧ s.toRouter = .error f ∧
            ∃ rest, f.message =
              corruptMessage ("row " ++ toString before.length ++ " " ++ rest)) ∧
    ∀ router, s.toRouter = .ok router →
      router.entries = s.entries ∧ ofRouter router = { s with sourceHash := none } ∧
        (ofRouter router).toRouter = .ok router ∧
        (∀ row ∈ router.rows, Router.InRange router.routes row) ∧
        ∀ path method res, router.resolve path method = .ok res →
          res.id < router.size ∧
            ∃ row ∈ router.rows, Router.ReportedBy router.routes row res := by
  constructor
  · rintro ⟨e, he, hmalformed⟩
    cases hfault : firstFault? s.routes.toArray 0 s.entries with
    | none =>
      exact absurd (firstFault?_eq_none_iff 0 |>.mp hfault e he) (malformed_iff.mp hmalformed)
    | some f =>
      obtain ⟨before, e', after, hentries, hbefore, hobjection⟩ := firstFault?_eq_some_iff.mp hfault
      rw [Nat.zero_add] at hobjection
      obtain ⟨rest, hdetail⟩ := hobjection.exists_detail
      refine ⟨before, e', after, f, hentries, hbefore, hobjection, ?_, rest, ?_⟩
      · simp [toRouter, hversion, hfault]
      · rw [hobjection.message_eq, hdetail]
  · intro router hrouter
    obtain ⟨-, hfits, hassembled⟩ := toRouter_eq_ok_iff.mp hrouter
    have hrestorable := restorable_of_toRouter hrouter
    refine ⟨Router.entries_of_assemble hfits hassembled, ofRouter_of_toRouter hrouter,
      toRouter_ofRouter_iff.mpr hrestorable, ?_, ?_⟩
    · exact fun row hrow => Router.inRange_of_restorable hrestorable hrow
    · intro path method res hresolve
      obtain ⟨row, hrow, hreported⟩ := Router.exists_reportedBy hresolve
      obtain ⟨hlt, -⟩ := Array.getElem?_eq_some_iff.mp hreported.route
      exact ⟨hlt, row, hrow, hreported⟩

/-- A route whose names, flags and constraints disagree in length. -/
def lopsidedRoute : Route :=
  ⟨"/{a}", none, ⟨"", ["a"], []⟩, [], [⟨"/{0}", [0], "^/(b)$"⟩], [], [], none⟩

/-- A table for the lopsided route, with a row for each list of positions. -/
def lopsided (rows : List (List Nat)) : Snapshot :=
  ⟨formatVersion, some "0", [lopsidedRoute], rows.map fun indices => ⟨"^/(b)$", 0, indices⟩⟩

/-- The lopsided route is loaded with a row of its own, and a second row that names a wildcard
    which the route lacks is refused by its number. -/
theorem toRouter_safe_lopsided :
    (∃ f rest, (lopsided [[0], [1]]).toRouter = .error f ∧
      f.message = corruptMessage ("row " ++ toString 1 ++ " " ++ rest)) ∧
    ∃ router, (lopsided [[0]]).toRouter = .ok router ∧ router.entries = [⟨"^/(b)$", 0, [0]⟩] ∧
      (ofRouter router).toRouter = .ok router := by
  constructor
  · have hmalformed : Malformed #[lopsidedRoute] ⟨"^/(b)$", 0, [1]⟩ :=
      Or.inr ⟨lopsidedRoute, rfl, Or.inl ⟨1, by decide, by decide⟩⟩
    have hfits : Fits #[lopsidedRoute] ⟨"^/(b)$", 0, [0]⟩ :=
      ⟨lopsidedRoute, rfl, by decide, _, List.mem_singleton_self _, rfl, rfl⟩
    obtain ⟨before, e, after, f, hentries, hbefore, hobjection, hrefused, rest, hmessage⟩ :=
      (toRouter_safe (s := lopsided [[0], [1]]) rfl).1 ⟨_, by decide, hmalformed⟩
    refine ⟨f, rest, hrefused, ?_⟩
    rcases before with _ | ⟨b, _ | ⟨c, before⟩⟩
    · obtain ⟨rfl, -⟩ := List.cons.inj hentries
      have hnone := (rowFault?_eq_none_iff 0).mpr hfits
      cases (rowFault?_eq_some_iff.mpr hobjection).symm.trans hnone
    · exact hmessage
    · simp [lopsided] at hentries
  · obtain ⟨router, hrouter⟩ : ∃ router, (lopsided [[0]]).toRouter = .ok router :=
      exists_ok_of_isSome (by cbv)
    obtain ⟨hentries, -, hagain, -⟩ := (toRouter_safe (s := lopsided [[0]]) rfl).2 router hrouter
    exact ⟨router, hrouter, hentries, hagain⟩

end Snapshot

end Wayfinder
