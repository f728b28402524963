/-
  Wayfinder/Proofs/Pattern/Binding.lean
  =====================================
  **The first valid constraint wins.**

  Requests to constrain the wildcards of a pattern come one after the other, and some of them
  are refused.  What is bound is a list of places, found by looking up names, but all that was
  done can be told by the names alone: a wildcard has the fragment of the first request that
  names it with a fragment that compiles.  So a faulty fragment neither takes the place of a
  wildcard nor gives one up, and whether a request is refused, and why, depends on the
  requests before it that named the same wildcard.
-/
import Mathlib.Data.List.Nodup
import Wayfinder.Proofs.Pattern.Positional
import Wayfinder.Pattern.Constraint

namespace Wayfinder.Pattern.Constraints

/-! ## 1. Requests -/

/-- A request to constrain a wildcard. -/
structure Request where
  /-- The pattern that an error names. -/
  uri : String
  name : String
  fragment : String
deriving DecidableEq, Repr

/-- Whether the fragment of a request compiles on its own. -/
def Request.valid (r : Request) : Bool := (Regex.compile r.fragment).isOk

/-- What is bound after a request, and its answer.  A request that is refused binds nothing. -/
def request (cs : Constraints) (ws : Wildcards) (r : Request) :
    Constraints × Except RouteError Unit :=
  match cs.bind r.uri ws r.name r.fragment with
  | .ok next => (next, .ok ())
  | .error e => (cs, .error e)

/-- What is bound after requests, made in order from when nothing was bound. -/
def bindAll (ws : Wildcards) (rs : List Request) : Constraints :=
  rs.foldl (fun cs r => (cs.request ws r).1) (unbound ws)

/-- The fragment of the first request for a name whose fragment compiles. -/
def firstValid? (rs : List Request) (name : String) : Option String :=
  (rs.find? fun r => r.name == name && r.valid).map (·.fragment)

/-- Whether one of some requests, made in order, bound a fragment to a name. -/
def Met (ws : Wildcards) (rs : List Request) (name : String) : Prop :=
  ∃ before r later, rs = before ++ r :: later ∧ r.name = name ∧
    ((bindAll ws before).request ws r).2 = .ok ()

/-- Why a request is refused that comes after others: its name is not declared, or else an
    earlier request was met for this name, or else its fragment does not compile. -/
inductive Refuses (ws : Wildcards) (before : List Request) (r : Request) : RouteError → Prop where
  | undeclared : r.name ∉ ws.names → Refuses ws before r (.unknownWildcard r.uri r.name)
  | repeated : r.name ∈ ws.names → Met ws before r.name →
    Refuses ws before r (.duplicateConstraint r.uri r.name)
  | faulty {reason : Regex.Fault} : r.name ∈ ws.names → ¬Met ws before r.name →
    Regex.compile r.fragment = .error reason →
    Refuses ws before r (.invalidRegex r.uri r.name r.fragment reason)

theorem Request.valid_iff {r : Request} :
    r.valid = true ↔ ∃ regex, Regex.compile r.fragment = .ok regex := by
  rw [valid]
  cases Regex.compile r.fragment <;> simp [Except.isOk, Except.toBool]

theorem Request.valid_eq_false {r : Request} {reason : Regex.Fault}
    (h : Regex.compile r.fragment = .error reason) : r.valid = false := by
  rw [valid, h]
  rfl

theorem bindAll_concat (ws : Wildcards) (rs : List Request) (r : Request) :
    bindAll ws (rs ++ [r]) = ((bindAll ws rs).request ws r).1 := by
  rw [bindAll, List.foldl_append]
  rfl

/-- A request that is refused leaves what was bound as it was. -/
theorem request_fst_of_error {cs : Constraints} {ws : Wildcards} {r : Request}
    {e : RouteError} (h : (cs.request ws r).2 = .error e) : (cs.request ws r).1 = cs := by
  unfold request at h ⊢
  split
  · rename_i hbind
    rw [hbind] at h
    cases h
  · rfl

theorem firstValid?_concat (rs : List Request) (r : Request) (name : String) :
    firstValid? (rs ++ [r]) name =
      (firstValid? rs name).or (if r.name = name ∧ r.valid then some r.fragment else none) := by
  rw [firstValid?, List.find?_append, Option.map_or, ← firstValid?]
  congr 1
  by_cases h : r.name = name ∧ r.valid = true
  · rw [if_pos h, List.find?_cons_of_pos (by simpa using h)]
    rfl
  · rw [if_neg h, List.find?_cons_of_neg (by simpa using h)]
    rfl

/-! ## 2. One request -/

section Request

variable {ws : Wildcards} (hnodup : ws.names.Nodup) (f : String → Option String)
include hnodup

/-- Binding, where what is bound is told by names. -/
theorem bind_map (uri name fragment : String) :
    (Constraints.mk (ws.names.map f)).bind uri ws name fragment =
      if name ∈ ws.names then
        if (f name).isSome then .error (.duplicateConstraint uri name)
        else
          match Regex.compile fragment with
          | .error reason => .error (.invalidRegex uri name fragment reason)
          | .ok _ => .ok ⟨ws.names.map (Function.update f name (some fragment))⟩
      else .error (.unknownWildcard uri name) := by
  rw [Constraints.bind]
  cases hindex : ws.indexOf? name with
  | none =>
    have hmem : name ∉ ws.names := by
      intro hmem
      obtain ⟨i, hi⟩ := List.mem_iff_getElem?.mp hmem
      rw [(Wildcards.indexOf?_eq_some_iff hnodup).mpr hi] at hindex
      cases hindex
    rw [if_neg hmem]
  | some i =>
    rw [Wildcards.indexOf?_eq_some_iff hnodup] at hindex
    obtain ⟨hi, rfl⟩ := List.getElem?_eq_some_iff.mp hindex
    have hmem : ws.names[i] ∈ ws.names := List.getElem_mem hi
    have hget : (Constraints.mk (ws.names.map f)).get? i = f ws.names[i] := by
      simp [Constraints.get?, hi]
    have hset : (ws.names.map f).set i (some fragment) =
        ws.names.map (Function.update f ws.names[i] (some fragment)) := by
      rw [hnodup.map_update, if_pos hmem, hnodup.idxOf_getElem]
    cases Regex.compile fragment with
    | error reason => simp only [hget, if_pos hmem]
    | ok regex => simp only [hget, hset, if_pos hmem]

/-- All that a request can do, where what is bound is told by names. -/
theorem request_cases (r : Request) :
    r.name ∉ ws.names ∧ (Constraints.mk (ws.names.map f)).request ws r =
        (⟨ws.names.map f⟩, .error (.unknownWildcard r.uri r.name)) ∨
      r.name ∈ ws.names ∧ (f r.name).isSome ∧ (Constraints.mk (ws.names.map f)).request ws r =
        (⟨ws.names.map f⟩, .error (.duplicateConstraint r.uri r.name)) ∨
      r.name ∈ ws.names ∧ f r.name = none ∧
        ((∃ reason, Regex.compile r.fragment = .error reason ∧
          (Constraints.mk (ws.names.map f)).request ws r =
            (⟨ws.names.map f⟩, .error (.invalidRegex r.uri r.name r.fragment reason))) ∨
          r.valid ∧ (Constraints.mk (ws.names.map f)).request ws r =
            (⟨ws.names.map (Function.update f r.name (some r.fragment))⟩, .ok ())) := by
  rw [request, bind_map hnodup]
  by_cases hmem : r.name ∈ ws.names
  · rw [if_pos hmem]
    by_cases htaken : (f r.name).isSome
    · exact Or.inr (Or.inl ⟨hmem, htaken, by rw [if_pos htaken]⟩)
    · refine Or.inr (Or.inr ⟨hmem, by simpa using htaken, ?_⟩)
      rw [if_neg htaken]
      cases hcompile : Regex.compile r.fragment with
      | error reason => exact Or.inl ⟨reason, rfl, rfl⟩
      | ok regex => exact Or.inr ⟨Request.valid_iff.mpr ⟨regex, hcompile⟩, rfl⟩
  · exact Or.inl ⟨hmem, by rw [if_neg hmem]⟩

end Request

/-! ## 3. Runs of requests -/

section Run

variable {ws : Wildcards} (hnodup : ws.names.Nodup)
include hnodup

/-- Where each name has its first valid fragment, it still has after another request. -/
theorem request_firstValid (rs : List Request) (r : Request) :
    ((Constraints.mk (ws.names.map (firstValid? rs))).request ws r).1 =
      ⟨ws.names.map (firstValid? (rs ++ [r]))⟩ := by
  -- a request says something new of its own name only, if nothing was said of that before
  have hkeep : (∀ name ∈ ws.names, r.name = name → r.valid → (firstValid? rs name).isSome) →
      ws.names.map (firstValid? rs) = ws.names.map (firstValid? (rs ++ [r])) := by
    intro hknown
    apply List.map_congr_left
    intro name hname
    rw [firstValid?_concat]
    split
    · rename_i hr
      rw [Option.or_of_isSome (hknown name hname hr.1 hr.2)]
    · rw [Option.or_none]
  rcases request_cases hnodup (firstValid? rs) r with
    ⟨hmem, h⟩ | ⟨-, htaken, h⟩ | ⟨-, hfree, ⟨reason, hreason, h⟩ | ⟨hvalid, h⟩⟩
  · rw [h, hkeep]
    rintro name hname rfl _
    exact absurd hname hmem
  · rw [h, hkeep]
    rintro name _ rfl _
    exact htaken
  · rw [h, hkeep]
    intro name _ _ hvalid
    rw [Request.valid_eq_false hreason] at hvalid
    cases hvalid
  · rw [h, Constraints.mk.injEq]
    apply List.map_congr_left
    intro name _
    rw [firstValid?_concat]
    by_cases hname : r.name = name
    · subst hname
      rw [Function.update_self, hfree, if_pos ⟨rfl, hvalid⟩, Option.none_or]
    · rw [Function.update_of_ne (Ne.symm hname), if_neg fun hr => hname hr.1, Option.or_none]

/-- What is bound is told by names: each has its first valid fragment. -/
theorem bindAll_eq (rs : List Request) : bindAll ws rs = ⟨ws.names.map (firstValid? rs)⟩ := by
  induction rs using List.reverseRecOn with
  | nil =>
    rw [bindAll, List.foldl_nil, unbound, Wildcards.size, ← List.map_const']
    rfl
  | append_singleton rs r ih => rw [bindAll_concat, ih, request_firstValid hnodup]

/-- A request is met when its name is declared, no valid one came before it, and it is valid. -/
theorem request_eq_ok_iff (rs : List Request) (r : Request) :
    ((bindAll ws rs).request ws r).2 = .ok () ↔
      r.name ∈ ws.names ∧ firstValid? rs r.name = none ∧ r.valid := by
  rw [bindAll_eq hnodup]
  rcases request_cases hnodup (firstValid? rs) r with
    ⟨hmem, h⟩ | ⟨-, htaken, h⟩ | ⟨hmem, hfree, ⟨reason, hreason, h⟩ | ⟨hvalid, h⟩⟩
  · simp [h, hmem]
  · simp [h, Option.ne_none_iff_isSome.mpr htaken]
  · simp [h, Request.valid_eq_false hreason]
  · simp [h, hmem, hfree, hvalid]

/-- A request for a declared name was met exactly when there was a valid one. -/
theorem met_iff {name : String} (hname : name ∈ ws.names) (rs : List Request) :
    Met ws rs name ↔ (firstValid? rs name).isSome := by
  constructor
  · rintro ⟨before, r, later, rfl, rfl, hok⟩
    have hvalid := ((request_eq_ok_iff hnodup before r).mp hok).2.2
    rw [firstValid?, Option.isSome_map, List.find?_isSome]
    exact ⟨r, by simp, by simpa using hvalid⟩
  · intro hsome
    rw [firstValid?, Option.isSome_map] at hsome
    obtain ⟨r, hfirst⟩ := Option.isSome_iff_exists.mp hsome
    obtain ⟨hr, before, later, rfl, hbefore⟩ := List.find?_eq_some_iff_append.mp hfirst
    obtain ⟨rfl, hvalid⟩ : r.name = name ∧ r.valid = true := by simpa using hr
    have hnone : firstValid? before r.name = none := by
      rw [firstValid?, Option.map_eq_none_iff, List.find?_eq_none]
      intro s hs
      simpa [imp_iff_not_or] using hbefore s hs
    exact ⟨before, r, later, rfl, rfl,
      (request_eq_ok_iff hnodup before r).mpr ⟨hname, hnone, hvalid⟩⟩

theorem request_eq_error_iff (rs : List Request) (r : Request) {e : RouteError} :
    ((bindAll ws rs).request ws r).2 = .error e ↔ Refuses ws rs r e := by
  have hmet : r.name ∈ ws.names → (Met ws rs r.name ↔ (firstValid? rs r.name).isSome) :=
    fun hmem => met_iff hnodup hmem rs
  constructor
  · intro herror
    rw [bindAll_eq hnodup] at herror
    rcases request_cases hnodup (firstValid? rs) r with
      ⟨hmem, h⟩ | ⟨hmem, htaken, h⟩ | ⟨hmem, hfree, ⟨reason, hreason, h⟩ | ⟨hvalid, h⟩⟩
    · rw [h] at herror
      obtain rfl := Except.error.inj herror
      exact .undeclared hmem
    · rw [h] at herror
      obtain rfl := Except.error.inj herror
      exact .repeated hmem ((hmet hmem).mpr htaken)
    · rw [h] at herror
      obtain rfl := Except.error.inj herror
      exact .faulty hmem (by simp [hmet hmem, hfree]) hreason
    · rw [h] at herror
      cases herror
  · intro hrefuses
    rw [bindAll_eq hnodup, request, bind_map hnodup]
    cases hrefuses with
    | undeclared hmem => rw [if_neg hmem]
    | repeated hmem hdone => rw [if_pos hmem, if_pos ((hmet hmem).mp hdone)]
    | faulty hmem hfree hreason =>
      rw [hmet hmem] at hfree
      rw [if_pos hmem, if_neg hfree, hreason]

end Run

/-- Whatever requests came before, failing ones included: the next one is refused for an
    undeclared name, or else for a name that an earlier request was met for, or else for a
    fragment that does not compile, and leaves what was bound as it was then.  In the end every
    wildcard has the fragment of the first request that names it with a fragment that compiles,
    or the default if there is none. -/
theorem first_valid_wins {text : String} {ws : Wildcards} (hws : extract text = .ok ws)
    (rs : List Request) :
    (∀ r e, ((bindAll ws rs).request ws r).2 = .error e ↔ Refuses ws rs r e) ∧
    (∀ r e, ((bindAll ws rs).request ws r).2 = .error e →
      ((bindAll ws rs).request ws r).1 = bindAll ws rs) ∧
    (bindAll ws rs).fragments =
      ws.names.map fun name => (firstValid? rs name).getD defaultFragment := by
  have hnodup : ws.names.Nodup := by
    obtain ⟨hnames, rfl⟩ := extract_eq_ok_iff.mp hws
    exact hnames
  refine ⟨fun r e => request_eq_error_iff hnodup rs r, fun r e => request_fst_of_error, ?_⟩
  rw [bindAll_eq hnodup, fragments, List.map_map]
  rfl

/-- Requests for the wildcards of an archive: no wildcard has the first name, the first fragment
    for the year does not compile and the second does, and that for the month does not. -/
def archiveRequests : List Request :=
  [⟨"/{year}/{month}/{slug?}", "day", "[0-9]+"⟩, ⟨"/{year}/{month}/{slug?}", "year", "("⟩,
    ⟨"/{year}/{month}/{slug?}", "year", "[0-9]+"⟩, ⟨"/{year}/{month}/{slug?}", "month", "["⟩]

def archiveWildcards : Wildcards :=
  ⟨"/{0}/{1}/{2}", ["year", "month", "slug"], [false, false, true]⟩

theorem first_valid_wins_archive :
    extract "/{year}/{month}/{slug?}" = .ok archiveWildcards ∧
    (bindAll archiveWildcards archiveRequests).fragments =
      ["[0-9]+", defaultFragment, defaultFragment] ∧
    ((bindAll archiveWildcards archiveRequests).request archiveWildcards ⟨"/", "year", "("⟩) =
      (bindAll archiveWildcards archiveRequests, .error (.duplicateConstraint "/" "year")) ∧
    ((bindAll archiveWildcards archiveRequests).request archiveWildcards ⟨"/", "month", "("⟩).2 =
      .error (.invalidRegex "/" "month" "(" .malformed) := by
  have hws : extract "/{year}/{month}/{slug?}" = .ok archiveWildcards := by decide +kernel
  obtain ⟨hanswers, hsame, hfragments⟩ := first_valid_wins hws archiveRequests
  have hyear : Met archiveWildcards archiveRequests "year" :=
    ⟨archiveRequests.take 2, ⟨"/{year}/{month}/{slug?}", "year", "[0-9]+"⟩,
      archiveRequests.drop 3, rfl, rfl, by decide +kernel⟩
  have hmonth : ¬Met archiveWildcards archiveRequests "month" := by
    rw [met_iff (by decide) (by decide), Bool.not_eq_true]
    decide +kernel
  have hfault : Regex.compile "(" = .error .malformed := by decide +kernel
  have hrepeated := (hanswers ⟨"/", "year", "("⟩ _).mpr (.repeated (by decide) hyear)
  refine ⟨hws, ?_, Prod.ext (hsame _ _ hrepeated) hrepeated,
    (hanswers _ _).mpr (.faulty (by decide) hmonth hfault)⟩
  rw [hfragments]
  decide +kernel

end Wayfinder.Pattern.Constraints
