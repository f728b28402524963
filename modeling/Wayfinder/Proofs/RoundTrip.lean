/-
  Wayfinder/Proofs/RoundTrip.lean
  ===============================
  **Resolving what a variant was filled with.**

  A variant whose tokens are replaced by values gives a path.  When each value can be taken
  by its fragment, the route answers this path; but the path may have other readings, of
  the same variant or of another one, and the answer is the first of them all.  So the
  values come back when nothing is read before them.
-/
import Wayfinder.Proofs.Greedy
import Wayfinder.Proofs.Readings
import Wayfinder.Proofs.Reduction

namespace Wayfinder

open Wayfinder.Pattern

/-! ## 1. Filling variants -/

/-- The path that a variant gives with values in place of its tokens, from left to right. -/
def Pattern.AnchoredVariant.instantiate (v : AnchoredVariant) (values : List String) : String :=
  String.ofList (writeValues (places v.pattern) (values.map String.toList))

namespace Route

variable (r : Route) (v : AnchoredVariant) (values : List String)

/-- The names of the wildcards that a variant holds, with values. -/
def pairs : List (String × String) := (r.namesIn v.pattern).zip values

/-- Whether each value is matched in full by the fragment of its wildcard. -/
def Matches : Prop :=
  List.Forall₂ MatchedInFull (fragmentsOf (r.shapeOf v)) (values.map String.toList)

instance : Decidable (r.Matches v values) := inferInstanceAs (Decidable (List.Forall₂ ..))

/-- Whether each value can be taken by the fragment of its wildcard where it stands in the
    path. -/
def Fits : Prop := Pattern.Fits none (r.shapeOf v) (values.map String.toList)

/-- The readings of a path by a route: variant by variant, and those of each in the order
    of its preference. -/
def readings (path : String) : List (List (String × String)) :=
  r.variants.flatMap fun v =>
    (Pattern.readings none (r.shapeOf v) path.toList).map fun values =>
      r.pairs v (values.map String.ofList)

end Route

theorem Pattern.fill_map_slot (fragments : List String) (ps : List Place)
    (values : List (List Char)) :
    fill (ps.map (Place.slot fragments)) values = writeValues ps values := by
  induction ps generalizing values with
  | nil => rfl
  | cons p ps ih =>
    cases p with
    | char c => exact congrArg (c :: ·) (ih values)
    | digits ds =>
      cases values with
      | nil => exact ih []
      | cons v values => exact congrArg (v ++ ·) (ih values)

theorem Pattern.AnchoredVariant.instantiate_eq_iff {r : Route} {v : AnchoredVariant}
    {values : List String} {path : String} :
    v.instantiate values = path ↔
      fill (r.shapeOf v) (values.map String.toList) = path.toList := by
  rw [Route.shapeOf, shape, fill_map_slot, instantiate]
  constructor
  · rintro rfl
    rw [String.toList_ofList]
  · intro h
    rw [h, String.ofList_toList]

/-- The readings of a path are the values that fit into a variant and give the path. -/
theorem Route.mem_readings {r : Route} {path : String} {pairs : List (String × String)} :
    pairs ∈ r.readings path ↔
      ∃ v ∈ r.variants, ∃ values, r.Fits v values ∧ v.instantiate values = path ∧
        pairs = r.pairs v values := by
  rw [readings, List.mem_flatMap]
  refine exists_congr fun v => and_congr_right fun _ => ?_
  rw [List.mem_map]
  constructor
  · rintro ⟨chars, hchars, rfl⟩
    obtain ⟨hfits, hfill⟩ := Pattern.mem_readings.mp hchars
    have htext : (chars.map String.ofList).map String.toList = chars := by
      simp [Function.comp_def]
    refine ⟨chars.map String.ofList, ?_, ?_, rfl⟩
    · rwa [Fits, htext]
    · rwa [AnchoredVariant.instantiate_eq_iff, htext]
  · rintro ⟨values, hfits, hpath, rfl⟩
    refine ⟨values.map String.toList, Pattern.mem_readings.mpr ⟨hfits, ?_⟩, ?_⟩
    · exact AnchoredVariant.instantiate_eq_iff.mp hpath
    · simp [Function.comp_def]

theorem Route.fits_iff {r : Route} {v : AnchoredVariant}
    (hfree : ∀ f, Slot.fragment f ∈ r.shapeOf v → LookFree f) {values : List String} :
    r.Fits v values ↔ r.Matches v values :=
  fits_iff_of_lookFree hfree

/-! ## 2. Answers as readings -/

namespace Draft.Declared

variable {d : Draft} {v : AnchoredVariant}

theorem answer?_eq_head? (hd : d.Declared) (hseals : d.finish.Seals)
    (hread : ∀ w ∈ d.finish.variants, d.finish.ReadsApart w)
    (hcounted : ∀ w ∈ d.finish.variants, Counted (d.finish.shapeOf w)) (path : String) :
    d.finish.answer? path = (d.finish.readings path).head? := by
  rw [Route.readings, List.head?_flatMap, Route.answer?]
  refine findSome?_congr fun w hw => ?_
  exact hd.accept?_eq_head? hw (hd.seals_iff.mp hseals w hw) (hread w hw) (hcounted w hw) path

end Draft.Declared

/-! ## 3. Round trips -/

namespace Draft

/-- A route alone answers every path that one of its variants gives with values that fit, and
    the answer is the first reading of the path: of all values that fit into a variant and
    give the path, those of the first variant that has any, in the order in which its
    expression prefers them.  So the values come back when the path has no other
    reading.  Where no fragment looks at what stands around, values fit when each is matched
    in full by its fragment alone. -/
theorem resolve_instantiate {d : Draft} (hd : d.Declared) {router : Router}
    (halone : d.alone = .ok router) (hread : ∀ w ∈ d.finish.variants, d.finish.ReadsApart w)
    (hcounted : ∀ w ∈ d.finish.variants, Counted (d.finish.shapeOf w)) {v : AnchoredVariant}
    (hv : v ∈ d.finish.variants) {values : List String} (hfits : d.finish.Fits v values) :
    ∃ params,
      router.resolve (v.instantiate values) none = .ok ⟨0, d.finish, params⟩ ∧
      (d.finish.readings (v.instantiate values)).head? = some params ∧
      (∀ pairs, pairs ∈ d.finish.readings (v.instantiate values) ↔
        ∃ w ∈ d.finish.variants, ∃ others, d.finish.Fits w others ∧
          w.instantiate others = v.instantiate values ∧ pairs = d.finish.pairs w others) ∧
      ((∀ w ∈ d.finish.variants, ∀ others, d.finish.Fits w others →
          w.instantiate others = v.instantiate values →
            d.finish.pairs w others = d.finish.pairs v values) →
        params = d.finish.pairs v values) ∧
      ∀ w, (∀ f, Slot.fragment f ∈ d.finish.shapeOf w → LookFree f) →
        ∀ others, d.finish.Fits w others ↔ d.finish.Matches w others := by
  have hseals : d.finish.Seals := (exists_alone_iff d).mp ⟨router, halone⟩
  have hmem : d.finish.pairs v values ∈ d.finish.readings (v.instantiate values) :=
    Route.mem_readings.mpr ⟨v, hv, values, hfits, rfl, rfl⟩
  obtain ⟨params, hparams⟩ : ∃ params,
      (d.finish.readings (v.instantiate values)).head? = some params :=
    Option.isSome_iff_exists.mp (List.isSome_head?.mpr (List.ne_nil_of_mem hmem))
  refine ⟨params, ?_, hparams, fun _ => Route.mem_readings, ?_, fun _ hfree _ => Route.fits_iff hfree⟩
  · rw [resolve_alone halone, hd.answer?_eq_head? hseals hread hcounted, hparams]
  · intro honly
    obtain ⟨w, hw, others, hothers, hpath, rfl⟩ :=
      Route.mem_readings.mp (List.mem_of_mem_head? hparams)
    exact honly w hw others hothers hpath

/-- The draft of a page in one of two languages, or without one. -/
def docsDraft : Draft :=
  ⟨"/{lang?}/docs/{page}", none, ⟨"/{0}/docs/{1}", ["lang", "page"], [true, false]⟩,
    ⟨[some "(en|fr)", none]⟩, [], [], none⟩

def docsVariant : AnchoredVariant :=
  ⟨"/{0}/docs/{1}", [0, 1], "^/((en|fr))/docs/([A-Za-z0-9_%-]+)$"⟩

theorem variants_docsDraft : docsDraft.finish.variants =
    [docsVariant, ⟨"/docs/{1}", [1], "^/docs/([A-Za-z0-9_%-]+)$"⟩] := by
  cbv

/-- Both values come back, as this path has no other reading. -/
theorem resolve_instantiate_docs :
    ∃ router, build "/{lang?}/docs/{page}" [.constraint "lang" "(en|fr)"] = .ok docsDraft ∧
      docsDraft.alone = .ok router ∧
      router.resolve "/fr/docs/intro" none =
        .ok ⟨0, docsDraft.finish, [("lang", "fr"), ("page", "intro")]⟩ := by
  have hbuild : build "/{lang?}/docs/{page}" [.constraint "lang" "(en|fr)"] = .ok docsDraft := by
    decide
  have hdeclared : docsDraft.Declared := ⟨by decide, _, hbuild⟩
  obtain ⟨router, halone⟩ : ∃ router, docsDraft.alone = .ok router := by
    rw [exists_alone_iff, hdeclared.seals_iff, variants_docsDraft]
    simp only [List.forall_mem_cons]
    exact ⟨fun _ => exists_ok_of_isSome (by cbv), fun _ => exists_ok_of_isSome (by cbv), by simp⟩
  have hread : ∀ w ∈ docsDraft.finish.variants, docsDraft.finish.ReadsApart w := by
    rw [variants_docsDraft]
    simp only [List.forall_mem_cons]
    exact ⟨fun _ => by cbv, fun _ => by cbv, by simp⟩
  have hcounted : ∀ w ∈ docsDraft.finish.variants, Counted (docsDraft.finish.shapeOf w) := by
    rw [variants_docsDraft]
    simp only [List.forall_mem_cons, Counted]
    exact ⟨by decide, by decide, by simp⟩
  have hfragments : fragmentsOf (docsDraft.finish.shapeOf docsVariant) =
      ["(en|fr)", defaultFragment] := by
    cbv
  have hfits : docsDraft.finish.Fits docsVariant ["fr", "intro"] := by
    refine (Route.fits_iff ?_).mpr (of_decide_eq_true (by cbv))
    intro f hf
    rw [← mem_fragmentsOf, hfragments] at hf
    rcases List.mem_cons.mp hf with rfl | hf
    · cbv
    · obtain rfl := List.mem_singleton.mp hf
      cbv
  obtain ⟨params, hres, hfirst, -⟩ := resolve_instantiate hdeclared halone hread hcounted
    (by rw [variants_docsDraft]; exact List.mem_cons_self) hfits
  have hpath : docsVariant.instantiate ["fr", "intro"] = "/fr/docs/intro" := by cbv
  have hreadings : (docsDraft.finish.readings "/fr/docs/intro").head? =
      some [("lang", "fr"), ("page", "intro")] := by
    cbv
  rw [hpath] at hres hfirst
  obtain rfl := Option.some.inj (hreadings.symm.trans hfirst)
  exact ⟨router, hbuild, halone, hres⟩

/-! ## 4. Values that do not come back -/

/-- Whether every path that a variant gives with values that are matched in full resolves to these
    values, whatever else it could be read as. -/
def RoundTrips (d : Draft) : Prop :=
  ∀ router, d.alone = .ok router → ∀ v ∈ d.finish.variants, ∀ values, d.finish.Matches v values →
    ∃ res, router.resolve (v.instantiate values) none = .ok res ∧
      res.params = d.finish.pairs v values

/-- Whether a route that can be sealed is seen not to give the values of a variant back. -/
def loses (d : Draft) (v : AnchoredVariant) (values : List String) : Bool :=
  d.finish.variants.all (fun w => (Regex.compile w.regex).toOption.isSome) &&
    d.finish.variants.contains v && decide (d.finish.Matches v values) &&
      decide (d.finish.answer? (v.instantiate values) ≠ some (d.finish.pairs v values))

theorem Declared.not_roundTrips {d : Draft} (hd : d.Declared) {v : AnchoredVariant}
    {values : List String} (h : d.loses v values = true) :
    (∃ router, d.alone = .ok router) ∧ ¬d.RoundTrips := by
  simp only [loses, Bool.and_eq_true, List.all_eq_true, List.contains_iff_mem,
    decide_eq_true_eq] at h
  obtain ⟨⟨⟨hready, hv⟩, hmatches⟩, hanswer⟩ := h
  have hseals : d.finish.Seals :=
    hd.seals_iff.mpr fun w hw _ => exists_ok_of_isSome (hready w hw)
  obtain ⟨router, halone⟩ := (exists_alone_iff d).mpr hseals
  refine ⟨⟨router, halone⟩, ?_⟩
  intro hround
  obtain ⟨res, hres, hparams⟩ := hround router halone v hv values hmatches
  rw [resolve_alone halone] at hres
  cases hfound : d.finish.answer? (v.instantiate values) with
  | none =>
    rw [hfound] at hres
    cases hres
  | some params =>
    rw [hfound] at hres
    obtain rfl := Except.ok.inj hres
    exact hanswer (by rw [hfound, ← hparams])

/-- Two wildcards side by side: the first takes as much as it can. -/
def adjacentDraft : Draft :=
  ⟨"/{a}{b}", none, ⟨"/{0}{1}", ["a", "b"], [false, false]⟩, ⟨[none, none]⟩, [], [], none⟩

/-- Two wildcards that can be left out: the variant without the first is tried first. -/
def optionalsDraft : Draft :=
  ⟨"/{a?}/{b?}", none, ⟨"/{0}/{1}", ["a", "b"], [true, true]⟩, ⟨[none, none]⟩, [], [], none⟩

/-- A fragment that looks at what stands before it. -/
def assertionDraft : Draft :=
  ⟨"/{x}", none, ⟨"/{0}", ["x"], [false]⟩, ⟨[some "^a"]⟩, [], [], none⟩

/-- Fragments that end in comments, in which the end of a group is swallowed. -/
def commentDraft : Draft :=
  ⟨"/{x}/{y}", none, ⟨"/{0}/{1}", ["x", "y"], [false, false]⟩,
    ⟨[some "(?x)a#", some "(?x)b#\n"]⟩, [], [], none⟩

/-- Values do not come back where the path has an earlier reading, of the same variant or of
    another one; nor where a fragment looks at what stands around, where a group is not
    counted, or where a comment swallows the end of a group. -/
theorem exists_not_roundTrips :
    (∃ d, build "/{a}{b}" [] = .ok d ∧ (∃ router, d.alone = .ok router) ∧ ¬d.RoundTrips) ∧
    (∃ d, build "/{a?}/{b?}" [] = .ok d ∧ (∃ router, d.alone = .ok router) ∧ ¬d.RoundTrips) ∧
    (∃ d, build "/{x}" [.constraint "x" "^a"] = .ok d ∧
      (∃ router, d.alone = .ok router) ∧ ¬d.RoundTrips) ∧
    (∃ d, build "/{x}/{y}" [.constraint "x" "(a){0}b", .constraint "y" "c"] = .ok d ∧
      (∃ router, d.alone = .ok router) ∧ ¬d.RoundTrips) ∧
    ∃ d, build "/{x}/{y}" [.constraint "x" "(?x)a#", .constraint "y" "(?x)b#\n"] = .ok d ∧
      (∃ router, d.alone = .ok router) ∧ ¬d.RoundTrips := by
  have hadjacent : build "/{a}{b}" [] = .ok adjacentDraft := by decide
  have hoptionals : build "/{a?}/{b?}" [] = .ok optionalsDraft := by decide
  have hassertion : build "/{x}" [.constraint "x" "^a"] = .ok assertionDraft := by decide
  have hhidden : build "/{x}/{y}" [.constraint "x" "(a){0}b", .constraint "y" "c"] =
      .ok Registry.hiddenGroupDraft := by decide
  have hcomment : build "/{x}/{y}" [.constraint "x" "(?x)a#", .constraint "y" "(?x)b#\n"] =
      .ok commentDraft := by decide
  refine ⟨⟨_, hadjacent, ?_⟩, ⟨_, hoptionals, ?_⟩, ⟨_, hassertion, ?_⟩, ⟨_, hhidden, ?_⟩,
    ⟨_, hcomment, ?_⟩⟩
  · exact @Declared.not_roundTrips _ ⟨by decide, _, hadjacent⟩
      ⟨"/{0}{1}", [0, 1], "^/([A-Za-z0-9_%-]+)([A-Za-z0-9_%-]+)$"⟩ ["x", "yz"] (by cbv)
  · exact @Declared.not_roundTrips _ ⟨by decide, _, hoptionals⟩
      ⟨"/{0}", [0], "^/([A-Za-z0-9_%-]+)$"⟩ ["x"] (by cbv)
  · exact @Declared.not_roundTrips _ ⟨by decide, _, hassertion⟩
      ⟨"/{0}", [0], "^/(^a)$"⟩ ["a"] (by cbv)
  · exact @Declared.not_roundTrips _ ⟨by decide, _, hhidden⟩
      ⟨"/{0}/{1}", [0, 1], "^/((a){0}b)/(c)$"⟩ ["b", "c"] (by cbv)
  · exact @Declared.not_roundTrips _ ⟨by decide, _, hcomment⟩
      ⟨"/{0}/{1}", [0, 1], "^/((?x)a#)/((?x)b#\n)$"⟩ ["a", "b"] (by cbv)

end Draft

end Wayfinder
