/-
  Wayfinder/Proofs/Resolution.lean
  ================================
  **Resolving paths without expressions.**

  Where no wildcard is bound, a sealed registry can be described without regular
  expressions: it goes through its routes and their variants in order, and the first
  pattern that a path can be taken apart by decides, with the greedy decomposition for
  its values.  The matcher finds that decomposition because the readings of a path by
  segments, in order of preference, are the decompositions from the greedy one on.
-/
import Wayfinder.Proofs.Greedy
import Wayfinder.Proofs.Readings

namespace Wayfinder

/-! ## 1. Segments in the matcher -/

namespace Regex

open Wayfinder.Pattern

/-- The rest of a loop over segment characters may take nothing, but tries the longest
    segment first. -/
theorem splits_again_segment (before : Option Char) (cs : List Char) :
    splits before cs [.again true (.set segmentSet)] = segmentSplits cs ++ [([], cs)] := by
  have hagain : ∀ here : Place, stackItems here [.again true (.set segmentSet)] [] =
      [.step [] segmentSet [.again true (.set segmentSet)], .done []] := fun _ => rfl
  induction cs generalizing before with
  | nil => rfl
  | cons c cs ih =>
    rw [splits, hagain, segmentSplits]
    simp only [List.flatMap_cons, List.flatMap_nil, Item.splits, has_segmentSet, ih,
      List.append_nil]

/-- A loop over segment characters takes a segment, the longest first. -/
theorem splits_segment (before : Option Char) (cs : List Char) :
    splits before cs [.run (.repeated 1 none true (.set segmentSet))] = segmentSplits cs := by
  have hloop : ∀ here : Place,
      stackItems here [.run (.repeated 1 none true (.set segmentSet))] [] =
        [.step [] segmentSet [.again true (.set segmentSet)]] := fun _ => rfl
  cases cs with
  | nil => rfl
  | cons c cs =>
    rw [splits, hloop, segmentSplits]
    simp only [List.flatMap_cons, List.flatMap_nil, Item.splits, has_segmentSet,
      splits_again_segment, List.append_nil]

end Regex

/-! ## 2. Decompositions as readings -/

namespace Pattern

open Wayfinder.Regex

/-- What a place leaves in an expression when no wildcard is bound. -/
def Place.unboundSlot : Place → Slot
  | .char c => .char c
  | .digits _ => .fragment defaultFragment

theorem unbound_map_unboundSlot (ps : List Place) : Unbound (ps.map Place.unboundSlot) := by
  intro f hf
  obtain ⟨p, -, hp⟩ := List.mem_map.mp hf
  cases p with
  | char c => cases hp
  | digits ds => exact (Slot.fragment.inj hp).symm

/-- Without a constraint there is no group to be left out. -/
theorem Unbound.counted {slots : List Slot} (h : Unbound slots) : Counted slots := by
  intro f hf
  rw [h f (mem_fragmentsOf.mp (List.dropLast_subset _ hf)), innerGroups_defaultFragment,
    fragmentGroups_defaultFragment]

/-- The readings of a text by unbound slots are its decompositions, in the same order. -/
theorem readings_unbound (before : Option Char) (ps : List Place) (text : List Char) :
    readings before (ps.map Place.unboundSlot) text = decompositions ps text := by
  induction ps generalizing before text with
  | nil => cases text <;> rfl
  | cons p ps ih =>
    cases p with
    | char c =>
      cases text with
      | nil => rfl
      | cons d text =>
        rw [List.map_cons, Place.unboundSlot, readings, decompositions, ih]
    | digits ds =>
      rw [List.map_cons, Place.unboundSlot, readings, decompositions, fragmentExpr_defaultFragment,
        splits_segment]
      simp only [ih]

end Pattern

open Wayfinder.Pattern

/-! ## 3. Answers of unbound variants -/

/-- Whether no wildcard of a draft is bound. -/
def Draft.Unconstrained (d : Draft) : Prop := ∀ i, d.constraints.get? i = none

namespace Draft

variable {d : Draft} {v : AnchoredVariant}

theorem Unconstrained.fragment_eq (hfree : d.Unconstrained) {f : String}
    (hf : f ∈ d.finish.constraints) : f = defaultFragment := by
  obtain ⟨bound, hbound, rfl⟩ := List.mem_map.mp hf
  obtain ⟨i, hi⟩ := List.mem_iff_getElem?.mp hbound
  have hnone := hfree i
  rw [Constraints.get?, hi] at hnone
  obtain rfl : bound = none := hnone
  rfl

/-- The shape of a variant does not depend on where its tokens point. -/
theorem Unconstrained.shapeOf_eq (hfree : d.Unconstrained) (v : AnchoredVariant) :
    d.finish.shapeOf v = (places v.pattern).map Place.unboundSlot := by
  refine List.map_congr_left fun p _ => ?_
  cases p with
  | char c => rfl
  | digits ds =>
    change Slot.fragment (fragmentAt d.finish.constraints _) = .fragment defaultFragment
    rw [fragmentAt]
    cases hget : (Place.digits ds).position?.bind fun i => d.finish.constraints[i]? with
    | none => rfl
    | some f =>
      obtain ⟨i, -, hi⟩ := Option.bind_eq_some_iff.mp hget
      rw [Option.getD_some, hfree.fragment_eq (List.mem_of_getElem? hi)]

/-- A variant without constraints answers with the greedy decomposition of the path. -/
theorem Declared.accept?_of_unconstrained (hd : d.Declared) (hfree : d.Unconstrained)
    (hv : v ∈ d.finish.variants)
    (hready : v.indices ≠ [] → ∃ regex, Regex.compile v.regex = .ok regex) (path : String) :
    d.finish.accept? path v =
      (greedyValues? v.pattern path).map fun values => (d.finish.namesIn v.pattern).zip values := by
  have hshape := hfree.shapeOf_eq v
  have hunbound : Unbound (d.finish.shapeOf v) := by
    rw [hshape]
    exact unbound_map_unboundSlot _
  have hread : d.finish.ReadsApart v := by
    intro hsome
    obtain ⟨regex, hregex⟩ := hready hsome
    refine parse_of_compile ?_ (fun _ => hunbound.usable) (fun _ => hunbound.readsInGroup) hregex
    rw [regex_eq_of_mem hv, String.toList_ofList]
  rw [hd.accept?_eq_head? hv hready hread hunbound.counted, hshape, readings_unbound,
    List.head?_map, greedyValues?, Option.map_map]
  rfl

end Draft

/-! ## 4. Answers of a sealed registry -/

/-- What routes make of a path without expressions: they and their variants are gone
    through in order, and the first pattern that the path can be taken apart by decides,
    with its greedy decomposition. -/
def decompose? (routes : List Route) (path : String) : Option Resolved :=
  routes.zipIdx.findSome? fun (r, i) => r.variants.findSome? fun v =>
    (greedyValues? v.pattern path).map fun values => ⟨i, r, (r.namesIn v.pattern).zip values⟩

namespace Registry

/-- A registry without constraints resolves every path as its patterns decompose it.  A
    pattern has greedy values for a path exactly when these are the greedy decomposition,
    and none exactly when the path is not the literal characters of the pattern and a
    segment for each token. -/
theorem resolve_of_unconstrained {ds : List Draft} (hds : ∀ d ∈ ds, d.Declared)
    (hfree : ∀ d ∈ ds, d.Unconstrained) {reg : Registry} (hrun : empty.addAll ds = .ok reg)
    {router : Router} (hseal : reg.toRouter = .ok router) (path : String) :
    router.resolve path none =
        (decompose? router.routes.toList path).elim (.error (.notFound path)) .ok ∧
      ∀ pattern,
        (∀ values, greedyValues? pattern path = some values ↔
          IsGreedy (places pattern) path.toList (values.map String.toList)) ∧
        (greedyValues? pattern path = none ↔
          ∀ values, ¬Decomposes (places pattern) path.toList values) := by
  refine ⟨?_, fun _ => ⟨fun _ => greedyValues?_eq_some_iff, greedyValues?_eq_none_iff⟩⟩
  have hfind : router.find? path none = decompose? router.routes.toList path := by
    rw [find?_eq_findSome? hseal, routes_of_toRouter hseal, decompose?]
    refine findSome?_congr ?_
    rintro ⟨r, i⟩ hr
    obtain ⟨d, hd, rfl⟩ := exists_draft_of_getElem? hrun
      (by simpa using List.mk_mem_zipIdx_iff_getElem?.mp hr)
    have hready := (hds d hd).seals_iff.mp
      (exists_toRouter_iff.mp ⟨router, hseal⟩ _ (List.fst_mem_of_mem_zipIdx hr))
    simp only [resolvedBy, Router.considered, if_true, Route.answer?, List.map_findSome?]
    refine findSome?_congr fun v hv => ?_
    rw [Function.comp_apply, (hds d hd).accept?_of_unconstrained (hfree d hd) hv (hready v hv),
      Option.map_map]
    rfl
  rw [Router.resolve, hfind]
  cases decompose? router.routes.toList path <;> rfl

/-- The draft of two wildcards that share a segment of the path. -/
def sharedSegmentDraft : Draft :=
  ⟨"/{a}-{b}", none, ⟨"/{0}-{1}", ["a", "b"], [false, false]⟩, ⟨[none, none]⟩, [], [], none⟩

/-- Of the two ways to cut the path the one with the longer first value is taken. -/
theorem resolve_shared_segment :
    ∃ reg router, Draft.build "/{a}-{b}" [] = .ok sharedSegmentDraft ∧
      empty.addAll [sharedSegmentDraft] = .ok reg ∧ reg.toRouter = .ok router ∧
      router.resolve "/x-y-z" none =
        .ok ⟨0, sharedSegmentDraft.finish, [("a", "x-y"), ("b", "z")]⟩ := by
  have hbuild : Draft.build "/{a}-{b}" [] = .ok sharedSegmentDraft := by decide
  have hdeclared : sharedSegmentDraft.Declared := ⟨by decide, _, hbuild⟩
  have hfree : sharedSegmentDraft.Unconstrained := by
    rintro (_ | _ | i)
    · rfl
    · rfl
    · rfl
  obtain ⟨reg, hrun⟩ := @Indexed.exists_addAll _ indexed_empty [sharedSegmentDraft] (by decide)
    (by simp [empty])
  have hroutes : reg.routes.toList = [sharedSegmentDraft.finish] := routes_of_empty_addAll hrun
  have hvariants : sharedSegmentDraft.finish.variants =
      [⟨"/{0}-{1}", [0, 1], "^/([A-Za-z0-9_%-]+)\\-([A-Za-z0-9_%-]+)$"⟩] := by decide
  obtain ⟨router, hseal⟩ : ∃ router, reg.toRouter = .ok router := by
    rw [exists_toRouter_iff, hroutes, List.forall_mem_singleton, hdeclared.seals_iff, hvariants,
      List.forall_mem_singleton]
    exact fun _ => exists_ok_of_isSome (by cbv)
  refine ⟨reg, router, hbuild, hrun, hseal, ?_⟩
  have hresolve := (resolve_of_unconstrained (by simp [hdeclared]) (by simp [hfree]) hrun hseal
    "/x-y-z").1
  rw [hresolve, routes_of_toRouter hseal, hroutes]
  decide

end Registry

end Wayfinder
