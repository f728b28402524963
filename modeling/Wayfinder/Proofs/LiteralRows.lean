/-
  Wayfinder/Proofs/LiteralRows.lean
  =================================
  **Rows without tokens compare text.**

  A row whose variant has no token is not searched with its expression: the path has to be
  the pattern.  The pattern is looked up by the expression of the row alone, so it has to
  be shown that no other variant of the route is written alike, whatever the fragments of
  that variant are; and the expression, an escaped text between two anchors, has to accept
  the pattern and nothing else.  A row with a token is always searched.
-/
import Wayfinder.Proofs.Readings
import Wayfinder.Proofs.Segments

namespace Wayfinder

open Wayfinder.Pattern

/-! ## 1. Expressions without groups -/

namespace Draft

variable {d : Draft} {v : AnchoredVariant}

/-- A variant without tokens has no fragment in its shape. -/
theorem LayoutOf.fragment_not_mem {ps : List Part} (h : d.LayoutOf v ps) (hnone : v.indices = [])
    (f : String) : Slot.fragment f ∉ d.finish.shapeOf v := by
  intro hf
  rw [Route.shapeOf, h.shape_pattern, List.mem_map] at hf
  obtain ⟨p, hp, hslot⟩ := hf
  cases p with
  | char c => cases hslot
  | token i =>
    have hi : i ∈ v.indices := by
      rw [h.indices]
      exact mem_tokensOf.mpr hp
    rw [hnone] at hi
    cases hi

/-- The expression of a variant without tokens matches its pattern and no other path. -/
theorem Declared.isSome_captures?_iff (hd : d.Declared) (hv : v ∈ d.finish.variants)
    (hnone : v.indices = []) {regex : Regex} (hregex : Regex.compile v.regex = .ok regex)
    (path : String) : (regex.captures? path.toList).isSome = true ↔ v.pattern = path := by
  obtain ⟨ps, hps⟩ := hd.exists_layout hv
  have hfragment := hps.fragment_not_mem hnone
  -- the literal characters are read back from the expression one by one
  have husable : ∀ f, Slot.fragment f ∈ d.finish.shapeOf v → Usable f :=
    fun f hf => absurd hf (hfragment f)
  have hparse : Regex.parse v.regex.toList = .ok (assembledTree (d.finish.shapeOf v)) := by
    refine parse_of_compile ?_ husable (fun f hf => absurd hf (hfragment f)) hregex
    rw [regex_eq_of_mem hv, String.toList_ofList]
  have hlength := congrArg List.length (map_groups_eq_readings husable 1 [] path.toList none [])
  rw [List.length_map, List.length_map, hps.readings_of_literal hnone, List.length_nil] at hlength
  rw [Regex.captures?, Option.isSome_map, search_of_parse hregex hparse husable,
    List.isSome_head?, ← List.length_pos_iff, hlength]
  by_cases hpath : v.pattern = path
  · simp [hpath]
  · simp [hpath]

end Draft

/-! ## 2. The rows of a sealed registry -/

/-- How the row of a variant of the route with number `i` compares paths. -/
structure Row.Represents (row : Row) (i : Nat) (v : AnchoredVariant) : Prop where
  entry : row.entry = ⟨v.regex, i, v.indices⟩
  /-- Without tokens, the pattern of this very variant is compared with the path. -/
  literal : v.indices = [] → row.matcher = .literal v.pattern
  /-- The comparison succeeds exactly where the expression matches, if it compiles. -/
  agrees : v.indices = [] → ∀ regex, Regex.compile v.regex = .ok regex → ∀ path : String,
    v.pattern = path ↔ (regex.captures? path.toList).isSome = true
  /-- With tokens, there is no literal and the expression is searched for. -/
  searched : v.indices ≠ [] →
    ∃ regex, Regex.compile v.regex = .ok regex ∧ row.matcher = .regex regex

namespace Registry

/-- The variants of the routes, each with the number of its route, in the order in which
    sealing makes rows of them. -/
def numberedVariants (reg : Registry) : List (Nat × AnchoredVariant) :=
  reg.routes.toList.zipIdx.flatMap fun p => p.1.variants.map fun v => (p.2, v)

theorem represents_of_ready {d : Draft} (hd : d.Declared) {v : AnchoredVariant}
    (hv : v ∈ d.finish.variants) {i : Nat} {row : Row}
    (hrow : ready (⟨v.regex, i, v.indices⟩, d.finish) = .ok row) : row.Represents i v := by
  obtain ⟨m, hm, rfl⟩ := Route.readyRow_eq_ok_iff.mp hrow
  refine ⟨rfl, ?_, ?_, ?_⟩
  · intro hnone
    exact Except.ok.inj (hm.symm.trans (hd.matcher_of_literal hv hnone))
  · intro hnone regex hregex path
    exact (hd.isSome_captures?_iff hv hnone hregex path).symm
  · intro hsome
    exact (Route.matcher_eq_ok_iff hsome).mp hm

/-- The rows of a sealed registry stand for the variants of its routes, one by one.  A row
    without tokens has the pattern of its own variant as its literal, and a path equals this
    literal exactly when the anchored expression matches the path; a row with tokens has no
    literal.  The routes of the registry come from declarations, so each is the finished form
    of a draft that `Draft.build` gives. -/
theorem rows_represent_variants {ds : List Draft} (hds : ∀ d ∈ ds, d.Declared) {reg : Registry}
    (hrun : empty.addAll ds = .ok reg) {router : Router} (hseal : reg.toRouter = .ok router) :
    List.Forall₂ (fun p row => row.Represents p.1 p.2) reg.numberedVariants router.rows := by
  obtain ⟨rows, hrows, rfl⟩ := toRouter_eq_ok_iff.mp hseal
  -- a row of the table comes from a route and one of its variants
  let sources := reg.routes.toList.zipIdx.flatMap fun p => p.1.variants.map fun v => (p, v)
  have htable : table reg.routes.toList.zipIdx =
      sources.map fun s => (⟨s.2.regex, s.1.2, s.2.indices⟩, s.1.1) := by
    simp [sources, table, List.map_flatMap, Function.comp_def]
  have hnumbered : reg.numberedVariants = sources.map fun s => (s.1.2, s.2) := by
    simp [sources, numberedVariants, List.map_flatMap, Function.comp_def]
  rw [htable, mapM_eq_ok_iff, List.forall₂_map_left_iff] at hrows
  rw [hnumbered, List.forall₂_map_left_iff]
  have hsources : ∀ s ∈ sources, s.1 ∈ reg.routes.toList.zipIdx ∧ s.2 ∈ s.1.1.variants := by
    intro s hs
    obtain ⟨p, hp, hs⟩ := List.mem_flatMap.mp hs
    obtain ⟨v, hv, rfl⟩ := List.mem_map.mp hs
    exact ⟨hp, hv⟩
  refine (List.forall₂_and_left _ _ |>.mpr ⟨hsources, hrows⟩).imp ?_
  rintro ⟨⟨r, i⟩, v⟩ row ⟨⟨hr, hv⟩, hrow⟩
  obtain ⟨d, hd, rfl⟩ := exists_draft_of_getElem? hrun
    (by simpa using List.mk_mem_zipIdx_iff_getElem?.mp hr)
  exact represents_of_ready (hds d hd) hv hrow

/-- The draft of a literal text with a dot and an optional wildcard behind it. -/
def feedDraft : Draft :=
  ⟨"/feed.xml/{page?}", none, ⟨"/feed.xml/{0}", ["page"], [true]⟩, ⟨[none]⟩, [], [], none⟩

theorem variants_feedDraft :
    feedDraft.finish.variants =
      [⟨"/feed.xml/{0}", [0], "^/feed\\.xml/([A-Za-z0-9_%-]+)$"⟩,
        ⟨"/feed.xml", [], "^/feed\\.xml$"⟩] := by
  simp only [Draft.finish, feedDraft]
  rw [expand_of_nodup (by decide) (by decide)]
  decide

/-- The dot is escaped in the expression and plain in the literal of the second row. -/
theorem rows_represent_feed :
    ∃ reg router, Draft.build "/feed.xml/{page?}" [] = .ok feedDraft ∧
      empty.addAll [feedDraft] = .ok reg ∧ reg.toRouter = .ok router ∧
      List.Forall₂ (fun p row => row.Represents p.1 p.2)
        [(0, ⟨"/feed.xml/{0}", [0], "^/feed\\.xml/([A-Za-z0-9_%-]+)$"⟩),
          (0, ⟨"/feed.xml", [], "^/feed\\.xml$"⟩)] router.rows := by
  have hbuild : Draft.build "/feed.xml/{page?}" [] = .ok feedDraft := by decide
  have hdeclared : feedDraft.Declared := ⟨by decide, _, hbuild⟩
  obtain ⟨reg, hrun⟩ := @Indexed.exists_addAll _ indexed_empty [feedDraft] (by decide)
    (by simp [empty])
  have hroutes : reg.routes.toList = [feedDraft.finish] := routes_of_empty_addAll hrun
  obtain ⟨router, hseal⟩ : ∃ router, reg.toRouter = .ok router := by
    have hpage : ∃ r, Regex.compile "^/feed\\.xml/([A-Za-z0-9_%-]+)$" = .ok r :=
      exists_ok_of_isSome (by cbv)
    rw [exists_toRouter_iff, hroutes, List.forall_mem_singleton, hdeclared.seals_iff,
      variants_feedDraft]
    simpa using hpage
  have hrows := rows_represent_variants (by simpa using hdeclared) hrun hseal
  rw [numberedVariants, hroutes, List.zipIdx_singleton, List.flatMap_singleton,
    variants_feedDraft] at hrows
  exact ⟨reg, router, hbuild, hrun, hseal, hrows⟩

end Registry

end Wayfinder
