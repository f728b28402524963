/-
  Wayfinder/Proofs/Shadowing.lean
  ===============================
  **Rows that shadow one another.**

  Registration compares the patterns of variants, in which the tokens have numbers.  A
  request is compared with expressions, in which the numbers are gone.  So two routes
  with a common method never share a pattern, and still may share an expression: one
  whose tokens are numbered differently, as happens when an optional wildcard before
  them was removed.  Here it is told exactly when that happens.
-/
import Mathlib
import Wayfinder.Proofs.Sealing

namespace Wayfinder

open Wayfinder.Pattern

/-! ## 1. Variants with one expression -/

namespace Route

/-- Whether two variants are the same but for the numbers of their tokens. -/
def Renumbered (r : Route) (v : AnchoredVariant) (s : Route) (w : AnchoredVariant) : Prop :=
  r.shapeOf v = s.shapeOf w ∧ v.indices ≠ w.indices

/-- Whether two variants have one expression by accident: their shapes differ and are
    spelled alike, because some fragment in them hides where it ends. -/
def Entangled (r : Route) (v : AnchoredVariant) (s : Route) (w : AnchoredVariant) : Prop :=
  r.shapeOf v ≠ s.shapeOf w ∧ shapeText (r.shapeOf v) = shapeText (s.shapeOf w) ∧
    ∃ f, Slot.fragment f ∈ r.shapeOf v ++ s.shapeOf w ∧ ¬SelfContained f

end Route

theorem Draft.Declared.pattern_eq {d d' : Draft} (hd : d.Declared) (hd' : d'.Declared)
    {v w : AnchoredVariant} (hv : v ∈ d.finish.variants) (hw : w ∈ d'.finish.variants)
    (hshape : d.finish.shapeOf v = d'.finish.shapeOf w) (hindices : v.indices = w.indices) :
    v.pattern = w.pattern := by
  obtain ⟨ps, hps⟩ := hd.exists_layout hv
  obtain ⟨qs, hqs⟩ := hd'.exists_layout hw
  rw [Route.shapeOf, Route.shapeOf, hps.shape_pattern, hqs.shape_pattern] at hshape
  rw [hps.indices, hqs.indices] at hindices
  rw [hps.pattern, hqs.pattern, parts_eq_of_slots_eq hindices hshape]

/-! ## 2. Shared expressions -/

namespace Registry

/-- Two variants with one expression and different patterns are renumbered or
    entangled. -/
theorem regex_eq_iff_of_pattern_ne {d d' : Draft} (hd : d.Declared) (hd' : d'.Declared)
    {v w : AnchoredVariant} (hv : v ∈ d.finish.variants) (hw : w ∈ d'.finish.variants)
    (hne : v.pattern ≠ w.pattern) :
    v.regex = w.regex ↔
      d.finish.Renumbered v d'.finish w ∨ d.finish.Entangled v d'.finish w := by
  rw [Draft.regex_eq_iff hv hw]
  constructor
  · intro htext
    by_cases hshape : d.finish.shapeOf v = d'.finish.shapeOf w
    · exact Or.inl ⟨hshape, fun hindices => hne (hd.pattern_eq hd' hv hw hshape hindices)⟩
    · refine Or.inr ⟨hshape, htext, ?_⟩
      by_contra hnone
      simp only [not_exists, not_and, Decidable.not_not] at hnone
      -- where every fragment shows its end, the expression gives the shape back
      refine hshape (slots_eq_of_shapeText_eq ?_ htext)
      intro f g hf hg
      exact ⟨hnone f (List.mem_append_left _ hf), hnone g (List.mem_append_right _ hg)⟩
  · rintro (⟨hshape, -⟩ | ⟨-, htext, -⟩)
    · rw [hshape]
    · exact htext

/-- Two routes of a sealed registry that answer a common method have rows with one
    expression exactly when they have variants that differ only in the numbers of their
    tokens, or variants that are entangled. -/
theorem exists_shared_regex_iff {ds : List Draft} (hds : ∀ d ∈ ds, d.Declared) {reg : Registry}
    (hrun : empty.addAll ds = .ok reg) {router : Router} (hseal : reg.toRouter = .ok router)
    {i j : Nat} (hij : i ≠ j) {r s : Route} (hi : router.routes[i]? = some r)
    (hj : router.routes[j]? = some s) {m : Method} (hr : r.answers m = true)
    (hs : s.answers m = true) :
    (∃ e ∈ router.entries, ∃ e' ∈ router.entries,
        e.route = i ∧ e'.route = j ∧ e.regex = e'.regex) ↔
      ∃ v ∈ r.variants, ∃ w ∈ s.variants, r.Renumbered v s w ∨ r.Entangled v s w := by
  have hroutes := routes_of_toRouter hseal
  rw [hroutes] at hi hj
  obtain ⟨d, hd, rfl⟩ := exists_draft_of_getElem? hrun hi
  obtain ⟨d', hd', rfl⟩ := exists_draft_of_getElem? hrun hj
  -- the index of patterns keeps the two routes apart
  have hapart : ∀ v ∈ d.finish.variants, ∀ w ∈ d'.finish.variants, v.pattern ≠ w.pattern :=
    fun v hv w hw => (indexed_empty.addAll hrun).pattern_ne hi hj hij
      (Route.sharesMethod_iff.mpr ⟨m, hr, hs⟩) hv hw
  have hregex : ∀ v ∈ d.finish.variants, ∀ w ∈ d'.finish.variants, v.regex = w.regex ↔
      d.finish.Renumbered v d'.finish w ∨ d.finish.Entangled v d'.finish w :=
    fun v hv w hw =>
      regex_eq_iff_of_pattern_ne (hds d hd) (hds d' hd') hv hw (hapart v hv w hw)
  constructor
  · rintro ⟨e, he, e', he', rfl, rfl, heq⟩
    obtain ⟨r, hr, v, hv, hev⟩ := (mem_entries_iff hseal).mp he
    obtain ⟨s, hs, w, hw, hew⟩ := (mem_entries_iff hseal).mp he'
    obtain rfl := Option.some.inj (hi.symm.trans hr)
    obtain rfl := Option.some.inj (hj.symm.trans hs)
    rw [hev, hew] at heq
    exact ⟨v, hv, w, hw, (hregex v hv w hw).mp heq⟩
  · rintro ⟨v, hv, w, hw, h⟩
    exact ⟨⟨v.regex, i, v.indices⟩, (mem_entries_iff hseal).mpr ⟨_, hi, v, hv, rfl⟩,
      ⟨w.regex, j, w.indices⟩, (mem_entries_iff hseal).mpr ⟨_, hj, w, hw, rfl⟩, rfl, rfl,
      (hregex v hv w hw).mpr h⟩

/-- A row with the expression of an earlier route is never reached by a request that this
    route answers: the paths that the row accepts are resolved to it or to one before it. -/
theorem resolve_le_of_shared {ds : List Draft} (hds : ∀ d ∈ ds, d.Declared) {reg : Registry}
    (hrun : empty.addAll ds = .ok reg) {router : Router} (hseal : reg.toRouter = .ok router)
    {i j : Nat} {r s : Route} (hi : router.routes[i]? = some r) (hj : router.routes[j]? = some s)
    {method : Option Method} (hmethod : Router.considered method r = true)
    {v w : AnchoredVariant} (hv : v ∈ r.variants) (hw : w ∈ s.variants)
    (hregex : v.regex = w.regex) {path : String} {params : List (String × String)}
    (haccept : s.accept? path w = some params) :
    ∃ res, router.resolve path method = .ok res ∧ res.id ≤ i := by
  rw [routes_of_toRouter hseal] at hi hj
  obtain ⟨d, hd, rfl⟩ := exists_draft_of_getElem? hrun hi
  obtain ⟨d', hd', rfl⟩ := exists_draft_of_getElem? hrun hj
  obtain ⟨params', haccept'⟩ :=
    (hds d hd).exists_accept?_of_regex_eq (hds d' hd') hv hw hregex haccept
  have hanswer : (d.finish.answer? path).isSome := by
    rw [Route.answer?, List.findSome?_isSome_iff]
    exact ⟨v, hv, by rw [haccept', Option.isSome_some]⟩
  obtain ⟨_, hfirst⟩ := Option.isSome_iff_exists.mp hanswer
  exact exists_resolve_le hseal hi hmethod hfirst

/-- Without optional wildcards the tokens of a variant are numbered from zero. -/
theorem indices_of_mandatory {d : Draft} (hmandatory : d.wildcards.optionalPositions = [])
    {v : AnchoredVariant} (hv : v ∈ d.finish.variants) :
    v.indices = List.range d.wildcards.optional.length := by
  rw [Wildcards.optionalPositions] at hmandatory
  simp only [Draft.finish, expand, hmandatory, List.map_cons, List.map_nil,
    List.mem_singleton] at hv
  rw [hv]
  rfl

/-- Two routes without optional wildcards, whose fragments show where they end, are kept
    apart by registration: they never share an expression with a common method. -/
theorem not_shared_of_mandatory {d d' : Draft} (hd : d.Declared) (hd' : d'.Declared)
    (hmandatory : d.wildcards.optionalPositions = [])
    (hmandatory' : d'.wildcards.optionalPositions = [])
    {v w : AnchoredVariant} (hv : v ∈ d.finish.variants) (hw : w ∈ d'.finish.variants)
    (hclosed : ∀ f, Slot.fragment f ∈ d.finish.shapeOf v ++ d'.finish.shapeOf w → SelfContained f)
    (hne : v.pattern ≠ w.pattern) : v.regex ≠ w.regex := by
  intro heq
  rcases (regex_eq_iff_of_pattern_ne hd hd' hv hw hne).mp heq with ⟨hshape, hindices⟩ | h
  · -- one shape has one number of tokens
    obtain ⟨ps, hps⟩ := hd.exists_layout hv
    obtain ⟨qs, hqs⟩ := hd'.exists_layout hw
    rw [Route.shapeOf, Route.shapeOf, hps.shape_pattern, hqs.shape_pattern] at hshape
    have hlength := length_tokensOf_eq_of_slots_eq hshape
    rw [← hps.indices, ← hqs.indices, indices_of_mandatory hmandatory hv,
      indices_of_mandatory hmandatory' hw, List.length_range, List.length_range] at hlength
    rw [indices_of_mandatory hmandatory hv, indices_of_mandatory hmandatory' hw, hlength]
      at hindices
    exact hindices rfl
  · obtain ⟨-, -, f, hf, hopen⟩ := h
    exact hopen (hclosed f hf)

/-! ## 3. A shadowed row

The smallest case: the second of the two routes below can drop its first segment, and
what is left is the first route, with its only token numbered 1 instead of 0. -/

/-- The draft of a segment and a wildcard. -/
def plainDraft : Draft :=
  ⟨"/a/{x}", none, ⟨"/a/{0}", ["x"], [false]⟩, ⟨[none]⟩, [], [], none⟩

/-- The same behind an optional segment. -/
def shiftedDraft : Draft :=
  ⟨"/{y?}/a/{x}", none, ⟨"/{0}/a/{1}", ["y", "x"], [true, false]⟩, ⟨[none, none]⟩, [], [], none⟩

theorem variants_plainDraft :
    plainDraft.finish.variants = [⟨"/a/{0}", [0], "^/a/([A-Za-z0-9_%-]+)$"⟩] := by
  decide

theorem variants_shiftedDraft :
    shiftedDraft.finish.variants =
      [⟨"/{0}/a/{1}", [0, 1], "^/([A-Za-z0-9_%-]+)/a/([A-Za-z0-9_%-]+)$"⟩,
        ⟨"/a/{1}", [1], "^/a/([A-Za-z0-9_%-]+)$"⟩] := by
  simp only [Draft.finish, shiftedDraft]
  rw [expand_of_nodup (by decide) (by decide)]
  decide

theorem compile_segment : ∃ r, Regex.compile "^/a/([A-Za-z0-9_%-]+)$" = .ok r :=
  exists_ok_of_isSome (by cbv)

theorem compile_two_segments :
    ∃ r, Regex.compile "^/([A-Za-z0-9_%-]+)/a/([A-Za-z0-9_%-]+)$" = .ok r :=
  exists_ok_of_isSome (by cbv)

/-- Both routes register and seal, although the second has a row that the first shadows
    for every method. -/
theorem exists_shadowed_row :
    ∃ d d' reg router, Draft.build "/a/{x}" [] = .ok d ∧ Draft.build "/{y?}/a/{x}" [] = .ok d' ∧
      empty.addAll [d, d'] = .ok reg ∧ reg.toRouter = .ok router ∧
      ∃ e ∈ router.entries, ∃ e' ∈ router.entries,
        e.route = 0 ∧ e'.route = 1 ∧ e.regex = e'.regex := by
  have hbuild : Draft.build "/a/{x}" [] = .ok plainDraft := by decide
  have hbuild' : Draft.build "/{y?}/a/{x}" [] = .ok shiftedDraft := by decide
  have hdeclared : plainDraft.Declared := ⟨by decide, [], hbuild⟩
  have hdeclared' : shiftedDraft.Declared := ⟨by decide, [], hbuild'⟩
  -- no pattern of the second route is one of the first
  have hapart : plainDraft.finish.Apart shiftedDraft.finish := by
    intro _
    rw [variants_plainDraft, variants_shiftedDraft]
    decide
  obtain ⟨reg, hrun⟩ := @Indexed.exists_addAll _ indexed_empty [plainDraft, shiftedDraft]
    (by decide) (by simpa [empty] using hapart)
  have hroutes : reg.routes.toList = [plainDraft.finish, shiftedDraft.finish] :=
    routes_of_empty_addAll hrun
  obtain ⟨router, hseal⟩ : ∃ router, reg.toRouter = .ok router := by
    rw [exists_toRouter_iff, hroutes]
    have hplain : plainDraft.finish.Seals := by
      rw [hdeclared.seals_iff, variants_plainDraft]
      simpa using compile_segment
    have hshifted : shiftedDraft.finish.Seals := by
      rw [hdeclared'.seals_iff, variants_shiftedDraft]
      simpa using ⟨compile_two_segments, compile_segment⟩
    simp [hplain, hshifted]
  have hget : router.routes.toList = [plainDraft.finish, shiftedDraft.finish] := by
    rw [routes_of_toRouter hseal, hroutes]
  -- the last variant of the second route is the first route renumbered
  have hrenumbered : plainDraft.finish.Renumbered ⟨"/a/{0}", [0], "^/a/([A-Za-z0-9_%-]+)$"⟩
      shiftedDraft.finish ⟨"/a/{1}", [1], "^/a/([A-Za-z0-9_%-]+)$"⟩ := ⟨by decide, by decide⟩
  refine ⟨plainDraft, shiftedDraft, reg, router, hbuild, hbuild', hrun, hseal, ?_⟩
  refine (exists_shared_regex_iff (by simp [hdeclared, hdeclared']) hrun hseal Nat.zero_ne_one
    (r := plainDraft.finish) (s := shiftedDraft.finish) (m := .get)
    (by simp [← Array.getElem?_toList, hget]) (by simp [← Array.getElem?_toList, hget]) rfl rfl).mpr
      ?_
  refine ⟨_, ?_, _, ?_, Or.inl hrenumbered⟩
  · rw [variants_plainDraft]
    exact List.mem_singleton.mpr rfl
  · rw [variants_shiftedDraft]
    simp

end Registry

end Wayfinder
