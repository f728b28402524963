/-
  Wayfinder/Proofs/Reduction.lean
  ===============================
  **A route with optional wildcards as several routes without.**

  Every variant of a route, its names written back, can be declared as a route of its
  own, with the constraints of the wildcards that are left.  That route has one variant,
  whose tokens are numbered from zero; its expression is that of the variant it comes
  from, and its wildcards have the same names, fragments and groups.  So the route does
  what the first of these single routes does that accepts a path.
-/
import Mathlib
import Wayfinder.Proofs.Sealing
import Wayfinder.Proofs.Pattern.Reduced

namespace Wayfinder

open Wayfinder.Pattern

/-! ## 1. The single routes -/

namespace Draft

/-- The pattern of a variant with the names of its wildcards written back. -/
def mandatoryUri (d : Draft) (v : AnchoredVariant) : String :=
  mandatoryText d.wildcards.names v.pattern

/-- The step that binds the fragment of a position, if one was bound. -/
def boundStep? (d : Draft) (i : Nat) : Option Step :=
  (d.constraints.get? i).map fun fragment => .constraint (d.wildcards.names[i]?.getD "") fragment

/-- Declare a variant as a route of its own, with the constraints of its wildcards. -/
def reduce (d : Draft) (v : AnchoredVariant) : Except RouteError Draft :=
  build (d.mandatoryUri v) (v.indices.filterMap d.boundStep?)

/-- The router of a registry that holds a draft alone. -/
def alone (d : Draft) : Except RouteError Router := do
  (← Registry.empty.add d).1.toRouter

/-- What the single route of a variant makes of a path. -/
def reducedParams? (d : Draft) (path : String) (v : AnchoredVariant) :
    Option (List (String × String)) := do
  let e ← (d.reduce v).toOption
  let router ← e.alone.toOption
  let res ← (router.resolve path none).toOption
  return res.params

end Draft

/-! ## 2. A draft alone -/

theorem Registry.exists_add_empty (d : Draft) :
    ∃ reg, Registry.empty.add d = .ok (reg, 0) ∧ reg.routes.toList = [d.finish] := by
  have hname : Registry.empty.nameHolder? d.finish = none := by
    unfold nameHolder?
    cases d.finish.name <;> simp [empty]
  obtain ⟨reg, hreg⟩ := indexed_empty.exists_register hname (by simp [empty])
  obtain ⟨-, -, hroutes⟩ := register_eq_ok_iff.mp hreg
  refine ⟨reg, hreg, ?_⟩
  rw [hroutes]
  simp [empty]

namespace Draft

theorem exists_alone_iff (d : Draft) : (∃ router, d.alone = .ok router) ↔ d.finish.Seals := by
  obtain ⟨reg, hadd, hroutes⟩ := Registry.exists_add_empty d
  have halone : d.alone = reg.toRouter := by
    rw [alone, hadd]
    rfl
  rw [halone, Registry.exists_toRouter_iff, hroutes]
  simp

theorem resolve_alone {d : Draft} {router : Router} (h : d.alone = .ok router) (path : String) :
    router.resolve path none =
      match d.finish.answer? path with
      | some params => .ok ⟨0, d.finish, params⟩
      | none => .error (.notFound path) := by
  obtain ⟨reg, hadd, hroutes⟩ := Registry.exists_add_empty d
  have hrouter : reg.toRouter = .ok router := by
    rw [alone, hadd] at h
    exact h
  rw [Router.resolve, Registry.find?_eq_findSome? hrouter, hroutes]
  cases hanswer : d.finish.answer? path with
  | none => simp [Registry.resolvedBy, Router.considered, hanswer]
  | some params => simp [Registry.resolvedBy, Router.considered, hanswer]

/-! ## 3. Declaring a variant -/

/-- The draft that a variant with a layout is declared as. -/
def reduced (d : Draft) (ps : List Part) : Draft :=
  let qs := mandatoryPieces d.wildcards.names ps
  { uri := String.ofList (qs.flatMap Piece.text)
    name := none
    wildcards :=
      { positionalForm := String.ofList (layoutText (numbered 0 qs))
        names := (tokensOf ps).map fun i => d.wildcards.names[i]?.getD ""
        optional := (tokensOf ps).map fun _ => false }
    constraints := ⟨(tokensOf ps).map d.constraints.get?⟩
    methods := []
    middlewares := []
    provenance := none }

theorem indexOf?_of_nodup {ws : Wildcards} {before after : List String} {name : String}
    (hnames : ws.names = before ++ name :: after) (hnodup : ws.names.Nodup) :
    ws.indexOf? name = some before.length := by
  rw [Wildcards.indexOf?_eq_some_iff hnodup, hnames]
  simp

/-- Binding the fragments of positions one after the other, each to its name. -/
theorem takeAll_boundSteps {d e : Draft} (hd : d.Sound) {before rest : List Nat}
    (hnames : e.wildcards.names = (before ++ rest).map fun i => d.wildcards.names[i]?.getD "")
    (hnodup : e.wildcards.names.Nodup)
    (hbound : e.constraints.bound =
      before.map d.constraints.get? ++ List.replicate rest.length none) :
    e.takeAll (rest.filterMap d.boundStep?) =
      .ok { e with constraints := ⟨(before ++ rest).map d.constraints.get?⟩ } := by
  induction rest generalizing before e with
  | nil =>
    simp only [List.length_nil, List.replicate_zero, List.append_nil] at hbound ⊢
    rw [← hbound]
    rfl
  | cons i rest ih =>
    have hsplit : before ++ i :: rest = (before ++ [i]) ++ rest := by simp
    cases hget : d.constraints.get? i with
    | none =>
      -- nothing to bind: the place stays free
      rw [List.filterMap_cons_none (by rw [boundStep?, hget]; rfl), hsplit]
      refine ih (by rw [hnames, hsplit]) hnodup ?_
      rw [hbound, List.map_append, List.map_singleton, hget, List.append_assoc]
      rfl
    | some fragment =>
      rw [List.filterMap_cons_some (by rw [boundStep?, hget]; rfl)]
      obtain ⟨regex, hregex⟩ := hd.compiles i fragment hget
      have hindex : e.wildcards.indexOf? (d.wildcards.names[i]?.getD "") = some before.length := by
        rw [List.map_append, List.map_cons] at hnames
        rw [indexOf?_of_nodup hnames hnodup, List.length_map]
      have hfree : e.constraints.get? before.length = none := by
        simp [Constraints.get?, hbound]
      have hset : e.constraints.bound.set before.length (some fragment) =
          (before ++ [i]).map d.constraints.get? ++ List.replicate rest.length none := by
        simp [hbound, hget, List.replicate_succ]
      have hstep : e.take (.constraint (d.wildcards.names[i]?.getD "") fragment) =
          .ok { e with constraints := ⟨e.constraints.bound.set before.length (some fragment)⟩ } := by
        simp [take, constrain, Constraints.bind, hindex, hfree, hregex, bind, Except.bind, pure,
          Except.pure]
      rw [takeAll, List.foldlM_cons, hstep]
      change takeAll _ (rest.filterMap d.boundStep?) = _
      rw [hsplit]
      exact ih (by rw [hnames, hsplit]) hnodup hset

namespace LayoutOf

variable {d : Draft} {v : AnchoredVariant} {ps : List Part}

theorem tokensOf_lt (h : d.LayoutOf v ps) (hd : d.Declared) {i : Nat} (hi : i ∈ tokensOf ps) :
    i < d.wildcards.names.length :=
  h.lt_of_mem_indices hd (by rwa [h.indices])

theorem nodup_reduced_names (h : d.LayoutOf v ps) (hd : d.Declared) :
    (d.reduced ps).wildcards.names.Nodup := by
  have hnodup := h.nodup_indices hd
  rw [h.indices] at hnodup
  refine List.Nodup.map_on ?_ hnodup
  intro i hi j hj heq
  have hilt := h.tokensOf_lt hd hi
  have hjlt := h.tokensOf_lt hd hj
  simp only [List.getElem?_eq_getElem hilt, List.getElem?_eq_getElem hjlt, Option.getD_some] at heq
  exact (List.Nodup.getElem_inj_iff hd.sound.nodup_names).mp heq

theorem validPieces (h : d.LayoutOf v ps) (hd : d.Declared) :
    ValidPieces (mandatoryPieces d.wildcards.names ps) := by
  refine validPieces_mandatoryPieces h.toFormLayout ?_ ?_
  · intro i hi
    have hlt := h.tokensOf_lt hd hi
    rw [List.getElem?_eq_getElem hlt]
    exact hd.sound.validName (List.getElem_mem hlt)
  · exact fun c hc => hd.sound.regular (h.sublist.subset hc)

theorem pieces_reduced (h : d.LayoutOf v ps) (hd : d.Declared) :
    pieces (d.reduced ps).uri = mandatoryPieces d.wildcards.names ps :=
  pieces_ofList (h.validPieces hd).plain

theorem wildcardsIn_reduced (h : d.LayoutOf v ps) (hd : d.Declared) :
    wildcardsIn (pieces (d.reduced ps).uri) =
      (tokensOf ps).map fun i => ⟨d.wildcards.names[i]?.getD "", false⟩ := by
  rw [h.pieces_reduced hd, wildcardsIn_mandatoryPieces]

theorem mandatoryUri_eq (h : d.LayoutOf v ps) : d.mandatoryUri v = (d.reduced ps).uri := by
  rw [mandatoryUri, h.pattern, mandatoryText_layoutText h.toFormLayout]
  rfl

theorem flaggedFrom_replicate_false (start n : Nat) :
    flaggedFrom start (List.replicate n false) = [] := by
  induction n generalizing start with
  | zero => rfl
  | succ n ih => exact ih (start + 1)

/-- The pattern that is written back is accepted, with the constraints that were bound. -/
theorem reduce_eq_ok (h : d.LayoutOf v ps) (hd : d.Declared) :
    d.reduce v = .ok (d.reduced ps) := by
  have hextract : extract (d.reduced ps).uri = .ok (d.reduced ps).wildcards := by
    refine extract_eq_ok_iff.mpr ⟨?_, ?_⟩
    · rw [h.wildcardsIn_reduced hd, List.map_map]
      exact h.nodup_reduced_names hd
    · rw [h.wildcardsIn_reduced hd, h.pieces_reduced hd, List.map_map, List.map_map]
      rfl
  have hstart : start (d.reduced ps).uri =
      .ok { d.reduced ps with constraints := .unbound (d.reduced ps).wildcards } := by
    refine start_eq_ok_iff.mpr ⟨(h.validPieces hd).validate_eq_ok, _, hextract, ?_, rfl⟩
    simp [reduced, Wildcards.optionalPositions, flaggedFrom_replicate_false]
  have hbind := @takeAll_boundSteps d
    { d.reduced ps with constraints := .unbound (d.reduced ps).wildcards } hd.sound [] (tokensOf ps)
    rfl (h.nodup_reduced_names hd) (by simp [Constraints.unbound, Wildcards.size, reduced])
  rw [reduce, build, h.mandatoryUri_eq, hstart, h.indices]
  exact hbind

theorem addressable_reduced (h : d.LayoutOf v ps) (hd : d.Declared) :
    Addressable (d.reduced ps).uri := by
  have hsub := @length_mandatoryPieces_le_of_sublist d.wildcards.names _ _ h.sublist
  have hform : ((mandatoryPieces d.wildcards.names d.form).flatMap Piece.text).length ≤
      ((pieces d.uri).flatMap Piece.text).length := by
    refine length_mandatoryPieces_numbered_le ?_
    intro k w hk
    rw [hd.sound.wildcards_eq]
    simp [hk]
  rw [flatMap_text_pieces, String.length_toList] at hform
  have hlength : (d.reduced ps).uri.length =
      ((mandatoryPieces d.wildcards.names ps).flatMap Piece.text).length := by
    simp [reduced]
  have hlt : d.uri.length < wordBound := hd.1
  change (d.reduced ps).uri.length < wordBound
  omega

theorem declared_reduced (h : d.LayoutOf v ps) (hd : d.Declared) : (d.reduced ps).Declared := by
  have hreduce := h.reduce_eq_ok hd
  rw [reduce, h.mandatoryUri_eq] at hreduce
  exact ⟨h.addressable_reduced hd, _, hreduce⟩

/-! ## 4. The single variant -/

/-- The only variant of a variant that is written back: its tokens are numbered from
    zero, and its expression is the same. -/
def renumbered (d : Draft) (v : AnchoredVariant) (ps : List Part) : AnchoredVariant :=
  ⟨(d.reduced ps).wildcards.positionalForm, List.range' 0 (tokensOf ps).length, v.regex⟩

/-- The fragment of a wildcard keeps its place among the tokens that are left. -/
theorem getElem?_fragments_reduced (h : d.LayoutOf v ps) (hd : d.Declared) {k i : Nat}
    (hk : (tokensOf ps)[k]? = some i) :
    (d.reduced ps).constraints.fragments[k]? = d.constraints.fragments[i]? := by
  have hlt : i < d.constraints.bound.length := by
    rw [hd.sound.size]
    exact h.tokensOf_lt hd (List.mem_of_getElem? hk)
  simp [reduced, Constraints.fragments, Constraints.get?, hk, List.getElem?_eq_getElem hlt]

theorem regex_reduced (h : d.LayoutOf v ps) (hd : d.Declared) :
    anchoredExpression (d.reduced ps).wildcards.positionalForm (d.reduced ps).constraints.fragments =
      v.regex := by
  have hplain := plain_numbered (h.validPieces hd).plain 0
  have htokens : tokensOf (numbered 0 (mandatoryPieces d.wildcards.names ps)) =
      List.range' 0 (tokensOf ps).length := by
    rw [tokensOf_numbered, wildcardsIn_mandatoryPieces, List.length_map]
  have hcount : (tokensOf ps).length ≤ d.wildcards.names.length := by
    have hnodup := h.nodup_indices hd
    have hsub : (tokensOf ps).Sublist (tokensOf d.form) := h.sublist.filterMap _
    rw [hd.sound.tokensOf_form] at hsub
    simpa using hsub.length_le
  have hbound : ∀ i ∈ tokensOf (numbered 0 (mandatoryPieces d.wildcards.names ps)),
      i < wordBound := by
    intro i hi
    rw [htokens, List.mem_range'_1] at hi
    have := hd.length_names_lt
    omega
  rw [h.regex, anchoredExpression_eq_shapeText, anchoredExpression_eq_shapeText, h.shape_pattern]
  rw [show (d.reduced ps).wildcards.positionalForm =
      String.ofList (layoutText (numbered 0 (mandatoryPieces d.wildcards.names ps))) from rfl,
    shape_layoutText hplain hbound, slots_numbered_mandatoryPieces]
  intro k i hk
  rw [Nat.zero_add, h.getElem?_fragments_reduced hd hk]

theorem variants_reduced (h : d.LayoutOf v ps) (hd : d.Declared) :
    (d.reduced ps).finish.variants = [renumbered d v ps] := by
  have hexpand : expand (d.reduced ps).wildcards.positionalForm (d.reduced ps).wildcards.optional =
      [⟨(d.reduced ps).wildcards.positionalForm, List.range' 0 (tokensOf ps).length⟩] := by
    simp [expand, reduced, flaggedFrom_replicate_false, List.range_eq_range']
  simp only [finish, hexpand, List.map_cons, List.map_nil, Variant.anchor, h.regex_reduced hd]
  rfl

/-! ## 5. The same answers -/

theorem slotsFrom_range' {slot start : Nat} {inner inner' is : List Nat}
    (hinner : ∀ k i, is[k]? = some i → inner'[start + k]? = inner[i]?) :
    slotsFrom slot inner' (List.range' start is.length) = slotsFrom slot inner is := by
  induction is generalizing slot start with
  | nil => rfl
  | cons i is ih =>
    have hhere := hinner 0 i rfl
    rw [Nat.add_zero] at hhere
    rw [List.length_cons, List.range'_succ, slotsFrom, slotsFrom, hhere, ih]
    intro k j hj
    rw [Nat.add_right_comm]
    exact hinner (k + 1) j hj

theorem paramsOf_range' {names names' : List String} {groups : Nat → Option String} {start : Nat}
    {is slots : List Nat} (hnames : ∀ k i, is[k]? = some i → names'[start + k]? = names[i]?) :
    Router.paramsOf names' groups (List.range' start is.length) slots =
      Router.paramsOf names groups is slots := by
  induction is generalizing start slots with
  | nil => rfl
  | cons i is ih =>
    have hhere := hnames 0 i rfl
    rw [Nat.add_zero] at hhere
    have hrest : ∀ k j, is[k]? = some j → names'[start + 1 + k]? = names[j]? := by
      intro k j hj
      rw [Nat.add_right_comm]
      exact hnames (k + 1) j hj
    cases slots with
    | nil => simp [Router.paramsOf]
    | cons slot slots =>
      rw [List.length_cons, List.range'_succ, Router.paramsOf_cons, Router.paramsOf_cons, hhere,
        ih hrest]

/-- Written back, a variant accepts the same paths with the same values. -/
theorem accept?_reduced (h : d.LayoutOf v ps) (hd : d.Declared) (hv : v ∈ d.finish.variants)
    (hready : v.indices ≠ [] → ∃ regex, Regex.compile v.regex = .ok regex) (path : String) :
    (d.reduced ps).finish.accept? path (renumbered d v ps) = d.finish.accept? path v := by
  have hd' := h.declared_reduced hd
  have hmem : renumbered d v ps ∈ (d.reduced ps).finish.variants := by
    rw [h.variants_reduced hd]
    exact List.mem_singleton.mpr rfl
  by_cases hnone : v.indices = []
  · have htokens : tokensOf ps = [] := by rw [← h.indices, hnone]
    have hpattern : (renumbered d v ps).pattern = v.pattern := by
      rw [h.pattern, ← layoutText_numbered_of_tokensOf_eq_nil d.wildcards.names 0 htokens]
      rfl
    rw [hd'.accept?_of_literal hmem (by simp [renumbered, htokens]),
      hd.accept?_of_literal hv hnone, hpattern]
  · obtain ⟨regex, hregex⟩ := hready hnone
    have hsome : (renumbered d v ps).indices ≠ [] := by
      simpa [renumbered, ← h.indices] using hnone
    have hslots : captureSlots (renumbered d v ps).indices (d.reduced ps).finish.constraints =
        captureSlots v.indices d.finish.constraints := by
      rw [h.indices]
      refine slotsFrom_range' ?_
      intro k i hk
      rw [Nat.zero_add, List.getElem?_map, List.getElem?_map]
      exact congrArg _ (h.getElem?_fragments_reduced hd hk)
    rw [Route.accept?_of_compile hsome hregex, Route.accept?_of_compile hnone hregex, hslots]
    congr 1
    funext caps
    rw [h.indices]
    refine paramsOf_range' ?_
    intro k i hk
    have hlt := h.tokensOf_lt hd (List.mem_of_getElem? hk)
    rw [Nat.zero_add]
    simp [finish, reduced, hk, List.getElem?_eq_getElem hlt]

end LayoutOf

/-- A variant that is written back seals when its expression compiles, if it has one. -/
theorem LayoutOf.exists_alone_reduced_iff {d : Draft} {v : AnchoredVariant} {ps : List Part}
    (h : d.LayoutOf v ps) (hd : d.Declared) :
    (∃ router, (d.reduced ps).alone = .ok router) ↔
      (v.indices ≠ [] → ∃ regex, Regex.compile v.regex = .ok regex) := by
  rw [exists_alone_iff, (h.declared_reduced hd).seals_iff, h.variants_reduced hd]
  simp [LayoutOf.renumbered, h.indices]

/-- The single route of a variant, sealed alone, makes of a path what the route answers. -/
theorem reducedParams?_of_alone {d e : Draft} {v : AnchoredVariant} {router : Router}
    (hreduce : d.reduce v = .ok e) (hrouter : e.alone = .ok router) (path : String) :
    d.reducedParams? path v = e.finish.answer? path := by
  have hresolve := resolve_alone hrouter path
  rw [reducedParams?, hreduce]
  cases hanswer : e.finish.answer? path with
  | none =>
    rw [hanswer] at hresolve
    simp [Except.toOption, hrouter, hresolve]
  | some params =>
    rw [hanswer] at hresolve
    simp [Except.toOption, hrouter, hresolve]

/-- The single route of a variant makes of a path what its only variant does. -/
theorem LayoutOf.reducedParams?_eq {d : Draft} {v : AnchoredVariant} {ps : List Part}
    (h : d.LayoutOf v ps) (hd : d.Declared) {router : Router}
    (hrouter : (d.reduced ps).alone = .ok router) (path : String) :
    d.reducedParams? path v = (d.reduced ps).finish.accept? path (renumbered d v ps) := by
  rw [reducedParams?_of_alone (h.reduce_eq_ok hd) hrouter, Route.answer?, h.variants_reduced hd,
    List.findSome?_singleton]

/-! ## 6. Expansion preserves meaning -/

/-- What it means that a draft stands for its variants. -/
structure PreservedByExpansion (d : Draft) : Prop where
  /-- Every variant can be declared as a route of its own. -/
  accepted : ∀ v ∈ d.finish.variants, ∃ e, d.reduce v = .ok e
  /-- The draft alone seals exactly when each of these routes alone does. -/
  sealed : (∃ router, d.alone = .ok router) ↔
    ∀ v ∈ d.finish.variants, ∃ e router, d.reduce v = .ok e ∧ e.alone = .ok router
  /-- The draft alone resolves a path to the values of the first of these routes that
      resolves it alone. -/
  resolved : ∀ router, d.alone = .ok router → ∀ path,
    router.resolve path none =
      match d.finish.variants.findSome? (d.reducedParams? path) with
      | some params => .ok ⟨0, d.finish, params⟩
      | none => .error (.notFound path)

theorem Declared.preservedByExpansion {d : Draft} (hd : d.Declared) : d.PreservedByExpansion where
  accepted := by
    intro v hv
    obtain ⟨ps, hps⟩ := hd.exists_layout hv
    exact ⟨_, hps.reduce_eq_ok hd⟩
  sealed := by
    rw [exists_alone_iff, hd.seals_iff]
    refine forall₂_congr fun v hv => ?_
    obtain ⟨ps, hps⟩ := hd.exists_layout hv
    rw [← hps.exists_alone_reduced_iff hd]
    constructor
    · rintro ⟨router, hrouter⟩
      exact ⟨_, router, hps.reduce_eq_ok hd, hrouter⟩
    · rintro ⟨e, router, he, hrouter⟩
      obtain rfl := Except.ok.inj ((hps.reduce_eq_ok hd).symm.trans he)
      exact ⟨router, hrouter⟩
  resolved := by
    intro router hrouter path
    have hseals := hd.seals_iff.mp ((exists_alone_iff d).mp ⟨router, hrouter⟩)
    -- variant by variant, the route and the single routes agree
    have hanswer : d.finish.answer? path = d.finish.variants.findSome? (d.reducedParams? path) := by
      refine findSome?_congr fun v hv => ?_
      obtain ⟨ps, hps⟩ := hd.exists_layout hv
      obtain ⟨router', hrouter'⟩ := (hps.exists_alone_reduced_iff hd).mpr (hseals v hv)
      rw [← hps.accept?_reduced hd hv (hseals v hv), hps.reducedParams?_eq hd hrouter']
    rw [resolve_alone hrouter, hanswer]

/-- The draft of an optional segment, and a wildcard with a fragment of its own. -/
def optionalSegmentDraft : Draft :=
  ⟨"/{y?}/a/{x}", none, ⟨"/{0}/a/{1}", ["y", "x"], [true, false]⟩, ⟨[none, some "b"]⟩, [], [],
    none⟩

/-- The variant without the optional segment. -/
def shortVariant : AnchoredVariant := ⟨"/a/{1}", [1], "^/a/(b)$"⟩

theorem variants_optionalSegmentDraft : optionalSegmentDraft.finish.variants =
    [⟨"/{0}/a/{1}", [0, 1], "^/([A-Za-z0-9_%-]+)/a/(b)$"⟩, shortVariant] := by
  cbv

/-- A path without the optional segment is resolved by the draft, as it is by the route that
    the variant without this segment is declared as. -/
theorem preservedByExpansion_optional_segment :
    ∃ router single singleRouter,
      build "/{y?}/a/{x}" [.constraint "x" "b"] = .ok optionalSegmentDraft ∧
      optionalSegmentDraft.PreservedByExpansion ∧
      optionalSegmentDraft.alone = .ok router ∧
      optionalSegmentDraft.reduce shortVariant = .ok single ∧ single.uri = "/a/{x}" ∧
      single.alone = .ok singleRouter ∧
      singleRouter.resolve "/a/b" none = .ok ⟨0, single.finish, [("x", "b")]⟩ ∧
      router.resolve "/a/b" none = .ok ⟨0, optionalSegmentDraft.finish, [("x", "b")]⟩ := by
  have hbuild : build "/{y?}/a/{x}" [.constraint "x" "b"] = .ok optionalSegmentDraft := by decide
  have hdeclared : optionalSegmentDraft.Declared := ⟨by decide, _, hbuild⟩
  have hpreserved := Declared.preservedByExpansion hdeclared
  obtain ⟨router, halone⟩ : ∃ router, optionalSegmentDraft.alone = .ok router := by
    rw [exists_alone_iff, hdeclared.seals_iff, variants_optionalSegmentDraft]
    simp only [List.forall_mem_cons]
    exact ⟨fun _ => exists_ok_of_isSome (by cbv), fun _ => exists_ok_of_isSome (by cbv), by simp⟩
  have hsingles := hpreserved.sealed.mp ⟨router, halone⟩
  rw [variants_optionalSegmentDraft, List.forall_mem_cons, List.forall_mem_singleton] at hsingles
  obtain ⟨⟨long, longRouter, hlong, hlongAlone⟩, single, singleRouter, hsingle, hsingleAlone⟩ :=
    hsingles
  obtain rfl : ⟨"/{y}/a/{x}", none, ⟨"/{0}/a/{1}", ["y", "x"], [false, false]⟩,
      ⟨[none, some "b"]⟩, [], [], none⟩ = long :=
    Except.ok.inj (Eq.trans (by decide) hlong)
  obtain rfl : ⟨"/a/{x}", none, ⟨"/a/{0}", ["x"], [false]⟩, ⟨[some "b"]⟩, [], [], none⟩ = single :=
    Except.ok.inj (Eq.trans (by decide) hsingle)
  -- the segment is missing in the path, so the variant that has it does not take the path
  have hlongParams : optionalSegmentDraft.reducedParams? "/a/b"
      ⟨"/{0}/a/{1}", [0, 1], "^/([A-Za-z0-9_%-]+)/a/(b)$"⟩ = none := by
    rw [reducedParams?_of_alone hlong hlongAlone]
    cbv
  have hsingleParams : optionalSegmentDraft.reducedParams? "/a/b" shortVariant =
      some [("x", "b")] := by
    rw [reducedParams?_of_alone hsingle hsingleAlone]
    cbv
  refine ⟨router, _, singleRouter, hbuild, hpreserved, halone, hsingle, rfl, hsingleAlone, ?_, ?_⟩
  · rw [resolve_alone hsingleAlone, ← reducedParams?_of_alone hsingle hsingleAlone, hsingleParams]
  · rw [hpreserved.resolved router halone, variants_optionalSegmentDraft]
    simp [hlongParams, hsingleParams]

end Draft

end Wayfinder
