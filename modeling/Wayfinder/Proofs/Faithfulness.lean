/-
  Wayfinder/Proofs/Faithfulness.lean
  ==================================
  **When an answer takes its path apart.**

  The values of an answer are looked up at groups that were counted beforehand, from each
  fragment alone.  The count leaves out groups that a fragment opens but that can never
  match, such as those under a repetition of zero times, while the numbers of the groups
  behind them take these into account.  So an answer is a decomposition of its path
  exactly when no such group stands before another token.
-/
import Mathlib
import Wayfinder.Proofs.Sealing
import Wayfinder.Proofs.Decomposition

namespace Wayfinder

/-! ## 1. Counted groups -/

namespace Pattern

open Wayfinder.Regex

/-- The groups at which the values of slots are looked up, from `n` on. -/
def slotNumbers : Nat → List Slot → List Nat
  | _, [] => []
  | n, .char _ :: slots => slotNumbers n slots
  | n, .fragment f :: slots => n :: slotNumbers (n + 1 + innerGroups f) slots

/-- Whether all groups of the fragments are counted.  Nothing is looked up behind the last
    fragment, so its groups do not matter. -/
def Counted (slots : List Slot) : Prop :=
  ∀ f ∈ (fragmentsOf slots).dropLast, innerGroups f = fragmentGroups f

theorem counted_fragment_iff {f : String} {slots : List Slot} (hmore : fragmentsOf slots ≠ []) :
    Counted (.fragment f :: slots) ↔ innerGroups f = fragmentGroups f ∧ Counted slots := by
  rw [Counted, fragmentsOf, List.dropLast_cons_of_ne_nil hmore, List.forall_mem_cons]
  rfl

theorem slotNumbers_of_no_fragment {slots : List Slot} (h : fragmentsOf slots = []) (n k : Nat) :
    slotNumbers n slots = [] ∧ groupNumbers k slots = [] := by
  induction slots with
  | nil => exact ⟨rfl, rfl⟩
  | cons slot slots ih =>
    cases slot with
    | char c => exact ih h
    | fragment f => cases h

theorem mem_slotNumbers_self {slots : List Slot} (h : fragmentsOf slots ≠ []) (n : Nat) :
    n ∈ slotNumbers n slots := by
  induction slots with
  | nil => exact absurd rfl h
  | cons slot slots ih =>
    cases slot with
    | char c => exact ih h
    | fragment f => exact List.mem_cons_self

theorem le_of_mem_slotNumbers {slots : List Slot} {n i : Nat} (h : i ∈ slotNumbers n slots) :
    n ≤ i := by
  induction slots generalizing n with
  | nil => cases h
  | cons slot slots ih =>
    cases slot with
    | char c => exact ih h
    | fragment f =>
      rcases List.mem_cons.mp h with rfl | h
      · exact Nat.le_refl _
      · have := ih h
        omega

/-- Where all groups are counted, the values are looked up at the groups around the
    fragments. -/
theorem slotNumbers_eq_groupNumbers {slots : List Slot} (h : Counted slots) (n : Nat) :
    slotNumbers n slots = groupNumbers n slots := by
  induction slots generalizing n with
  | nil => rfl
  | cons slot slots ih =>
    cases slot with
    | char c => exact ih h n
    | fragment f =>
      rw [slotNumbers, groupNumbers]
      by_cases hmore : fragmentsOf slots = []
      · rw [(slotNumbers_of_no_fragment hmore _ 0).1, (slotNumbers_of_no_fragment hmore 0 _).2]
      · obtain ⟨hf, hslots⟩ := (counted_fragment_iff hmore).mp h
        rw [hf, ih hslots]

/-- Where a group is left out of the count, the next value is looked up at a group that
    can never match. -/
theorem exists_absent_of_not_counted {slots : List Slot}
    (husable : ∀ f, Slot.fragment f ∈ slots → Usable f) (h : ¬Counted slots) (n : Nat) :
    ∃ i ∈ slotNumbers n slots, ¬Present n slots i := by
  induction slots generalizing n with
  | nil => exact absurd (by simp [Counted, fragmentsOf]) h
  | cons slot slots ih =>
    have ih' := ih fun f hf => husable f (List.mem_cons_of_mem _ hf)
    cases slot with
    | char c => exact ih' h n
    | fragment f =>
      have hmore : fragmentsOf slots ≠ [] := by
        intro hnone
        exact h (by simp [Counted, fragmentsOf, hnone])
      rw [slotNumbers]
      by_cases hf : innerGroups f = fragmentGroups f
      · -- the first fragment is counted right, so the fault lies further on
        have hslots : ¬Counted slots := fun hslots =>
          h ((counted_fragment_iff hmore).mpr ⟨hf, hslots⟩)
        obtain ⟨i, hi, habsent⟩ := ih' hslots (n + 1 + fragmentGroups f)
        have hle := le_of_mem_slotNumbers hi
        refine ⟨i, by rw [hf]; exact List.mem_cons_of_mem _ hi, ?_⟩
        rintro (⟨-, hfirst⟩ | hlater)
        · omega
        · exact habsent hlater
      · -- the next number falls between the counted groups and the next group
        have hle := (husable f List.mem_cons_self).groups.1
        refine ⟨n + 1 + innerGroups f,
          List.mem_cons_of_mem _ (mem_slotNumbers_self hmore _), ?_⟩
        rintro (⟨-, hfirst⟩ | hlater)
        · omega
        · have := le_of_present hlater
          omega

/-- The groups of the tokens of a layout, counted from its fragments. -/
theorem slotsFrom_tokensOf {ps : List Part} {fragments : List String}
    (hfragments : ∀ i ∈ tokensOf ps, i < fragments.length) (n : Nat) :
    slotsFrom n (fragments.map innerGroups) (tokensOf ps) =
      slotNumbers n (ps.map (Part.slot fragments)) := by
  induction ps generalizing n with
  | nil => rfl
  | cons p ps ih =>
    cases p with
    | char c => exact ih hfragments n
    | token i =>
      have hi : i < fragments.length := hfragments i (by simp)
      have hrest := ih (fun j hj => hfragments j (by simp [hj])) (n + 1 + innerGroups fragments[i])
      rw [tokensOf_token, slotsFrom, List.map_cons, Part.slot, slotNumbers]
      simp only [List.getElem?_map, List.getElem?_eq_getElem hi, Option.map_some, Option.getD_some,
        hrest]

theorem fragmentsOf_slots (ps : List Part) (fragments : List String) :
    fragmentsOf (ps.map (Part.slot fragments)) =
      (tokensOf ps).map fun i => fragments[i]?.getD defaultFragment := by
  induction ps with
  | nil => rfl
  | cons p ps ih =>
    cases p with
    | char c => exact ih
    | token i => rw [List.map_cons, Part.slot, fragmentsOf, ih, tokensOf_token, List.map_cons]

theorem fill_of_no_token {ps : List Part} (h : tokensOf ps = []) (fragments : List String) :
    fill (ps.map (Part.slot fragments)) [] = layoutText ps := by
  induction ps with
  | nil => rfl
  | cons p ps ih =>
    cases p with
    | char c => rw [List.map_cons, Part.slot, fill, ih h, layoutText_cons, Part.text]; rfl
    | token i => cases h

end Pattern

open Wayfinder.Pattern

/-! ## 2. Values and names -/

namespace Router

variable {names ns : List String} {groups : Nat → Option String} {indices slots : List Nat}

/-- Where every wildcard and every group is there, the values are paired with the names. -/
theorem paramsOf_eq_zip {values : List String}
    (hnames : indices.map (fun i => names[i]?) = ns.map some)
    (hvalues : slots.map groups = values.map some) :
    paramsOf names groups indices slots = ns.zip values := by
  induction indices generalizing ns slots values with
  | nil =>
    obtain rfl := List.map_eq_nil_iff.mp hnames.symm
    rfl
  | cons i indices ih =>
    cases ns with
    | nil => cases hnames
    | cons name ns =>
      cases slots with
      | nil =>
        obtain rfl := List.map_eq_nil_iff.mp hvalues.symm
        rfl
      | cons slot slots =>
        cases values with
        | nil => cases hvalues
        | cons value values =>
          simp only [List.map_cons, List.cons.injEq] at hnames hvalues
          rw [paramsOf_cons, hnames.1, hvalues.1, ih hnames.2 hvalues.2]
          rfl

/-- The reported names are names of tokens, in their order. -/
theorem map_fst_paramsOf_sublist (hnames : indices.map (fun i => names[i]?) = ns.map some)
    (groups : Nat → Option String) (slots : List Nat) :
    ((paramsOf names groups indices slots).map (·.1)).Sublist ns := by
  induction indices generalizing ns slots with
  | nil => exact List.nil_sublist _
  | cons i indices ih =>
    cases ns with
    | nil => cases hnames
    | cons name ns =>
      cases slots with
      | nil => exact List.nil_sublist _
      | cons slot slots =>
        simp only [List.map_cons, List.cons.injEq] at hnames
        rw [paramsOf_cons, hnames.1]
        cases groups slot with
        | none => exact (ih hnames.2 slots).cons name
        | some value => exact (ih hnames.2 slots).cons_cons name

/-- A group without a value leaves its name out. -/
theorem length_paramsOf_lt {slot : Nat} (hslot : slot ∈ slots) (hnone : groups slot = none)
    (hlength : slots.length = indices.length) :
    (paramsOf names groups indices slots).length < indices.length := by
  have hzip : (indices.zip slots).length = indices.length := by
    rw [List.length_zip, hlength, Nat.min_self]
  obtain ⟨k, hk⟩ := List.mem_iff_getElem?.mp hslot
  obtain ⟨hklt, hget⟩ := List.getElem?_eq_some_iff.mp hk
  have hmem : (indices[k], slot) ∈ indices.zip slots := by
    rw [← hget, ← List.getElem_zip]
    exact List.getElem_mem (by omega)
  rw [paramsOf, ← hzip, List.length_filterMap_lt_length_iff_exists]
  exact ⟨_, hmem, by simp [hnone]⟩

end Router

/-- Values paired with distinct names are found by their names. -/
theorem map_find?_zip {ns values : List String} (hnodup : ns.Nodup)
    (hlength : ns.length = values.length) :
    ns.map (fun name => ((ns.zip values).find? fun p => p.1 == name).map (·.2)) =
      values.map some := by
  induction ns generalizing values with
  | nil =>
    obtain rfl := List.length_eq_zero_iff.mp hlength.symm
    rfl
  | cons name ns ih =>
    cases values with
    | nil => cases hlength
    | cons value values =>
      obtain ⟨hnew, hnodup⟩ := List.nodup_cons.mp hnodup
      have htail : ∀ other ∈ ns, (((name, value) :: ns.zip values).find? fun p => p.1 == other) =
          (ns.zip values).find? fun p => p.1 == other := by
        intro other hother
        refine List.find?_cons_of_neg ?_
        rw [beq_iff_eq]
        rintro rfl
        exact hnew hother
      have hhead : (((name, value) :: ns.zip values).find? fun p => p.1 == name) =
          some (name, value) := List.find?_cons_of_pos (beq_self_eq_true name)
      rw [List.zip_cons_cons, List.map_cons, List.map_cons, hhead,
        ← ih hnodup (Nat.succ.inj hlength)]
      exact congrArg _ (List.map_congr_left fun other hother => by rw [htail other hother])

theorem Draft.LayoutOf.exists_names {d : Draft} {v : AnchoredVariant} {ps : List Part}
    (h : d.LayoutOf v ps) (hd : d.Declared) :
    ∃ ns : List String, v.indices.map (fun i => d.wildcards.names[i]?) = ns.map some ∧
      ns.Nodup := by
  refine ⟨v.indices.filterMap fun i => d.wildcards.names[i]?, ?_, ?_⟩
  · have hnames := h.names_indices hd
    generalize v.indices = indices at hnames ⊢
    induction indices with
    | nil => rfl
    | cons i indices ih =>
      obtain ⟨name, hname⟩ := hnames i List.mem_cons_self
      rw [List.map_cons, List.filterMap_cons_some hname, List.map_cons, hname,
        ih fun j hj => hnames j (List.mem_cons_of_mem _ hj)]
  · refine List.Nodup.filterMap ?_ (h.nodup_indices hd)
    intro i j name hi hj
    exact (List.getElem?_inj (List.getElem?_eq_some_iff.mp hi).1 hd.sound.nodup_names).mp
      (hi.trans hj.symm)

/-! ## 3. Answers -/

namespace Resolved

/-- The value of the wildcard at a position. -/
def valueAt? (res : Resolved) (i : Nat) : Option String :=
  res.route.wildcards.names[i]?.bind res.get?

/-- What a place of a pattern is replaced by: a token by the value of its wildcard. -/
def textAt? (res : Resolved) : Place → Option (List Char)
  | .char c => some [c]
  | .digits ds => (Place.digits ds).position?.bind fun i => (res.valueAt? i).map String.toList

/-- A pattern with the reported values in place of all its tokens, where each has one. -/
def written? (res : Resolved) (pattern : String) : Option String :=
  ((places pattern).mapM res.textAt?).map fun texts => String.ofList texts.flatten

/-- Whether an answer takes a path apart as a variant says: it reports the wildcards that
    the variant holds, all of them and in order, and their values in place of the tokens
    give the path. -/
structure FaithfulTo (res : Resolved) (path : String) (v : AnchoredVariant) : Prop where
  names : res.params.map (fun p => some p.1) =
    v.indices.map fun i => res.route.wildcards.names[i]?
  written : res.written? v.pattern = some path

/-- With distinct names, looking a value up in the map is looking it up in the list. -/
theorem getElem?_paramsMap {res : Resolved} (hnodup : (res.params.map (·.1)).Nodup)
    (name : String) : res.paramsMap[name]? = res.get? name := by
  have hdistinct : res.params.Pairwise fun p q => (p.1 == q.1) = false :=
    (List.pairwise_map.mp hnodup).imp fun hne => beq_eq_false_iff_ne.mpr hne
  rw [paramsMap, get?]
  cases hfind : res.params.find? fun p => p.1 == name with
  | none =>
    refine Std.HashMap.getElem?_ofList_of_contains_eq_false ?_
    rw [List.find?_eq_none] at hfind
    simp only [List.contains_eq_mem, decide_eq_false_iff_not, List.mem_map]
    rintro ⟨p, hp, rfl⟩
    exact hfind p hp (beq_self_eq_true _)
  | some p =>
    have hname : p.1 = name := by simpa using List.find?_some hfind
    exact Std.HashMap.getElem?_ofList_of_mem (by simp [hname]) hdistinct
      (List.mem_of_find?_eq_some hfind)

end Resolved

/-- Values in place of the tokens of a layout give what they fill its slots to. -/
theorem Resolved.flatten_textAt? {res : Resolved} {ps : List Part} (fragments : List String)
    (hbound : ∀ i ∈ tokensOf ps, i < wordBound) {values : List String}
    (hvalues : (tokensOf ps).map res.valueAt? = values.map some) :
    ((ps.map Part.place).mapM res.textAt?).map List.flatten =
      some (fill (ps.map (Part.slot fragments)) (values.map String.toList)) := by
  induction ps generalizing values with
  | nil => rfl
  | cons p ps ih =>
    cases p with
    | char c =>
      have hrest := ih hbound hvalues
      obtain ⟨texts, htexts, hflatten⟩ := Option.map_eq_some_iff.mp hrest
      simp [List.mapM_cons, Part.place, textAt?, htexts, hflatten, Part.slot, fill]
    | token i =>
      cases values with
      | nil => cases hvalues
      | cons value values =>
        simp only [tokensOf_token, List.map_cons, List.cons.injEq] at hvalues
        have hi : i < wordBound := hbound i (by simp)
        have hrest := ih (fun j hj => hbound j (by simp [hj])) hvalues.2
        obtain ⟨texts, htexts, hflatten⟩ := Option.map_eq_some_iff.mp hrest
        have hhere : res.textAt? (Part.token i).place = some value.toList := by
          change ((Part.token i).place.position?.bind fun i => (res.valueAt? i).map String.toList) = _
          rw [position?_place, if_pos hi, Option.bind_some, hvalues.1]
          rfl
        simp [List.mapM_cons, hhere, htexts, hflatten, Part.slot, fill]

/-! ## 4. Answers of variants -/

theorem usable_defaultFragment : Usable defaultFragment := exists_ok_of_isSome (by cbv)

/-- The fragments of a declared route are usable, if the default fragment is. -/
theorem Draft.Declared.usable_of_default [Regex.SizeLimit] {d : Draft} (hd : d.Declared)
    (hdefault : Usable defaultFragment) {f : String} (hf : f ∈ d.finish.constraints) :
    Usable f := by
  obtain ⟨bound, hbound, rfl⟩ := List.mem_map.mp hf
  cases bound with
  | none => exact hdefault
  | some fragment =>
    obtain ⟨i, hi⟩ := List.mem_iff_getElem?.mp hbound
    exact hd.sound.compiles i fragment (by rw [Constraints.get?, hi]; rfl)

theorem Draft.Declared.usable {d : Draft} (hd : d.Declared) {f : String}
    (hf : f ∈ d.finish.constraints) : Usable f :=
  hd.usable_of_default usable_defaultFragment hf

namespace Route

/-- Whether the expression of a variant is read as its literal characters and, for every
    token, a group around the fragment as it is read alone. -/
def ReadsApart (r : Route) (v : AnchoredVariant) : Prop :=
  v.indices ≠ [] → Regex.parse v.regex.toList = .ok (assembledTree (r.shapeOf v))

end Route

namespace Draft.LayoutOf

variable {d : Draft} {v : AnchoredVariant} {ps : List Part}

theorem captureSlots_eq (h : d.LayoutOf v ps) (hd : d.Declared) :
    captureSlots v.indices d.finish.constraints = slotNumbers 1 (d.finish.shapeOf v) := by
  rw [captureSlots, h.indices, Route.shapeOf, h.shape_pattern]
  refine slotsFrom_tokensOf ?_ 1
  intro i hi
  rw [show d.finish.constraints = d.constraints.fragments from rfl, hd.sound.length_fragments]
  exact h.lt_of_mem_indices hd (by rwa [h.indices])

/-- An answer that pairs the names of a variant with values that fill it to the path is
    faithful. -/
theorem faithfulTo (h : d.LayoutOf v ps) {ns values : List String}
    (hns : v.indices.map (fun i => d.wildcards.names[i]?) = ns.map some) (hnodup : ns.Nodup)
    (hlength : ns.length = values.length) {path : String}
    (hfill : path.toList = fill (d.finish.shapeOf v) (values.map String.toList)) (id : Nat) :
    (Resolved.mk id d.finish (ns.zip values)).FaithfulTo path v := by
  refine ⟨?_, ?_⟩
  · have hfst := congrArg (List.map some) (List.map_fst_zip (Nat.le_of_eq hlength))
    rw [List.map_map] at hfst
    exact hfst.trans hns.symm
  · -- the value at a position is found by its name
    have hvalues : (tokensOf ps).map (Resolved.mk id d.finish (ns.zip values)).valueAt? =
        values.map some := by
      have hat : (Resolved.mk id d.finish (ns.zip values)).valueAt? =
          fun i => d.wildcards.names[i]?.bind (Resolved.mk id d.finish (ns.zip values)).get? := rfl
      rw [← map_find?_zip hnodup hlength, hat, ← h.indices]
      have hbind := congrArg (List.map (·.bind (Resolved.mk id d.finish (ns.zip values)).get?)) hns
      rw [List.map_map, List.map_map] at hbind
      exact hbind
    have htext := Resolved.flatten_textAt? d.finish.constraints h.bound hvalues
    obtain ⟨texts, htexts, hflatten⟩ := Option.map_eq_some_iff.mp htext
    rw [Resolved.written?, h.places_pattern, htexts, Option.map_some, hflatten,
      ← h.shape_pattern, ← Route.shapeOf, ← hfill, String.ofList_toList]

end Draft.LayoutOf

namespace Draft.Declared

variable {d : Draft} {v : AnchoredVariant}

/-- A variant with tokens answers with the groups of the first outcome of its slots. -/
theorem accept?_of_readsApart (hd : d.Declared) (hv : v ∈ d.finish.variants)
    (hread : d.finish.ReadsApart v) (hsome : v.indices ≠ [])
    (hcompile : ∃ regex, Regex.compile v.regex = .ok regex) (path : String) :
    d.finish.accept? path v =
      (Regex.outcomes 0 none path.toList (slotFrames 1 (d.finish.shapeOf v)) []).head?.map
        fun marks => Router.paramsOf d.wildcards.names
          (fun i => ((Regex.Captures.mk path.toList marks).group? i).map String.ofList) v.indices
          (captureSlots v.indices d.finish.constraints) := by
  obtain ⟨regex, hregex⟩ := hcompile
  have husable : ∀ f, Slot.fragment f ∈ d.finish.shapeOf v → Usable f :=
    fun f hf => hd.usable (hd.mem_constraints hv hf)
  rw [Route.accept?_of_compile hsome hregex, Regex.captures?,
    search_of_parse hregex (hread hsome) husable, Option.map_map]
  rfl

/-- The answer of a variant with tokens is read off marks whose groups take the path
    apart. -/
theorem exists_marks_of_accept? (hd : d.Declared) (hv : v ∈ d.finish.variants)
    (hread : d.finish.ReadsApart v) (hsome : v.indices ≠ []) {path : String}
    {params : List (String × String)} (haccept : d.finish.accept? path v = some params) :
    ∃ marks values, path.toList = fill (d.finish.shapeOf v) values ∧
      Regex.MarksIn (Present 1 (d.finish.shapeOf v)) marks ∧
      (groupNumbers 1 (d.finish.shapeOf v)).map (Regex.Captures.mk path.toList marks).group? =
        values.map some ∧
      params = Router.paramsOf d.wildcards.names
        (fun i => ((Regex.Captures.mk path.toList marks).group? i).map String.ofList) v.indices
        (slotNumbers 1 (d.finish.shapeOf v)) := by
  obtain ⟨ps, hps⟩ := hd.exists_layout hv
  rw [hd.accept?_of_readsApart hv hread hsome (Route.compile_of_accept? hsome haccept),
    hps.captureSlots_eq hd, Option.map_eq_some_iff] at haccept
  obtain ⟨marks, hmarks, rfl⟩ := haccept
  obtain ⟨values, new, hfill, hnew, hpresent, hvalues⟩ :=
    @exists_values_of_mem_outcomes _ (fun f hf => hd.usable (hd.mem_constraints hv hf)) 1 []
      path.toList none [] marks (List.mem_of_mem_head? hmarks)
  rw [List.append_nil] at hnew
  subst hnew
  exact ⟨marks, values, hfill, hpresent, hvalues, rfl⟩

/-- Where a group before the last token is left out, a value is missing. -/
theorem length_lt_of_not_counted (hd : d.Declared) (hv : v ∈ d.finish.variants)
    (hread : d.finish.ReadsApart v) (hsome : v.indices ≠ []) {path : String}
    {params : List (String × String)} (haccept : d.finish.accept? path v = some params)
    (hcounted : ¬Counted (d.finish.shapeOf v)) : params.length < v.indices.length := by
  obtain ⟨ps, hps⟩ := hd.exists_layout hv
  obtain ⟨marks, values, -, hpresent, -, rfl⟩ := hd.exists_marks_of_accept? hv hread hsome haccept
  have hlength : (slotNumbers 1 (d.finish.shapeOf v)).length = v.indices.length := by
    rw [← hps.captureSlots_eq hd, captureSlots, length_slotsFrom]
  -- the value behind the group that is left out is looked up where no group is
  obtain ⟨i, hi, habsent⟩ := exists_absent_of_not_counted
    (fun f hf => hd.usable (hd.mem_constraints hv hf)) hcounted 1
  have hother : Regex.MarksIn (· ≠ i) marks := hpresent.imp fun j hj => by
    rintro rfl
    exact habsent hj
  have hmissing : (Regex.Captures.mk path.toList marks).group? i = none := by
    rw [Regex.Captures.group?, groupSpan?_eq_none hother]
    rfl
  exact Router.length_paramsOf_lt hi (by rw [hmissing]; rfl) hlength

/-- Where all groups before the last token are counted, the answer takes the path apart. -/
theorem faithfulTo_of_counted (hd : d.Declared) (hv : v ∈ d.finish.variants)
    (hread : d.finish.ReadsApart v) (hsome : v.indices ≠ []) {path : String}
    {params : List (String × String)} (haccept : d.finish.accept? path v = some params)
    (hcounted : Counted (d.finish.shapeOf v)) (id : Nat) :
    (Resolved.mk id d.finish params).FaithfulTo path v := by
  obtain ⟨ps, hps⟩ := hd.exists_layout hv
  obtain ⟨ns, hns, hnodup⟩ := hps.exists_names hd
  obtain ⟨marks, values, hfill, -, hvalues, rfl⟩ :=
    hd.exists_marks_of_accept? hv hread hsome haccept
  have hgroups : (slotNumbers 1 (d.finish.shapeOf v)).map
      (fun i => ((Regex.Captures.mk path.toList marks).group? i).map String.ofList) =
        (values.map String.ofList).map some := by
    have hofList := congrArg (List.map (Option.map String.ofList)) hvalues
    rw [List.map_map, List.map_map] at hofList
    rw [slotNumbers_eq_groupNumbers hcounted, List.map_map]
    exact hofList
  have hcount : ns.length = (values.map String.ofList).length := by
    have hleft := congrArg List.length hns
    have hright := congrArg List.length hgroups
    rw [← hps.captureSlots_eq hd, captureSlots, List.length_map, length_slotsFrom] at hright
    simp only [List.length_map] at hleft hright ⊢
    omega
  rw [Router.paramsOf_eq_zip hns hgroups]
  refine hps.faithfulTo hns hnodup hcount ?_ id
  rw [List.map_map, hfill]
  simp [Function.comp_def]

theorem faithfulTo_of_literal (hd : d.Declared) (hv : v ∈ d.finish.variants)
    (hnone : v.indices = []) {path : String} {params : List (String × String)}
    (haccept : d.finish.accept? path v = some params) (id : Nat) :
    Counted (d.finish.shapeOf v) ∧ (Resolved.mk id d.finish params).FaithfulTo path v := by
  obtain ⟨ps, hps⟩ := hd.exists_layout hv
  have hshape : d.finish.shapeOf v = ps.map (Part.slot d.finish.constraints) := hps.shape_pattern _
  have htokens : tokensOf ps = [] := hps.indices.symm.trans hnone
  rw [hd.accept?_of_literal hv hnone] at haccept
  split at haccept
  · rename_i hpath
    obtain rfl := Option.some.inj haccept
    refine ⟨by simp [Counted, hshape, fragmentsOf_slots, htokens], ?_⟩
    refine hps.faithfulTo (by simp [hnone]) .nil rfl ?_ id
    rw [← hpath, hps.pattern, String.toList_ofList, hshape]
    exact (fill_of_no_token htokens _).symm
  · cases haccept

/-- The answer of a variant takes the path apart exactly when all groups before its last
    token are counted. -/
theorem faithfulTo_iff (hd : d.Declared) (hv : v ∈ d.finish.variants)
    (hread : d.finish.ReadsApart v) {path : String} {params : List (String × String)}
    (haccept : d.finish.accept? path v = some params) (id : Nat) :
    (Resolved.mk id d.finish params).FaithfulTo path v ↔ Counted (d.finish.shapeOf v) := by
  by_cases hnone : v.indices = []
  · obtain ⟨hcounted, hfaithful⟩ := hd.faithfulTo_of_literal hv hnone haccept id
    exact ⟨fun _ => hcounted, fun _ => hfaithful⟩
  · constructor
    · rintro ⟨hnames, -⟩
      by_contra hcounted
      have hshort := hd.length_lt_of_not_counted hv hread hnone haccept hcounted
      have heq := congrArg List.length hnames
      rw [List.length_map, List.length_map] at heq
      exact absurd heq (Nat.ne_of_lt hshort)
    · intro hcounted
      exact hd.faithfulTo_of_counted hv hread hnone haccept hcounted id

theorem nodup_of_accept? (hd : d.Declared) (hv : v ∈ d.finish.variants) {path : String}
    {params : List (String × String)} (haccept : d.finish.accept? path v = some params) :
    (params.map (·.1)).Nodup := by
  obtain ⟨ps, hps⟩ := hd.exists_layout hv
  obtain ⟨ns, hns, hnodup⟩ := hps.exists_names hd
  unfold Route.accept? at haccept
  split at haccept
  · obtain ⟨groups, -, rfl⟩ := Option.map_eq_some_iff.mp haccept
    exact (Router.map_fst_paramsOf_sublist hns groups _).nodup hnodup
  · cases haccept

end Draft.Declared

/-! ## 5. Answers of a sealed registry -/

namespace Registry

/-- An answer comes from a route of the registry, and from a variant of it that accepts
    the path. -/
theorem exists_accepting {reg : Registry} {router : Router} (hseal : reg.toRouter = .ok router)
    {path : String} {method : Option Method} {res : Resolved}
    (hres : router.resolve path method = .ok res) :
    reg.routes[res.id]? = some res.route ∧
      ∃ v ∈ res.route.variants, res.route.accept? path v = some res.params := by
  rw [resolve_eq_ok_iff, find?_eq_findSome? hseal] at hres
  obtain ⟨⟨r, i⟩, hr, hby⟩ := List.exists_of_findSome?_eq_some hres
  obtain ⟨hid, hroute, hanswer⟩ := eq_of_resolvedBy hby
  rw [hid, hroute]
  exact ⟨by simpa using List.mk_mem_zipIdx_iff_getElem?.mp hr,
    List.exists_of_findSome?_eq_some hanswer⟩

/-- Whatever a sealed registry answers, the names are distinct, looking values up in the
    map and in the list is the same, and some variant of the route accepts the path.
    With the values in place of its tokens this variant gives the path, no wildcard
    missing, exactly when all groups before its last token are counted. -/
theorem resolve_faithful_iff {ds : List Draft} (hds : ∀ d ∈ ds, d.Declared) {reg : Registry}
    (hrun : empty.addAll ds = .ok reg) {router : Router} (hseal : reg.toRouter = .ok router)
    (hread : ∀ r ∈ router.routes, ∀ v ∈ r.variants, r.ReadsApart v) {path : String}
    {method : Option Method} {res : Resolved} (hres : router.resolve path method = .ok res) :
    router.routes[res.id]? = some res.route ∧
      (res.params.map (·.1)).Nodup ∧ (∀ name, res.paramsMap[name]? = res.get? name) ∧
      ∃ v ∈ res.route.variants, res.route.accept? path v = some res.params ∧
        (res.FaithfulTo path v ↔ Counted (res.route.shapeOf v)) := by
  have hroutes := routes_of_toRouter hseal
  obtain ⟨hget, v, hv, haccept⟩ := exists_accepting hseal hres
  have hreads : res.route.ReadsApart v :=
    hread _ (by rw [hroutes]; exact Array.mem_of_getElem? hget) v hv
  obtain ⟨id, route, params⟩ := res
  obtain ⟨d, hd, rfl⟩ := exists_draft_of_getElem? hrun hget
  have hnodup := (hds d hd).nodup_of_accept? hv haccept
  exact ⟨by rw [hroutes]; exact hget, hnodup, Resolved.getElem?_paramsMap hnodup, v, hv, haccept,
    (hds d hd).faithfulTo_iff hv hreads haccept id⟩

/-- The draft of two wildcards, the first of which hides a group that never matches. -/
def hiddenGroupDraft : Draft :=
  ⟨"/{x}/{y}", none, ⟨"/{0}/{1}", ["x", "y"], [false, false]⟩, ⟨[some "(a){0}b", some "c"]⟩, [],
    [], none⟩

theorem variants_hiddenGroupDraft :
    hiddenGroupDraft.finish.variants = [⟨"/{0}/{1}", [0, 1], "^/((a){0}b)/(c)$"⟩] := by
  decide

/-- The hidden group is not counted: the second value is lost, and the answer is faithful
    to no variant. -/
theorem exists_unfaithful_answer :
    ∃ d reg router res,
      Draft.build "/{x}/{y}" [.constraint "x" "(a){0}b", .constraint "y" "c"] = .ok d ∧
      empty.addAll [d] = .ok reg ∧ reg.toRouter = .ok router ∧
      router.resolve "/b/c" none = .ok res ∧ res.params = [("x", "b")] ∧
      ∀ v ∈ res.route.variants, ¬res.FaithfulTo "/b/c" v := by
  have hbuild : Draft.build "/{x}/{y}" [.constraint "x" "(a){0}b", .constraint "y" "c"] =
      .ok hiddenGroupDraft := by decide
  have hdeclared : hiddenGroupDraft.Declared := ⟨by decide, _, hbuild⟩
  obtain ⟨reg, hrun⟩ := @Indexed.exists_addAll _ indexed_empty [hiddenGroupDraft] (by decide)
    (by simp [empty])
  have hroutes : reg.routes.toList = [hiddenGroupDraft.finish] := routes_of_empty_addAll hrun
  have haccept : hiddenGroupDraft.finish.accept? "/b/c" ⟨"/{0}/{1}", [0, 1], "^/((a){0}b)/(c)$"⟩ =
      some [("x", "b")] := by decide +kernel
  obtain ⟨router, hseal⟩ : ∃ router, reg.toRouter = .ok router := by
    rw [exists_toRouter_iff, hroutes, List.forall_mem_singleton, hdeclared.seals_iff,
      variants_hiddenGroupDraft, List.forall_mem_singleton]
    exact fun hsome => Route.compile_of_accept? hsome haccept
  have hres : router.resolve "/b/c" none = .ok ⟨0, hiddenGroupDraft.finish, [("x", "b")]⟩ := by
    have hanswer : hiddenGroupDraft.finish.answer? "/b/c" = some [("x", "b")] := by
      rw [Route.answer?, variants_hiddenGroupDraft, List.findSome?_singleton, haccept]
    rw [Router.resolve, find?_eq_findSome? hseal, hroutes, List.zipIdx_singleton,
      List.findSome?_singleton, resolvedBy, hanswer]
    rfl
  have hread : hiddenGroupDraft.finish.ReadsApart
      ⟨"/{0}/{1}", [0, 1], "^/((a){0}b)/(c)$"⟩ := fun _ => by decide +kernel
  have hcounted : ¬Counted (hiddenGroupDraft.finish.shapeOf
      ⟨"/{0}/{1}", [0, 1], "^/((a){0}b)/(c)$"⟩) := by
    intro hcounted
    have hinner : innerGroups "(a){0}b" = 0 := by decide
    have hopened : fragmentGroups "(a){0}b" = 1 := by decide
    have hfirst := hcounted "(a){0}b" (by decide)
    rw [hinner, hopened] at hfirst
    cases hfirst
  refine ⟨hiddenGroupDraft, reg, router, _, hbuild, hrun, hseal, hres, rfl, ?_⟩
  have hroute : ∀ r ∈ router.routes, r = hiddenGroupDraft.finish := by
    intro r hr
    rw [routes_of_toRouter hseal, ← Array.mem_toList_iff, hroutes] at hr
    exact List.mem_singleton.mp hr
  obtain ⟨-, -, -, v, hv, -, hfaithful⟩ := resolve_faithful_iff (by simp [hdeclared]) hrun hseal
    (by
      intro r hr v hv
      obtain rfl := hroute r hr
      rw [variants_hiddenGroupDraft, List.mem_singleton] at hv
      rw [hv]
      exact hread) hres
  -- the route has no other variant
  intro w hw
  rw [variants_hiddenGroupDraft, List.mem_singleton] at hv hw
  rw [hv] at hfaithful
  rw [hw, hfaithful]
  exact hcounted

end Registry

end Wayfinder
