/-
  Wayfinder/Proofs/Slots.lean
  ===========================
  **Which groups the slots of a variant name.**

  The slots of a variant are computed from each fragment alone, while the numbers of the
  groups come from reading the whole expression.  They name the parentheses that were put
  around the fragments exactly when every fragment is read in its group and all groups
  before the last token are counted.  Then the expression has as many groups as the slots
  take for granted, and no answer lacks a value.
-/
import Mathlib
import Wayfinder.Proofs.TokenGroups

namespace Wayfinder

/-! ## 1. The last group of an expression -/

namespace Regex.Expr

/-- The highest number of a group in some expressions. -/
def maxGroup (es : List Expr) : Nat := es.foldr (fun e n => max e.lastGroup n) 0

theorem maxGroup_append (es fs : List Expr) :
    maxGroup (es ++ fs) = max (maxGroup es) (maxGroup fs) := by
  induction es with
  | nil => simp [maxGroup]
  | cons e es ih =>
    change max e.lastGroup (maxGroup (es ++ fs)) = max (max e.lastGroup (maxGroup es)) _
    rw [ih, Nat.max_assoc]

theorem maxGroup_factors (e : Expr) : maxGroup e.factors = e.lastGroup := by
  induction e with
  | empty => rfl
  | seq first rest _ ih => exact congrArg (max first.lastGroup) ih
  | _ => exact Nat.max_zero _

theorem lastGroup_ofFactors (es : List Expr) : (ofFactors es).lastGroup = maxGroup es := by
  induction es with
  | nil => rfl
  | cons e es ih =>
    cases es with
    | nil => exact (Nat.max_zero _).symm
    | cons e' es => exact congrArg (max e.lastGroup) ih

theorem maxGroup_prependFactor (e : Expr) (es : List Expr) :
    maxGroup (prependFactor e es) = max e.lastGroup (maxGroup es) := by
  unfold prependFactor
  split
  · exact (Nat.zero_max _).symm
  · rfl

/-- Joining expressions to a row keeps their groups. -/
theorem lastGroup_concat (es : List Expr) : (concat es).lastGroup = maxGroup es := by
  have hjoin : ∀ fs : List Expr, maxGroup (fs.foldr prependFactor []) = maxGroup fs := by
    intro fs
    induction fs with
    | nil => rfl
    | cons f fs ih => rw [List.foldr_cons, maxGroup_prependFactor, ih]; rfl
  rw [concat, lastGroup_ofFactors, hjoin]
  induction es with
  | nil => rfl
  | cons e es ih => rw [List.flatMap_cons, maxGroup_append, maxGroup_factors, ih]; rfl

/-- Behind the group with the number `n`, shifted groups end at their shifted last number. -/
theorem max_lastGroup_shift (n : Nat) (e : Expr) :
    max n (e.shift n).lastGroup = n + e.lastGroup := by
  induction e with
  | empty | literal | set | look => exact Nat.max_zero n
  | repeated min high greedy body ih => exact ih
  | capture i body ih =>
    simp only [shift, lastGroup]
    omega
  | seq first rest ihFirst ihRest =>
    simp only [shift, lastGroup]
    omega
  | alt first rest ihFirst ihRest =>
    simp only [shift, lastGroup]
    omega

end Regex.Expr

namespace Pattern

open Wayfinder.Regex

section Groups

variable {slots : List Slot}

theorem exists_lastGroup_slots (husable : ∀ f, Slot.fragment f ∈ slots → Usable f) (n : Nat) :
    ∃ low, lower {} n (Tree.ofFactors (slots.map Slot.tree ++ [.assertion .lineEnd])) = .ok low ∧
      low.expr.lastGroup = Expr.maxGroup (slotExprs n slots) := by
  induction slots generalizing n with
  | nil => exact ⟨_, rfl, rfl⟩
  | cons slot slots ih =>
    obtain ⟨e, next, hslot, hexprs⟩ :=
      @lower_slot _ slot (fun f hf => husable f (by rw [hf]; exact List.mem_cons_self)) n
    obtain ⟨low, hlow, hlast⟩ := ih (fun f hf => husable f (List.mem_cons_of_mem _ hf)) next
    refine ⟨_, lower_ofFactors_cons (by simp) hslot hlow, ?_⟩
    rw [hexprs]
    change (Expr.concat [e, low.expr]).lastGroup = max e.lastGroup (Expr.maxGroup _)
    rw [Expr.lastGroup_concat, ← hlast]
    exact congrArg (max e.lastGroup) (Nat.max_zero _)

/-- The groups of an expression that is read as it was put together end with those of its
    slots. -/
theorem groupCount_eq {text : String} {r : Regex} (hr : Regex.compile text = .ok r)
    (hparse : parse text.toList = .ok (assembledTree slots))
    (husable : ∀ f, Slot.fragment f ∈ slots → Usable f) :
    r.groupCount = Expr.maxGroup (slotExprs 1 slots) := by
  obtain ⟨t, ht, low, hlow, hexpr⟩ := Regex.compile_eq_ok hr
  obtain rfl := Except.ok.inj (hparse.symm.trans ht)
  obtain ⟨low', hlow', hlast⟩ := exists_lastGroup_slots husable 1
  have hrow : lower {} 1 (assembledTree slots) =
      .ok (.one (Expr.concat [.look .textStart, low'.expr]) low'.flags low'.next) :=
    lower_ofFactors_cons (by simp) rfl hlow'
  obtain rfl := Except.ok.inj (hrow.symm.trans hlow)
  rw [Regex.groupCount, hexpr, ← hlast]
  change (Expr.concat [.look .textStart, low'.expr]).lastGroup = _
  rw [Expr.lastGroup_concat]
  exact (Nat.zero_max _).trans (Nat.max_zero _)

/-- The number of groups that the slots take for granted: one around each fragment, and
    those that are counted for the fragment. -/
def countedGroups (slots : List Slot) : Nat :=
  ((fragmentsOf slots).map fun f => 1 + innerGroups f).sum

theorem no_groups_of_no_fragment (h : fragmentsOf slots = []) (n : Nat) :
    Expr.maxGroup (slotExprs n slots) = 0 ∧ countedGroups slots = 0 := by
  refine ⟨?_, by rw [countedGroups, h]; rfl⟩
  induction slots with
  | nil => rfl
  | cons slot slots ih =>
    cases slot with
    | char c => exact (Nat.zero_max _).trans (ih h)
    | fragment f => cases h

/-- The groups of slots end no earlier than the counted ones, and there exactly when all
    groups before the last token are counted. -/
theorem countedGroups_le (husable : ∀ f, Slot.fragment f ∈ slots → Usable f)
    (hsome : fragmentsOf slots ≠ []) (n : Nat) :
    n + countedGroups slots ≤ Expr.maxGroup (slotExprs n slots) + 1 ∧
      (n + countedGroups slots = Expr.maxGroup (slotExprs n slots) + 1 ↔ Counted slots) := by
  induction slots generalizing n with
  | nil => exact absurd rfl hsome
  | cons slot slots ih =>
    have ih' := ih fun f hf => husable f (List.mem_cons_of_mem slot hf)
    cases slot with
    | char c =>
      have hmax : Expr.maxGroup (slotExprs n (.char c :: slots)) =
          Expr.maxGroup (slotExprs n slots) := Nat.zero_max _
      rw [hmax]
      exact ih' hsome n
    | fragment f =>
      have hf := husable f List.mem_cons_self
      obtain ⟨-, -, -, hinner⟩ := hf.lower_fragmentTree
      have hle := hf.groups.1
      have hmax : Expr.maxGroup (slotExprs n (.fragment f :: slots)) =
          max (n + innerGroups f)
            (Expr.maxGroup (slotExprs (n + 1 + fragmentGroups f) slots)) := by
        rw [hinner, ← Expr.max_lastGroup_shift]
        rfl
      have hcount : countedGroups (.fragment f :: slots) =
          1 + innerGroups f + countedGroups slots := List.sum_cons
      rw [hmax, hcount]
      by_cases hmore : fragmentsOf slots = []
      · -- nothing is counted behind the last token
        obtain ⟨hmax', hcount'⟩ := no_groups_of_no_fragment hmore (n + 1 + fragmentGroups f)
        have hcounted : Counted (.fragment f :: slots) := by
          simp [Counted, fragmentsOf, hmore]
        rw [hmax', hcount', Nat.max_zero]
        exact ⟨by omega, iff_of_true (by omega) hcounted⟩
      · obtain ⟨hle', hiff⟩ := ih' hmore (n + 1 + fragmentGroups f)
        have hpos : 1 ≤ countedGroups slots := by
          obtain ⟨g, gs, hgs⟩ := List.exists_cons_of_ne_nil hmore
          rw [countedGroups, hgs, List.map_cons, List.sum_cons]
          omega
        rw [counted_fragment_iff hmore, ← hiff]
        omega

/-- An expression that is read as it was put together has no fewer groups than are counted,
    and just as many exactly when all groups before the last token are counted. -/
theorem countedGroups_le_groupCount {text : String} {r : Regex}
    (hr : Regex.compile text = .ok r) (hparse : parse text.toList = .ok (assembledTree slots))
    (husable : ∀ f, Slot.fragment f ∈ slots → Usable f) :
    countedGroups slots ≤ r.groupCount ∧ (countedGroups slots = r.groupCount ↔ Counted slots) := by
  rw [groupCount_eq hr hparse husable]
  by_cases hnone : fragmentsOf slots = []
  · obtain ⟨hmax, hcount⟩ := no_groups_of_no_fragment hnone 1
    rw [hmax, hcount]
    exact ⟨Nat.le_refl 0, iff_of_true rfl (by simp [Counted, hnone])⟩
  · obtain ⟨hle, hiff⟩ := countedGroups_le husable hnone 1
    rw [← hiff]
    omega

end Groups

end Pattern

open Wayfinder.Pattern

/-! ## 2. The slots of a variant -/

/-- Whether every slot of a variant is the number of the group that opens at the parenthesis
    around the fragment of its token. -/
def Route.SlotsPointRight (r : Route) (v : AnchoredVariant) : Prop :=
  (captureSlots v.indices r.constraints).map
      (fun slot => (Regex.groupStarts v.regex.toList)[slot - 1]?) =
    (tokenStarts 1 (r.shapeOf v)).map some

instance (r : Route) (v : AnchoredVariant) : Decidable (r.SlotsPointRight v) :=
  inferInstanceAs (Decidable (_ = _))

theorem Draft.toList_regex_of_mem {d : Draft} {v : AnchoredVariant} (hv : v ∈ d.finish.variants) :
    v.regex.toList = shapeText (d.finish.shapeOf v) := by
  rw [regex_eq_of_mem hv, String.toList_ofList]

namespace Draft.Declared

variable {d : Draft} {v : AnchoredVariant} {r : Regex}

theorem usable_of_mem_shape (hd : d.Declared) (hv : v ∈ d.finish.variants) :
    ∀ f, Slot.fragment f ∈ d.finish.shapeOf v → Usable f :=
  fun _ hf => hd.usable (hd.mem_constraints hv hf)

theorem newline_not_mem_shape (hd : d.Declared) (hv : v ∈ d.finish.variants) :
    Slot.char '\n' ∉ d.finish.shapeOf v := by
  obtain ⟨ps, hps⟩ := hd.exists_layout hv
  rw [Route.shapeOf, hps.shape_pattern, List.mem_map]
  rintro ⟨p, hp, hslot⟩
  cases p with
  | token i => cases hslot
  | char c =>
    cases hslot
    exact absurd (hd.sound.regular (hps.sublist.subset hp)).2 (by decide)

/-- The slots of a variant whose expression compiles point right exactly when every fragment
    is read in its group and all groups before the last token are counted. -/
theorem slotsPointRight_iff (hd : d.Declared) (hv : v ∈ d.finish.variants)
    (hr : Regex.compile v.regex = .ok r) :
    d.finish.SlotsPointRight v ↔
      (∀ f ∈ fragmentsOf (d.finish.shapeOf v), ReadsInGroup f) ∧
        Counted (d.finish.shapeOf v) := by
  obtain ⟨ps, hps⟩ := hd.exists_layout hv
  have husable := hd.usable_of_mem_shape hv
  have htext := Draft.toList_regex_of_mem hv
  obtain ⟨t, hparse, -⟩ := Regex.compile_eq_ok hr
  have ht := (Regex.parse_eq_ok_iff.mp hparse).1
  rw [htext] at ht
  have hslots : d.finish.SlotsPointRight v ↔
      NamesTokens (d.finish.shapeOf v) (slotNumbers 1 (d.finish.shapeOf v)) := by
    rw [Route.SlotsPointRight, NamesTokens, hps.captureSlots_eq hd, htext]
  have hnumbers := fun hgroups =>
    @namesTokens_iff _ husable hgroups t ht (slotNumbers 1 (d.finish.shapeOf v))
      fun n hn => le_of_mem_slotNumbers hn
  simp only [mem_fragmentsOf, hslots]
  constructor
  · intro h
    have hgroups := readsInGroup_of_namesTokens husable (hd.newline_not_mem_shape hv) ht h
    exact ⟨hgroups, (slotNumbers_eq_groupNumbers_iff 1).mp ((hnumbers hgroups).mp h)⟩
  · rintro ⟨hgroups, hcounted⟩
    exact (hnumbers hgroups).mpr ((slotNumbers_eq_groupNumbers_iff 1).mpr hcounted)

-- the comment of the first fragment takes the parentheses up to the end of the line
example : Regex.groupStarts "^/((?x)a#)/((?x)b#\n)$".toList = [2] := by decide +kernel

/-- For every variant whose expression compiles, the slots are the numbers of the groups
    around the fragments exactly when every fragment is read in its group and all groups
    before the last token are counted.  Then the expression has as many groups as are
    counted, and every answer reports each wildcard of the variant.  Where only the count is
    wrong, the expression has more groups, and every answer lacks a wildcard. -/
theorem slots_right_iff (hd : d.Declared) (hv : v ∈ d.finish.variants)
    (hr : Regex.compile v.regex = .ok r) :
    (d.finish.SlotsPointRight v ↔
      (∀ f ∈ fragmentsOf (d.finish.shapeOf v), ReadsInGroup f) ∧
        Counted (d.finish.shapeOf v)) ∧
    (d.finish.SlotsPointRight v →
      r.groupCount + 1 = 1 + ((fragmentsOf (d.finish.shapeOf v)).map fun f => 1 + innerGroups f).sum ∧
      ∀ path params, d.finish.accept? path v = some params →
        params.map (fun p => some p.1) = v.indices.map fun i => d.finish.wildcards.names[i]?) ∧
    ((∀ f ∈ fragmentsOf (d.finish.shapeOf v), ReadsInGroup f) → ¬d.finish.SlotsPointRight v →
      1 + ((fragmentsOf (d.finish.shapeOf v)).map fun f => 1 + innerGroups f).sum <
        r.groupCount + 1 ∧
      ∀ path params, d.finish.accept? path v = some params →
        params.length < v.indices.length) := by
  have husable := hd.usable_of_mem_shape hv
  have hiff := hd.slotsPointRight_iff hv hr
  -- where every fragment is read in its group, the groups can be counted in the tree
  have hparse : (∀ f ∈ fragmentsOf (d.finish.shapeOf v), ReadsInGroup f) →
      Regex.parse v.regex.toList = .ok (assembledTree (d.finish.shapeOf v)) := fun hgroups =>
    parse_of_compile (Draft.toList_regex_of_mem hv) husable
      (fun f hf => hgroups f (mem_fragmentsOf.mpr hf)) hr
  refine ⟨hiff, fun hright => ?_, fun hgroups hwrong => ?_⟩
  · obtain ⟨hgroups, hcounted⟩ := hiff.mp hright
    have hread := hparse hgroups
    have hcount := (countedGroups_le_groupCount hr hread husable).2.mpr hcounted
    rw [countedGroups] at hcount
    refine ⟨by rw [hcount, Nat.add_comm], fun path params haccept => ?_⟩
    exact ((hd.faithfulTo_iff hv (fun _ => hread) haccept 0).mpr hcounted).names
  · have hread := hparse hgroups
    have hcounted : ¬Counted (d.finish.shapeOf v) := fun hcounted =>
      hwrong (hiff.mpr ⟨hgroups, hcounted⟩)
    obtain ⟨hle, heq⟩ := countedGroups_le_groupCount hr hread husable
    have hne := mt heq.mp hcounted
    rw [countedGroups] at hle hne
    have hsome : v.indices ≠ [] := by
      intro hnone
      obtain ⟨ps, hps⟩ := hd.exists_layout hv
      have htokens : tokensOf ps = [] := hps.indices.symm.trans hnone
      refine hcounted ?_
      rw [Route.shapeOf, hps.shape_pattern]
      simp [Counted, fragmentsOf_slots, htokens]
    exact ⟨by omega, fun path params haccept =>
      hd.length_lt_of_not_counted hv (fun _ => hread) hsome haccept hcounted⟩

end Draft.Declared

namespace Registry

/-- The hidden group of the first fragment takes the number that the second slot names: the
    group of the second token is the third, and its value is lost. -/
theorem slots_right_iff_hidden :
    ∃ r, Regex.compile "^/((a){0}b)/(c)$" = .ok r ∧
      ¬hiddenGroupDraft.finish.SlotsPointRight ⟨"/{0}/{1}", [0, 1], "^/((a){0}b)/(c)$"⟩ ∧
      3 < r.groupCount + 1 ∧
      ∀ path params,
        hiddenGroupDraft.finish.accept? path ⟨"/{0}/{1}", [0, 1], "^/((a){0}b)/(c)$"⟩ =
          some params → params.length < 2 := by
  have hbuild : Draft.build "/{x}/{y}" [.constraint "x" "(a){0}b", .constraint "y" "c"] =
      .ok hiddenGroupDraft := by decide
  have hdeclared : hiddenGroupDraft.Declared := ⟨by decide, _, hbuild⟩
  have hv : ⟨"/{0}/{1}", [0, 1], "^/((a){0}b)/(c)$"⟩ ∈ hiddenGroupDraft.finish.variants := by
    rw [variants_hiddenGroupDraft]
    exact List.mem_singleton_self _
  obtain ⟨r, hr⟩ : ∃ r, Regex.compile "^/((a){0}b)/(c)$" = .ok r := exists_ok_of_isSome (by cbv)
  have hfragments : fragmentsOf (hiddenGroupDraft.finish.shapeOf
      ⟨"/{0}/{1}", [0, 1], "^/((a){0}b)/(c)$"⟩) = ["(a){0}b", "c"] := by decide
  have hgroups : ∀ f ∈ fragmentsOf (hiddenGroupDraft.finish.shapeOf
      ⟨"/{0}/{1}", [0, 1], "^/((a){0}b)/(c)$"⟩), ReadsInGroup f := by
    intro f hf
    refine (hdeclared.usable_of_mem_shape hv f (mem_fragmentsOf.mp hf)).readsInGroup ?_
    rw [hfragments] at hf
    simp only [List.mem_cons, List.not_mem_nil, or_false] at hf
    rcases hf with rfl | rfl <;> decide
  have hwrong : ¬hiddenGroupDraft.finish.SlotsPointRight
      ⟨"/{0}/{1}", [0, 1], "^/((a){0}b)/(c)$"⟩ := by decide +kernel
  obtain ⟨hcount, hanswers⟩ := (hdeclared.slots_right_iff hv hr).2.2 hgroups hwrong
  rw [hfragments] at hcount
  have hinner : 1 + (["(a){0}b", "c"].map fun f => 1 + innerGroups f).sum = 3 := by decide
  exact ⟨r, hr, hwrong, hinner ▸ hcount, hanswers⟩

end Registry

end Wayfinder
