/-
  Wayfinder/Proofs/Readings.lean
  ==============================
  **The readings of a text by slots.**

  A text can be read by slots in several ways: a fragment may take more or less of it, and
  the slots behind go on with the rest.  The readings are put in order by what the first
  fragment prefers, then the second, and so on, and the outcomes of the slots report them
  in this order.  Values are a reading of some text exactly when each of them fits: its
  fragment can take it where it stands.
-/
import Wayfinder.Proofs.Faithfulness
import Wayfinder.Proofs.Regex.Splits

namespace Wayfinder

namespace Pattern

open Wayfinder.Regex

/-! ## 1. Readings -/

/-- The values that slots can be given by a text, in order of preference. -/
def readings : Option Char → List Slot → List Char → List (List (List Char))
  | _, [], [] => [[]]
  | _, [], _ :: _ => []
  | _, .char _ :: _, [] => []
  | _, .char c :: slots, d :: text => if c = d then readings (some d) slots text else []
  | before, .fragment f :: slots, text =>
    (splits before text [.run (fragmentExpr f)]).flatMap fun (v, rest) =>
      (readings (v.getLast?.or before) slots rest).map fun values => v :: values

/-- Whether values fit into slots: each can be taken by its fragment where it stands, behind
    what comes before it and in front of the rest. -/
inductive Fits : Option Char → List Slot → List (List Char) → Prop where
  | nil {before : Option Char} : Fits before [] []
  | char {before : Option Char} {c : Char} {slots : List Slot} {values : List (List Char)}
      (hrest : Fits (some c) slots values) : Fits before (.char c :: slots) values
  | fragment {before : Option Char} {f : String} {slots : List Slot} {v : List Char}
      {values : List (List Char)}
      (htakes : (v, fill slots values) ∈
        splits before (v ++ fill slots values) [.run (fragmentExpr f)])
      (hrest : Fits (v.getLast?.or before) slots values) :
      Fits before (.fragment f :: slots) (v :: values)

/-- The readings of a text are the values that fit and fill the slots to it. -/
theorem mem_readings {before : Option Char} {slots : List Slot} {text : List Char}
    {values : List (List Char)} :
    values ∈ readings before slots text ↔ Fits before slots values ∧ fill slots values = text := by
  induction slots generalizing before text values with
  | nil =>
    constructor
    · intro h
      cases text with
      | nil =>
        obtain rfl := List.mem_singleton.mp h
        exact ⟨.nil, rfl⟩
      | cons d text => cases h
    · rintro ⟨hfits, rfl⟩
      cases hfits
      exact List.mem_singleton.mpr rfl
  | cons slot slots ih =>
    cases slot with
    | char c =>
      constructor
      · intro h
        cases text with
        | nil => cases h
        | cons d text =>
          rw [readings] at h
          split at h
          · rename_i hcd
            subst hcd
            obtain ⟨hfits, rfl⟩ := ih.mp h
            exact ⟨.char hfits, rfl⟩
          · cases h
      · rintro ⟨hfits, rfl⟩
        cases hfits with
        | char hrest =>
          rw [fill, readings, if_pos rfl]
          exact ih.mpr ⟨hrest, rfl⟩
    | fragment f =>
      rw [readings, List.mem_flatMap]
      constructor
      · rintro ⟨⟨v, rest⟩, hsplit, hvalues⟩
        obtain ⟨others, hothers, rfl⟩ := List.mem_map.mp hvalues
        obtain ⟨hfits, rfl⟩ := ih.mp hothers
        obtain rfl := append_of_mem_splits hsplit
        exact ⟨.fragment hsplit hfits, rfl⟩
      · rintro ⟨hfits, rfl⟩
        cases hfits with
        | fragment htakes hrest =>
          exact ⟨_, htakes, List.mem_map.mpr ⟨_, ih.mpr ⟨hrest, rfl⟩, rfl⟩⟩

theorem readings_of_no_token {ps : List Part} (h : tokensOf ps = []) (fragments : List String)
    (before : Option Char) (text : List Char) :
    readings before (ps.map (Part.slot fragments)) text =
      if layoutText ps = text then [[]] else [] := by
  induction ps generalizing before text with
  | nil => cases text <;> rfl
  | cons p ps ih =>
    cases p with
    | token i => cases h
    | char c =>
      cases text with
      | nil => simp [Part.slot, readings, Part.text]
      | cons d text =>
        rw [List.map_cons, Part.slot, readings, ih h, layoutText_cons, Part.text]
        by_cases hcd : c = d
        · subst hcd
          simp
        · simp [hcd]

/-! ## 2. Readings in the matcher -/

/-- The values that the outcomes of slots report are the readings of the text, in the same
    order. -/
theorem map_groups_eq_readings {slots : List Slot}
    (husable : ∀ f, Slot.fragment f ∈ slots → Usable f) (n : Nat) (past cs : List Char)
    (before : Option Char) (m : Marks) :
    (outcomes past.length before cs (slotFrames n slots) m).map (fun m' =>
        (groupNumbers n slots).map (Captures.mk (past ++ cs) m').group?) =
      (readings before slots cs).map fun values => values.map some := by
  induction slots generalizing n past cs before m with
  | nil =>
    change (outcomes past.length before cs [.run (.look .textEnd)] m).map _ = _
    rw [outcomes_textEnd]
    cases cs <;> rfl
  | cons slot slots ih =>
    have husable' : ∀ f, Slot.fragment f ∈ slots → Usable f :=
      fun f hf => husable f (List.mem_cons_of_mem _ hf)
    cases slot with
    | char c =>
      simp only [slotFrames_char, outcomes_char, groupNumbers]
      cases cs with
      | nil => rfl
      | cons d cs =>
        rw [readings]
        simp only
        split
        · have ih' := ih husable' n (past ++ [d]) cs (some d) m
          rw [List.length_append, List.append_assoc] at ih'
          exact ih'
        · rfl
    | fragment f =>
      have hinner : ∀ g ∈ [Frame.run (fragmentExpr f)].map (Frame.shift n),
          g.GroupsIn fun i => n < i := by
        have hgroups := Expr.groupsIn_shift n
          ((husable f List.mem_cons_self).groups.2.imp fun i hi => (by omega : n < i + n))
        simpa [Frame.shift, Frame.GroupsIn] using hgroups
      rw [slotFrames_fragment, outcomes_capture, readings, List.map_flatMap]
      refine map_outcomes_append hinner ?_
      rintro ⟨v, rest⟩ hsplit new hnew
      obtain rfl := append_of_mem_splits hsplit
      have hlength : past.length + v.length = (past ++ v).length := by simp
      simp only [outcomes_close, hlength, groupNumbers, List.map_cons]
      -- the group around the fragment holds the value, whatever comes after
      have hvalue : ∀ m' ∈ outcomes (past ++ v).length (v.getLast?.or before) rest
          (slotFrames (n + 1 + fragmentGroups f) slots)
          (.closed n (past ++ v).length :: (new ++ .opened n past.length :: m)),
          (Captures.mk (past ++ (v ++ rest)) m').group? n = some v := by
        intro m' hm'
        obtain ⟨values, later, -, hlater, hmarks, -⟩ :=
          exists_values_of_mem_outcomes husable' hm'
        have hothers : MarksIn (· ≠ n) later := hmarks.imp fun i hi => by
          have := le_of_present hi
          omega
        rw [hlater]
        exact group?_of_marks (hnew.imp fun i hi => by omega) hothers past v rest
      have ih' := ih husable' (n + 1 + fragmentGroups f) (past ++ v) rest (v.getLast?.or before)
        (.closed n (past ++ v).length :: (new ++ .opened n past.length :: m))
      rw [List.append_assoc] at ih'
      rw [List.map_congr_left fun m' hm' => by rw [hvalue m' hm'], List.map_map]
      have hcons := congrArg (List.map (some v :: ·)) ih'
      rw [List.map_map, List.map_map] at hcons
      exact hcons

/-! ## 3. Fragments by themselves -/

/-- Whether a fragment, read alone, matches all of a text. -/
def MatchedInFull (f : String) (v : List Char) : Prop :=
  ((Expr.concat [.look .textStart, fragmentExpr f, .look .textEnd]).search v).isSome = true

instance (f : String) (v : List Char) : Decidable (MatchedInFull f v) :=
  inferInstanceAs (Decidable (_ = true))

/-- Whether a fragment does not look at what stands around its characters. -/
def LookFree (f : String) : Prop := (fragmentExpr f).LooksIn fun _ => False

/-- A fragment matches all of a text when it can take it with nothing around. -/
theorem matchedInFull_iff {f : String} {v : List Char} :
    MatchedInFull f v ↔ (v, []) ∈ splits none v [.run (fragmentExpr f)] := by
  have hsame := same_concat [.look .textStart, fragmentExpr f, .look .textEnd] []
  have hsearch : (Expr.concat [.look .textStart, fragmentExpr f, .look .textEnd]).search v =
      (outcomes 0 none v [.run (fragmentExpr f), .run (.look .textEnd)] []).head? := by
    rw [Expr.search_of_anchored]
    · rw [hsame]
      exact congrArg List.head? (outcomes_textStart ..)
    · intro position c cs
      rw [hsame]
      exact outcomes_textStart ..
  have hgroups : ∀ g ∈ [Frame.run (fragmentExpr f)].map (Frame.shift 0),
      g.GroupsIn (· ≤ (fragmentExpr f).lastGroup) := by
    simpa [Frame.shift, Frame.GroupsIn, Expr.shift_zero] using (fragmentExpr f).groupsIn_lastGroup
  -- behind a split nothing may be left
  have hends : (outcomes 0 none v [.run (fragmentExpr f), .run (.look .textEnd)] []).map
      (fun _ => ()) = (splits none v [.run (fragmentExpr f)]).flatMap fun p =>
        if p.2 = [] then [()] else [] := by
    have hbehind := @map_outcomes_append Unit _ 0 _ [.run (.look .textEnd)] [] (fun _ => ())
      hgroups 0 none v (fun p => if p.2 = [] then [()] else [])
    rw [List.map_singleton, Frame.shift_zero] at hbehind
    refine hbehind ?_
    rintro ⟨taken, rest⟩ - new -
    rw [outcomes_textEnd]
    split <;> rfl
  have hsome : MatchedInFull f v ↔ ∃ p ∈ splits none v [.run (fragmentExpr f)], p.2 = [] := by
    rw [MatchedInFull, hsearch, List.isSome_head?, Ne,
      ← @List.map_eq_nil_iff _ _ fun _ => (), hends, List.flatMap_eq_nil_iff]
    simp
  rw [hsome]
  constructor
  · rintro ⟨⟨taken, rest⟩, hp, rfl⟩
    obtain rfl : taken = v := by simpa using append_of_mem_splits hp
    exact hp
  · intro h
    exact ⟨_, h, rfl⟩

/-- Where no fragment looks around, values fit when each is matched in full by its fragment. -/
theorem fits_iff_of_lookFree {slots : List Slot}
    (hfree : ∀ f, Slot.fragment f ∈ slots → LookFree f) {before : Option Char}
    {values : List (List Char)} :
    Fits before slots values ↔ List.Forall₂ MatchedInFull (fragmentsOf slots) values := by
  induction slots generalizing before values with
  | nil =>
    rw [fragmentsOf, List.forall₂_nil_left_iff]
    constructor
    · rintro ⟨⟩
      rfl
    · rintro rfl
      exact .nil
  | cons slot slots ih =>
    have ih' := @ih fun f hf => hfree f (List.mem_cons_of_mem _ hf)
    cases slot with
    | char c =>
      rw [fragmentsOf, ← @ih' (some c)]
      constructor
      · intro h
        cases h with
        | char hrest => exact hrest
      · exact .char
    | fragment f =>
      have hlook : ∀ g ∈ [Frame.run (fragmentExpr f)], g.LooksIn fun _ => False := by
        intro g hg
        obtain rfl := List.mem_singleton.mp hg
        exact hfree f List.mem_cons_self
      rw [fragmentsOf, List.forall₂_cons_left_iff]
      constructor
      · intro h
        cases h with
        | fragment htakes hrest =>
          have halone := @mem_splits_of_no_look _ hlook before none _ _ [] htakes
          rw [List.append_nil] at halone
          exact ⟨_, _, matchedInFull_iff.mpr halone, ih'.mp hrest, rfl⟩
      · rintro ⟨v, values, hv, hvalues, rfl⟩
        have halone : (v, []) ∈ splits none (v ++ []) [.run (fragmentExpr f)] := by
          simpa using matchedInFull_iff.mp hv
        exact .fragment (mem_splits_of_no_look hlook halone) (ih'.mpr hvalues)

end Pattern

open Wayfinder.Pattern

/-! ## 4. Answers of variants -/

/-- The names of the wildcards in a pattern of a route, from left to right. -/
def Route.namesIn (r : Route) (pattern : String) : List String :=
  (survivingPositions pattern).map fun i => r.wildcards.names.getD i ""

namespace Draft

variable {d : Draft} {v : AnchoredVariant}

theorem LayoutOf.map_namesIn {ps : List Part} (h : d.LayoutOf v ps) (hd : d.Declared) :
    v.indices.map (fun i => d.wildcards.names[i]?) = (d.finish.namesIn v.pattern).map some := by
  rw [Route.namesIn, h.pattern, survivingPositions_layoutText h.plain h.bound, ← h.indices,
    List.map_map]
  refine List.map_congr_left fun i hi => ?_
  obtain ⟨name, hname⟩ := h.names_indices hd i hi
  simp [finish, hname]

theorem LayoutOf.readings_of_literal {ps : List Part} (h : d.LayoutOf v ps) (hnone : v.indices = [])
    (path : String) :
    Pattern.readings none (d.finish.shapeOf v) path.toList =
      if v.pattern = path then [[]] else [] := by
  have htokens : tokensOf ps = [] := h.indices.symm.trans hnone
  have hpath : v.pattern = path ↔ layoutText ps = path.toList := by
    rw [h.pattern]
    constructor
    · rintro rfl
      rw [String.toList_ofList]
    · intro htext
      rw [htext, String.ofList_toList]
  rw [Route.shapeOf, h.shape_pattern, readings_of_no_token htokens]
  simp only [hpath]

/-- A variant answers with its first reading of the path. -/
theorem Declared.accept?_eq_head? (hd : d.Declared) (hv : v ∈ d.finish.variants)
    (hready : v.indices ≠ [] → ∃ regex, Regex.compile v.regex = .ok regex)
    (hread : d.finish.ReadsApart v) (hcounted : Counted (d.finish.shapeOf v)) (path : String) :
    d.finish.accept? path v =
      ((Pattern.readings none (d.finish.shapeOf v) path.toList).map fun values =>
        (d.finish.namesIn v.pattern).zip (values.map String.ofList)).head? := by
  obtain ⟨ps, hps⟩ := hd.exists_layout hv
  by_cases hnone : v.indices = []
  · rw [hd.accept?_of_literal hv hnone, hps.readings_of_literal hnone]
    split
    · simp
    · rfl
  · have husable : ∀ f, Slot.fragment f ∈ d.finish.shapeOf v → Usable f :=
      fun f hf => hd.usable (hd.mem_constraints hv hf)
    rw [hd.accept?_of_readsApart hv hread hnone (hready hnone), hps.captureSlots_eq hd,
      slotNumbers_eq_groupNumbers hcounted, List.head?_map]
    -- the first outcome reports the first reading
    have hfirst := congrArg List.head?
      (map_groups_eq_readings husable 1 [] path.toList none [])
    rw [List.head?_map, List.head?_map] at hfirst
    cases hmarks : (Regex.outcomes 0 none path.toList
        (slotFrames 1 (d.finish.shapeOf v)) []).head? with
    | none =>
      have hnone' := hfirst.symm.trans (congrArg _ hmarks)
      rw [Option.map_none, Option.map_eq_none_iff] at hnone'
      rw [hnone']
      rfl
    | some marks =>
      have hsome' := hfirst.symm.trans (congrArg _ hmarks)
      rw [Option.map_some, Option.map_eq_some_iff] at hsome'
      obtain ⟨values, hvalues, hgroups⟩ := hsome'
      have hstrings := congrArg (List.map (Option.map String.ofList)) hgroups
      rw [List.map_map, List.map_map] at hstrings
      rw [hvalues, Option.map_some, Option.map_some]
      refine congrArg some (Router.paramsOf_eq_zip (hps.map_namesIn hd) ?_)
      rw [List.map_map]
      exact hstrings.symm

end Draft

end Wayfinder
