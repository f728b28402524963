/-
  Wayfinder/Proofs/Regex/Stack.lean
  =================================
  **Stacks of frames taken apart.**

  A stack is worked off from its top.  A row is its factors one after the other, a group
  is its body between two marks, and a literal is its characters; so two stacks that
  spell the same work in different ways have the same outcomes.
-/
import Wayfinder.Proofs.Regex.Outcomes

namespace Wayfinder.Regex

/-! ## 1. The top of a stack -/

theorem andThen_append (rest : List Frame) (next : Marks → List Item) (as bs : List Item) :
    andThen rest next (as ++ bs) = andThen rest next as ++ andThen rest next bs := by
  induction as with
  | nil => rfl
  | cons a as ih => cases a <;> simp [andThen, ih]

/-- Going on twice is going on once, over both rests. -/
theorem andThen_andThen (rest mid : List Frame) (next next' : Marks → List Item)
    (items : List Item) :
    andThen rest next' (andThen mid next items) =
      andThen (mid ++ rest) (fun m => andThen rest next' (next m)) items := by
  induction items with
  | nil => rfl
  | cons item items ih =>
    cases item with
    | step m on fs => simp [andThen, ih]
    | done m => rw [andThen, andThen_append, ih, andThen]

/-- The items of a stack are those of its upper part, going on with its lower part. -/
theorem stackItems_append (here : Place) (fs gs : List Frame) (m : Marks) :
    stackItems here (fs ++ gs) m =
      andThen gs (fun m => stackItems here gs m) (stackItems here fs m) := by
  induction fs generalizing m with
  | nil => simp [stackItems, andThen]
  | cons f fs ih =>
    rw [List.cons_append, stackItems, stackItems, andThen_andThen]
    simp only [ih]

theorem stackItems_empty (here : Place) (fs : List Frame) (m : Marks) :
    stackItems here (.run .empty :: fs) m = stackItems here fs m := by
  simp [stackItems, Frame.items, Expr.items, andThen]

theorem stackItems_seq (here : Place) (a b : Expr) (fs : List Frame) (m : Marks) :
    stackItems here (.run (.seq a b) :: fs) m = stackItems here (.run a :: .run b :: fs) m := by
  simp only [stackItems, Frame.items, Expr.items, andThen_andThen]
  rfl

theorem stackItems_capture (here : Place) (i : Nat) (body : Expr) (fs : List Frame) (m : Marks) :
    stackItems here (.run (.capture i body) :: fs) m =
      stackItems here (.run body :: .close i :: fs) (.opened i here.position :: m) := by
  simp only [stackItems, Frame.items, Expr.items, andThen_andThen]
  rfl

theorem stackItems_close (here : Place) (i : Nat) (fs : List Frame) (m : Marks) :
    stackItems here (.close i :: fs) m = stackItems here fs (.closed i here.position :: m) := by
  simp [stackItems, Frame.items, andThen]

theorem stackItems_look (here : Place) (l : Look) (fs : List Frame) (m : Marks) :
    stackItems here (.run (.look l) :: fs) m =
      if l.holds here then stackItems here fs m else [] := by
  simp only [stackItems, Frame.items, Expr.items]
  split <;> simp [andThen]

theorem stackItems_literal_nil (here : Place) (fs : List Frame) (m : Marks) :
    stackItems here (.run (.literal []) :: fs) m = stackItems here fs m := by
  simp [stackItems, Frame.items, Expr.items, andThen]

theorem stackItems_literal_cons (here : Place) (c : Char) (cs : List Char) (fs : List Frame)
    (m : Marks) :
    stackItems here (.run (.literal (c :: cs)) :: fs) m =
      [.step m (.single c.toNat) ((if cs.isEmpty then [] else [.run (.literal cs)]) ++ fs)] := by
  simp [stackItems, Frame.items, Expr.items, andThen]

/-! ## 2. Outcomes of a stack -/

/-- The ways to end from a stack are those of its upper part, each gone on with. -/
theorem endsAt_append (here : Place) (go : List Frame → Marks → List Marks) (fs gs : List Frame)
    (m : Marks) :
    endsAt here go (fs ++ gs) m =
      (stackItems here fs m).flatMap fun
        | .done m => endsAt here go gs m
        | .step m on fs => (Item.step m on (fs ++ gs)).ends here.after go := by
  rw [endsAt, stackItems_append]
  induction stackItems here fs m with
  | nil => rfl
  | cons item items ih =>
    cases item with
    | done m =>
      rw [andThen, List.flatMap_append, ih, List.flatMap_cons]
      rfl
    | step m on fs => rw [andThen, List.flatMap_cons, ih, List.flatMap_cons]

/-- Outcomes that do not look at the text are told place by place. -/
theorem outcomes_congr {fs gs : List Frame} {m m' : Marks} {position : Nat} {before : Option Char}
    (h : ∀ after, stackItems ⟨position, before, after⟩ fs m =
      stackItems ⟨position, before, after⟩ gs m') (cs : List Char) :
    outcomes position before cs fs m = outcomes position before cs gs m' := by
  cases cs <;> simp [outcomes, endsAt, h]

section Equations

variable (position : Nat) (before : Option Char) (cs : List Char) (fs : List Frame) (m : Marks)

theorem outcomes_capture (i : Nat) (body : Expr) :
    outcomes position before cs (.run (.capture i body) :: fs) m =
      outcomes position before cs (.run body :: .close i :: fs) (.opened i position :: m) :=
  outcomes_congr (fun _ => stackItems_capture _ i body fs m) cs

theorem outcomes_close (i : Nat) :
    outcomes position before cs (.close i :: fs) m =
      outcomes position before cs fs (.closed i position :: m) :=
  outcomes_congr (fun _ => stackItems_close _ i fs m) cs

theorem outcomes_literal_cons_nil (c : Char) (ds : List Char) :
    outcomes position before [] (.run (.literal (c :: ds)) :: fs) m = [] := by
  rw [outcomes, endsAt, stackItems_literal_cons]
  rfl

theorem has_single (c d : Char) : (Unicode.CodeSet.single c.toNat).has d = decide (c = d) := by
  simp only [Unicode.CodeSet.has, Unicode.CodeSet.contains, Unicode.CodeSet.single,
    Unicode.CodeSet.memRanges]
  by_cases h : c = d
  · subst h
    simp
  · have hne : c.toNat ≠ d.toNat := fun heq => h (Char.toNat_inj.mp heq)
    rw [decide_eq_false h]
    split
    · rfl
    · split
      · omega
      · rfl

theorem outcomes_literal_cons_cons (c d : Char) (ds : List Char) :
    outcomes position before (d :: cs) (.run (.literal (c :: ds)) :: fs) m =
      if c = d then
        outcomes (position + 1) (some d) cs
          ((if ds.isEmpty then [] else [.run (.literal ds)]) ++ fs) m
      else [] := by
  rw [outcomes, endsAt, stackItems_literal_cons]
  simp [Item.ends, has_single]

end Equations

/-! ## 3. Stacks with the same outcomes -/

/-- Whether two stacks have the same outcomes everywhere. -/
def SameOutcomes (fs gs : List Frame) : Prop :=
  ∀ position before cs m, outcomes position before cs fs m = outcomes position before cs gs m

namespace SameOutcomes

theorem refl (fs : List Frame) : SameOutcomes fs fs := fun _ _ _ _ => rfl

theorem symm {fs gs : List Frame} (h : SameOutcomes fs gs) : SameOutcomes gs fs :=
  fun position before cs m => (h position before cs m).symm

theorem trans {fs gs hs : List Frame} (h : SameOutcomes fs gs) (h' : SameOutcomes gs hs) :
    SameOutcomes fs hs :=
  fun position before cs m => (h position before cs m).trans (h' position before cs m)

theorem of_stackItems {fs gs : List Frame}
    (h : ∀ here m, stackItems here fs m = stackItems here gs m) : SameOutcomes fs gs :=
  fun _ _ cs m => outcomes_congr (fun _ => h _ m) cs

/-- The upper part of a stack may be put on both. -/
theorem append_left {fs gs : List Frame} (h : SameOutcomes fs gs) (top : List Frame) :
    SameOutcomes (top ++ fs) (top ++ gs) := by
  intro position before cs m
  induction cs generalizing position before m top with
  | nil =>
    have hlow : ∀ m', endsAt ⟨position, before, none⟩ (fun _ _ => []) fs m' =
        endsAt ⟨position, before, none⟩ (fun _ _ => []) gs m' := h position before []
    simp only [outcomes, endsAt_append, hlow]
    rfl
  | cons c cs ih =>
    have hlow : ∀ m',
        endsAt ⟨position, before, some c⟩ (outcomes (position + 1) (some c) cs) fs m' =
          endsAt ⟨position, before, some c⟩ (outcomes (position + 1) (some c) cs) gs m' :=
      h position before (c :: cs)
    simp only [outcomes, endsAt_append, hlow, Item.ends, ih]

theorem cons {fs gs : List Frame} (h : SameOutcomes fs gs) (f : Frame) :
    SameOutcomes (f :: fs) (f :: gs) := h.append_left [f]

end SameOutcomes

/-! ## 4. Rows in simple form -/

open SameOutcomes

theorem same_literal_rest (ds : List Char) (fs : List Frame) :
    SameOutcomes ((if ds.isEmpty then [] else [.run (.literal ds)]) ++ fs)
      (.run (.literal ds) :: fs) := by
  cases ds with
  | nil => exact .of_stackItems fun here m => (stackItems_literal_nil here fs m).symm
  | cons d ds => exact .refl _

theorem same_literal_append (as bs : List Char) (fs : List Frame) :
    SameOutcomes (.run (.literal (as ++ bs)) :: fs)
      (.run (.literal as) :: .run (.literal bs) :: fs) := by
  induction as with
  | nil => exact .of_stackItems fun here m => (stackItems_literal_nil here _ m).symm
  | cons a as ih =>
    intro position before cs m
    cases cs with
    | nil => rw [List.cons_append, outcomes_literal_cons_nil, outcomes_literal_cons_nil]
    | cons c cs =>
      rw [List.cons_append, outcomes_literal_cons_cons, outcomes_literal_cons_cons]
      have hrest := ((same_literal_rest (as ++ bs) fs).trans ih).trans
        (same_literal_rest as (.run (.literal bs) :: fs)).symm
      rw [hrest]

theorem same_factors (e : Expr) (fs : List Frame) :
    SameOutcomes (e.factors.map .run ++ fs) (.run e :: fs) := by
  induction e with
  | empty => exact .of_stackItems fun here m => (stackItems_empty here fs m).symm
  | seq a b _ ih =>
    exact (ih.cons (.run a)).trans (.of_stackItems fun here m => (stackItems_seq here a b fs m).symm)
  | _ => exact .refl _

/-- A row is its factors, one after the other. -/
theorem same_ofFactors (es : List Expr) (fs : List Frame) :
    SameOutcomes (.run (.ofFactors es) :: fs) (es.map .run ++ fs) := by
  induction es with
  | nil => exact .of_stackItems fun here m => stackItems_empty here fs m
  | cons e es ih =>
    cases es with
    | nil => exact .refl _
    | cons e' es =>
      exact (SameOutcomes.of_stackItems fun here m => stackItems_seq here e _ fs m).trans
        (ih.cons (.run e))

theorem same_prependFactor (e : Expr) (es : List Expr) (fs : List Frame) :
    SameOutcomes ((Expr.prependFactor e es).map .run ++ fs) (.run e :: (es.map .run ++ fs)) := by
  unfold Expr.prependFactor
  split
  · exact same_literal_append _ _ _
  · exact .refl _

/-- The simple form of a row is its factors, one after the other. -/
theorem same_concat (es : List Expr) (fs : List Frame) :
    SameOutcomes (.run (.concat es) :: fs) (es.map .run ++ fs) := by
  have hprepend : ∀ factors : List Expr,
      SameOutcomes ((factors.foldr Expr.prependFactor []).map .run ++ fs)
        (factors.map .run ++ fs) := by
    intro factors
    induction factors with
    | nil => exact .refl _
    | cons e factors ih => exact (same_prependFactor e _ fs).trans (ih.cons (.run e))
  have hfactors : SameOutcomes ((es.flatMap Expr.factors).map .run ++ fs) (es.map .run ++ fs) := by
    induction es with
    | nil => exact .refl _
    | cons e es ih =>
      rw [List.flatMap_cons, List.map_append, List.append_assoc]
      exact (ih.append_left _).trans (same_factors e _)
  exact ((same_ofFactors _ fs).trans (hprepend _)).trans hfactors

end Wayfinder.Regex
