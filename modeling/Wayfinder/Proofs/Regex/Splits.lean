/-
  Wayfinder/Proofs/Regex/Splits.lean
  ==================================
  **What a stack takes off a text.**

  The upper part of a stack takes some characters off the text, and its lower part goes on
  with the rest.  So the outcomes of a stack are those of its lower part behind every
  *split* of the text by its upper part, in order of priority.  The splits depend neither
  on the marks made before nor on the numbers of the groups, and on what stands around
  only where an assertion looks at it.
-/
import Wayfinder.Proofs.Regex.Groups
import Wayfinder.Proofs.Regex.Shift

namespace Wayfinder.Regex

open Wayfinder.Unicode (CodeSet)

/-! ## 1. Assertions -/

/-- Whether every assertion of an expression has a property. -/
def Expr.LooksIn (P : Look → Prop) : Expr → Prop
  | .empty | .literal _ | .set _ => True
  | .look l => P l
  | .repeated _ _ _ body | .capture _ body => body.LooksIn P
  | .seq first rest | .alt first rest => first.LooksIn P ∧ rest.LooksIn P

def Frame.LooksIn (P : Look → Prop) : Frame → Prop
  | .run e => e.LooksIn P
  | .close _ => True
  | .again _ body => body.LooksIn P

def Frame.shift (k : Nat) : Frame → Frame
  | .run e => .run (e.shift k)
  | .close i => .close (i + k)
  | .again greedy body => .again greedy (body.shift k)

theorem Expr.looksIn_true (e : Expr) : e.LooksIn fun _ => True := by
  induction e with
  | repeated min max greedy body ih => exact ih
  | capture i body ih => exact ih
  | seq first rest ihFirst ihRest => exact ⟨ihFirst, ihRest⟩
  | alt first rest ihFirst ihRest => exact ⟨ihFirst, ihRest⟩
  | _ => trivial

theorem Frame.looksIn_true (f : Frame) : f.LooksIn fun _ => True := by
  cases f with
  | run e => exact e.looksIn_true
  | close i => trivial
  | again greedy body => exact body.looksIn_true

/-! ## 2. Items that expect the same -/

/-- Whether two items expect the same, up to marks and the numbers of groups, and what the
    first leaves only has assertions with a property. -/
inductive Item.Alike (k : Nat) (P : Look → Prop) : Item → Item → Prop where
  | step {m m' : Marks} {on : CodeSet} {fs : List Frame} (hfs : ∀ f ∈ fs, f.LooksIn P) :
      Alike k P (.step m on fs) (.step m' on (fs.map (Frame.shift k)))
  | done {m m' : Marks} : Alike k P (.done m) (.done m')

abbrev Alike (k : Nat) (P : Look → Prop) : List Item → List Item → Prop :=
  List.Forall₂ (Item.Alike k P)

/-- Whether items expect the same whatever marks they are given. -/
def MakeAlike (k : Nat) (P : Look → Prop) (f g : Marks → List Item) : Prop :=
  ∀ m m', Alike k P (f m) (g m')

section Alike

variable {k : Nat} {P : Look → Prop}

theorem Alike.steps {as bs : List Item} (h : Alike k P as bs) : Alike k P (steps as) (steps bs) := by
  induction h with
  | nil => exact .nil
  | cons hab _ ih =>
    cases hab with
    | step hfs => exact .cons (.step hfs) ih
    | done => exact ih

theorem Alike.firstDone {as bs : List Item} (h : Alike k P as bs) :
    Alike k P (firstDone as) (firstDone bs) := by
  induction h with
  | nil => exact .nil
  | cons hab hrest ih =>
    cases hab with
    | step hfs => exact .cons (.step hfs) ih
    | done => exact .cons .done (Alike.steps hrest)

theorem Alike.andThen {rest : List Frame} (hrest : ∀ f ∈ rest, f.LooksIn P)
    {next next' : Marks → List Item} (hnext : MakeAlike k P next next') {as bs : List Item}
    (h : Alike k P as bs) :
    Alike k P (andThen rest next as) (andThen (rest.map (Frame.shift k)) next' bs) := by
  induction h with
  | nil => exact .nil
  | cons hab _ ih =>
    cases hab with
    | step hfs =>
      rw [Regex.andThen, Regex.andThen, ← List.map_append]
      exact .cons (.step (List.forall_mem_append.mpr ⟨hfs, hrest⟩)) ih
    | done => exact List.rel_append (hnext _ _) ih

namespace MakeAlike

theorem done : MakeAlike k P (fun m => [.done m]) fun m => [.done m] :=
  fun _ _ => .cons .done .nil

variable {f g once once' : Marks → List Item}

theorem andThen (hf : MakeAlike k P f g) {rest : List Frame} (hrest : ∀ f ∈ rest, f.LooksIn P)
    {next next' : Marks → List Item} (hnext : MakeAlike k P next next') :
    MakeAlike k P (fun m => andThen rest next (f m)) fun m =>
      Regex.andThen (rest.map (Frame.shift k)) next' (g m) :=
  fun m m' => (hf m m').andThen hrest hnext

theorem orSkip (hf : MakeAlike k P f g) (greedy : Bool) :
    MakeAlike k P (fun m => orSkip greedy m (f m)) fun m => Regex.orSkip greedy m (g m) := by
  intro m m'
  cases greedy with
  | true => exact Alike.firstDone (List.rel_append (hf m m') (.cons .done .nil))
  | false => exact Alike.firstDone (.cons .done (hf m m'))

variable (honce : MakeAlike k P once once') {body : Expr} (hbody : body.LooksIn P) (greedy : Bool)

include honce hbody

theorem loopItems :
    MakeAlike k P (loopItems greedy body once) (Regex.loopItems greedy (body.shift k) once') :=
  honce.andThen (by simpa [Frame.LooksIn] using hbody) done

theorem atLeastItems (min : Nat) :
    MakeAlike k P (atLeastItems greedy body once min)
      (Regex.atLeastItems greedy (body.shift k) once' min) := by
  induction min with
  | zero => exact (honce.loopItems hbody greedy).orSkip greedy
  | succ n ih =>
    cases n with
    | zero => exact honce.loopItems hbody greedy
    | succ n => exact honce.andThen (by simpa [Frame.LooksIn, Expr.LooksIn] using hbody) ih

theorem atMostItems (max : Nat) :
    MakeAlike k P (atMostItems greedy body once max)
      (Regex.atMostItems greedy (body.shift k) once' max) := by
  induction max with
  | zero => exact done
  | succ n ih =>
    exact (honce.andThen (by simpa [Frame.LooksIn, Expr.LooksIn] using hbody) ih).orSkip greedy

theorem betweenItems (extra min : Nat) :
    MakeAlike k P (betweenItems greedy body once extra min)
      (Regex.betweenItems greedy (body.shift k) once' extra min) := by
  induction min with
  | zero => exact honce.atMostItems hbody greedy extra
  | succ n ih => exact honce.andThen (by simpa [Frame.LooksIn, Expr.LooksIn] using hbody) ih

end MakeAlike

variable {here here' : Place} (hplaces : ∀ l, P l → l.holds here = l.holds here')

include hplaces

/-- At two places where its assertions agree, an expression expects the same. -/
theorem Expr.makeAlike_items {e : Expr} (he : e.LooksIn P) :
    MakeAlike k P (e.items here) ((e.shift k).items here') := by
  induction e with
  | empty => exact .done
  | literal cs =>
    intro m m'
    cases cs with
    | nil => exact .cons .done .nil
    | cons c cs =>
      cases cs with
      | nil => exact .cons (.step (by simp)) .nil
      | cons d ds => exact .cons (.step (by simp [Frame.LooksIn, LooksIn])) .nil
  | set s => exact fun _ _ => .cons (.step (by simp)) .nil
  | look l =>
    intro m m'
    simp only [shift, items, hplaces l he]
    split
    · exact .cons .done .nil
    · exact .nil
  | repeated min max greedy body ih =>
    have hbody : body.LooksIn P := he
    cases max with
    | none => exact (ih hbody).atLeastItems hbody greedy min
    | some max => exact (ih hbody).betweenItems hbody greedy _ min
  | capture i body ih =>
    intro m m'
    exact (ih he _ _).andThen (by simp [Frame.LooksIn]) fun _ _ => .cons .done .nil
  | seq first rest ihFirst ihRest =>
    exact (ihFirst he.1).andThen (by simpa [Frame.LooksIn] using he.2) (ihRest he.2)
  | alt first rest ihFirst ihRest =>
    exact fun m m' => Alike.firstDone (List.rel_append (ihFirst he.1 m m') (ihRest he.2 m m'))

theorem Frame.makeAlike_items {f : Frame} (hf : f.LooksIn P) :
    MakeAlike k P (f.items here) ((f.shift k).items here') := by
  cases f with
  | run e => exact Expr.makeAlike_items hplaces hf
  | close i => exact fun _ _ => .cons .done .nil
  | again greedy body =>
    exact ((Expr.makeAlike_items hplaces hf).andThen (by simpa [Frame.LooksIn] using hf)
      fun _ _ => .nil).orSkip greedy

theorem alike_stackItems {fs : List Frame} (hfs : ∀ f ∈ fs, f.LooksIn P) :
    MakeAlike k P (stackItems here fs) (stackItems here' (fs.map (Frame.shift k))) := by
  induction fs with
  | nil => exact .done
  | cons f fs ih =>
    obtain ⟨hf, hfs⟩ := List.forall_mem_cons.mp hfs
    exact (Frame.makeAlike_items hplaces hf).andThen hfs (ih hfs)

end Alike

theorem Alike.exists_of_mem {k : Nat} {P : Look → Prop} {as bs : List Item} (h : Alike k P as bs)
    {a : Item} (ha : a ∈ as) : ∃ b ∈ bs, a.Alike k P b := by
  induction h with
  | nil => cases ha
  | cons hab _ ih =>
    rcases List.mem_cons.mp ha with rfl | ha
    · exact ⟨_, List.mem_cons_self, hab⟩
    · obtain ⟨b, hb, h⟩ := ih ha
      exact ⟨b, List.mem_cons_of_mem _ hb, h⟩

/-! ## 3. Splits -/

/-- The splits of a text from an item, where `go` tells those of frames behind the next
    character. -/
def Item.splits (cs : List Char) (go : List Frame → List (List Char × List Char)) :
    Item → List (List Char × List Char)
  | .done _ => [([], cs)]
  | .step _ on fs =>
    match cs with
    | [] => []
    | c :: _ => if on.has c then (go fs).map fun (v, rest) => (c :: v, rest) else []

/-- The ways in which frames take a start of a text, in order of priority: what is taken,
    and the rest. -/
def splits (before : Option Char) : List Char → List Frame → List (List Char × List Char)
  | [], fs => (stackItems ⟨0, before, none⟩ fs []).flatMap (Item.splits [] fun _ => [])
  | c :: cs, fs =>
    (stackItems ⟨0, before, some c⟩ fs []).flatMap (Item.splits (c :: cs) (splits (some c) cs))

theorem append_of_mem_splits {before : Option Char} {cs : List Char} {fs : List Frame}
    {p : List Char × List Char} (h : p ∈ splits before cs fs) : p.1 ++ p.2 = cs := by
  induction cs generalizing before fs p with
  | nil =>
    obtain ⟨item, -, hp⟩ := List.mem_flatMap.mp h
    cases item with
    | done m =>
      obtain rfl := List.mem_singleton.mp hp
      rfl
    | step m on fs' => cases hp
  | cons c cs ih =>
    obtain ⟨item, -, hp⟩ := List.mem_flatMap.mp h
    cases item with
    | done m =>
      obtain rfl := List.mem_singleton.mp hp
      rfl
    | step m on fs' =>
      simp only [Item.splits] at hp
      split at hp
      · obtain ⟨q, hq, rfl⟩ := List.mem_map.mp hp
        exact congrArg (c :: ·) (ih hq)
      · cases hp

/-- Nothing is taken where the frames can be passed without a character. -/
theorem nil_mem_splits_iff {before : Option Char} {cs : List Char} {fs : List Frame} :
    ([], cs) ∈ splits before cs fs ↔ ∃ m, .done m ∈ stackItems ⟨0, before, cs.head?⟩ fs [] := by
  cases cs with
  | nil =>
    rw [splits, List.mem_flatMap]
    constructor
    · rintro ⟨item, hitem, hp⟩
      cases item with
      | done m => exact ⟨m, hitem⟩
      | step m on fs' => cases hp
    · rintro ⟨m, hm⟩
      exact ⟨.done m, hm, List.mem_singleton.mpr rfl⟩
  | cons c cs =>
    rw [splits, List.mem_flatMap]
    constructor
    · rintro ⟨item, hitem, hp⟩
      cases item with
      | done m => exact ⟨m, hitem⟩
      | step m on fs' =>
        simp only [Item.splits] at hp
        split at hp
        · simp at hp
        · cases hp
    · rintro ⟨m, hm⟩
      exact ⟨.done m, hm, List.mem_singleton.mpr rfl⟩

/-- A character is taken where the frames have a step over it. -/
theorem cons_mem_splits_iff {before : Option Char} {c : Char} {cs v rest : List Char}
    {fs : List Frame} :
    (c :: v, rest) ∈ splits before (c :: cs) fs ↔
      ∃ m on fs', .step m on fs' ∈ stackItems ⟨0, before, some c⟩ fs [] ∧ on.has c = true ∧
        (v, rest) ∈ splits (some c) cs fs' := by
  rw [splits, List.mem_flatMap]
  constructor
  · rintro ⟨item, hitem, hp⟩
    cases item with
    | done m => simp [Item.splits] at hp
    | step m on fs' =>
      simp only [Item.splits] at hp
      split at hp
      · rename_i hhas
        obtain ⟨q, hq, heq⟩ := List.mem_map.mp hp
        obtain ⟨rfl, rfl⟩ : q.1 = v ∧ q.2 = rest := by simpa using heq
        exact ⟨m, on, fs', hitem, hhas, hq⟩
      · cases hp
  · rintro ⟨m, on, fs', hitem, hhas, hp⟩
    refine ⟨_, hitem, ?_⟩
    simp only [Item.splits, hhas, if_true]
    exact List.mem_map.mpr ⟨_, hp, rfl⟩

/-! ## 4. Splits in another place -/

theorem Expr.shift_zero (e : Expr) : e.shift 0 = e := by
  induction e <;> simp_all [shift]

theorem Frame.shift_zero (f : Frame) : f.shift 0 = f := by
  cases f <;> simp [shift, Expr.shift_zero]

/-- Frames without assertions take the same characters, whatever stands around these. -/
theorem mem_splits_of_no_look {fs : List Frame} (hfs : ∀ f ∈ fs, f.LooksIn fun _ => False)
    {before before' : Option Char} {v rest rest' : List Char}
    (h : (v, rest) ∈ splits before (v ++ rest) fs) :
    (v, rest') ∈ splits before' (v ++ rest') fs := by
  have halike : ∀ here here' fs, (∀ f ∈ fs, f.LooksIn fun _ => False) →
      Alike 0 (fun _ => False) (stackItems here fs []) (stackItems here' fs []) := by
    intro here here' fs hfs
    have hitems := @alike_stackItems 0 _ here here' (fun _ => False.elim) _ hfs [] []
    rwa [List.map_congr_left fun f _ => Frame.shift_zero f, List.map_id'] at hitems
  -- along what is taken; at each character the same steps are open in both places
  induction v generalizing fs before before' with
  | nil =>
    obtain ⟨m, hm⟩ := nil_mem_splits_iff.mp h
    obtain ⟨item, hitem, hlike⟩ := (halike _ _ fs hfs).exists_of_mem hm
    cases hlike with
    | done => exact nil_mem_splits_iff.mpr ⟨_, hitem⟩
  | cons c v ih =>
    obtain ⟨m, on, fs', hm, hhas, hv⟩ := cons_mem_splits_iff.mp h
    obtain ⟨item, hitem, hlike⟩ := (halike _ _ fs hfs).exists_of_mem hm
    cases hlike with
    | step hfs' =>
      rw [List.map_congr_left fun f _ => Frame.shift_zero f, List.map_id'] at hitem
      exact cons_mem_splits_iff.mpr ⟨_, _, _, hitem, hhas, ih hfs' hv⟩

/-! ## 5. Outcomes behind splits -/

theorem flatMap_eq_of_forall₂ {α β γ : Type} {R : α → β → Prop} {as : List α} {bs : List β}
    (h : List.Forall₂ R as bs) {f : α → List γ} {g : β → List γ}
    (hfg : ∀ a ∈ as, ∀ b ∈ bs, R a b → g b = f a) : bs.flatMap g = as.flatMap f := by
  induction h with
  | nil => rfl
  | cons hab _ ih =>
    rw [List.flatMap_cons, List.flatMap_cons, hfg _ List.mem_cons_self _ List.mem_cons_self hab,
      ih fun a ha b hb => hfg a (List.mem_cons_of_mem _ ha) b (List.mem_cons_of_mem _ hb)]

section Behind

variable {β : Type} {P : Nat → Prop} {k : Nat} {fs rest : List Frame} {m : Marks}
  {read : Marks → β}

/-- At one place, the upper part of a stack ends, or it takes a character and goes on. -/
theorem map_endsAt_append (hfs : ∀ f ∈ fs.map (Frame.shift k), f.GroupsIn P) {here : Place}
    {go : List Frame → Marks → List Marks} {found : Item → List β}
    (hdone : ∀ m₀, .done m₀ ∈ stackItems ⟨0, here.before, here.after⟩ fs [] →
      ∀ new, MarksIn P new → (endsAt here go rest (new ++ m)).map read = found (.done m₀))
    (hstep : ∀ m₀ on fs', .step m₀ on fs' ∈ stackItems ⟨0, here.before, here.after⟩ fs [] →
      ∀ new, MarksIn P new → (∀ f ∈ fs'.map (Frame.shift k), f.GroupsIn P) →
        ((Item.step (new ++ m) on (fs'.map (Frame.shift k) ++ rest)).ends here.after go).map read =
          found (.step m₀ on fs')) :
    (endsAt here go (fs.map (Frame.shift k) ++ rest) m).map read =
      (stackItems ⟨0, here.before, here.after⟩ fs []).flatMap found := by
  have hlooks : ∀ l : Look, True → l.holds ⟨0, here.before, here.after⟩ = l.holds here := by
    intro l _
    cases l <;> rfl
  rw [endsAt_append, List.map_flatMap]
  refine flatMap_eq_of_forall₂ (alike_stackItems hlooks (fun f _ => f.looksIn_true) [] m) ?_
  intro item hitem item' hitem' hlike
  obtain ⟨made, hmade, rfl⟩ := exists_of_mem_stackItems hfs hitem'
  cases made with
  | done new =>
    generalize hafter : (Item.done new).after m = item' at hlike
    cases hlike with
    | step hfs' => cases hafter
    | done =>
      obtain rfl := Item.done.inj hafter
      exact hdone _ hitem new hmade
  | step new on gs =>
    generalize hafter : (Item.step new on gs).after m = item' at hlike
    cases hlike with
    | done => cases hafter
    | step hfs' =>
      obtain ⟨rfl, rfl, rfl⟩ := Item.step.inj hafter
      exact hstep _ _ _ hitem new hmade.1 hmade.2

/-- What is read off the outcomes of a stack is what is read off those of its lower part,
    behind every split of the text by its upper part. -/
theorem map_outcomes_append (hfs : ∀ f ∈ fs.map (Frame.shift k), f.GroupsIn P) {position : Nat}
    {before : Option Char} {cs : List Char} {found : List Char × List Char → List β}
    (hfound : ∀ p ∈ splits before cs fs, ∀ new, MarksIn P new →
      (outcomes (position + p.1.length) (p.1.getLast?.or before) p.2 rest (new ++ m)).map read =
        found p) :
    (outcomes position before cs (fs.map (Frame.shift k) ++ rest) m).map read =
      (splits before cs fs).flatMap found := by
  -- along the text, as the upper part changes with every character it takes
  induction cs generalizing fs position before m found with
  | nil =>
    rw [splits, List.flatMap_assoc]
    refine map_endsAt_append hfs ?_ fun _ _ _ _ _ _ _ => rfl
    intro m₀ hm₀ new hnew
    rw [Item.splits, List.flatMap_singleton]
    exact hfound ([], []) (nil_mem_splits_iff.mpr ⟨m₀, hm₀⟩) new hnew
  | cons c cs ih =>
    rw [splits, List.flatMap_assoc]
    refine map_endsAt_append hfs ?_ ?_
    · intro m₀ hm₀ new hnew
      rw [Item.splits, List.flatMap_singleton]
      exact hfound ([], c :: cs) (nil_mem_splits_iff.mpr ⟨m₀, hm₀⟩) new hnew
    · intro m₀ on fs' hm₀ new hnew hfs'
      simp only [Item.ends, Item.splits]
      split
      · rename_i hhas
        rw [List.flatMap_map]
        refine ih hfs' ?_
        intro p hp new' hnew'
        have hbehind := hfound (c :: p.1, p.2)
          (cons_mem_splits_iff.mpr ⟨m₀, on, fs', hm₀, hhas, hp⟩) _ (hnew'.append hnew)
        have hlast : (c :: p.1).getLast?.or before = p.1.getLast?.or (some c) := by
          rw [List.getLast?_cons]
          cases p.1.getLast? <;> rfl
        rw [hlast, List.length_cons, List.append_assoc, Nat.add_comm p.1.length,
          ← Nat.add_assoc] at hbehind
        exact hbehind
      · rfl

end Behind

end Wayfinder.Regex
