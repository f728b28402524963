/-
  Wayfinder/Proofs/Regex/Groups.lean
  ==================================
  **Which groups leave marks.**

  Working off a stack makes marks of the groups on it and of no others, and takes some
  characters from the text.  So an outcome of a stack is an outcome of its lower part,
  at a later place and with marks added by its upper part.
-/
import Wayfinder.Proofs.Regex.Stack

namespace Wayfinder.Regex

/-! ## 1. Groups of expressions, frames and items -/

/-- Whether the number of every group of an expression has a property. -/
def Expr.GroupsIn (P : Nat → Prop) : Expr → Prop
  | .empty | .literal _ | .set _ | .look _ => True
  | .repeated _ _ _ body => body.GroupsIn P
  | .capture i body => P i ∧ body.GroupsIn P
  | .seq first rest | .alt first rest => first.GroupsIn P ∧ rest.GroupsIn P

/-- Whether the number of every group of a frame has a property. -/
def Frame.GroupsIn (P : Nat → Prop) : Frame → Prop
  | .run e => e.GroupsIn P
  | .close i => P i
  | .again _ body => body.GroupsIn P

/-- The group of a mark. -/
def Mark.index : Mark → Nat
  | .opened i _ => i
  | .closed i _ => i

/-- Whether marks are of groups with a property. -/
def MarksIn (P : Nat → Prop) (m : Marks) : Prop := ∀ mark ∈ m, P mark.index

/-- Whether an item only knows groups with a property. -/
def Item.GroupsIn (P : Nat → Prop) : Item → Prop
  | .step m _ fs => MarksIn P m ∧ ∀ f ∈ fs, f.GroupsIn P
  | .done m => MarksIn P m

/-- Whether items only make marks of groups with a property. -/
def Makes (P : Nat → Prop) (f : Marks → List Item) : Prop :=
  ∀ m, MarksIn P m → ∀ item ∈ f m, item.GroupsIn P

theorem Expr.GroupsIn.imp {P Q : Nat → Prop} (h : ∀ i, P i → Q i) {e : Expr}
    (he : e.GroupsIn P) : e.GroupsIn Q := by
  induction e with
  | repeated min max greedy body ih => exact ih he
  | capture i body ih => exact ⟨h i he.1, ih he.2⟩
  | seq a b iha ihb => exact ⟨iha he.1, ihb he.2⟩
  | alt a b iha ihb => exact ⟨iha he.1, ihb he.2⟩
  | _ => trivial

theorem Expr.GroupsIn.and {P Q : Nat → Prop} {e : Expr} (hP : e.GroupsIn P) (hQ : e.GroupsIn Q) :
    e.GroupsIn fun i => P i ∧ Q i := by
  induction e with
  | repeated min max greedy body ih => exact ih hP hQ
  | capture i body ih => exact ⟨⟨hP.1, hQ.1⟩, ih hP.2 hQ.2⟩
  | seq a b iha ihb => exact ⟨iha hP.1 hQ.1, ihb hP.2 hQ.2⟩
  | alt a b iha ihb => exact ⟨iha hP.1 hQ.1, ihb hP.2 hQ.2⟩
  | _ => trivial

theorem Expr.groupsIn_lastGroup (e : Expr) :
    e.GroupsIn (· ≤ e.lastGroup) := by
  induction e with
  | repeated min max greedy body ih => exact ih
  | capture i body ih =>
    exact ⟨Nat.le_max_left _ _, ih.imp fun j hj => Nat.le_trans hj (Nat.le_max_right _ _)⟩
  | seq first rest ihFirst ihRest =>
    exact ⟨ihFirst.imp fun j hj => Nat.le_trans hj (Nat.le_max_left _ _),
      ihRest.imp fun j hj => Nat.le_trans hj (Nat.le_max_right _ _)⟩
  | alt first rest ihFirst ihRest =>
    exact ⟨ihFirst.imp fun j hj => Nat.le_trans hj (Nat.le_max_left _ _),
      ihRest.imp fun j hj => Nat.le_trans hj (Nat.le_max_right _ _)⟩
  | _ => trivial

theorem Expr.lastGroup_le {e : Expr} {bound : Nat}
    (h : e.GroupsIn (· ≤ bound)) : e.lastGroup ≤ bound := by
  induction e with
  | repeated min max greedy body ih => exact ih h
  | capture i body ih => exact Nat.max_le.mpr ⟨h.1, ih h.2⟩
  | seq first rest ihFirst ihRest => exact Nat.max_le.mpr ⟨ihFirst h.1, ihRest h.2⟩
  | alt first rest ihFirst ihRest => exact Nat.max_le.mpr ⟨ihFirst h.1, ihRest h.2⟩
  | _ => exact Nat.zero_le _

theorem MarksIn.imp {P Q : Nat → Prop} (h : ∀ i, P i → Q i) {m : Marks} (hm : MarksIn P m) :
    MarksIn Q m :=
  fun mark hmark => h _ (hm mark hmark)

theorem MarksIn.append {P : Nat → Prop} {m m' : Marks} (hm : MarksIn P m) (hm' : MarksIn P m') :
    MarksIn P (m ++ m') :=
  List.forall_mem_append.mpr ⟨hm, hm'⟩

theorem MarksIn.cons {P : Nat → Prop} {mark : Mark} {m : Marks} (hmark : P mark.index)
    (hm : MarksIn P m) : MarksIn P (mark :: m) :=
  List.forall_mem_cons.mpr ⟨hmark, hm⟩

/-! ## 2. Unfolding -/

section Unfolding

variable {P : Nat → Prop}

theorem mem_of_mem_firstDone {items : List Item} {item : Item} (h : item ∈ firstDone items) :
    item ∈ items := by
  induction items with
  | nil => cases h
  | cons i items ih =>
    cases i with
    | step m on fs =>
      rcases List.mem_cons.mp h with rfl | h
      · exact List.mem_cons_self
      · exact List.mem_cons_of_mem _ (ih h)
    | done m =>
      rcases List.mem_cons.mp h with rfl | h
      · exact List.mem_cons_self
      · exact List.mem_cons_of_mem _ (List.mem_of_mem_filter h)

theorem groupsIn_andThen {rest : List Frame} {next : Marks → List Item}
    (hrest : ∀ f ∈ rest, f.GroupsIn P) (hnext : Makes P next) {items : List Item}
    (hitems : ∀ item ∈ items, item.GroupsIn P) :
    ∀ item ∈ andThen rest next items, item.GroupsIn P := by
  induction items with
  | nil => intro item h; cases h
  | cons i items ih =>
    have ih' := ih fun item hitem => hitems item (List.mem_cons_of_mem _ hitem)
    have hi := hitems i List.mem_cons_self
    intro item h
    cases i with
    | step m on fs =>
      rcases List.mem_cons.mp h with rfl | h
      · exact ⟨hi.1, List.forall_mem_append.mpr ⟨hi.2, hrest⟩⟩
      · exact ih' item h
    | done m =>
      rcases List.mem_append.mp h with h | h
      · exact hnext m hi item h
      · exact ih' item h

theorem groupsIn_orSkip {greedy : Bool} {m : Marks} (hm : MarksIn P m) {items : List Item}
    (hitems : ∀ item ∈ items, item.GroupsIn P) :
    ∀ item ∈ orSkip greedy m items, item.GroupsIn P := by
  intro item h
  have hmem : item ∈ items ∨ item = .done m := by
    cases greedy with
    | true => simpa using mem_of_mem_firstDone h
    | false => simpa [or_comm] using mem_of_mem_firstDone h
  rcases hmem with h | rfl
  · exact hitems item h
  · exact hm

namespace Makes

theorem done : Makes P fun m => [.done m] := by
  intro m hm item h
  obtain rfl := List.mem_singleton.mp h
  exact hm

theorem andThen {f next : Marks → List Item} {rest : List Frame} (hf : Makes P f)
    (hrest : ∀ f ∈ rest, f.GroupsIn P) (hnext : Makes P next) :
    Makes P fun m => andThen rest next (f m) :=
  fun m hm => groupsIn_andThen hrest hnext (hf m hm)

theorem orSkip {f : Marks → List Item} (hf : Makes P f) (greedy : Bool) :
    Makes P fun m => orSkip greedy m (f m) :=
  fun m hm => groupsIn_orSkip hm (hf m hm)

variable {once : Marks → List Item} {body : Expr} (honce : Makes P once)
  (hbody : body.GroupsIn P) (greedy : Bool)

include honce hbody

theorem loopItems : Makes P (loopItems greedy body once) :=
  honce.andThen (by simpa [Frame.GroupsIn] using hbody) done

theorem atLeastItems (min : Nat) : Makes P (atLeastItems greedy body once min) := by
  induction min with
  | zero => exact (honce.loopItems hbody greedy).orSkip greedy
  | succ n ih =>
    cases n with
    | zero => exact honce.loopItems hbody greedy
    | succ n => exact honce.andThen (by simpa [Frame.GroupsIn, Expr.GroupsIn] using hbody) ih

theorem atMostItems (max : Nat) : Makes P (atMostItems greedy body once max) := by
  induction max with
  | zero => exact done
  | succ n ih =>
    exact (honce.andThen (by simpa [Frame.GroupsIn, Expr.GroupsIn] using hbody) ih).orSkip greedy

theorem betweenItems (extra min : Nat) : Makes P (betweenItems greedy body once extra min) := by
  induction min with
  | zero => exact honce.atMostItems hbody greedy extra
  | succ n ih => exact honce.andThen (by simpa [Frame.GroupsIn, Expr.GroupsIn] using hbody) ih

end Makes

theorem Expr.makes_items (here : Place) {e : Expr} (he : e.GroupsIn P) :
    Makes P (e.items here) := by
  induction e with
  | empty => exact Makes.done
  | literal cs =>
    intro m hm item h
    cases cs with
    | nil =>
      obtain rfl := List.mem_singleton.mp h
      exact hm
    | cons c cs =>
      obtain rfl := List.mem_singleton.mp h
      refine ⟨hm, ?_⟩
      intro f hf
      split at hf
      · cases hf
      · obtain rfl := List.mem_singleton.mp hf
        trivial
  | set s =>
    intro m hm item h
    obtain rfl := List.mem_singleton.mp h
    exact ⟨hm, by simp⟩
  | look l =>
    intro m hm item h
    simp only [items] at h
    split at h
    · obtain rfl := List.mem_singleton.mp h
      exact hm
    · cases h
  | repeated min max greedy body ih =>
    have hbody : body.GroupsIn P := he
    cases max with
    | none => exact (ih hbody).atLeastItems hbody greedy min
    | some max => exact (ih hbody).betweenItems hbody greedy _ min
  | capture i body ih =>
    intro m hm
    refine groupsIn_andThen (by simpa [Frame.GroupsIn] using he.1) ?_
      (ih he.2 _ (hm.cons he.1))
    intro m' hm' item h
    obtain rfl := List.mem_singleton.mp h
    exact hm'.cons he.1
  | seq first rest ihFirst ihRest =>
    exact (ihFirst he.1).andThen (by simpa [Frame.GroupsIn] using he.2) (ihRest he.2)
  | alt first rest ihFirst ihRest =>
    intro m hm item h
    rcases List.mem_append.mp (mem_of_mem_firstDone h) with h | h
    · exact ihFirst he.1 m hm item h
    · exact ihRest he.2 m hm item h

theorem Frame.makes_items (here : Place) {f : Frame} (hf : f.GroupsIn P) :
    Makes P (f.items here) := by
  cases f with
  | run e => exact Expr.makes_items here hf
  | close i =>
    intro m hm item h
    obtain rfl := List.mem_singleton.mp h
    exact hm.cons hf
  | again greedy body =>
    refine ((Expr.makes_items here hf).andThen (by simpa [Frame.GroupsIn] using hf) ?_).orSkip greedy
    intro m hm item h
    cases h

theorem makes_stackItems (here : Place) {fs : List Frame} (hfs : ∀ f ∈ fs, f.GroupsIn P) :
    Makes P (stackItems here fs) := by
  induction fs with
  | nil => exact Makes.done
  | cons f fs ih =>
    have hfs' := List.forall_mem_cons.mp hfs
    exact (Frame.makes_items here hfs'.1).andThen hfs'.2 (ih hfs'.2)

/-- The items of a stack add marks of its groups to those made before. -/
theorem exists_of_mem_stackItems {here : Place} {fs : List Frame} (hfs : ∀ f ∈ fs, f.GroupsIn P)
    {m : Marks} {item : Item} (h : item ∈ stackItems here fs m) :
    ∃ item' : Item, item'.GroupsIn P ∧ item = item'.after m := by
  have hadds := adds_stackItems here fs [] m
  rw [List.nil_append] at hadds
  rw [hadds, List.mem_map] at h
  obtain ⟨item', hitem', rfl⟩ := h
  exact ⟨item', makes_stackItems here hfs [] (by simp [MarksIn]) item' hitem', rfl⟩

end Unfolding

/-! ## 3. Outcomes through the upper part of a stack -/

/-- An outcome of a stack is one of its lower part, behind the characters that the upper
    part takes, and with the marks that it makes. -/
theorem exists_of_mem_outcomes_append {P : Nat → Prop} {fs rest : List Frame}
    (hfs : ∀ f ∈ fs, f.GroupsIn P) {position : Nat} {before : Option Char} {cs : List Char}
    {m m' : Marks} (h : m' ∈ outcomes position before cs (fs ++ rest) m) :
    ∃ taken left new, cs = taken ++ left ∧ MarksIn P new ∧
      m' ∈ outcomes (position + taken.length) (taken.getLast?.or before) left rest (new ++ m) := by
  -- the upper part ends here, or it takes a character and goes on
  induction cs generalizing position before fs m with
  | nil =>
    simp only [outcomes, endsAt_append, List.mem_flatMap] at h
    obtain ⟨item, hitem, hends⟩ := h
    obtain ⟨item', hgroups, rfl⟩ := exists_of_mem_stackItems hfs hitem
    cases item' with
    | done new => exact ⟨[], [], new, rfl, hgroups, hends⟩
    | step new on fs' => cases hends
  | cons c cs ih =>
    simp only [outcomes, endsAt_append, List.mem_flatMap] at h
    obtain ⟨item, hitem, hends⟩ := h
    obtain ⟨item', hgroups, rfl⟩ := exists_of_mem_stackItems hfs hitem
    cases item' with
    | done new => exact ⟨[], c :: cs, new, rfl, hgroups, hends⟩
    | step new on fs' =>
      simp only [Item.after, Item.ends] at hends
      split at hends
      · obtain ⟨taken, left, new', rfl, hnew', hm'⟩ := ih hgroups.2 hends
        refine ⟨c :: taken, left, new' ++ new, rfl, hnew'.append hgroups.1, ?_⟩
        have hlast : (c :: taken).getLast?.or before = taken.getLast?.or (some c) := by
          rw [List.getLast?_cons]
          cases taken.getLast? <;> rfl
        rw [hlast, List.length_cons, List.append_assoc, Nat.add_comm taken.length, ← Nat.add_assoc]
        exact hm'
      · cases hends

end Wayfinder.Regex
