/-
  Wayfinder/Proofs/Regex/Outcomes.lean
  ====================================
  **The matcher as a search for outcomes.**

  The matcher runs many threads at once.  What it finds is easier to say of one thread
  at a time: a stack of frames at a place of a text has a list of *outcomes*, the marks
  of all its ways to end, in order of priority.  The matcher finds the first of them.
  That it forgets threads whose frames it has seen does no harm, because whether a stack
  has outcomes does not depend on the marks made before.
-/
import Mathlib.Data.List.Basic
import Wayfinder.Regex.Match

namespace Wayfinder.Regex

/-! ## 1. Marks made before -/

/-- An item with marks that were made before. -/
def Item.after (m : Marks) : Item → Item
  | .step m' on fs => .step (m' ++ m) on fs
  | .done m' => .done (m' ++ m)

/-- Whether items only add to the marks they are given. -/
def Adds (f : Marks → List Item) : Prop := ∀ m' m, f (m' ++ m) = (f m').map (Item.after m)

theorem steps_map_after (m : Marks) (items : List Item) :
    steps (items.map (Item.after m)) = (steps items).map (Item.after m) := by
  induction items with
  | nil => rfl
  | cons item items ih =>
    rw [steps] at ih ⊢
    cases item with
    | step m' on fs => simpa [steps, Item.after, Item.isDone] using ih
    | done m' => simpa [steps, Item.after, Item.isDone] using ih

theorem firstDone_map_after (m : Marks) (items : List Item) :
    firstDone (items.map (Item.after m)) = (firstDone items).map (Item.after m) := by
  induction items with
  | nil => rfl
  | cons item items ih =>
    cases item with
    | step m' on fs => simp [firstDone, Item.after, ih]
    | done m' => simp [firstDone, Item.after, steps_map_after]

theorem andThen_map_after {rest : List Frame} {next : Marks → List Item} (hnext : Adds next)
    (m : Marks) (items : List Item) :
    andThen rest next (items.map (Item.after m)) =
      (andThen rest next items).map (Item.after m) := by
  induction items with
  | nil => rfl
  | cons item items ih =>
    cases item with
    | step m' on fs => simp [andThen, Item.after, ih]
    | done m' => simp [andThen, Item.after, ih, hnext m' m]

theorem orSkip_append (greedy : Bool) (m' m : Marks) (items : List Item) :
    orSkip greedy (m' ++ m) (items.map (Item.after m)) =
      (orSkip greedy m' items).map (Item.after m) := by
  cases greedy with
  | true =>
    rw [orSkip, orSkip, if_pos rfl, if_pos rfl, ← firstDone_map_after]
    simp [Item.after]
  | false => simp [orSkip, ← firstDone_map_after, Item.after]

namespace Adds

theorem done : Adds fun m => [.done m] := fun _ _ => rfl

theorem andThen {f next : Marks → List Item} (hf : Adds f) (hnext : Adds next)
    (rest : List Frame) : Adds fun m => andThen rest next (f m) := by
  intro m' m
  simp only [hf m' m, andThen_map_after hnext]

theorem orSkip {f : Marks → List Item} (hf : Adds f) (greedy : Bool) :
    Adds fun m => orSkip greedy m (f m) := by
  intro m' m
  simp only [hf m' m, orSkip_append]

variable {once : Marks → List Item} (honce : Adds once) (greedy : Bool) (body : Expr)

include honce

theorem loopItems : Adds (loopItems greedy body once) := honce.andThen done _

theorem atLeastItems (min : Nat) : Adds (atLeastItems greedy body once min) := by
  induction min with
  | zero => exact (honce.loopItems greedy body).orSkip greedy
  | succ n ih =>
    cases n with
    | zero => exact honce.loopItems greedy body
    | succ n => exact honce.andThen ih _

theorem atMostItems (max : Nat) : Adds (atMostItems greedy body once max) := by
  induction max with
  | zero => exact done
  | succ n ih => exact (honce.andThen ih _).orSkip greedy

theorem betweenItems (extra min : Nat) : Adds (betweenItems greedy body once extra min) := by
  induction min with
  | zero => exact honce.atMostItems greedy body extra
  | succ n ih => exact honce.andThen ih _

end Adds

theorem Expr.adds_items (here : Place) (e : Expr) : Adds (e.items here) := by
  induction e with
  | empty => exact Adds.done
  | literal cs => cases cs <;> exact fun _ _ => rfl
  | set s => exact fun _ _ => rfl
  | look l =>
    intro m' m
    simp only [items]
    split <;> rfl
  | repeated min max greedy body ih =>
    cases max with
    | none => exact ih.atLeastItems greedy body min
    | some max => exact ih.betweenItems greedy body _ min
  | capture i body ih =>
    intro m' m
    have hbody := ih (.opened i here.position :: m') m
    simp only [items]
    rw [← List.cons_append, hbody, andThen_map_after fun _ _ => rfl]
  | seq first rest ihFirst ihRest => exact ihFirst.andThen ihRest _
  | alt first rest ihFirst ihRest =>
    intro m' m
    simp only [items]
    rw [ihFirst, ihRest, ← List.map_append, firstDone_map_after]

theorem Frame.adds_items (here : Place) (f : Frame) : Adds (f.items here) := by
  cases f with
  | run e => exact e.adds_items here
  | close i => exact fun _ _ => rfl
  | again greedy body =>
    exact ((body.adds_items here).andThen (fun _ _ => rfl) _).orSkip greedy

theorem adds_stackItems (here : Place) (fs : List Frame) : Adds (stackItems here fs) := by
  induction fs with
  | nil => exact Adds.done
  | cons f fs ih => exact (f.adds_items here).andThen ih _

/-! ## 2. Outcomes -/

/-- The marks of the ways to end from an item, where `go` tells those of frames behind the
    next character. -/
def Item.ends (next : Option Char) (go : List Frame → Marks → List Marks) : Item → List Marks
  | .done m => [m]
  | .step m on fs =>
    match next with
    | some c => if on.has c then go fs m else []
    | none => []

/-- The marks of the ways to end from frames at a place. -/
def endsAt (here : Place) (go : List Frame → Marks → List Marks) (fs : List Frame) (m : Marks) :
    List Marks :=
  (stackItems here fs m).flatMap (Item.ends here.after go)

/-- The marks of all ways to end from frames before the rest of a text, in order of
    priority. -/
def outcomes (position : Nat) (before : Option Char) :
    List Char → List Frame → Marks → List Marks
  | [] => endsAt ⟨position, before, none⟩ fun _ _ => []
  | c :: cs => endsAt ⟨position, before, some c⟩ (outcomes (position + 1) (some c) cs)

/-- Whether the ways to end only add to the marks they are given. -/
def AddsEnds (go : List Frame → Marks → List Marks) : Prop :=
  ∀ fs m' m, go fs (m' ++ m) = (go fs m').map (· ++ m)

theorem Item.ends_after {next : Option Char} {go : List Frame → Marks → List Marks}
    (hgo : AddsEnds go) (m : Marks) (item : Item) :
    (item.after m).ends next go = (item.ends next go).map (· ++ m) := by
  cases item with
  | done m' => rfl
  | step m' on fs =>
    cases next with
    | none => rfl
    | some c =>
      simp only [Item.after, Item.ends]
      split
      · exact hgo fs m' m
      · rfl

theorem addsEnds_endsAt {go : List Frame → Marks → List Marks} (hgo : AddsEnds go) (here : Place) :
    AddsEnds (endsAt here go) := by
  intro fs m' m
  rw [endsAt, endsAt, adds_stackItems, List.flatMap_map, List.map_flatMap]
  simp only [Item.ends_after hgo]

theorem addsEnds_outcomes (position : Nat) (before : Option Char) (cs : List Char) :
    AddsEnds (outcomes position before cs) := by
  induction cs generalizing position before with
  | nil => exact addsEnds_endsAt (fun _ _ _ => rfl) _
  | cons c cs ih => exact addsEnds_endsAt (ih (position + 1) (some c)) _

/-- Whether there are outcomes does not depend on the marks made before. -/
theorem AddsEnds.eq_nil_iff {go : List Frame → Marks → List Marks} (hgo : AddsEnds go)
    (fs : List Frame) (m : Marks) : go fs m = [] ↔ go fs [] = [] := by
  have h := hgo fs [] m
  rw [List.nil_append] at h
  rw [h, List.map_eq_nil_iff]

/-! ## 3. The matcher finds the first outcome -/

/-- What is found up to the first end is found among all items. -/
theorem head?_flatMap_ends (next : Option Char) (go : List Frame → Marks → List Marks)
    (items : List Item) :
    (items.flatMap (Item.ends next go)).head? =
      (((untilDone items).1.flatMap (Item.ends next go)).head?).or (untilDone items).2 := by
  induction items with
  | nil => rfl
  | cons item items ih =>
    cases item with
    | done m => rfl
    | step m on fs =>
      simp only [untilDone, List.flatMap_cons, List.head?_append, ih, Option.or_assoc]

/-- The items up to the first end all need a character. -/
theorem ends_none_untilDone (go : List Frame → Marks → List Marks) (items : List Item) :
    (untilDone items).1.flatMap (Item.ends none go) = [] := by
  induction items with
  | nil => rfl
  | cons item items ih =>
    cases item with
    | done m => rfl
    | step m on fs => simpa [untilDone, Item.ends] using ih

/-- Forgetting a thread whose frames were seen loses nothing, where the frames seen have no
    outcome. -/
theorem head?_survivors {go : List Frame → Marks → List Marks} (hgo : AddsEnds go) (c : Char)
    (items : List Item) (hitems : ∀ item ∈ items, item.isDone = false) (seen : List (List Frame))
    (hseen : ∀ fs ∈ seen, go fs [] = []) :
    ((survivors c seen items).flatMap fun t => go t.frames t.marks).head? =
      (items.flatMap (Item.ends (some c) go)).head? := by
  induction items generalizing seen with
  | nil => rfl
  | cons item items ih =>
    have ih' := ih fun i hi => hitems i (List.mem_cons_of_mem _ hi)
    cases item with
    | done m => simp [Item.isDone] at hitems
    | step m on fs =>
      rw [List.flatMap_cons, survivors]
      simp only [Item.ends]
      by_cases hhas : on.has c = true
      · by_cases hold : fs ∈ seen
        · have hnone : go fs m = [] := (hgo.eq_nil_iff fs m).mpr (hseen fs hold)
          simpa [hhas, hold, hnone] using ih' seen hseen
        · have hkeep : (on.has c && !seen.contains fs) = true := by simp [hhas, hold]
          rw [if_pos hkeep, if_pos hhas, List.flatMap_cons]
          by_cases hnone : go fs m = []
          · -- nothing comes of this thread, so its frames may be forgotten
            have hseen' : ∀ gs ∈ fs :: seen, go gs [] = [] := by
              intro gs hgs
              rcases List.mem_cons.mp hgs with rfl | hgs
              · exact (hgo.eq_nil_iff gs m).mp hnone
              · exact hseen gs hgs
            simpa [hnone] using ih' _ hseen'
          · rw [List.head?_append_of_ne_nil _ hnone, List.head?_append_of_ne_nil _ hnone]
      · simpa [hhas] using ih' seen hseen

theorem isDone_of_mem_untilDone {items : List Item} {item : Item}
    (h : item ∈ (untilDone items).1) : item.isDone = false := by
  induction items with
  | nil => cases h
  | cons i items ih =>
    cases i with
    | done m => cases h
    | step m on fs =>
      rcases List.mem_cons.mp h with rfl | h
      · rfl
      · exact ih h

/-- Threads find the first of their outcomes. -/
theorem runThreads_eq (position : Nat) (before : Option Char) (cs : List Char)
    (threads : List Thread) (best : Option Marks) :
    runThreads position before cs threads best =
      ((threads.flatMap fun t => outcomes position before cs t.frames t.marks).head?).or best := by
  induction cs generalizing position before threads best with
  | nil =>
    have hends := head?_flatMap_ends none (fun _ _ => [])
      (threads.flatMap fun t => stackItems ⟨position, before, none⟩ t.frames t.marks)
    rw [ends_none_untilDone, List.flatMap_assoc] at hends
    rw [runThreads]
    simp only [outcomes, endsAt, hends]
    rfl
  | cons c cs ih =>
    have hends := head?_flatMap_ends (some c) (outcomes (position + 1) (some c) cs)
      (threads.flatMap fun t => stackItems ⟨position, before, some c⟩ t.frames t.marks)
    rw [List.flatMap_assoc] at hends
    simp only [runThreads, outcomes, endsAt]
    rw [hends, ← head?_survivors (addsEnds_outcomes _ _ cs) c _
      (fun _ hi => isDone_of_mem_untilDone hi) [] (by simp), Option.or_assoc]
    cases hnext : survivors c [] (untilDone (threads.flatMap fun t =>
        stackItems ⟨position, before, some c⟩ t.frames t.marks)).1 with
    | nil => rfl
    | cons t ts =>
      simp only
      rw [ih]

/-- An expression that matches at the start of a text only is found by its first outcome
    there. -/
theorem Expr.search_of_anchored {e : Expr}
    (h : ∀ position c cs, outcomes position (some c) cs [.run e] [] = []) (text : List Char) :
    e.search text = (outcomes 0 none text [.run e] []).head? := by
  have hlater : ∀ cs position c, e.searchFrom position (some c) cs = none := by
    intro cs
    induction cs with
    | nil =>
      intro position c
      rw [searchFrom, runThreads_eq]
      simp [h]
    | cons d ds ih =>
      intro position c
      rw [searchFrom, runThreads_eq, ih]
      simp [h]
  rw [search]
  cases text with
  | nil =>
    rw [searchFrom, runThreads_eq]
    simp
  | cons c cs =>
    rw [searchFrom, runThreads_eq, hlater]
    simp

end Wayfinder.Regex
