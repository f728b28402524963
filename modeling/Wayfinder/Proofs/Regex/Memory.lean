/-
  Wayfinder/Proofs/Regex/Memory.lean
  ==================================
  **The memory of a row.**

  A row needs the memory that its factors need, one after the other: putting neighbouring
  literals together saves nothing, and it does not matter from which number groups count.
  A row between the start and the end of the text is anchored in both directions, so the
  frame around it is the same whatever stands between them.
-/
import Wayfinder.Proofs.Regex.Shift

namespace Wayfinder.Regex.Expr

variable {dir : Direction} {e : Expr} {es : List Expr}

/-! ## 1. Other numbers -/

theorem minLength_shift (k : Nat) (e : Expr) : (e.shift k).minLength = e.minLength := by
  induction e <;> simp_all [shift, minLength]

theorem word?_shift (k : Nat) (e : Expr) : (e.shift k).word? = e.word? := by
  cases e <;> rfl

theorem words?_shift (k : Nat) (e : Expr) : (e.shift k).words? = e.words? := by
  cases e with
  | alt first rest =>
    have hbranches := branches_shift k (alt first rest)
    rw [branches, shift, branches] at hbranches
    rw [shift, words?, words?, hbranches, mapM_map_shift k (word?_shift k)]
  | _ => rfl

theorem isAlt_shift (k : Nat) (e : Expr) : (e.shift k).isAlt = e.isAlt := by
  cases e <;> rfl

theorem memory_shift (k : Nat) (inAlt : Bool) (e : Expr) :
    (e.shift k).memory dir inAlt = e.memory dir inAlt := by
  induction e generalizing inAlt with
  | repeated min max greedy body ih => simp only [shift, memory, minLength_shift, ih]
  | capture i body ih => cases dir <;> simp only [shift, memory, ih]
  | seq first rest ihFirst ihRest => simp only [shift, memory, ihFirst, ihRest]
  | alt first rest ihFirst ihRest =>
    have hwords := words?_shift k (alt first rest)
    rw [shift] at hwords ⊢
    simp only [memory, hwords, ihFirst, ihRest, isAlt_shift]
  | _ => rfl

/-! ## 2. Rows -/

/-- Whether an expression can be a factor of a row in its simple form. -/
def IsFactor : Expr → Prop
  | .empty | .seq _ _ => False
  | _ => True

/-- Whether a row has such factors only. -/
def IsRow (e : Expr) : Prop := ∀ f ∈ e.factors, f.IsFactor

theorem IsFactor.factors_eq (he : e.IsFactor) : e.factors = [e] := by
  cases e <;> first | rfl | exact he.elim

theorem IsFactor.isRow (he : e.IsFactor) : e.IsRow := by
  rw [IsRow, he.factors_eq]
  exact List.forall_mem_singleton.mpr he

theorem isFactor_prependFactor (he : e.IsFactor) (hes : ∀ f ∈ es, f.IsFactor) :
    ∀ f ∈ prependFactor e es, f.IsFactor := by
  unfold prependFactor
  split
  · exact List.forall_mem_cons.mpr ⟨trivial, (List.forall_mem_cons.mp hes).2⟩
  · exact List.forall_mem_cons.mpr ⟨he, hes⟩

theorem factors_ofFactors (hes : ∀ f ∈ es, f.IsFactor) : (ofFactors es).factors = es := by
  induction es with
  | nil => rfl
  | cons e es ih =>
    obtain ⟨he, hes⟩ := List.forall_mem_cons.mp hes
    cases es with
    | nil => exact he.factors_eq
    | cons e' es => exact congrArg (e :: ·) (ih hes)

/-- The factors that rows have together when they are put into one. -/
def joined (es : List Expr) : List Expr := (es.flatMap factors).foldr prependFactor []

theorem isFactor_joined (hes : ∀ e ∈ es, e.IsRow) : ∀ f ∈ joined es, f.IsFactor := by
  have hall : ∀ f ∈ es.flatMap factors, f.IsFactor := by
    intro f hf
    obtain ⟨e, he, hf⟩ := List.mem_flatMap.mp hf
    exact hes e he f hf
  rw [joined]
  generalize es.flatMap factors = fs at hall
  induction fs with
  | nil =>
    intro f hf
    cases hf
  | cons e fs ih =>
    obtain ⟨he, hfs⟩ := List.forall_mem_cons.mp hall
    exact isFactor_prependFactor he (ih hfs)

theorem factors_concat (hes : ∀ e ∈ es, e.IsRow) : (concat es).factors = joined es :=
  factors_ofFactors (isFactor_joined hes)

theorem isRow_concat (hes : ∀ e ∈ es, e.IsRow) : (concat es).IsRow := by
  rw [IsRow, factors_concat hes]
  exact isFactor_joined hes

/-! ## 3. Sums -/

/-- The memory for some expressions one after the other. -/
def totalMemory (dir : Direction) : List Expr → Nat
  | [] => 0
  | e :: es => e.memory dir false + totalMemory dir es

theorem totalMemory_append {fs : List Expr} :
    totalMemory dir (es ++ fs) = totalMemory dir es + totalMemory dir fs := by
  induction es with
  | nil => rw [List.nil_append, totalMemory, Nat.zero_add]
  | cons e es ih => rw [List.cons_append, totalMemory, totalMemory, ih, Nat.add_assoc]

theorem memory_literal_cons (inAlt : Bool) (c : Char) (cs : List Char) :
    (literal (c :: cs)).memory dir inAlt =
      stateSize * Unicode.encodedLength c.toNat + (literal cs).memory dir inAlt := by
  rw [memory, List.foldr_cons, Nat.mul_add]
  rfl

theorem memory_literal_append (inAlt : Bool) (as bs : List Char) :
    (literal (as ++ bs)).memory dir inAlt =
      (literal as).memory dir inAlt + (literal bs).memory dir inAlt := by
  induction as with
  | nil => exact (Nat.zero_add _).symm
  | cons c as ih =>
    rw [List.cons_append, memory_literal_cons, ih, memory_literal_cons, Nat.add_assoc]

theorem totalMemory_prependFactor :
    totalMemory dir (prependFactor e es) = e.memory dir false + totalMemory dir es := by
  unfold prependFactor
  split
  · rw [totalMemory, totalMemory, memory_literal_append, Nat.add_assoc]
  · rfl

theorem prependFactor_ne_nil : prependFactor e es ≠ [] := by
  unfold prependFactor
  split <;> exact List.cons_ne_nil _ _

theorem joined_ne_nil (hsome : es.flatMap factors ≠ []) : joined es ≠ [] := by
  obtain ⟨f, fs, hfs⟩ := List.exists_cons_of_ne_nil hsome
  rw [joined, hfs]
  exact prependFactor_ne_nil

theorem totalMemory_joined :
    totalMemory dir (joined es) = totalMemory dir (es.flatMap factors) := by
  rw [joined]
  generalize es.flatMap factors = fs
  induction fs with
  | nil => rfl
  | cons f fs ih => rw [List.foldr_cons, totalMemory_prependFactor, ih, totalMemory]

theorem memory_ofFactors (hes : es ≠ []) :
    (ofFactors es).memory dir false = totalMemory dir es := by
  induction es with
  | nil => exact absurd rfl hes
  | cons e es ih =>
    cases es with
    | nil => rfl
    | cons e' es => exact congrArg (e.memory dir false + ·) (ih (List.cons_ne_nil e' es))

/-- A row needs what the factors of its parts need. -/
theorem memory_concat (hsome : es.flatMap factors ≠ []) :
    (concat es).memory dir false = totalMemory dir (es.flatMap factors) := by
  rw [← totalMemory_joined]
  exact memory_ofFactors (joined_ne_nil hsome)

/-! ## 4. Anchors -/

theorem prependFactor_look (l : Look) : prependFactor (.look l) es = .look l :: es := by
  cases es <;> rfl

/-- What is put in front of an assertion leaves the assertion where it is. -/
theorem exists_prependFactor_snoc (e : Expr) (es : List Expr) (l : Look) :
    ∃ fs, prependFactor e (es ++ [.look l]) = fs ++ [.look l] := by
  cases e with
  | literal a =>
    cases es with
    | nil => exact ⟨[.literal a], rfl⟩
    | cons f es =>
      cases f with
      | literal b => exact ⟨.literal (a ++ b) :: es, rfl⟩
      | _ => exact ⟨.literal a :: _ :: es, rfl⟩
  | _ => exact ⟨_ :: es, rfl⟩

theorem exists_joined_snoc {fs : List Expr} {l : Look}
    (hlast : es.flatMap factors = fs ++ [.look l]) :
    ∃ gs, joined es = gs ++ [.look l] := by
  rw [joined, hlast, List.foldr_append]
  change ∃ gs, fs.foldr prependFactor [.look l] = gs ++ [.look l]
  clear hlast
  induction fs with
  | nil => exact ⟨[], rfl⟩
  | cons f fs ih =>
    obtain ⟨gs, hgs⟩ := ih
    rw [List.foldr_cons, hgs]
    exact exists_prependFactor_snoc f gs l

theorem eq_empty_of_factors (h : e.factors = []) : e = .empty := by
  cases e <;> first | rfl | cases h

theorem isAnchored_forward {f : Expr} (hfirst : e.factors = f :: es)
    (hf : f.isAnchored .forward = true) : e.isAnchored .forward = true := by
  cases e with
  | empty => cases hfirst
  | seq first rest =>
    obtain rfl : first = f := (List.cons.inj hfirst).1
    simp [isAnchored, hf]
  | _ =>
    obtain rfl := (List.cons.inj hfirst).1
    exact hf

theorem isAnchored_backward {f : Expr} (hlast : e.factors = es ++ [f])
    (hf : f.isAnchored .backward = true) : e.isAnchored .backward = true := by
  induction e generalizing es with
  | empty => simp [factors] at hlast
  | seq first rest _ ih =>
    rw [factors] at hlast
    cases es with
    | nil =>
      obtain ⟨rfl, hrest⟩ := List.cons.inj hlast
      simp [isAnchored, eq_empty_of_factors hrest, onlyEmpty, hf]
    | cons e' es => simp [isAnchored, ih (List.cons.inj hlast).2]
  | _ =>
    obtain ⟨-, hf'⟩ := List.append_eq_singleton_iff.mp hlast.symm |>.resolve_right (by simp)
    rwa [← List.singleton_inj.mp hf']

theorem not_isWordList {l : Look} (hfirst : e.factors = .look l :: es) : e.isWordList = false := by
  cases e <;> first | rfl | cases hfirst

/-- An anchored expression that is no list of words fits if in both directions the frame
    leaves enough memory for it. -/
theorem fits_iff_of_anchored (hwords : e.isWordList = false)
    (hanchored : ∀ dir, e.isAnchored dir = true) :
    e.fits = true ↔ ∀ dir, frameSize dir true + e.memory dir false ≤ memoryLimit := by
  simp only [fits, hwords, Bool.false_or, List.all_eq_true, fitsIn, hanchored, decide_eq_true_eq]
  exact ⟨fun h dir => h dir (by cases dir <;> simp), fun h dir _ => h dir⟩

/-- A row between the start and the end of the text needs the frame of an anchored
    expression and what its factors need. -/
theorem fits_between_edges (hrow : e.IsRow) (hlast : e.factors = es ++ [.look .textEnd]) :
    (concat [.look .textStart, e]).fits = true ↔
      ∀ dir, frameSize dir true + (stateSize + totalMemory dir e.factors) ≤ memoryLimit := by
  have hstart : (look .textStart).factors = [.look .textStart] := rfl
  have hrows : ∀ f ∈ [.look .textStart, e], f.IsRow := by
    simpa using ⟨IsFactor.isRow trivial, hrow⟩
  have hfirst : (concat [.look .textStart, e]).factors = .look .textStart :: joined [e] := by
    rw [factors_concat hrows]
    simp [joined, hstart, prependFactor_look]
  obtain ⟨fs, hend⟩ := @exists_joined_snoc [.look .textStart, e] (.look .textStart :: es) .textEnd
    (by simp [hstart, hlast])
  rw [← factors_concat hrows] at hend
  have hanchored : ∀ dir, (concat [.look .textStart, e]).isAnchored dir = true := by
    intro dir
    cases dir with
    | forward => exact isAnchored_forward hfirst rfl
    | backward => exact isAnchored_backward hend rfl
  rw [fits_iff_of_anchored (not_isWordList hfirst) hanchored]
  refine forall_congr' fun dir => ?_
  rw [memory_concat (by simp [hstart])]
  simp only [List.flatMap_cons, List.flatMap_nil, List.append_nil, hstart, List.singleton_append,
    totalMemory, memory]

end Wayfinder.Regex.Expr
