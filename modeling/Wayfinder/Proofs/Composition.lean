/-
  Wayfinder/Proofs/Composition.lean
  =================================
  **Fragments that are usable together.**

  A fragment is checked alone, but used inside the expression of a variant, between literal
  characters and other fragments.  What was fine alone can then be wrong: two fragments may
  give one name to two groups, the group around a fragment may nest it too deeply, and all
  together may be too large.  Nothing else can go wrong, as long as the parentheses around
  each fragment close where they should.
-/
import Wayfinder.Proofs.Assembly
import Wayfinder.Proofs.Regex.Memory
import Wayfinder.Proofs.Regex.Splice

namespace Wayfinder.Pattern

open Wayfinder.Regex

/-! ## 1. Fragments in parentheses -/

/-- Whether the parentheses around a fragment are read as a group that holds the fragment
    as it is read alone.  A comment that is open at the end of the fragment takes the
    closing parenthesis away. -/
def ReadsInGroup (f : String) : Prop :=
  parseTree ('(' :: (f.toList ++ [')'])) = .ok (.group (.capture none) (fragmentTree f))

theorem Usable.parse_fragmentTree [SizeLimit] {f : String} (hf : Usable f) :
    parse f.toList = .ok (fragmentTree f) := by
  obtain ⟨r, hr⟩ := hf
  obtain ⟨t, ht, -⟩ := Regex.compile_eq_ok hr
  rw [fragmentTree, ht]

theorem Usable.parseTree_fragmentTree [SizeLimit] {f : String} (hf : Usable f) :
    parseTree f.toList = .ok (fragmentTree f) :=
  (parse_eq_ok_iff.mp hf.parse_fragmentTree).1

/-- A usable fragment without a number sign has no comment. -/
theorem Usable.readsInGroup [SizeLimit] {f : String} (hf : Usable f) (hcomment : '#' ∉ f.toList) :
    ReadsInGroup f :=
  parseTree_closed hf.parseTree_fragmentTree hcomment

/-! ## 2. Names -/

/-- The names of the groups in a fragment. -/
def fragmentNames (f : String) : List String := (fragmentTree f).groupNames

/-- Whether no name is given to groups of two of the fragments. -/
def NamesApart (fragments : List String) : Prop :=
  fragments.Pairwise fun f g => ∀ n ∈ fragmentNames f, n ∉ fragmentNames g

instance (fragments : List String) : Decidable (NamesApart fragments) :=
  inferInstanceAs (Decidable (List.Pairwise _ _))

/-! ## 3. Reading -/

theorem parseLoop_step {st st' : ParseState} {c : Char} {rest rest' : List Char}
    (hextended : st.extended = false) (hstep : parseStep st c rest = .ok (st', rest'))
    (fuel : Nat) : parseLoop (fuel + 1) st (c :: rest) = parseLoop fuel st' rest' := by
  rw [parseLoop, hextended]
  simp only [skipBlanks, Bool.false_eq_true, if_false, hstep]
  rfl

theorem parseStep_of_not_needsEscape {c : Char} (hc : needsEscape c = false) (st : ParseState)
    (rest : List Char) : parseStep st c rest = .ok (st.push (.letter { char := c }), rest) := by
  unfold parseStep
  split <;> first | rfl | (exfalso; revert hc; decide)

theorem parseStep_of_needsEscape {c : Char} (hc : needsEscape c = true) (st : ParseState)
    (rest : List Char) :
    parseStep st '\\' (c :: rest) = .ok (st.push (.letter { char := c }), rest) := by
  have hmem := List.contains_iff_mem.mp hc
  simp only [List.mem_cons, List.not_mem_nil, or_false] at hmem
  rcases hmem with rfl | rfl | rfl | rfl | rfl | rfl | rfl | rfl | rfl | rfl | rfl | rfl | rfl |
    rfl | rfl | rfl | rfl | rfl <;> rfl

/-- An escaped character is read as the character. -/
theorem exists_parseLoop_char (c : Char) {st : ParseState} (hextended : st.extended = false)
    {fuel : Nat} {rest : List Char} (hfuel : (escapeChar c ++ rest).length < fuel) :
    ∃ fuel', rest.length < fuel' ∧
      parseLoop fuel st (escapeChar c ++ rest) =
        parseLoop fuel' (st.push (.letter { char := c })) rest := by
  obtain ⟨k, rfl⟩ : ∃ k, fuel = k + 1 := ⟨fuel - 1, by omega⟩
  rw [List.length_append] at hfuel
  cases hc : needsEscape c with
  | false =>
    rw [escapeChar_of_not_needsEscape hc, List.length_singleton] at *
    exact ⟨k, by omega, parseLoop_step hextended (parseStep_of_not_needsEscape hc st rest) k⟩
  | true =>
    rw [escapeChar_of_needsEscape hc] at *
    simp only [List.length_cons, List.length_nil] at hfuel
    exact ⟨k, by omega, parseLoop_step hextended (parseStep_of_needsEscape hc st rest) k⟩

/-- Whether the fragments of slots can be read one after the other behind groups with the
    names `seen`. -/
def Apart (seen : List String) (slots : List Slot) : Prop :=
  (∀ f ∈ fragmentsOf slots, ∀ n ∈ fragmentNames f, n ∉ seen) ∧ NamesApart (fragmentsOf slots)

instance (seen : List String) (slots : List Slot) : Decidable (Apart seen slots) :=
  inferInstanceAs (Decidable (_ ∧ _))

theorem apart_nil_iff {slots : List Slot} : Apart [] slots ↔ NamesApart (fragmentsOf slots) := by
  simp [Apart]

theorem apart_fragment_iff {seen names : List String} {f : String} {slots : List Slot}
    (hnames : ∀ n, n ∈ names ↔ n ∈ fragmentNames f) :
    Apart seen (.fragment f :: slots) ↔
      (∀ n ∈ fragmentNames f, n ∉ seen) ∧ Apart (names ++ seen) slots := by
  simp only [Apart, NamesApart, fragmentsOf, List.forall_mem_cons, List.pairwise_cons,
    List.mem_append, not_or, hnames]
  constructor
  · rintro ⟨⟨hf, hrest⟩, happart, hpairs⟩
    exact ⟨hf, fun g hg n hn => ⟨fun hmem => happart g hg n hmem hn, hrest g hg n hn⟩, hpairs⟩
  · rintro ⟨hf, hrest, hpairs⟩
    exact ⟨⟨hf, fun g hg n hn => (hrest g hg n hn).2⟩,
      fun g hg n hn hmem => (hrest g hg n hmem).1 hn, hpairs⟩

/-- The expressions of slots are read as their trees, unless a name occurs twice. -/
theorem exists_parseLoop_slots [SizeLimit] {slots : List Slot}
    (husable : ∀ f, Slot.fragment f ∈ slots → Usable f)
    (hgroups : ∀ f, Slot.fragment f ∈ slots → ReadsInGroup f) {st : ParseState}
    (hextended : st.extended = false) {fuel : Nat} {rest : List Char}
    (hfuel : (slots.flatMap Slot.expression ++ rest).length < fuel) :
    ∃ fuel' names, rest.length < fuel' ∧
      parseLoop fuel st (slots.flatMap Slot.expression ++ rest) =
        if Apart st.names slots then
          parseLoop fuel'
            { st with factors := (slots.map Slot.tree).reverse ++ st.factors, names := names } rest
        else .error .malformed := by
  -- the names seen so far grow with every fragment, so they vary along with the state
  induction slots generalizing st fuel with
  | nil => exact ⟨fuel, st.names, hfuel, by simp [Apart, fragmentsOf, NamesApart]⟩
  | cons slot slots ih =>
    rw [List.flatMap_cons, List.append_assoc] at hfuel ⊢
    have ih' := @ih (fun f hf => husable f (List.mem_cons_of_mem _ hf))
      (fun f hf => hgroups f (List.mem_cons_of_mem _ hf))
    cases slot with
    | char c =>
      obtain ⟨mid, hmid, hslot⟩ := exists_parseLoop_char c hextended hfuel
      obtain ⟨fuel', names, hfuel', hrest⟩ :=
        @ih' (st.push (.letter { char := c })) hextended mid hmid
      refine ⟨fuel', names, hfuel', ?_⟩
      rw [Slot.expression, hslot, hrest]
      exact if_congr Iff.rfl (by simp [ParseState.push, Slot.tree]) rfl
    | fragment f =>
      have hhead := head_ne_of_parseTree (husable f List.mem_cons_self).parseTree_fragmentTree
      have hexpression : (Slot.fragment f).expression = '(' :: (f.toList ++ [')']) := rfl
      rw [hexpression, List.cons_append] at hfuel ⊢
      obtain ⟨mid, seen, hmid, hseen, hslot⟩ :=
        exists_parseLoop_group (hgroups f List.mem_cons_self) hhead hextended hfuel
      obtain ⟨fuel', names, hfuel', hrest⟩ := @ih'
        { st.push (.group (.capture none) (fragmentTree f)) with names := seen ++ st.names }
        hextended mid hmid
      refine ⟨fuel', names, hfuel', ?_⟩
      rw [hslot, hrest]
      by_cases hfresh : ∀ n ∈ (fragmentTree f).groupNames, n ∉ st.names
      · rw [if_pos hfresh]
        refine if_congr ?_ (by simp [ParseState.push, Slot.tree]) rfl
        exact (apart_fragment_iff hseen).trans (and_iff_right hfresh) |>.symm
      · rw [if_neg hfresh, if_neg fun h => hfresh ((apart_fragment_iff hseen).mp h).1]

/-- The expression of a shape is read as it was put together, unless a name occurs twice. -/
theorem parseTree_shapeText [SizeLimit] {slots : List Slot}
    (husable : ∀ f, Slot.fragment f ∈ slots → Usable f)
    (hgroups : ∀ f, Slot.fragment f ∈ slots → ReadsInGroup f) :
    parseTree (shapeText slots) =
      if NamesApart (fragmentsOf slots) then .ok (assembledTree slots) else .error .malformed := by
  have hstart : parseLoop ((shapeText slots).length + 1) {} (shapeText slots) =
      parseLoop (shapeText slots).length ({ factors := [.assertion .lineStart] })
        (slots.flatMap Slot.expression ++ ['$']) :=
    parseLoop_step rfl rfl _
  obtain ⟨fuel, names, hfuel, hrest⟩ := @exists_parseLoop_slots _ _ husable hgroups
    { factors := [.assertion .lineStart] } rfl (shapeText slots).length ['$'] (by simp [shapeText])
  obtain ⟨k, rfl⟩ : ∃ k, fuel = k + 2 := ⟨fuel - 2, by simp at hfuel; omega⟩
  have hstop : ∀ factors, parseLoop (k + 2) { factors := factors, names := names } ['$'] =
      .ok { factors := .assertion .lineEnd :: factors, names := names } := fun _ => rfl
  rw [parseTree, hstart, hrest]
  simp only [apart_nil_iff]
  split
  · rw [hstop]
    simp [ParseState.content, assembledTree, Tree.ofBranches, bind, Except.bind, pure, Except.pure]
  · rfl

/-- An expression that compiles is read as it was put together. -/
theorem parse_of_compile [SizeLimit] {text : String} {slots : List Slot}
    (htext : text.toList = shapeText slots)
    (husable : ∀ f, Slot.fragment f ∈ slots → Usable f)
    (hgroups : ∀ f, Slot.fragment f ∈ slots → ReadsInGroup f) {r : Regex}
    (hr : Regex.compile text = .ok r) : parse text.toList = .ok (assembledTree slots) := by
  obtain ⟨t, hparse, -⟩ := Regex.compile_eq_ok hr
  have ht := (parse_eq_ok_iff.mp hparse).1
  rw [htext, parseTree_shapeText husable hgroups] at ht
  split at ht
  · rw [hparse, ← Except.ok.inj ht]
  · cases ht

/-! ## 4. Nesting -/

/-- How deeply a fragment nests alone. -/
def fragmentDepth (f : String) : Nat := (fragmentTree f).depth false false

theorem assembledTree_eq_cat (slots : List Slot) :
    assembledTree slots =
      .cat (.assertion .lineStart)
        (Tree.ofFactors (slots.map Slot.tree ++ [.assertion .lineEnd])) := by
  obtain ⟨t, ts, hts⟩ := List.exists_cons_of_ne_nil
    (List.append_ne_nil_of_right_ne_nil (slots.map Slot.tree)
      (List.cons_ne_nil (Tree.assertion .lineEnd) []))
  rw [assembledTree, hts]
  rfl

/-- Inside of a row, the slots nest as deeply as the deepest group around a fragment. -/
theorem depth_slots_le_iff {slots : List Slot} {k : Nat} :
    (Tree.ofFactors (slots.map Slot.tree ++ [.assertion .lineEnd])).depth true false ≤ k ↔
      ∀ f ∈ fragmentsOf slots, fragmentDepth f + 1 ≤ k := by
  induction slots with
  | nil => simp [Tree.ofFactors, Tree.depth, fragmentsOf]
  | cons slot slots ih =>
    have hcons : Tree.ofFactors ((slot :: slots).map Slot.tree ++ [.assertion .lineEnd]) =
        .cat slot.tree (Tree.ofFactors (slots.map Slot.tree ++ [.assertion .lineEnd])) := by
      cases slots <;> rfl
    rw [hcons, Tree.depth]
    cases slot with
    | char c => simpa [Slot.tree, Tree.depth, fragmentsOf] using ih
    | fragment f =>
      simp only [Slot.tree, Tree.depth, if_true, Nat.zero_add, Nat.max_le, ih, fragmentsOf,
        List.forall_mem_cons, fragmentDepth, Nat.add_comm 1]

/-- The expression of a shape keeps the nesting limit when every fragment keeps it with two
    levels more, one for the row and one for the group. -/
theorem depth_assembledTree_le_iff {slots : List Slot} :
    (assembledTree slots).depth false false ≤ nestingLimit ↔
      ∀ f ∈ fragmentsOf slots, fragmentDepth f + 2 ≤ nestingLimit := by
  have hrow : (assembledTree slots).depth false false ≤ nestingLimit ↔
      (Tree.ofFactors (slots.map Slot.tree ++ [.assertion .lineEnd])).depth true false ≤
        nestingLimit - 1 := by
    rw [assembledTree_eq_cat, Tree.depth]
    simp only [Tree.depth, Nat.zero_max, Bool.false_eq_true, if_false, nestingLimit]
    omega
  rw [hrow, depth_slots_le_iff]
  exact forall₂_congr fun f _ => by simp only [nestingLimit]; omega

/-! ## 5. Compiling -/

/-- Whether the expression that a shape is put together to is beyond the limit. -/
def tooLarge [SizeLimit] (slots : List Slot) : Bool :=
  match (assembledTree slots).expr with
  | .ok e => !SizeLimit.allows e
  | .error _ => false

/-- Why fragments that are usable alone are not usable in a shape together. -/
def shapeFault? [SizeLimit] (slots : List Slot) : Option Fault :=
  if ¬ NamesApart (fragmentsOf slots) then some .malformed
  else if ∃ f ∈ fragmentsOf slots, nestingLimit < fragmentDepth f + 2 then some .nestedTooDeeply
  else if tooLarge slots then some .tooLarge
  else none

/-- Where all fragments are usable alone, the expression of a shape compiles unless there is
    a reason why they are not usable together, and fails for this reason. -/
theorem compileChars_shapeText_eq_error_iff [SizeLimit] {slots : List Slot}
    (husable : ∀ f, Slot.fragment f ∈ slots → Usable f)
    (hgroups : ∀ f, Slot.fragment f ∈ slots → ReadsInGroup f) (reason : Fault) :
    Regex.compileChars (shapeText slots) = .error reason ↔ shapeFault? slots = some reason := by
  obtain ⟨low, hlow, -⟩ := exists_lower_assembledTree husable
  have hexpr : (assembledTree slots).expr = .ok low.expr := Tree.expr_of_lower hlow
  have hdepth : (assembledTree slots).depth false false ≤ nestingLimit ↔
      ¬ ∃ f ∈ fragmentsOf slots, nestingLimit < fragmentDepth f + 2 := by
    simp only [depth_assembledTree_le_iff, not_exists, not_and, Nat.not_lt]
  rw [Regex.compileChars, parse, parseTree_shapeText husable hgroups, shapeFault?, tooLarge, hexpr]
  by_cases hnames : NamesApart (fragmentsOf slots)
  · by_cases hdeep : ∃ f ∈ fragmentsOf slots, nestingLimit < fragmentDepth f + 2
    · simp [hnames, hdepth, hdeep, bind, Except.bind]
    · cases hallowed : SizeLimit.allows low.expr <;>
        simp [hnames, hdepth, hdeep, hexpr, hallowed, bind, Except.bind, pure, Except.pure]
  · simp [hnames, bind, Except.bind]

/-! ## 6. Memory -/

/-- The memory for a slot: that of the character, or of the fragment and the group around
    it, which marks its start and its end when it is read forward. -/
def Slot.memory (dir : Direction) : Slot → Nat
  | .char c => stateSize * Unicode.encodedLength c.toNat
  | .fragment f =>
    (fragmentExpr f).memory dir false +
      match dir with
      | .forward => 2 * stateSize
      | .backward => 0

/-- The memory for the expression of a shape: for the frame, which is that of an anchored
    expression, for the start and the end of the text, and for the slots. -/
def shapeMemory (dir : Direction) (slots : List Slot) : Nat :=
  frameSize dir true + 2 * stateSize + slots.foldr (fun slot n => slot.memory dir + n) 0

theorem totalMemory_slotExprs (dir : Direction) (n : Nat) (slots : List Slot) :
    Expr.totalMemory dir (slotExprs n slots) =
      slots.foldr (fun slot n => slot.memory dir + n) 0 := by
  induction slots generalizing n with
  | nil => rfl
  | cons slot slots ih =>
    cases slot with
    | char c => exact congrArg (stateSize * Unicode.encodedLength c.toNat + ·) (ih n)
    | fragment f =>
      cases dir <;>
        simp [slotExprs, Expr.totalMemory, ih, Slot.memory, Expr.memory, Expr.memory_shift]

theorem isFactor_of_mem_slotExprs {n : Nat} {slots : List Slot} {e : Expr}
    (he : e ∈ slotExprs n slots) : e.IsFactor := by
  induction slots generalizing n with
  | nil => cases he
  | cons slot slots ih =>
    cases slot with
    | char c =>
      rcases List.mem_cons.mp he with rfl | he
      · trivial
      · exact ih he
    | fragment f =>
      rcases List.mem_cons.mp he with rfl | he
      · trivial
      · exact ih he

/-- Slots and the end of the text are lowered to a row that ends with the end of the text,
    and the row needs the memory of their expressions. -/
theorem exists_isRow_slots [SizeLimit] {slots : List Slot}
    (husable : ∀ f, Slot.fragment f ∈ slots → Usable f) (n : Nat) :
    ∃ low, lower {} n (Tree.ofFactors (slots.map Slot.tree ++ [.assertion .lineEnd])) = .ok low ∧
      low.expr.IsRow ∧ (∃ es, low.expr.factors = es ++ [.look .textEnd]) ∧
      ∀ dir, Expr.totalMemory dir low.expr.factors =
        Expr.totalMemory dir (slotExprs n slots) + stateSize := by
  induction slots generalizing n with
  | nil => exact ⟨_, rfl, Expr.IsFactor.isRow trivial, ⟨[], rfl⟩, fun _ => rfl⟩
  | cons slot slots ih =>
    obtain ⟨e, next, hslot, hexprs⟩ :=
      @lower_slot _ slot (fun f hf => husable f (by rw [hf]; exact List.mem_cons_self)) n
    obtain ⟨low, hlow, hrow, ⟨es, hlast⟩, hmemory⟩ :=
      ih (fun f hf => husable f (List.mem_cons_of_mem _ hf)) next
    have he : e.IsFactor := @isFactor_of_mem_slotExprs n [slot] e (by rw [hexprs]; simp)
    have hrows : ∀ e' ∈ [e, low.expr], e'.IsRow := by
      simpa using ⟨he.isRow, hrow⟩
    refine ⟨_, lower_ofFactors_cons (by simp) hslot hlow, Expr.isRow_concat hrows, ?_,
      fun dir => ?_⟩
    · change ∃ es', (Expr.concat [e, low.expr]).factors = es' ++ [.look .textEnd]
      rw [Expr.factors_concat hrows]
      exact @Expr.exists_joined_snoc [e, low.expr] (e :: es) .textEnd
        (by simp [he.factors_eq, hlast])
    · change Expr.totalMemory dir (Expr.concat [e, low.expr]).factors = _
      rw [Expr.factors_concat hrows, Expr.totalMemory_joined, hexprs]
      simp only [List.flatMap_cons, List.flatMap_nil, List.append_nil, he.factors_eq,
        Expr.totalMemory_append, Expr.totalMemory, hmemory]
      omega

/-- The assembled tree is lowered to an expression that fits if the memory of the shape
    stays within the limit. -/
theorem exists_fits_assembledTree [SizeLimit] {slots : List Slot}
    (husable : ∀ f, Slot.fragment f ∈ slots → Usable f) :
    ∃ low, lower {} 1 (assembledTree slots) = .ok low ∧
      (low.expr.fits = true ↔ ∀ dir, shapeMemory dir slots ≤ memoryLimit) := by
  obtain ⟨low, hlow, hrow, ⟨es, hlast⟩, hmemory⟩ := exists_isRow_slots husable 1
  refine ⟨_, lower_ofFactors_cons (by simp) rfl hlow, (Expr.fits_between_edges hrow hlast).trans ?_⟩
  refine forall_congr' fun dir => ?_
  rw [hmemory, shapeMemory, totalMemory_slotExprs]
  omega

/-- Under the limit of the program, a shape is too large if its slots, added up, need too
    much memory in one of the directions. -/
theorem tooLarge_iff {slots : List Slot} (husable : ∀ f, Slot.fragment f ∈ slots → Usable f) :
    tooLarge slots = true ↔ ∃ dir, memoryLimit < shapeMemory dir slots := by
  obtain ⟨low, hlow, hfits⟩ := exists_fits_assembledTree husable
  have hallowed : SizeLimit.allows low.expr = low.expr.fits := rfl
  rw [tooLarge, Tree.expr_of_lower hlow, ← not_iff_not]
  simp only [hallowed, Bool.not_eq_true', Bool.not_eq_false, hfits, not_exists, Nat.not_lt]

/-- Under the limit of the program, there is nothing wrong with a shape exactly when the names
    of groups differ from fragment to fragment, the fragments leave two levels for the row
    and the groups around them, and there is memory for all slots. -/
theorem shapeFault?_eq_none_iff {slots : List Slot}
    (husable : ∀ f, Slot.fragment f ∈ slots → Usable f) :
    shapeFault? slots = none ↔
      NamesApart (fragmentsOf slots) ∧
      (∀ f ∈ fragmentsOf slots, fragmentDepth f + 2 ≤ nestingLimit) ∧
      ∀ dir, shapeMemory dir slots ≤ memoryLimit := by
  have hdepth : (∀ f ∈ fragmentsOf slots, fragmentDepth f + 2 ≤ nestingLimit) ↔
      ¬ ∃ f ∈ fragmentsOf slots, nestingLimit < fragmentDepth f + 2 := by
    simp only [not_exists, not_and, Nat.not_lt]
  have hroom : (∀ dir, shapeMemory dir slots ≤ memoryLimit) ↔ ¬ tooLarge slots = true := by
    simp only [tooLarge_iff husable, not_exists, Nat.not_lt]
  rw [shapeFault?, hdepth, hroom]
  by_cases hnames : NamesApart (fragmentsOf slots)
  · by_cases hdeep : ∃ f ∈ fragmentsOf slots, nestingLimit < fragmentDepth f + 2
    · rw [if_neg (not_not_intro hnames), if_pos hdeep]
      simp [hdeep]
    · rw [if_neg (not_not_intro hnames), if_neg hdeep]
      cases tooLarge slots <;> simp [hnames, hdeep]
  · simp [hnames]

end Wayfinder.Pattern
