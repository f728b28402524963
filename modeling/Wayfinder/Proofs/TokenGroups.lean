/-
  Wayfinder/Proofs/TokenGroups.lean
  =================================
  **Where the groups of tokens open.**

  The expression of a variant holds a parenthesis before the fragment of each token.  When
  the whole is read, this parenthesis opens a group only if no comment of an earlier
  fragment goes on up to it.  Where every fragment is read in its group, the numbers of
  these groups count the groups that the fragments before open.
-/
import Wayfinder.Proofs.Composition
import Wayfinder.Proofs.Faithfulness
import Wayfinder.Proofs.Regex.Openings

namespace Wayfinder.Pattern

open Wayfinder.Regex

/-! ## 1. A fragment in its place -/

/-- How many characters of a fragment are left where it opens its groups. -/
def fragmentOpenings (f : String) : List Nat := openings (f.toList.length + 1) {} f.toList

section Fragment

variable {f : String} {st stE : ParseState} {more : List Char}

theorem Usable.exists_reads (hf : Usable f) :
    ∃ stF left, Reads {} f.toList (fragmentOpenings f) stF left ∧
      skipBlanks stF.extended left = [] ∧ stF.groups = [] ∧ stF.content = fragmentTree f := by
  obtain ⟨stF, hrun, hgroups, hcontent⟩ := parseTree_eq_ok_iff.mp hf.parseTree_fragmentTree
  obtain ⟨left, hreads, hend⟩ := Regex.exists_reads hrun
  exact ⟨stF, left, hreads, hend, hgroups, hcontent⟩

theorem Usable.length_fragmentOpenings (hf : Usable f) :
    (fragmentOpenings f).length = fragmentGroups f := by
  rw [fragmentGroups, ← length_groupStarts hf.parseTree_fragmentTree, groupStarts, List.length_map]
  rfl

/-- A fragment in parentheses opens the group around it and its own groups.  Behind it the
    run goes on with what follows, or the group is still open and a comment goes on. -/
theorem Usable.exists_step (hf : Usable f) (hextended : st.extended = false) {fuel : Nat}
    (hfuel : ('(' :: (f.toList ++ ')' :: more)).length < fuel)
    (hrun : parseLoop fuel st ('(' :: (f.toList ++ ')' :: more)) = .ok stE) :
    ∃ st' left fuel', left.length < fuel' ∧ parseLoop fuel' st' left = .ok stE ∧
      openings fuel st ('(' :: (f.toList ++ ')' :: more)) =
        (f.toList.length + more.length + 2) ::
          (fragmentOpenings f).map (· + (more.length + 1)) ++ openings fuel' st' left ∧
      (ReadsInGroup f ∧ left = more ∧ st'.extended = false ∨
        ¬ReadsInGroup f ∧ st'.groups ≠ [] ∧
          skipBlanks st'.extended left <:+ dropComments true more) := by
  obtain ⟨stF, left, hreads, hend, hgroups, hcontent⟩ := hf.exists_reads
  have hhead := head_ne_of_parseTree hf.parseTree_fragmentTree
  have hfresh : ParseState.Fresh st.names {} stF := by
    obtain ⟨k, rfl⟩ : ∃ k, fuel = k + 1 := ⟨fuel - 1, by omega⟩
    rw [parseLoop_open (head?_append_paren_ne hhead more) hextended] at hrun
    exact hreads.fresh hgroups hrun
  have hgroup := parseTree_group_iff hreads hend hgroups hhead
  rw [hcontent] at hgroup
  by_cases hclosed : ReadsClosed {} f.toList (fragmentOpenings f) stF
  · have hread := hclosed.group hgroups hhead hextended hfresh more
    obtain ⟨fuel', hfuel', hloop, hlog⟩ := hread.run hfuel
    exact ⟨_, more, fuel', hfuel', hloop ▸ hrun, hlog, Or.inl ⟨hgroup.mpr hclosed, rfl, hextended⟩⟩
  · have hswallowed := (hreads.closed_or_swallowed hend hgroups).resolve_left hclosed
    obtain ⟨st₁, left₁, hread, hopen, hleft⟩ := hswallowed.group hhead hextended hfresh more
    obtain ⟨fuel', hfuel', hloop, hlog⟩ := hread.run hfuel
    exact ⟨st₁, left₁, fuel', hfuel', hloop ▸ hrun, hlog,
      Or.inr ⟨mt hgroup.mp hclosed, hopen, hleft⟩⟩

end Fragment

/-! ## 2. The fragments of a row -/

/-- The expression of slots up to the end of the text. -/
def rowText (slots : List Slot) : List Char := slots.flatMap Slot.expression ++ ['$']

theorem rowText_char (c : Char) (slots : List Slot) :
    rowText (.char c :: slots) = escapeChar c ++ rowText slots := by
  simp [rowText, Slot.expression]

theorem rowText_fragment (f : String) (slots : List Slot) :
    rowText (.fragment f :: slots) = '(' :: (f.toList ++ ')' :: rowText slots) := by
  simp [rowText, Slot.expression]

/-- How many characters are left at the parentheses around the fragments. -/
def tokenMarks : List Slot → List Nat
  | [] => []
  | .char _ :: slots => tokenMarks slots
  | .fragment f :: slots => (rowText (.fragment f :: slots)).length :: tokenMarks slots

/-- How many characters are left at the parentheses that open groups, when every fragment is
    read in its group. -/
def slotMarks : List Slot → List Nat
  | [] => []
  | .char _ :: slots => slotMarks slots
  | .fragment f :: slots =>
    (rowText (.fragment f :: slots)).length ::
      (fragmentOpenings f).map (· + ((rowText slots).length + 1)) ++ slotMarks slots

section Row

variable {slots : List Slot} {st stE : ParseState} {fuel : Nat}

theorem le_of_mem_tokenMarks {m : Nat} (h : m ∈ tokenMarks slots) : m ≤ (rowText slots).length := by
  induction slots with
  | nil => cases h
  | cons slot slots ih =>
    cases slot with
    | char c =>
      rw [rowText_char, List.length_append]
      exact Nat.le_add_left_of_le (ih h)
    | fragment f =>
      rcases List.mem_cons.mp h with rfl | h
      · exact Nat.le_refl _
      · have := ih h
        simp only [rowText_fragment, List.length_cons, List.length_append]
        omega

/-- A literal character opens no group. -/
theorem reads_char (c : Char) (hextended : st.extended = false) (rest : List Char) :
    Reads st (escapeChar c ++ rest) [] (st.push (.letter { char := c })) rest := by
  cases hc : needsEscape c with
  | false =>
    rw [escapeChar_of_not_needsEscape hc]
    exact reads_push hextended (parseStep_of_not_needsEscape hc st rest)
  | true =>
    rw [escapeChar_of_needsEscape hc]
    exact reads_push hextended (parseStep_of_needsEscape hc st rest)

/-- Where every fragment is read in its group, the groups are those around the fragments,
    each followed by the groups of its fragment. -/
theorem openings_rowText (husable : ∀ f, Slot.fragment f ∈ slots → Usable f)
    (hgroups : ∀ f, Slot.fragment f ∈ slots → ReadsInGroup f) (hextended : st.extended = false)
    (hfuel : (rowText slots).length < fuel) (hrun : parseLoop fuel st (rowText slots) = .ok stE) :
    openings fuel st (rowText slots) = slotMarks slots := by
  induction slots generalizing st fuel with
  | nil =>
    have hread : Reads st ['$'] [] (st.push (.assertion .lineEnd)) [] := reads_push hextended rfl
    obtain ⟨fuel', -, -, hlog⟩ := hread.run hfuel
    rw [rowText, List.flatMap_nil, List.nil_append, hlog, slotMarks, List.nil_append,
      List.eq_nil_iff_forall_not_mem]
    intro n hn
    have hle := le_of_mem_openings hn
    rw [skipBlanks_nil, List.length_nil] at hle
    omega
  | cons slot slots ih =>
    have husable' := fun f hf => husable f (List.mem_cons_of_mem slot hf)
    have hgroups' := fun f hf => hgroups f (List.mem_cons_of_mem slot hf)
    cases slot with
    | char c =>
      rw [rowText_char] at hfuel hrun ⊢
      obtain ⟨fuel', hfuel', hloop, hlog⟩ := (reads_char c hextended (rowText slots)).run hfuel
      rw [hlog, List.nil_append]
      exact ih husable' hgroups' hextended hfuel' (hloop ▸ hrun)
    | fragment f =>
      rw [slotMarks, rowText_fragment] at *
      obtain ⟨st', left, fuel', hfuel', hrun', hlog, hcases⟩ :=
        (husable f List.mem_cons_self).exists_step hextended hfuel hrun
      obtain ⟨-, rfl, hextended'⟩ | ⟨hnot, -⟩ := hcases
      · rw [hlog, ih husable' hgroups' hextended' hfuel' hrun']
        simp [Nat.add_assoc]
      · exact absurd (hgroups f List.mem_cons_self) hnot

/-- A comment that goes on behind a fragment takes the next parenthesis as well, or all that
    is left. -/
theorem dropComments_rowText (hlines : Slot.char '\n' ∉ slots) :
    (tokenMarks slots = [] ∧ dropComments true (rowText slots) = []) ∨
      ∃ m ∈ tokenMarks slots, (dropComments true (rowText slots)).length < m := by
  have hpass : ∀ c cs, c ≠ '\n' → dropComments true (c :: cs) = dropComments true cs := by
    intro c cs hc
    rw [dropComments, if_pos rfl, bne_iff_ne.mpr hc]
  induction slots with
  | nil => exact Or.inl ⟨rfl, rfl⟩
  | cons slot slots ih =>
    cases slot with
    | char c =>
      have hc : c ≠ '\n' := by
        rintro rfl
        exact hlines List.mem_cons_self
      have hdrop : dropComments true (rowText (.char c :: slots)) =
          dropComments true (rowText slots) := by
        rw [rowText_char]
        cases hescape : needsEscape c with
        | false =>
          rw [escapeChar_of_not_needsEscape hescape]
          exact hpass c _ hc
        | true =>
          rw [escapeChar_of_needsEscape hescape]
          exact (hpass _ _ (by decide)).trans (hpass c _ hc)
      rw [hdrop]
      exact ih fun hmem => hlines (List.mem_cons_of_mem _ hmem)
    | fragment f =>
      refine Or.inr ⟨_, List.mem_cons_self, ?_⟩
      rw [rowText_fragment, hpass _ _ (by decide)]
      exact Nat.lt_succ_of_le (dropComments_suffix true _).length_le

/-- Where the parentheses around all fragments open groups, every fragment is read in its
    group. -/
theorem readsInGroup_of_tokenMarks (husable : ∀ f, Slot.fragment f ∈ slots → Usable f)
    (hlines : Slot.char '\n' ∉ slots) (hextended : st.extended = false)
    (hfuel : (rowText slots).length < fuel) (hrun : parseLoop fuel st (rowText slots) = .ok stE)
    (hclosed : stE.groups = [])
    (hmarks : ∀ m ∈ tokenMarks slots, m ∈ openings fuel st (rowText slots)) :
    ∀ f, Slot.fragment f ∈ slots → ReadsInGroup f := by
  induction slots generalizing st fuel with
  | nil => intro f hf; cases hf
  | cons slot slots ih =>
    have husable' := fun f hf => husable f (List.mem_cons_of_mem slot hf)
    have hlines' : Slot.char '\n' ∉ slots := fun hmem => hlines (List.mem_cons_of_mem slot hmem)
    cases slot with
    | char c =>
      rw [rowText_char] at hfuel hrun hmarks
      obtain ⟨fuel', hfuel', hloop, hlog⟩ := (reads_char c hextended (rowText slots)).run hfuel
      rw [hlog, List.nil_append] at hmarks
      rw [hloop] at hrun
      have hpush : (st.push (.letter { char := c })).extended = false := hextended
      intro f hf
      rcases List.mem_cons.mp hf with hf | hf
      · cases hf
      · exact ih husable' hlines' hpush hfuel' hrun hmarks f hf
    | fragment f =>
      rw [rowText_fragment] at hfuel hrun hmarks
      obtain ⟨st', left, fuel', hfuel', hrun', hlog, hcases⟩ :=
        (husable f List.mem_cons_self).exists_step hextended hfuel hrun
      -- the later parentheses stand behind those of this fragment
      have hlater : ∀ m ∈ tokenMarks slots, m ∈ openings fuel' st' left := by
        intro m hm
        have hle := le_of_mem_tokenMarks hm
        have hmem := hmarks m (List.mem_cons_of_mem _ hm)
        rw [hlog] at hmem
        rcases List.mem_append.mp hmem with hmem | hmem
        · rcases List.mem_cons.mp hmem with rfl | hmem
          · omega
          · obtain ⟨n, -, rfl⟩ := List.mem_map.mp hmem
            omega
        · exact hmem
      obtain ⟨hread, rfl, hextended'⟩ | ⟨-, hopen, hleft⟩ := hcases
      · intro g hg
        rcases List.mem_cons.mp hg with hg | hg
        · cases hg
          exact hread
        · exact ih husable' hlines' hextended' hfuel' hrun' hlater g hg
      · exfalso
        rcases dropComments_rowText hlines' with ⟨-, hnone⟩ | ⟨m, hm, hlt⟩
        · -- nothing is left to close the group
          rw [hnone, List.suffix_nil] at hleft
          cases fuel' with
          | zero => cases hrun'
          | succ fuel' =>
            rw [parseLoop, hleft] at hrun'
            cases hrun'
            exact hopen hclosed
        · -- the comment takes the next parenthesis
          have hle := (le_of_mem_openings (hlater m hm)).2
          have hlength := hleft.length_le
          omega

end Row

/-! ## 3. The numbers of the groups -/

/-- The positions of the parentheses around the fragments of slots that start at the position
    `n` of a text. -/
def tokenStarts : Nat → List Slot → List Nat
  | _, [] => []
  | n, .char c :: slots => tokenStarts (n + (escapeChar c).length) slots
  | n, .fragment f :: slots => n :: tokenStarts (n + f.toList.length + 2) slots

section Numbers

variable {slots : List Slot}

/-- At each of these positions stands the parenthesis before the fragment of that token. -/
theorem forall₂_tokenStarts (before : List Char) (slots : List Slot) :
    List.Forall₂
      (fun p f => ∃ rest, (before ++ rowText slots).drop p = '(' :: (f.toList ++ ')' :: rest))
      (tokenStarts before.length slots) (fragmentsOf slots) := by
  induction slots generalizing before with
  | nil => exact .nil
  | cons slot slots ih =>
    cases slot with
    | char c =>
      have hrest := ih (before ++ escapeChar c)
      rwa [List.length_append, List.append_assoc, ← rowText_char] at hrest
    | fragment f =>
      have hrest := ih (before ++ '(' :: (f.toList ++ [')']))
      rw [List.append_assoc, List.cons_append, List.append_assoc, List.singleton_append,
        ← rowText_fragment] at hrest
      refine .cons ⟨rowText slots, ?_⟩ ?_
      · rw [List.drop_left, rowText_fragment]
      · simpa [Nat.add_assoc] using hrest

theorem tokenStarts_eq (n : Nat) (slots : List Slot) :
    tokenStarts n slots = (tokenMarks slots).map (n + (rowText slots).length - ·) := by
  induction slots generalizing n with
  | nil => rfl
  | cons slot slots ih =>
    cases slot with
    | char c =>
      rw [tokenStarts, tokenMarks, ih, rowText_char, List.length_append, Nat.add_assoc]
    | fragment f =>
      have hlength : n + f.toList.length + 2 + (rowText slots).length =
          n + (rowText (.fragment f :: slots)).length := by
        simp only [rowText_fragment, List.length_cons, List.length_append]
        omega
      rw [tokenStarts, tokenMarks, ih, List.map_cons, Nat.add_sub_cancel, hlength]

theorem le_of_mem_groupNumbers {n i : Nat} (h : i ∈ groupNumbers n slots) : n ≤ i := by
  induction slots generalizing n with
  | nil => cases h
  | cons slot slots ih =>
    cases slot with
    | char c => exact ih h
    | fragment f =>
      rcases List.mem_cons.mp h with rfl | h
      · exact Nat.le_refl _
      · have := ih h
        omega

/-- The group around each fragment has the number that its place in the expression gives. -/
theorem map_getElem?_groupNumbers (husable : ∀ f, Slot.fragment f ∈ slots → Usable f) (n : Nat) :
    (groupNumbers n slots).map (fun i => (slotMarks slots)[i - n]?) =
      (tokenMarks slots).map some := by
  induction slots generalizing n with
  | nil => rfl
  | cons slot slots ih =>
    have ih' := ih fun f hf => husable f (List.mem_cons_of_mem slot hf)
    cases slot with
    | char c => exact ih' n
    | fragment f =>
      have hlength := (husable f List.mem_cons_self).length_fragmentOpenings
      rw [groupNumbers, tokenMarks, List.map_cons, List.map_cons, Nat.sub_self, slotMarks,
        ← ih' (n + 1 + fragmentGroups f)]
      refine congrArg _ (List.map_congr_left fun i hi => ?_)
      have hle := le_of_mem_groupNumbers hi
      rw [List.getElem?_append_right (by simp only [List.length_cons, List.length_map]; omega)]
      congr 1
      simp only [List.length_cons, List.length_map]
      omega

theorem head?_slotNumbers (h : fragmentsOf slots ≠ []) (n : Nat) :
    (slotNumbers n slots).head? = some n ∧ (groupNumbers n slots).head? = some n := by
  induction slots with
  | nil => exact absurd rfl h
  | cons slot slots ih =>
    cases slot with
    | char c => exact ih h
    | fragment f => exact ⟨rfl, rfl⟩

/-- The slots are the numbers of the groups exactly when all groups are counted. -/
theorem slotNumbers_eq_groupNumbers_iff (n : Nat) :
    slotNumbers n slots = groupNumbers n slots ↔ Counted slots := by
  refine ⟨fun h => ?_, fun h => slotNumbers_eq_groupNumbers h n⟩
  induction slots generalizing n with
  | nil => simp [Counted, fragmentsOf]
  | cons slot slots ih =>
    cases slot with
    | char c => exact ih n h
    | fragment f =>
      by_cases hmore : fragmentsOf slots = []
      · simp [Counted, fragmentsOf, hmore]
      · rw [slotNumbers, groupNumbers] at h
        have hrest := (List.cons.inj h).2
        have hhead := (head?_slotNumbers hmore (n + 1 + innerGroups f)).1
        rw [hrest, (head?_slotNumbers hmore (n + 1 + fragmentGroups f)).2] at hhead
        have hcount : innerGroups f = fragmentGroups f := by
          have := Option.some.inj hhead
          omega
        rw [hcount] at hrest
        exact (counted_fragment_iff hmore).mpr ⟨hcount, ih _ hrest⟩

/-- Numbers that find the same things in a list without repetitions are the same. -/
theorem eq_of_map_getElem?_eq {α : Type} {xs ys : List α} (hxs : xs.Nodup) {is js : List Nat}
    (his : ∀ i ∈ is, 1 ≤ i) (hjs : ∀ j ∈ js, 1 ≤ j)
    (hi : is.map (fun i => xs[i - 1]?) = ys.map some)
    (hj : js.map (fun j => xs[j - 1]?) = ys.map some) : is = js := by
  induction ys generalizing is js with
  | nil =>
    rw [List.map_eq_nil_iff.mp hi, List.map_eq_nil_iff.mp hj]
  | cons y ys ih =>
    obtain ⟨i, is, rfl, hfirst, hrest⟩ := List.map_eq_cons_iff.mp hi
    obtain ⟨j, js, rfl, hfirst', hrest'⟩ := List.map_eq_cons_iff.mp hj
    have hsame : i - 1 = j - 1 :=
      (List.getElem?_inj (List.getElem?_eq_some_iff.mp hfirst).1 hxs).mp
        (hfirst.trans hfirst'.symm)
    have hone := his i List.mem_cons_self
    have hone' := hjs j List.mem_cons_self
    rw [show i = j by omega, ih (fun i hi => his i (List.mem_cons_of_mem _ hi))
      (fun j hj => hjs j (List.mem_cons_of_mem _ hj)) hrest hrest']

/-! ## 4. The expression of a shape -/

/-- The run behind the start of the text. -/
theorem exists_run_rowText {stE : ParseState}
    (hrun : parseLoop ((shapeText slots).length + 1) {} (shapeText slots) = .ok stE) :
    ∃ fuel, (rowText slots).length < fuel ∧
      parseLoop fuel { factors := [.assertion .lineStart] } (rowText slots) = .ok stE ∧
        openings ((shapeText slots).length + 1) {} (shapeText slots) =
          openings fuel { factors := [.assertion .lineStart] } (rowText slots) := by
  have hread : Reads {} (shapeText slots) [] { factors := [.assertion .lineStart] }
      (rowText slots) := reads_push rfl rfl
  obtain ⟨fuel, hfuel, hloop, hlog⟩ := hread.run (Nat.lt_succ_self _)
  exact ⟨fuel, hfuel, hloop ▸ hrun, hlog⟩

theorem length_shapeText (slots : List Slot) :
    (shapeText slots).length = 1 + (rowText slots).length := Nat.add_comm _ 1

/-- Numbers from 1 on name the parentheses around the fragments of a shape that is read
    whole. -/
def NamesTokens (slots : List Slot) (numbers : List Nat) : Prop :=
  numbers.map (fun n => (groupStarts (shapeText slots))[n - 1]?) = (tokenStarts 1 slots).map some

/-- Where all the parentheses can be named, every fragment is read in its group. -/
theorem readsInGroup_of_namesTokens (husable : ∀ f, Slot.fragment f ∈ slots → Usable f)
    (hlines : Slot.char '\n' ∉ slots) {t : Tree} (ht : parseTree (shapeText slots) = .ok t)
    {numbers : List Nat} (h : NamesTokens slots numbers) :
    ∀ f, Slot.fragment f ∈ slots → ReadsInGroup f := by
  obtain ⟨stE, hrun, hclosed, -⟩ := parseTree_eq_ok_iff.mp ht
  obtain ⟨fuel, hfuel, hrow, hlog⟩ := exists_run_rowText hrun
  refine readsInGroup_of_tokenMarks husable hlines rfl hfuel hrow hclosed fun m hm => ?_
  rw [NamesTokens, tokenStarts_eq, groupStarts, hlog, length_shapeText, List.map_map] at h
  have hmem : some (1 + (rowText slots).length - m) ∈
      (tokenMarks slots).map (some ∘ (1 + (rowText slots).length - ·)) :=
    List.mem_map.mpr ⟨m, hm, rfl⟩
  rw [← h] at hmem
  obtain ⟨n, -, hget⟩ := List.mem_map.mp hmem
  obtain ⟨m', hm', heq⟩ := List.mem_map.mp (List.mem_of_getElem? hget)
  -- both are at most what is left in the beginning
  have hle := le_of_mem_tokenMarks hm
  have hle' := (le_of_mem_openings hm').2
  rw [skipBlanks_of_not_extended rfl] at hle'
  rwa [show m = m' by omega]

/-- Where every fragment is read in its group, the parentheses have the numbers of the groups
    around the fragments, and no others. -/
theorem namesTokens_iff (husable : ∀ f, Slot.fragment f ∈ slots → Usable f)
    (hgroups : ∀ f, Slot.fragment f ∈ slots → ReadsInGroup f) {t : Tree}
    (ht : parseTree (shapeText slots) = .ok t) {numbers : List Nat} (hone : ∀ n ∈ numbers, 1 ≤ n) :
    NamesTokens slots numbers ↔ numbers = groupNumbers 1 slots := by
  obtain ⟨stE, hrun, -⟩ := parseTree_eq_ok_iff.mp ht
  obtain ⟨fuel, hfuel, hrow, hlog⟩ := exists_run_rowText hrun
  have hstarts : groupStarts (shapeText slots) =
      (slotMarks slots).map ((shapeText slots).length - ·) := by
    rw [groupStarts, hlog, openings_rowText husable hgroups rfl hfuel hrow]
  have hnames : NamesTokens slots (groupNumbers 1 slots) := by
    have hmarks := congrArg (List.map (Option.map ((shapeText slots).length - ·)))
      (map_getElem?_groupNumbers husable 1)
    rw [List.map_map, List.map_map] at hmarks
    rw [NamesTokens, hstarts, tokenStarts_eq, ← length_shapeText, List.map_map]
    simpa only [Function.comp_def, List.getElem?_map, Option.map_some] using hmarks
  refine ⟨fun h => ?_, fun h => h ▸ hnames⟩
  exact eq_of_map_getElem?_eq (nodup_groupStarts _) hone
    (fun n hn => le_of_mem_groupNumbers hn) h hnames

end Numbers

end Wayfinder.Pattern
