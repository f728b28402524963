/-
  Wayfinder/Proofs/Regex/Openings.lean
  ====================================
  **Where groups open.**

  Capturing groups have numbers in the order of their opening parentheses.  A run of the
  parser meets these parentheses one after the other, so a log of the places where it opens
  a group tells which parenthesis has which number.  A text that is read to its end alone
  leaves the same log wherever it stands, and then either the parenthesis behind it closes
  its group or a comment goes on with the line.
-/
import Mathlib
import Wayfinder.Proofs.Regex.Endings
import Wayfinder.Proofs.Regex.Splice

namespace Wayfinder.Regex

/-! ## 1. The log of a run -/

/-- Whether a step from one state to the other opens a capturing group. -/
def ParseState.opens (st st' : ParseState) : Bool :=
  match st'.groups with
  | ⟨.capture _, _, _, _⟩ :: _ => decide (st.groups.length < st'.groups.length)
  | _ => false

/-- What a step adds to the log, when so many characters are left at its start. -/
def ParseState.opening (st st' : ParseState) (left : Nat) : List Nat :=
  if st.opens st' then [left] else []

/-- How many characters are left at the opening parentheses of the capturing groups, in the
    order in which the parser reads them. -/
def openings : Nat → ParseState → List Char → List Nat
  | 0, _, _ => []
  | fuel + 1, st, cs =>
    match skipBlanks st.extended cs with
    | [] => []
    | c :: rest =>
      match parseStep st c rest with
      | .error _ => []
      | .ok (st', rest') => st.opening st' (rest.length + 1) ++ openings fuel st' rest'

/-- The positions of the opening parentheses of the capturing groups of an expression.  The
    group with the number `n` has the `n`-th of them. -/
def groupStarts (cs : List Char) : List Nat :=
  (openings (cs.length + 1) {} cs).map (cs.length - ·)

/-- A run of the parser from one state and text to others, with its log. -/
inductive Reads : ParseState → List Char → List Nat → ParseState → List Char → Prop
  | here (st : ParseState) (cs : List Char) : Reads st cs [] st cs
  | step {st st' stF : ParseState} {c : Char} {cs rest rest' left : List Char} {log : List Nat}
      (hskip : skipBlanks st.extended cs = c :: rest)
      (hstep : parseStep st c rest = .ok (st', rest')) (hrest : Reads st' rest' log stF left) :
      Reads st cs (st.opening st' (rest.length + 1) ++ log) stF left

variable {st st' stF : ParseState} {cs rest left : List Char} {log : List Nat}

theorem length_of_step {c : Char} (hskip : skipBlanks st.extended cs = c :: rest)
    {rest' : List Char} (hstep : parseStep st c rest = .ok (st', rest')) :
    rest.length < cs.length ∧ rest'.length ≤ rest.length := by
  have hblanks := length_skipBlanks_le st.extended cs
  rw [hskip, List.length_cons] at hblanks
  exact ⟨hblanks, (takes_of_parseStep hstep).stable.length_le⟩

namespace Reads

theorem trans {mid : List Char} {log' : List Nat} (h : Reads st cs log st' mid)
    (h' : Reads st' mid log' stF left) : Reads st cs (log ++ log') stF left := by
  induction h with
  | here st cs => exact h'
  | step hskip hstep _ ih =>
    rw [List.append_assoc]
    exact .step hskip hstep (ih h')

theorem names (h : Reads st cs log stF left) : st.names <:+ stF.names := by
  induction h with
  | here st cs => exact List.suffix_refl _
  | step hskip hstep _ ih => exact (takes_of_parseStep hstep).names.trans ih

/-- With nothing left to read there are no further steps. -/
theorem eq_of_nil (h : Reads st [] log stF left) : stF = st ∧ left = [] ∧ log = [] := by
  cases h with
  | here st cs => exact ⟨rfl, rfl, rfl⟩
  | step hskip hstep hrest =>
    rw [skipBlanks_nil] at hskip
    cases hskip

/-- The loop and its log go the way of a run. -/
theorem run (h : Reads st cs log stF left) {fuel : Nat} (hfuel : cs.length < fuel) :
    ∃ fuel', left.length < fuel' ∧ parseLoop fuel st cs = parseLoop fuel' stF left ∧
      openings fuel st cs = log ++ openings fuel' stF left := by
  induction h generalizing fuel with
  | here st cs => exact ⟨fuel, hfuel, rfl, rfl⟩
  | step hskip hstep _ ih =>
    obtain ⟨k, rfl⟩ : ∃ k, fuel = k + 1 := ⟨fuel - 1, by omega⟩
    obtain ⟨hlt, hle⟩ := length_of_step hskip hstep
    obtain ⟨fuel', hfuel', hloop, hlog⟩ := @ih k (by omega)
    refine ⟨fuel', hfuel', ?_, ?_⟩
    · rw [parseLoop, hskip, ← hloop]
      simp only [hstep]
      rfl
    · rw [openings, hskip]
      simp only [hstep, hlog, List.append_assoc]

end Reads

/-- The loop goes the way of a run that reads everything. -/
theorem exists_reads {fuel : Nat} (h : parseLoop fuel st cs = .ok stF) :
    ∃ left, Reads st cs (openings fuel st cs) stF left ∧ skipBlanks stF.extended left = [] := by
  induction fuel generalizing st cs with
  | zero => cases h
  | succ fuel ih =>
    rw [parseLoop] at h
    split at h
    · rename_i hend
      cases h
      rw [openings, hend]
      exact ⟨cs, .here _ cs, hend⟩
    · rename_i c rest hskip
      obtain ⟨⟨st', rest'⟩, hstep, h⟩ := bind_eq_ok_iff.mp h
      obtain ⟨left, hreads, hend⟩ := ih h
      rw [openings, hskip]
      simp only [hstep]
      exact ⟨left, .step hskip hstep hreads, hend⟩

theorem mem_opening {n left : Nat} (h : n ∈ st.opening st' left) : n = left := by
  unfold ParseState.opening at h
  split at h
  · exact List.mem_singleton.mp h
  · cases h

/-- No more is left at a parenthesis than behind the blanks where the run starts. -/
theorem le_of_mem_openings {fuel n : Nat} (h : n ∈ openings fuel st cs) :
    1 ≤ n ∧ n ≤ (skipBlanks st.extended cs).length := by
  induction fuel generalizing st cs with
  | zero => cases h
  | succ fuel ih =>
    rw [openings] at h
    split at h
    · cases h
    · rename_i c rest hskip
      rw [hskip, List.length_cons]
      split at h
      · cases h
      · rename_i st' rest' hstep
        rcases List.mem_append.mp h with h | h
        · obtain rfl := mem_opening h
          omega
        · have hlength := (length_of_step hskip hstep).2
          have hblanks := length_skipBlanks_le st'.extended rest'
          have := ih h
          omega

/-- Later parentheses stand further to the right. -/
theorem pairwise_openings (fuel : Nat) (st : ParseState) (cs : List Char) :
    (openings fuel st cs).Pairwise (· > ·) := by
  induction fuel generalizing st cs with
  | zero => exact .nil
  | succ fuel ih =>
    rw [openings]
    split
    · exact .nil
    · rename_i c rest hskip
      split
      · exact .nil
      · rename_i st' rest' hstep
        refine List.pairwise_append.mpr ⟨?_, ih st' rest', ?_⟩
        · unfold ParseState.opening
          split
          · exact List.pairwise_singleton _ _
          · exact .nil
        · intro n hn m hm
          obtain rfl := mem_opening hn
          have hlength := (length_of_step hskip hstep).2
          have hblanks := length_skipBlanks_le st'.extended rest'
          have := le_of_mem_openings hm
          omega

/-- No two groups open at one position. -/
theorem nodup_groupStarts (cs : List Char) : (groupStarts cs).Nodup := by
  refine List.Nodup.map_on ?_ ((pairwise_openings _ {} cs).imp Nat.ne_of_gt)
  intro n hn m hm heq
  have hle := (le_of_mem_openings hn).2
  have hle' := (le_of_mem_openings hm).2
  rw [skipBlanks_of_not_extended rfl] at hle hle'
  omega

/-! ## 2. How many groups open -/

/-- The number of groups that have been opened. -/
def ParseState.opened (st : ParseState) : Nat := (st.trees.map Tree.groups).sum

theorem Tree.groups_ofFactors (ts : List Tree) :
    (Tree.ofFactors ts).groups = (ts.map Tree.groups).sum := by
  induction ts with
  | nil => rfl
  | cons t ts ih =>
    cases ts with
    | nil => simp [ofFactors]
    | cons t' ts => simp only [ofFactors, groups, ih, List.map_cons, List.sum_cons]

theorem Tree.groups_ofBranches (ts : List Tree) :
    (Tree.ofBranches ts).groups = (ts.map Tree.groups).sum := by
  induction ts with
  | nil => rfl
  | cons t ts ih =>
    cases ts with
    | nil => simp [ofBranches]
    | cons t' ts => simp only [ofBranches, groups, ih, List.map_cons, List.sum_cons]

theorem ParseState.groups_content (st : ParseState) :
    st.content.groups =
      (st.factors.map Tree.groups).sum + (st.branches.map Tree.groups).sum := by
  simp only [content, Tree.groups_ofBranches, Tree.groups_ofFactors, List.map_reverse,
    List.map_cons, List.sum_reverse, List.sum_cons]

theorem ParseState.groups_content_of_closed (h : st.groups = []) : st.content.groups = st.opened := by
  rw [groups_content, opened, trees, h]
  simp

theorem ParseState.opens_eq_false (h : st'.groups.length ≤ st.groups.length) :
    st.opens st' = false := by
  unfold opens
  split
  · exact decide_eq_false (Nat.not_lt.mpr h)
  · rfl

theorem ParseState.opening_eq_nil (h : st'.groups.length ≤ st.groups.length) (left : Nat) :
    st.opening st' left = [] := by
  rw [opening, opens_eq_false h]
  rfl

/-- A step that adds a factor opens no group. -/
theorem reads_push {c : Char} {rest' : List Char} {t : Tree} (hextended : st.extended = false)
    (hstep : parseStep st c rest = .ok (st.push t, rest')) :
    Reads st (c :: rest) [] (st.push t) rest' := by
  have hread := Reads.step (skipBlanks_of_not_extended hextended (c :: rest)) hstep
    (.here (st.push t) rest')
  have hnone : st.opening (st.push t) (rest.length + 1) = [] :=
    ParseState.opening_eq_nil (Nat.le_refl st.groups.length) _
  rwa [hnone] at hread

theorem Tree.groups_group (kind : GroupKind) (t : Tree) :
    (Tree.group kind t).groups = (Tree.group kind .empty).groups + t.groups := by
  cases kind <;> simp [groups, Nat.add_comm]

theorem ParseState.opened_eq (st : ParseState) :
    st.opened = st.content.groups + (st.groups.map fun g =>
      (Tree.group g.kind .empty).groups + ((g.factors.map Tree.groups).sum +
        (g.branches.map Tree.groups).sum)).sum := by
  rw [groups_content, opened, trees, List.map_append, List.sum_append, List.map_append,
    List.sum_append]
  congr 1
  induction st.groups with
  | nil => rfl
  | cons g gs ih => simp [ih, Nat.add_assoc]

/-- Opening a group adds the group alone, and to the log if it captures. -/
theorem ParseState.opened_openGroup (st : ParseState) (kind : GroupKind) (n : Nat) :
    (st.openGroup kind).opened = st.opened + (st.opening (st.openGroup kind) n).length := by
  have hopens : (st.opening (st.openGroup kind) n).length = (Tree.group kind .empty).groups := by
    cases kind <;> simp [opening, opens, openGroup, Tree.groups]
  rw [hopens, opened_eq, opened_eq, groups_content, groups_content]
  simp only [openGroup, List.map_cons, List.map_nil, List.sum_cons, List.sum_nil]
  omega

theorem ParseState.opened_of_le (hle : st'.groups.length ≤ st.groups.length)
    (h : st'.opened = st.opened) (n : Nat) :
    st'.opened = st.opened + (st.opening st' n).length := by
  rw [opening_eq_nil hle, h]
  rfl

/-- A step opens a group exactly when it adds to the log. -/
theorem ParseState.Move.opened (h : st.Move st') (n : Nat) :
    st'.opened = st.opened + (st.opening st' n).length := by
  cases h with
  | openGroup kind => exact st.opened_openGroup kind n
  | openNamed name =>
    exact { st with names := name :: st.names }.opened_openGroup (.capture (some name)) n
  | push t ht =>
    refine opened_of_le ?_ ?_ n
    · exact Nat.le_refl _
    · simp [ParseState.opened, trees, ParseState.push, ht]
  | set fs extended =>
    refine opened_of_le ?_ ?_ n
    · exact Nat.le_refl _
    · simp [ParseState.opened, trees, ParseState.push, Tree.groups]
  | nextBranch =>
    refine opened_of_le ?_ ?_ n
    · exact Nat.le_refl _
    · rw [opened_eq, opened_eq, groups_content, groups_content]
      simp [ParseState.nextBranch, Tree.groups_ofFactors]
  | closeGroup h =>
    obtain ⟨factors, branches, groups, extended, names⟩ := st
    cases groups with
    | nil => cases h
    | cons g gs =>
      cases h
      refine opened_of_le (Nat.le_succ _) ?_ n
      rw [opened_eq, opened_eq, groups_content]
      simp only [List.map_cons, List.sum_cons]
      rw [Tree.groups_group g.kind]
      omega
  | repeatLast min max greedy h =>
    obtain ⟨t, ts, ht, rfl⟩ := exists_of_repeatLast h
    refine opened_of_le ?_ ?_ n
    · exact Nat.le_refl _
    · simp [ParseState.opened, trees, ht, Tree.groups]

/-- A run logs every group that it opens. -/
theorem Reads.opened (h : Reads st cs log stF left) : stF.opened = st.opened + log.length := by
  induction h with
  | here st cs => rfl
  | step hskip hstep _ ih =>
    rw [ih, (move_of_parseStep hstep).opened, List.length_append, Nat.add_assoc]

/-- An expression has as many groups as parentheses that open one. -/
theorem length_groupStarts {t : Tree} (h : parseTree cs = .ok t) :
    (groupStarts cs).length = t.groups := by
  obtain ⟨stF, hrun, hgroups, rfl⟩ := parseTree_eq_ok_iff.mp h
  obtain ⟨left, hreads, -⟩ := exists_reads hrun
  rw [groupStarts, List.length_map, ParseState.groups_content_of_closed hgroups, hreads.opened]
  exact (Nat.zero_add _).symm

/-! ## 3. A text with more behind it -/

/-- Whether a run that reads a text to its end leaves a parenthesis behind the text, inside
    of whatever groups. -/
def ReadsClosed (st : ParseState) (cs : List Char) (log : List Nat) (stF : ParseState) : Prop :=
  ∀ base names more, more.head? = some ')' → ParseState.Fresh names st stF →
    ∃ left, Reads (st.inside base names) (cs ++ more) (log.map (· + more.length))
      (stF.inside base names) left ∧ skipBlanks stF.extended left = more

/-- Whether a run that reads a text to its end goes on with a comment to the end of the
    line. -/
def ReadsSwallowed (st : ParseState) (cs : List Char) (log : List Nat) (stF : ParseState) : Prop :=
  ∀ base names more, ParseState.Fresh names st stF →
    ∃ st₁ left, Reads (st.inside base names) (cs ++ more) (log.map (· + more.length)) st₁ left ∧
      st₁.groups = stF.groups ++ base ∧
        skipBlanks st₁.extended left <:+ dropComments true more

theorem ParseState.opens_inside (st st' : ParseState) (base : List OpenGroup)
    (names : List String) : (st.inside base names).opens (st'.inside base names) = st.opens st' := by
  obtain ⟨factors, branches, groups, extended, names'⟩ := st'
  cases groups with
  | nil => exact opens_eq_false (by simp [inside])
  | cons g gs =>
    obtain ⟨kind, gBranches, gFactors, gExtended⟩ := g
    cases kind with
    | plain fs => rfl
    | capture name =>
      refine decide_eq_decide.mpr ?_
      simp only [inside, List.length_append, List.length_cons]
      omega

theorem ParseState.opening_inside (st st' : ParseState) (base : List OpenGroup)
    (names : List String) (n k : Nat) :
    (st.inside base names).opening (st'.inside base names) (n + k) =
      (st.opening st' n).map (· + k) := by
  rw [opening, opens_inside, opening]
  split <;> rfl

theorem skipBlanks_of_paren {more : List Char} (h : more.head? = some ')') (extended : Bool) :
    skipBlanks extended more = more := by
  obtain ⟨after, rfl⟩ := List.head?_eq_some_iff.mp h
  cases extended <;> rfl

/-- A text that is read to its end, and leaves no group open, is read in the same way with
    more behind it.  Then either a parenthesis there is left, or a comment goes on. -/
theorem Reads.closed_or_swallowed (h : Reads st cs log stF left)
    (hend : skipBlanks stF.extended left = []) (hgroups : stF.groups = []) :
    ReadsClosed st cs log stF ∨ ReadsSwallowed st cs log stF := by
  induction h with
  | here st cs =>
    cases ends_skipBlanks hend with
    | closed hclosed =>
      exact Or.inl fun base names more hmore _ => ⟨cs ++ more, .here _ _, hclosed more hmore⟩
    | comment hcomment =>
      refine Or.inr fun base names more _ => ⟨_, cs ++ more, .here _ _, rfl, ?_⟩
      simp only [ParseState.extended_inside, hcomment, List.suffix_refl]
  | @step st st' stF c cs rest rest' left log hskip hstep hrest ih =>
    have hskip' : ∀ base names more, skipBlanks (st.inside base names).extended (cs ++ more) =
        c :: (rest ++ more) := fun _ _ more => skipBlanks_append_of_cons hskip more
    by_cases hnil : rest' = []
    · -- the last step decides
      subst hnil
      obtain ⟨rfl, rfl, rfl⟩ := hrest.eq_of_nil
      rcases ends_parseStep hstep hgroups with hcloses | hswallows
      · refine Or.inl fun base names more hmore _ => ⟨more, ?_, skipBlanks_of_paren hmore _⟩
        have hreads := Reads.step (hskip' base names more) (hcloses base names more hmore) (.here _ more)
        rw [List.length_append, Nat.add_right_comm, ParseState.opening_inside] at hreads
        rwa [List.map_append]
      · refine Or.inr fun base names more _ => ?_
        obtain ⟨st₁, rest₁, hstep₁, hgroups₁, hsuffix⟩ := hswallows base names more
        have hreads := Reads.step (hskip' base names more) hstep₁ (.here st₁ rest₁)
        have hcount : st₁.groups.length ≤ (st.inside base names).groups.length := by
          simp [hgroups₁, hgroups, ParseState.inside]
        rw [ParseState.opening_eq_nil hcount] at hreads
        rw [ParseState.opening_eq_nil (by simp [hgroups])]
        exact ⟨st₁, rest₁, hreads, hgroups₁, (stable_skipBlanks _ _).suffix.trans hsuffix⟩
    · have htakes := takes_of_parseStep hstep
      -- before the last step all is the same with more behind the text
      have hmore : ∀ base names more, ParseState.Fresh names st stF →
          ParseState.Fresh names st' stF ∧ ∀ {log₁ st₁ left₁},
            Reads (st'.inside base names) (rest' ++ more) (log.map (· + more.length)) st₁ left₁ →
              log₁ = (st.opening st' (rest.length + 1) ++ log).map (· + more.length) →
                Reads (st.inside base names) (cs ++ more) log₁ st₁ left₁ := by
        intro base names more hfresh
        obtain ⟨hfirst, hlater⟩ := (ParseState.fresh_iff htakes.names hrest.names).mp hfresh
        have hstep' := htakes.stable.append more (Or.inl hnil) base names
        rw [if_pos hfirst] at hstep'
        refine ⟨hlater, ?_⟩
        rintro log₁ st₁ left₁ hreads rfl
        have hreads' := Reads.step (hskip' base names more) hstep' hreads
        rw [List.length_append, Nat.add_right_comm, ParseState.opening_inside] at hreads'
        rwa [List.map_append]
      rcases ih hend hgroups with hclosed | hswallowed
      · refine Or.inl fun base names more hparen hfresh => ?_
        obtain ⟨hlater, hfirst⟩ := hmore base names more hfresh
        obtain ⟨left₁, hreads, hleft⟩ := hclosed base names more hparen hlater
        exact ⟨left₁, hfirst hreads rfl, hleft⟩
      · refine Or.inr fun base names more hfresh => ?_
        obtain ⟨hlater, hfirst⟩ := hmore base names more hfresh
        obtain ⟨st₁, left₁, hreads, hgroups₁, hleft⟩ := hswallowed base names more hlater
        exact ⟨st₁, left₁, hfirst hreads rfl, hgroups₁, hleft⟩

theorem ParseState.Move.names_eq (h : st.Move st') (hgroups : st'.groups = []) :
    st'.names = st.names := by
  cases h with
  | push | set | nextBranch => rfl
  | openGroup | openNamed => cases hgroups
  | closeGroup h => exact names_of_closeGroup h
  | repeatLast min max greedy h => exact names_of_repeatLast h

/-- Where the whole of a longer text can be read, the names of a text in it are new there. -/
theorem Reads.fresh (h : Reads st cs log stF left) (hgroups : stF.groups = [])
    {base : List OpenGroup} {names : List String} {more : List Char} {fuel : Nat}
    {stE : ParseState} (hrun : parseLoop fuel (st.inside base names) (cs ++ more) = .ok stE) :
    ParseState.Fresh names st stF := by
  induction h generalizing fuel with
  | here st cs => exact ParseState.fresh_of_names_eq rfl names
  | @step st st' stF c cs rest rest' left log hskip hstep hrest ih =>
    have htakes := takes_of_parseStep hstep
    refine (ParseState.fresh_iff htakes.names hrest.names).mpr ?_
    by_cases hnil : rest' = []
    · subst hnil
      obtain ⟨rfl, -, -⟩ := hrest.eq_of_nil
      exact ⟨ParseState.fresh_of_names_eq ((move_of_parseStep hstep).names_eq hgroups) names,
        ParseState.fresh_of_names_eq rfl names⟩
    · cases fuel with
      | zero => cases hrun
      | succ fuel =>
        have hstep' := htakes.stable.append more (Or.inl hnil) base names
        rw [parseLoop, ParseState.extended_inside, skipBlanks_append_of_cons hskip more] at hrun
        simp only [hstep'] at hrun
        by_cases hfresh : ParseState.Fresh names st st'
        · rw [if_pos hfresh] at hrun
          exact ⟨hfresh, ih hgroups hrun⟩
        · rw [if_neg hfresh] at hrun
          cases hrun

/-! ## 4. A text in parentheses -/

theorem reads_open (hcs : cs.head? ≠ some '?') (hextended : st.extended = false) :
    Reads st ('(' :: cs) [cs.length + 1]
      (({} : ParseState).inside (⟨.capture none, st.branches, st.factors, false⟩ :: st.groups)
        st.names) cs := by
  have hread := Reads.step (skipBlanks_of_not_extended hextended ('(' :: cs))
    (parseStep_open hcs hextended) (.here _ cs)
  have hopens : st.opens (({} : ParseState).inside (⟨.capture none, st.branches, st.factors,
      false⟩ :: st.groups) st.names) = true := by
    simp [ParseState.opens, ParseState.inside]
  rwa [ParseState.opening, if_pos hopens] at hread

/-- A text that leaves the parenthesis behind it is a group when parentheses are put around
    it. -/
theorem ReadsClosed.group (h : ReadsClosed {} cs log stF) (hgroups : stF.groups = [])
    (hcs : cs.head? ≠ some '?') (hextended : st.extended = false)
    (hfresh : ParseState.Fresh st.names {} stF) (more : List Char) :
    Reads st ('(' :: (cs ++ ')' :: more))
      ((cs.length + more.length + 2) :: log.map (· + (more.length + 1)))
      { st.push (.group (.capture none) stF.content) with names := stF.names ++ st.names }
      more := by
  obtain ⟨left, hreads, hleft⟩ := h
    (⟨.capture none, st.branches, st.factors, false⟩ :: st.groups) st.names (')' :: more) rfl hfresh
  replace hleft : skipBlanks (stF.inside (⟨.capture none, st.branches, st.factors, false⟩ ::
      st.groups) st.names).extended left = ')' :: more := hleft
  have hclose := Reads.step hleft (parseStep_close rfl hgroups st.groups st.names more) (.here _ more)
  rw [ParseState.opening_eq_nil (by simp +arith [ParseState.inside])] at hclose
  have hgroup := (reads_open (head?_append_paren_ne hcs more) hextended).trans (hreads.trans hclose)
  simp only [List.length_append, List.length_cons, List.append_nil] at hgroup
  rw [← hextended] at hgroup
  exact hgroup

/-- A text whose comment takes the parenthesis leaves the group around it open. -/
theorem ReadsSwallowed.group (h : ReadsSwallowed {} cs log stF) (hcs : cs.head? ≠ some '?')
    (hextended : st.extended = false) (hfresh : ParseState.Fresh st.names {} stF)
    (more : List Char) :
    ∃ st₁ left, Reads st ('(' :: (cs ++ ')' :: more))
      ((cs.length + more.length + 2) :: log.map (· + (more.length + 1))) st₁ left ∧
        st₁.groups ≠ [] ∧ skipBlanks st₁.extended left <:+ dropComments true more := by
  obtain ⟨st₁, left, hreads, hgroups, hleft⟩ := h
    (⟨.capture none, st.branches, st.factors, false⟩ :: st.groups) st.names (')' :: more) hfresh
  have hgroup := (reads_open (head?_append_paren_ne hcs more) hextended).trans hreads
  simp only [List.length_append, List.length_cons] at hgroup
  exact ⟨st₁, left, hgroup, by simp [hgroups], hleft⟩

/-- A text is a group with parentheses around it unless its last comment takes the closing
    one. -/
theorem parseTree_group_iff (h : Reads {} cs log stF left)
    (hend : skipBlanks stF.extended left = []) (hgroups : stF.groups = [])
    (hcs : cs.head? ≠ some '?') :
    parseTree ('(' :: (cs ++ [')'])) = .ok (.group (.capture none) stF.content) ↔
      ReadsClosed {} cs log stF := by
  constructor
  · intro hparse
    refine (h.closed_or_swallowed hend hgroups).resolve_right fun hswallowed => ?_
    -- nothing would be left to close the group
    obtain ⟨st₁, left₁, hreads, hopen, hleft⟩ :=
      hswallowed.group hcs (rfl : ({} : ParseState).extended = false) (ParseState.fresh_nil _ _) []
    obtain ⟨fuel, -, hloop, -⟩ := hreads.run (Nat.lt_succ_self _)
    obtain ⟨stE, hrun, hclosed, -⟩ := parseTree_eq_ok_iff.mp hparse
    rw [hloop] at hrun
    have hnone : skipBlanks st₁.extended left₁ = [] := List.suffix_nil.mp hleft
    cases fuel with
    | zero => cases hrun
    | succ fuel =>
      rw [parseLoop, hnone] at hrun
      cases hrun
      exact hopen hclosed
  · intro hclosed
    have hreads := hclosed.group hgroups hcs (rfl : ({} : ParseState).extended = false)
      (ParseState.fresh_nil _ _) []
    obtain ⟨fuel, hfuel, hloop, -⟩ := hreads.run (Nat.lt_succ_self _)
    obtain ⟨k, rfl⟩ : ∃ k, fuel = k + 1 := ⟨fuel - 1, by omega⟩
    refine parseTree_eq_ok_iff.mpr ⟨_, hloop, rfl, rfl⟩

end Wayfinder.Regex
