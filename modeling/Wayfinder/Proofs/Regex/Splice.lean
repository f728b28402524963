/-
  Wayfinder/Proofs/Regex/Splice.lean
  ==================================
  **A group inside of a longer expression.**

  Where a text in parentheses is read as a single group, its last parenthesis closes its
  first one: with anything outside of that group there would be more than one factor.  So
  the group is read in the same way wherever it stands, up to the names of its groups,
  which must not have been seen before.
-/
import Wayfinder.Proofs.Regex.Steps

namespace Wayfinder.Regex

variable {st : ParseState} {cs rest : List Char}

/-! ## 1. Nothing but one group -/

namespace ParseState

/-- The factors and branches outside of some groups, if there are any, or else those
    here. -/
def outermost (here : List Tree × List Tree) : List OpenGroup → List Tree × List Tree
  | [] => here
  | g :: gs => outermost (g.factors, g.branches) gs

/-- The factors and the branches outside of all open groups. -/
def ground (st : ParseState) : List Tree × List Tree :=
  outermost (st.factors, st.branches) st.groups

/-- Whether something stands outside of all open groups. -/
def Occupied (st : ParseState) : Prop := st.ground.1 ≠ [] ∨ st.ground.2 ≠ []

/-- Whether what stands there will be more than one group in the end. -/
def Wide (st : ParseState) : Prop :=
  st.ground.2 ≠ [] ∨ st.groups ≠ [] ∧ st.ground.1 ≠ [] ∨ 2 ≤ st.ground.1.length ∨
    ∃ min max greedy body ts, st.ground.1 = .repeated min max greedy body :: ts

variable {st st' : ParseState}

theorem outermost_congr {gs : List OpenGroup} (h : gs ≠ []) (here here' : List Tree × List Tree) :
    outermost here gs = outermost here' gs := by
  cases gs with
  | nil => exact absurd rfl h
  | cons g gs => rfl

theorem Wide.occupied (h : st.Wide) : st.Occupied := by
  rcases h with h | ⟨-, h⟩ | h | ⟨_, _, _, _, _, h⟩
  · exact Or.inr h
  · exact Or.inl h
  · exact Or.inl fun hnil => by rw [hnil] at h; cases h
  · exact Or.inl fun hnil => by rw [hnil] at h; cases h

theorem Occupied.wide (h : st.Occupied) (hopen : st.groups ≠ []) : st.Wide :=
  h.elim (fun h => Or.inr (Or.inl ⟨hopen, h⟩)) Or.inl

theorem Occupied.wide_of_groups (h : st.Occupied) (hopen : st.groups ≠ [])
    (hgroups : st'.groups = st.groups) : st'.Wide := by
  refine Occupied.wide ?_ (hgroups ▸ hopen)
  rwa [Occupied, ground, hgroups, outermost_congr hopen _ (st.factors, st.branches)]

theorem wide_of_cons {t : Tree} {factors branches : List Tree}
    (hground : st.ground = (t :: factors, branches)) (h : factors ≠ [] ∨ branches ≠ []) :
    st.Wide := by
  rw [Wide, hground]
  rcases h with h | h
  · exact Or.inr (Or.inr (Or.inl (Nat.succ_le_succ (List.length_pos_iff.mpr h))))
  · exact Or.inl h

/-- With something outside of all groups, a step makes it more than one group. -/
theorem Move.wide (h : st.Move st') (hoccupied : st.Occupied) : st'.Wide := by
  have hhere : st.groups = [] → st.factors ≠ [] ∨ st.branches ≠ [] := by
    intro hgroups
    rwa [Occupied, ground, hgroups] at hoccupied
  -- a step inside of a group leaves what stands outside; without groups it adds to it
  cases h with
  | openGroup kind => exact Occupied.wide hoccupied (List.cons_ne_nil _ _)
  | openNamed name => exact Occupied.wide hoccupied (List.cons_ne_nil _ _)
  | closeGroup h =>
    obtain ⟨factors, branches, groups, extended, names⟩ := st
    cases groups with
    | nil => cases h
    | cons g gs =>
      cases h
      cases gs with
      | nil => exact wide_of_cons rfl hoccupied
      | cons g' gs => exact Occupied.wide hoccupied (List.cons_ne_nil _ _)
  | push t ht =>
    by_cases hgroups : st.groups = []
    · exact wide_of_cons (by rw [ground, ParseState.push, hgroups]; rfl) (hhere hgroups)
    · exact hoccupied.wide_of_groups hgroups rfl
  | set fs extended =>
    by_cases hgroups : st.groups = []
    · exact wide_of_cons (by rw [ground, ParseState.push, hgroups]; rfl) (hhere hgroups)
    · exact hoccupied.wide_of_groups hgroups rfl
  | nextBranch =>
    by_cases hgroups : st.groups = []
    · refine Or.inl ?_
      rw [ground, ParseState.nextBranch, hgroups]
      exact List.cons_ne_nil _ _
    · exact hoccupied.wide_of_groups hgroups rfl
  | repeatLast min max greedy h =>
    obtain ⟨t, ts, -, rfl⟩ := exists_of_repeatLast h
    by_cases hgroups : st.groups = []
    · refine Or.inr (Or.inr (Or.inr ⟨min, max, greedy, t, ts, ?_⟩))
      rw [ground, hgroups]
      rfl
    · exact hoccupied.wide_of_groups hgroups rfl

theorem ofFactors_eq_group {ts : List Tree} {kind : GroupKind} {t : Tree}
    (h : Tree.ofFactors ts = .group kind t) : ts = [.group kind t] := by
  rcases ts with _ | ⟨t', _ | ⟨t'', ts⟩⟩
  · cases h
  · exact congrArg (fun t => [t]) h
  · cases h

theorem ofBranches_eq_group {ts : List Tree} {kind : GroupKind} {t : Tree}
    (h : Tree.ofBranches ts = .group kind t) : ts = [.group kind t] := by
  rcases ts with _ | ⟨t', _ | ⟨t'', ts⟩⟩
  · cases h
  · exact congrArg (fun t => [t]) h
  · cases h

/-- A state that holds one group and nothing more. -/
theorem of_content_eq_group {kind : GroupKind} {t : Tree} (h : st.content = .group kind t) :
    st.factors = [.group kind t] ∧ st.branches = [] := by
  have hrow := ofBranches_eq_group h
  rw [List.reverse_eq_iff, List.reverse_singleton] at hrow
  obtain ⟨hlast, hnone⟩ := List.cons.inj hrow
  have hlone := ofFactors_eq_group hlast
  rw [List.reverse_eq_iff, List.reverse_singleton] at hlone
  exact ⟨hlone, hnone⟩

theorem Wide.content_ne (h : st.Wide) (hgroups : st.groups = []) (kind : GroupKind) (t : Tree) :
    st.content ≠ .group kind t := by
  intro hcontent
  obtain ⟨hfactors, hbranches⟩ := of_content_eq_group hcontent
  rw [Wide, ground, hgroups] at h
  simp [outermost, hfactors, hbranches] at h

end ParseState

theorem parseLoop_wide {fuel : Nat} {st stF : ParseState} (h : parseLoop fuel st cs = .ok stF)
    (hoccupied : st.Occupied) (hmore : st.Wide ∨ skipBlanks st.extended cs ≠ []) : stF.Wide := by
  induction fuel generalizing st cs with
  | zero => cases h
  | succ fuel ih =>
    rw [parseLoop] at h
    split at h
    · rename_i hend
      cases h
      exact hmore.resolve_right (fun hne => hne hend)
    · rename_i c after hskip
      obtain ⟨⟨st', rest'⟩, hstep, h⟩ := bind_eq_ok_iff.mp h
      have hwide := (move_of_parseStep hstep).wide hoccupied
      exact ih h hwide.occupied (Or.inl hwide)

/-! ## 2. Reading on -/

theorem parseLoop_nil {fuel : Nat} {st stF : ParseState} (h : parseLoop fuel st [] = .ok stF) :
    stF = st := by
  cases fuel with
  | zero => cases h
  | succ fuel =>
    rw [parseLoop, skipBlanks_nil] at h
    exact (Except.ok.inj h).symm

/-- The names that are new in the end are fresh when those of the first step are, and then
    those of all steps after it. -/
theorem ParseState.fresh_iff {names : List String} {st st' stF : ParseState}
    (hstep : st.names <:+ st'.names) (hrun : st'.names <:+ stF.names) :
    Fresh names st stF ↔ Fresh names st st' ∧ Fresh names st' stF := by
  constructor
  · intro h
    exact ⟨fun n hn => h n (hrun.subset hn), fun n hn hmem => hstep.subset (h n hn hmem)⟩
  · rintro ⟨h, h'⟩ n hn hmem
    exact h n (h' n hn hmem) hmem

/-- A text is read when its groups are all closed in the end. -/
theorem parseTree_eq_ok_iff {t : Tree} :
    parseTree cs = .ok t ↔
      ∃ stF, parseLoop (cs.length + 1) {} cs = .ok stF ∧ stF.groups = [] ∧ stF.content = t := by
  rw [parseTree, bind_eq_ok_iff]
  refine exists_congr fun stF => and_congr_right fun _ => ?_
  rw [← List.isEmpty_iff]
  split
  · rename_i hgroups
    simp [hgroups, pure, Except.pure]
  · rename_i hgroups
    simp [hgroups]

theorem parse_eq_ok_iff {t : Tree} :
    parse cs = .ok t ↔ parseTree cs = .ok t ∧ t.depth false false ≤ nestingLimit := by
  rw [parse, bind_eq_ok_iff]
  constructor
  · rintro ⟨t', ht, hlimit⟩
    split at hlimit
    · rename_i hle
      obtain rfl := Except.ok.inj hlimit
      exact ⟨ht, hle⟩
    · cases hlimit
  · rintro ⟨ht, hle⟩
    exact ⟨t, ht, if_pos hle⟩

theorem parseStep_close {g : OpenGroup} (hg : g.kind = .capture none) (hnone : st.groups = [])
    (base : List OpenGroup) (names : List String) (more : List Char) :
    parseStep (st.inside (g :: base) names) ')' more =
      .ok (⟨.group (.capture none) st.content :: g.factors, g.branches, base, g.extended,
        st.names ++ names⟩, more) := by
  have hgroups : (st.inside (g :: base) names).groups = g :: base := by
    simp [ParseState.inside, hnone]
  simp only [parseStep, ParseState.closeGroup, hgroups, hg]
  rfl

/-- Behind a group that is all there is in the end, nothing was left to read. -/
theorem eq_of_parseLoop_lone {fuel : Nat} {stF : ParseState} {body t : Tree} {names : List String}
    (h : parseLoop fuel { factors := [.group (.capture none) body], names := names } rest = .ok stF)
    (hgroups : stF.groups = []) (hcontent : stF.content = .group (.capture none) t) :
    rest = [] ∧ stF.names = names ∧ body = t := by
  by_cases hrest : rest = []
  · obtain rfl := hrest
    obtain rfl := parseLoop_nil h
    obtain ⟨hfactors, -⟩ := ParseState.of_content_eq_group hcontent
    cases hfactors
    exact ⟨rfl, rfl, rfl⟩
  · have hwide := parseLoop_wide h (Or.inl (List.cons_ne_nil _ _)) (Or.inr hrest)
    exact absurd hcontent (hwide.content_ne hgroups _ _)

/-- A group that is read to its end is read in the same way inside of other groups and before
    another text, unless it uses one of their names. -/
theorem parseLoop_inside {fuel : Nat} {stF : ParseState} {t : Tree}
    (h : parseLoop fuel (st.inside [⟨.capture none, [], [], false⟩] []) cs = .ok stF)
    (hgroups : stF.groups = []) (hcontent : stF.content = .group (.capture none) t)
    (g : OpenGroup) (hg : g.kind = .capture none) (base : List OpenGroup) (names : List String)
    (more : List Char) {fuel' : Nat} (hfuel : (cs ++ more).length < fuel') :
    st.names <:+ stF.names ∧ ∃ fuel'', more.length < fuel'' ∧
      parseLoop fuel' (st.inside (g :: base) names) (cs ++ more) =
        if ParseState.Fresh names st stF then
          parseLoop fuel'' ⟨.group (.capture none) t :: g.factors, g.branches, base, g.extended,
            stF.names ++ names⟩ more
        else .error .malformed := by
  -- both runs take the same steps until the parenthesis that closes their groups
  induction fuel generalizing st cs fuel' with
  | zero => cases h
  | succ fuel ih =>
    have hopen : st.groups ++ [⟨.capture none, [], [], false⟩] ≠ [] :=
      List.append_ne_nil_of_right_ne_nil _ (List.cons_ne_nil _ _)
    rw [parseLoop] at h
    split at h
    · cases h
      exact absurd hgroups hopen
    · rename_i c rest hskip
      obtain ⟨⟨st₁, rest'⟩, hstep, h⟩ := bind_eq_ok_iff.mp h
      have hskip' := skipBlanks_append_of_cons hskip more
      rw [ParseState.extended_inside] at hskip'
      obtain ⟨k, rfl⟩ : ∃ k, fuel' = k + 1 := ⟨fuel' - 1, by omega⟩
      have hlength : (rest ++ more).length < k := by
        have hle := length_skipBlanks_le st.extended (cs ++ more)
        rw [hskip', List.length_cons] at hle
        omega
      by_cases hclose : c = ')' ∧ st.groups = []
      · -- the group ends here
        obtain ⟨rfl, hnil⟩ := hclose
        rw [parseStep_close rfl hnil, List.append_nil] at hstep
        cases hstep
        obtain ⟨rfl, hnames, rfl⟩ := eq_of_parseLoop_lone h hgroups hcontent
        refine ⟨hnames ▸ List.suffix_refl _, k, hlength, ?_⟩
        rw [parseLoop, ParseState.extended_inside, hskip',
          if_pos (ParseState.fresh_of_names_eq hnames names)]
        simp only [parseStep_close hg hnil, hnames]
        rfl
      · -- a step inside of the group
        obtain ⟨st', rfl, htakes⟩ := takes_parseStep hstep fun hc hnil => hclose ⟨hc, hnil⟩
        have hrest : rest' ≠ [] := by
          rintro rfl
          rw [parseLoop_nil h] at hgroups
          simp [ParseState.inside] at hgroups
        have hlength' : (rest' ++ more).length < k := by
          have hle := htakes.stable.length_le
          simp only [List.length_append] at hlength ⊢
          omega
        obtain ⟨hnames, fuel'', hmore, hrun⟩ := ih h hlength'
        refine ⟨htakes.names.trans hnames, fuel'', hmore, ?_⟩
        rw [parseLoop, ParseState.extended_inside, hskip']
        simp only [htakes.stable.append more (Or.inl hrest) (g :: base) names,
          ParseState.fresh_iff htakes.names hnames]
        by_cases hfresh : ParseState.Fresh names st st'
        · simp only [hfresh, true_and]
          exact hrun
        · simp only [hfresh, false_and, if_false]
          rfl

/-! ## 3. A group in its place -/

/-- A run keeps the names of a state to those in its trees. -/
theorem named_of_parseLoop {fuel : Nat} {stF : ParseState} (h : parseLoop fuel st cs = .ok stF)
    (hnamed : st.Named) : stF.Named := by
  induction fuel generalizing st cs with
  | zero => cases h
  | succ fuel ih =>
    rw [parseLoop] at h
    split at h
    · cases h
      exact hnamed
    · obtain ⟨⟨st', rest'⟩, hstep, h⟩ := bind_eq_ok_iff.mp h
      exact ih h ((move_of_parseStep hstep).named hnamed)

theorem ParseState.Named.mem_content (h : st.Named) (hgroups : st.groups = []) (n : String) :
    n ∈ st.names ↔ n ∈ st.content.groupNames := by
  rw [h n, ParseState.mem_groupNames_content, ParseState.trees, hgroups, List.flatMap_nil,
    List.append_nil]

/-- The step that opens a group without a name starts over inside of it. -/
theorem parseStep_open (hcs : cs.head? ≠ some '?') (hextended : st.extended = false) :
    parseStep st '(' cs =
      .ok (({} : ParseState).inside (⟨.capture none, st.branches, st.factors, false⟩ ::
        st.groups) st.names, cs) := by
  refine (groupHead_capture st (skipBlanks_of_not_extended hextended cs) hcs).trans ?_
  rw [ParseState.openGroup, hextended]
  rfl

theorem parseLoop_open (hcs : cs.head? ≠ some '?') (hextended : st.extended = false) (fuel : Nat) :
    parseLoop (fuel + 1) st ('(' :: cs) =
      parseLoop fuel (({} : ParseState).inside (⟨.capture none, st.branches, st.factors, false⟩ ::
        st.groups) st.names) cs := by
  rw [parseLoop, skipBlanks_of_not_extended hextended]
  simp only [parseStep_open hcs hextended]
  rfl

/-- A closing parenthesis behind a text does not turn its start into flags. -/
theorem head?_append_paren_ne (hcs : cs.head? ≠ some '?') (more : List Char) :
    (cs ++ ')' :: more).head? ≠ some '?' := by
  cases cs with
  | nil => simp
  | cons c cs => simpa using hcs

/-- The parentheses of a text that is read as one group are read in the same way after
    other things and before more text.  None of the names inside may have been seen. -/
theorem exists_parseLoop_group {t : Tree}
    (h : parseTree ('(' :: (cs ++ [')'])) = .ok (.group (.capture none) t))
    (hcs : cs.head? ≠ some '?') (hextended : st.extended = false) {more : List Char} {fuel : Nat}
    (hfuel : ('(' :: (cs ++ [')'] ++ more)).length < fuel) :
    ∃ fuel' seen, more.length < fuel' ∧ (∀ n, n ∈ seen ↔ n ∈ t.groupNames) ∧
      parseLoop fuel st ('(' :: (cs ++ [')'] ++ more)) =
        if ∀ n ∈ t.groupNames, n ∉ st.names then
          parseLoop fuel' { st.push (.group (.capture none) t) with names := seen ++ st.names } more
        else .error .malformed := by
  have hhead : ∀ more, (cs ++ [')'] ++ more).head? ≠ some '?' := by
    intro more
    rw [List.append_assoc]
    exact head?_append_paren_ne hcs more
  obtain ⟨stF, hrun, hgroups, hcontent⟩ := parseTree_eq_ok_iff.mp h
  have hnamed : stF.Named :=
    named_of_parseLoop hrun (by simp [ParseState.Named, ParseState.trees])
  have hnames : ∀ n, n ∈ stF.names ↔ n ∈ t.groupNames := by
    intro n
    rw [hnamed.mem_content hgroups, hcontent, Tree.groupNames]
    intro name hkind
    cases hkind
  obtain ⟨k, rfl⟩ : ∃ k, fuel = k + 1 := ⟨fuel - 1, by omega⟩
  rw [List.length_cons] at hfuel
  rw [parseLoop_open (by simpa using hhead []) rfl] at hrun
  obtain ⟨-, fuel', hmore, hinside⟩ := parseLoop_inside hrun hgroups hcontent
    ⟨.capture none, st.branches, st.factors, false⟩ rfl st.groups st.names more
    (Nat.lt_of_succ_lt_succ hfuel)
  refine ⟨fuel', stF.names, hmore, hnames, ?_⟩
  rw [parseLoop_open (hhead more) hextended, hinside, ← hextended]
  refine if_congr ?_ rfl rfl
  simp only [ParseState.Fresh, List.not_mem_nil, hnames]

/-! ## 4. Texts without comments -/

/-- Without comments, a text that is read to its end is read in the same way inside of a
    group. -/
theorem exists_parseLoop_closed {fuel : Nat} {stF : ParseState} (h : parseLoop fuel st cs = .ok stF)
    (hgroups : stF.groups = []) (hcs : '#' ∉ cs) {g : OpenGroup} (hg : g.kind = .capture none)
    (more : List Char) {fuel' : Nat} (hfuel : (cs ++ ')' :: more).length < fuel') :
    ∃ fuel'', more.length < fuel'' ∧
      parseLoop fuel' (st.inside [g] []) (cs ++ ')' :: more) =
        parseLoop fuel'' ⟨.group (.capture none) stF.content :: g.factors, g.branches, [],
          g.extended, stF.names⟩ more := by
  induction fuel generalizing st cs fuel' with
  | zero => cases h
  | succ fuel ih =>
    obtain ⟨k, rfl⟩ : ∃ k, fuel' = k + 1 := ⟨fuel' - 1, by omega⟩
    have hskip := stable_skipBlanks st.extended cs
    have hinside := hskip.append (')' :: more) (Or.inr ⟨hcs, rfl⟩)
    have hlength := hskip.length_le
    rw [List.length_append] at hfuel
    rw [parseLoop] at h ⊢
    split at h
    · rename_i hend
      cases h
      refine ⟨k, ?_, ?_⟩
      · rw [List.length_cons] at hfuel
        omega
      · rw [ParseState.extended_inside, hinside, hend]
        simp only [List.nil_append, parseStep_close hg hgroups, List.append_nil]
        rfl
    · rename_i c after hnext
      obtain ⟨⟨st', rest'⟩, hstep, h⟩ := bind_eq_ok_iff.mp h
      rw [hnext] at hskip hlength hinside
      have hafter : '#' ∉ after :=
        fun hmem => hcs (hskip.suffix.subset (List.mem_cons_of_mem _ hmem))
      have htakes := takes_of_parseStep hstep
      have hrest := htakes.stable.length_le
      obtain ⟨fuel'', hmore, hrun⟩ := @ih st' rest' h
        (fun hmem => hafter (htakes.stable.suffix.subset hmem)) k (by
          simp only [List.length_append, List.length_cons] at hfuel hlength ⊢
          omega)
      refine ⟨fuel'', hmore, ?_⟩
      rw [ParseState.extended_inside, hinside]
      simp only [List.cons_append, htakes.stable.append (')' :: more) (Or.inr ⟨hafter, rfl⟩) [g] [],
        if_pos (ParseState.fresh_nil st st')]
      exact hrun

/-- There is nothing to repeat in the beginning. -/
theorem head_ne_of_parseTree {t : Tree} (h : parseTree cs = .ok t) : cs.head? ≠ some '?' := by
  rintro hhead
  obtain ⟨cs, rfl⟩ := List.head?_eq_some_iff.mp hhead
  obtain ⟨stF, hrun, -⟩ := parseTree_eq_ok_iff.mp h
  cases hrun

/-- A text without comments is read in the same way inside of a group. -/
theorem parseTree_closed {t : Tree} (h : parseTree cs = .ok t) (hcs : '#' ∉ cs) :
    parseTree ('(' :: (cs ++ [')'])) = .ok (.group (.capture none) t) := by
  have hhead := head?_append_paren_ne (head_ne_of_parseTree h) []
  obtain ⟨stF, hrun, hgroups, rfl⟩ := parseTree_eq_ok_iff.mp h
  obtain ⟨fuel, hfuel, hclosed⟩ := exists_parseLoop_closed hrun hgroups hcs
    (g := ⟨.capture none, [], [], false⟩) rfl [] (Nat.lt_succ_self _)
  obtain ⟨k, rfl⟩ : ∃ k, fuel = k + 1 := ⟨fuel - 1, by simp at hfuel; omega⟩
  rw [parseTree, parseLoop_open hhead rfl, List.length_cons, hclosed]
  rfl

end Wayfinder.Regex
