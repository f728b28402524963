/-
  Wayfinder/Proofs/Regex/Steps.lean
  =================================
  **A step of the parser by itself.**

  A step reads one thing and changes the state.  What it reads and what it makes of the
  state depend on the innermost group only, so a step is the same inside of further groups
  and before a longer text; only a group name that was seen before stops it.  Apart from
  the text, a step makes one of seven moves, and every move keeps the list of names to the
  names that are written in the trees.
-/
import Wayfinder.Proofs.Regex.Classes
import Wayfinder.Proofs.Regex.Lowering
import Wayfinder.Regex.Parser

namespace Wayfinder.Regex

/-! ## 1. States inside of others -/

namespace ParseState

/-- A state with more groups open around it and more names seen before it. -/
def inside (st : ParseState) (base : List OpenGroup) (names : List String) : ParseState :=
  { st with groups := st.groups ++ base, names := st.names ++ names }

@[simp] theorem extended_inside (st : ParseState) (base : List OpenGroup) (names : List String) :
    (st.inside base names).extended = st.extended :=
  rfl

theorem inside_nil (st : ParseState) : st.inside [] [] = st := by simp [inside]

/-- Whether the names that are new after a step are none of some others. -/
def Fresh (names : List String) (st st' : ParseState) : Prop :=
  ∀ n ∈ st'.names, n ∈ names → n ∈ st.names

instance (names : List String) (st st' : ParseState) : Decidable (Fresh names st st') :=
  inferInstanceAs (Decidable (∀ n ∈ st'.names, n ∈ names → n ∈ st.names))

variable {st st' : ParseState} {base : List OpenGroup} {names : List String}

theorem fresh_of_names_eq (h : st'.names = st.names) (names : List String) : Fresh names st st' :=
  fun _ hn _ => h ▸ hn

theorem fresh_nil (st st' : ParseState) : Fresh [] st st' :=
  fun _ _ hmem => absurd hmem List.not_mem_nil

theorem closeGroup_inside (hopen : st.groups ≠ []) (base : List OpenGroup) (names : List String) :
    (st.inside base names).closeGroup = st.closeGroup.map (·.inside base names) := by
  obtain ⟨g, gs, hgroups⟩ := List.exists_cons_of_ne_nil hopen
  simp [closeGroup, inside, hgroups, content, Except.map]

theorem repeatLast_inside (min : Nat) (max : Option Nat) (greedy : Bool) (base : List OpenGroup)
    (names : List String) :
    (st.inside base names).repeatLast min max greedy =
      (st.repeatLast min max greedy).map (·.inside base names) := by
  unfold repeatLast inside
  split <;> simp_all [Except.map]

theorem names_of_closeGroup (h : st.closeGroup = .ok st') : st'.names = st.names := by
  unfold closeGroup at h
  split at h
  · cases h
  · cases h
    rfl

theorem names_of_repeatLast {min : Nat} {max : Option Nat} {greedy : Bool}
    (h : st.repeatLast min max greedy = .ok st') : st'.names = st.names := by
  unfold repeatLast at h
  split at h
  all_goals first | cases h; rfl | cases h

end ParseState

/-- A map over an outcome yields what it makes of a result. -/
theorem exists_of_map_eq_ok {α β : Type} {x : Except Fault α} {f : α → β} {b : β}
    (h : x.map f = .ok b) : ∃ a, x = .ok a ∧ f a = b := by
  cases x with
  | error e => cases h
  | ok a => exact ⟨a, rfl, Except.ok.inj h⟩

/-! ## 2. One step -/

/-- What a reader makes of a state, whatever is around the state and behind the text.  A
    name that was seen before makes it fail. -/
structure Takes (read : ParseState → List Char → Except Fault (ParseState × List Char))
    (st st' : ParseState) (cs rest : List Char) : Prop where
  names : st.names <:+ st'.names
  stable : Stable (fun as bs => ∀ base names, read (st.inside base names) as =
    if ParseState.Fresh names st st' then .ok (st'.inside base names, bs) else .error .malformed)
    cs rest

variable {st st₁ : ParseState} {base : List OpenGroup} {names : List String}
  {cs rest : List Char}

theorem Takes.of_same {read : ParseState → List Char → Except Fault (ParseState × List Char)}
    {st' : ParseState} (hnames : st'.names = st.names)
    (h : Stable (fun as bs => ∀ base names, read (st.inside base names) as =
      .ok (st'.inside base names, bs)) cs rest) : Takes read st st' cs rest := by
  refine ⟨hnames ▸ List.suffix_refl _, h.imp fun as bs hread base names => ?_⟩
  rw [hread, if_pos (ParseState.fresh_of_names_eq hnames names)]

theorem takes_openNamed (h : openNamed (st.inside base names) cs = .ok (st₁, rest)) :
    ∃ st', st₁ = st'.inside base names ∧ Takes openNamed st st' cs rest := by
  unfold openNamed at h
  split at h
  · rename_i letters after hname
    obtain ⟨name, hletters⟩ : ∃ name, String.ofList letters = name := ⟨_, rfl⟩
    simp only [hletters] at h
    split at h
    · cases h
    · rename_i hnew
      cases h
      replace hnew : name ∉ st.names := fun hmem => hnew (by simp [ParseState.inside, hmem])
      refine ⟨{ st with names := name :: st.names }.openGroup (.capture (some name)), rfl,
        List.suffix_cons _ _, (stable_groupName hname).imp fun as bs hread base names => ?_⟩
      have hfresh : ParseState.Fresh names st
          ({ st with names := name :: st.names }.openGroup (.capture (some name))) ↔
            name ∉ names := by
        constructor
        · exact fun h hmem => hnew (h name List.mem_cons_self hmem)
        · rintro h n hn hmem
          rcases List.mem_cons.mp hn with rfl | hn
          · exact absurd hmem h
          · exact hn
      simp only [openNamed, hread, hletters, hfresh]
      by_cases hmem : name ∈ names
      · simp [ParseState.inside, hmem]
      · simp [ParseState.inside, hmem, hnew, ParseState.openGroup]
  · cases h

/-- Flags start with one of their letters, a hyphen or their end. -/
theorem ne_of_flagSettings {negated dangling : Bool} {read : FlagSettings} {c : Char}
    {r : FlagSettings × Bool × List Char}
    (h : flagSettings negated dangling read (c :: cs) = some r) :
    c ≠ 'P' ∧ c ≠ '<' ∧ c ≠ '=' ∧ c ≠ '!' := by
  refine ⟨?_, ?_, ?_, ?_⟩ <;> (rintro rfl; cases h)

theorem groupHead_capture (st : ParseState) {start : List Char}
    (hskip : skipBlanks st.extended cs = start) (hstart : start.head? ≠ some '?') :
    groupHead st cs = .ok (st.openGroup (.capture none), start) := by
  unfold groupHead
  simp only [hskip]
  split
  · rename_i hlook
    exfalso
    unfold isLookAround at hlook
    split at hlook
    all_goals first | exact hstart rfl | cases hlook
  · split
    all_goals first | rfl | exact absurd rfl hstart

theorem groupHead_letter (st : ParseState) {inner : List Char}
    (hskip : skipBlanks st.extended cs = '?' :: 'P' :: '<' :: inner) :
    groupHead st cs = openNamed st inner := by
  unfold groupHead
  simp only [hskip]
  rfl

theorem isLookAround_angle (c : Char) (cs : List Char) :
    isLookAround ('?' :: '<' :: c :: cs) = (c == '=' || c == '!') := by
  by_cases h : c = '='
  · rw [h]; rfl
  · by_cases h' : c = '!'
    · rw [h']; rfl
    · unfold isLookAround
      split <;> simp_all

theorem groupHead_angle (st : ParseState) {c : Char} {inner : List Char}
    (hskip : skipBlanks st.extended cs = '?' :: '<' :: c :: inner) (hc : c ≠ '=' ∧ c ≠ '!') :
    groupHead st cs = openNamed st (c :: inner) := by
  unfold groupHead
  simp only [hskip, isLookAround_angle, beq_eq_false_iff_ne.mpr hc.1,
    beq_eq_false_iff_ne.mpr hc.2, Bool.or_self, Bool.false_eq_true, if_false]

theorem groupHead_flags (st : ParseState) {c : Char} {inner rest : List Char} {fs : FlagSettings}
    {closes : Bool} (hskip : skipBlanks st.extended cs = '?' :: c :: inner)
    (hflags : flagSettings false false [] (c :: inner) = some (fs, closes, rest)) :
    groupHead st cs =
      if closes then
        if fs.isEmpty then .error .malformed
        else
          .ok ({ st.push (.settings fs) with
            extended := (fs.value? .extended).getD st.extended }, rest)
      else .ok (st.openGroup (.plain fs), rest) := by
  obtain ⟨hP, hangle, heq, hbang⟩ := ne_of_flagSettings hflags
  have hlook : isLookAround ('?' :: c :: inner) = false := by
    unfold isLookAround
    split <;> simp_all
  unfold groupHead
  simp only [hskip, hlook, Bool.false_eq_true, if_false]
  split
  · simp_all
  · simp_all
  · rename_i heq'
    cases heq'
    simp only [hflags]
  · rename_i heq'
    exact absurd rfl (heq' _)

/-- What the head of a group can be once the blanks before it are gone: a group that captures
    without a name or with one, flags that stand alone, or a group with flags. -/
inductive GroupHead (st : ParseState) : List Char → ParseState → List Char → Prop
  | capture {start : List Char} (hstart : start.head? ≠ some '?') :
      GroupHead st start (st.openGroup (.capture none)) start
  | letter {inner rest : List Char} {st₁ : ParseState}
      (h : openNamed st inner = .ok (st₁, rest)) :
      GroupHead st ('?' :: 'P' :: '<' :: inner) st₁ rest
  | angle {c : Char} {inner rest : List Char} {st₁ : ParseState} (hc : c ≠ '=' ∧ c ≠ '!')
      (h : openNamed st (c :: inner) = .ok (st₁, rest)) :
      GroupHead st ('?' :: '<' :: c :: inner) st₁ rest
  | settings {c : Char} {inner rest : List Char} {fs : FlagSettings}
      (hflags : flagSettings false false [] (c :: inner) = some (fs, true, rest))
      (hsome : ¬ fs.isEmpty = true) :
      GroupHead st ('?' :: c :: inner) { st.push (.settings fs) with
        extended := (fs.value? .extended).getD st.extended } rest
  | flagged {c : Char} {inner rest : List Char} {fs : FlagSettings}
      (hflags : flagSettings false false [] (c :: inner) = some (fs, false, rest)) :
      GroupHead st ('?' :: c :: inner) (st.openGroup (.plain fs)) rest

theorem groupHead_cases {st : ParseState} (h : groupHead st cs = .ok (st₁, rest)) :
    GroupHead st (skipBlanks st.extended cs) st₁ rest := by
  unfold groupHead at h
  simp only at h
  generalize skipBlanks st.extended cs = start at h ⊢
  split at h
  · cases h
  · rename_i hlook
    split at h
    · exact .letter h
    · rename_i inner
      cases inner with
      | nil => cases h
      | cons c inner =>
        simp only [isLookAround_angle, Bool.or_eq_true, beq_iff_eq, not_or] at hlook
        exact .angle hlook h
    · rename_i inner _ _
      split at h
      · cases h
      · rename_i fs closes after hflags
        obtain ⟨c, inner, rfl⟩ : ∃ c cs, inner = c :: cs := by
          cases inner with
          | nil => cases hflags
          | cons c cs => exact ⟨c, cs, rfl⟩
        cases closes with
        | true =>
          rw [if_pos rfl] at h
          split at h
          · cases h
          · rename_i hsome
            cases h
            exact .settings hflags hsome
        | false =>
          cases h
          exact .flagged hflags
    · rename_i hother
      cases h
      refine .capture fun hhead => ?_
      obtain ⟨inner, rfl⟩ := List.head?_eq_some_iff.mp hhead
      exact hother inner rfl

/-- What is read behind a start that stays. -/
theorem Stable.past {P : List Char → List Char → Prop} {extended : Bool} {inner : List Char}
    (start : List Char) (hskip : skipBlanks extended cs = start ++ inner)
    (h : Stable P inner rest) :
    Stable (fun as bs => ∃ inner', skipBlanks extended as = start ++ inner' ∧ P inner' bs) cs
      rest := by
  have hstart : Stable (fun as bs => ∃ inner', as = start ++ inner' ∧ P inner' bs)
      (start ++ inner) rest :=
    ⟨h.suffix.trans (List.suffix_append start inner), fun more hseam =>
      ⟨inner ++ more, List.append_assoc start inner more,
        h.append more (hseam.of_suffix (List.suffix_append start inner))⟩⟩
  rw [← hskip] at hstart
  exact hstart.skip fun _ _ => id

theorem takes_groupHead (h : groupHead (st.inside base names) cs = .ok (st₁, rest)) :
    ∃ st', st₁ = st'.inside base names ∧ Takes groupHead st st' cs rest := by
  have hhead := groupHead_cases h
  generalize hskip : skipBlanks (st.inside base names).extended cs = start at hhead
  cases hhead with
  | capture hstart =>
    refine ⟨st.openGroup (.capture none), rfl, .of_same rfl ?_⟩
    have hblanks := stable_skipBlanks (st.inside base names).extended cs
    rw [hskip] at hblanks
    refine ⟨hblanks.suffix, fun more hseam base' names' => ?_⟩
    exact groupHead_capture _ (hblanks.append more hseam)
      ((hseam.of_suffix hblanks.suffix).head_ne (by decide) hstart)
  | letter h =>
    obtain ⟨st', rfl, hnames, hread⟩ := takes_openNamed h
    refine ⟨st', rfl, hnames, (hread.past ['?', 'P', '<'] hskip).imp ?_⟩
    rintro as bs ⟨inner', hskip', hread'⟩ base' names'
    exact (groupHead_letter (st.inside base' names') hskip').trans (hread' base' names')
  | angle hc h =>
    obtain ⟨st', rfl, hnames, hread⟩ := takes_openNamed h
    refine ⟨st', rfl, hnames, (hread.head.past ['?', '<'] hskip).imp ?_⟩
    rintro as bs ⟨_, hskip', ⟨inner', rfl⟩, hread'⟩ base' names'
    exact (groupHead_angle (st.inside base' names') hskip' hc).trans (hread' base' names')
  | settings hflags hsome =>
    rename_i fs
    refine ⟨{ st.push (.settings fs) with
      extended := (fs.value? .extended).getD st.extended }, rfl, .of_same rfl ?_⟩
    refine ((firm_flagSettings hflags).stable.head.past ['?'] hskip).imp ?_
    rintro as bs ⟨_, hskip', ⟨inner', rfl⟩, hread'⟩ base' names'
    rw [groupHead_flags (st.inside base' names') hskip' hread', if_pos rfl, if_neg hsome]
    rfl
  | flagged hflags =>
    rename_i fs
    refine ⟨st.openGroup (.plain fs), rfl, .of_same rfl ?_⟩
    refine ((firm_flagSettings hflags).stable.head.past ['?'] hskip).imp ?_
    rintro as bs ⟨_, hskip', ⟨inner', rfl⟩, hread'⟩ base' names'
    rw [groupHead_flags (st.inside base' names') hskip' hread', if_neg Bool.false_ne_true]
    rfl

/-- A repetition with what makes it lazy behind it. -/
theorem takes_repeatLast (min : Nat) (max : Option Nat)
    {read : ParseState → List Char → Except Fault (ParseState × List Char)}
    (hread : ∀ st as, read st as = do
      let (greedy, after) := laziness as
      return (← st.repeatLast min max greedy, after))
    (h : read (st.inside base names) cs = .ok (st₁, rest)) :
    ∃ st', st₁ = st'.inside base names ∧ Takes read st st' cs rest := by
  rcases hlazy : laziness cs with ⟨greedy, after⟩
  rw [hread, hlazy] at h
  obtain ⟨st₂, hinside, hst⟩ := bind_eq_ok_iff.mp h
  rw [ParseState.repeatLast_inside] at hinside
  obtain ⟨st', hrepeat, rfl⟩ := exists_of_map_eq_ok hinside
  cases hst
  refine ⟨st', rfl, .of_same (ParseState.names_of_repeatLast hrepeat) ?_⟩
  refine (stable_laziness hlazy).imp fun as bs hlazy' base' names' => ?_
  simp only [hread, hlazy', ParseState.repeatLast_inside, hrepeat]
  rfl

theorem takes_counted (h : parseStep (st.inside base names) '\x7b' cs = .ok (st₁, rest)) :
    ∃ st', st₁ = st'.inside base names ∧ Takes (parseStep · '\x7b') st st' cs rest := by
  obtain ⟨⟨low, high, after⟩, hcounts, h⟩ := bind_eq_ok_iff.mp h
  rw [ParseState.extended_inside] at hcounts
  simp only at h
  split at h
  · rename_i after
    rcases hlazy : laziness (skipBlanks st.extended after) with ⟨greedy, after'⟩
    rw [ParseState.extended_inside, hlazy] at h
    obtain ⟨st₂, hinside, hst⟩ := bind_eq_ok_iff.mp h
    rw [ParseState.repeatLast_inside] at hinside
    obtain ⟨st', hrepeat, rfl⟩ := exists_of_map_eq_ok hinside
    cases hst
    refine ⟨st', rfl, .of_same (ParseState.names_of_repeatLast hrepeat) ?_⟩
    have hfirst := (stable_counts hcounts).skip fun _ _ => id
    have hclose := ((stable_laziness hlazy).skip fun _ _ => id).tail (c := '\x7d')
      (R := fun as bs => ∃ as', as = '\x7d' :: as' ∧
        laziness (skipBlanks st.extended as') = (greedy, bs)) fun as bs hread => ⟨as, rfl, hread⟩
    refine (hfirst.comp hclose).imp ?_
    rintro as bs ⟨_, hcounts', after', rfl, hlazy'⟩ base' names'
    simp only [parseStep, ParseState.extended_inside, hcounts', bind, Except.bind, hlazy',
      ParseState.repeatLast_inside, hrepeat]
    rfl
  · cases h

/-- Every step is the same inside of other groups and before other texts, unless it closes a
    group that was open before. -/
theorem takes_parseStep {c : Char} (h : parseStep (st.inside base names) c cs = .ok (st₁, rest))
    (hopen : c = ')' → st.groups ≠ []) :
    ∃ st', st₁ = st'.inside base names ∧ Takes (parseStep · c) st st' cs rest := by
  unfold parseStep at h
  split at h
  · obtain ⟨st', rfl, htakes⟩ := takes_groupHead h
    exact ⟨st', rfl, htakes.names, htakes.stable⟩
  · obtain ⟨st₂, hinside, hst⟩ := bind_eq_ok_iff.mp h
    cases hst
    rw [ParseState.closeGroup_inside (hopen rfl)] at hinside
    obtain ⟨st', hclose, rfl⟩ := exists_of_map_eq_ok hinside
    refine ⟨st', rfl, .of_same (ParseState.names_of_closeGroup hclose) ?_⟩
    refine .here fun as base' names' => ?_
    simp only [parseStep, ParseState.closeGroup_inside (hopen rfl), hclose]
    rfl
  · cases h
    exact ⟨st.nextBranch, rfl, .of_same rfl (.here fun as base' names' => rfl)⟩
  · obtain ⟨⟨negated, inner, after⟩, hclass, hst⟩ := bind_eq_ok_iff.mp h
    cases hst
    rw [ParseState.extended_inside] at hclass
    refine ⟨st.push (.bracketed negated inner), rfl, .of_same rfl ?_⟩
    refine (firm_bracketClass hclass).stable.imp fun as bs hread base' names' => ?_
    simp only [parseStep, ParseState.extended_inside, hread]
    rfl
  · exact takes_repeatLast 0 (some 1) (fun _ _ => rfl) h
  · exact takes_repeatLast 0 none (fun _ _ => rfl) h
  · exact takes_repeatLast 1 none (fun _ _ => rfl) h
  · exact takes_counted h
  · obtain ⟨⟨p, after⟩, hescape, hst⟩ := bind_eq_ok_iff.mp h
    cases hst
    rw [ParseState.extended_inside] at hescape
    refine ⟨st.push p.tree, rfl, .of_same rfl ?_⟩
    refine (stable_escape hescape).imp fun as bs hread base' names' => ?_
    simp only [parseStep, ParseState.extended_inside, hread]
    rfl
  · cases h
    exact ⟨st.push .dot, rfl, .of_same rfl (.here fun as base' names' => rfl)⟩
  · cases h
    exact ⟨st.push (.assertion .lineStart), rfl, .of_same rfl (.here fun as base' names' => rfl)⟩
  · cases h
    exact ⟨st.push (.assertion .lineEnd), rfl, .of_same rfl (.here fun as base' names' => rfl)⟩
  · cases h
    refine ⟨st.push (.letter { char := c }), rfl, .of_same rfl (.here fun as base' names' => ?_)⟩
    unfold parseStep
    split
    all_goals first | rfl | contradiction

/-- A step that is possible by itself closes no group that was open before. -/
theorem takes_of_parseStep {st' : ParseState} {c : Char}
    (h : parseStep st c cs = .ok (st', rest)) : Takes (parseStep · c) st st' cs rest := by
  have hopen : c = ')' → st.groups ≠ [] := by
    rintro rfl hnone
    simp [parseStep, ParseState.closeGroup, hnone, bind, Except.bind] at h
  rw [← st.inside_nil] at h
  obtain ⟨st'', rfl, htakes⟩ := takes_parseStep h hopen
  rwa [ParseState.inside_nil]

/-! ## 3. What a step does to a state -/

/-- The names of the groups of a tree. -/
def Tree.groupNames : Tree → List String
  | .empty | .settings _ | .letter _ | .dot | .assertion _ | .short _ _ | .unicode _ _
  | .bracketed _ _ => []
  | .repeated _ _ _ body => body.groupNames
  | .group (.capture (some name)) body => name :: body.groupNames
  | .group _ body => body.groupNames
  | .cat first rest | .either first rest => first.groupNames ++ rest.groupNames

theorem Tree.groupNames_eq_nil {t : Tree} (h : t.groups = 0) : t.groupNames = [] := by
  fun_induction Tree.groupNames t with
  | case1 | case2 | case3 | case4 | case5 | case6 | case7 | case8 => rfl
  | case9 min max greedy body ih => exact ih h
  | case10 name body ih => cases h
  | case11 kind body hkind ih =>
    cases kind with
    | capture name => cases h
    | plain fs => exact ih h
  | case12 first rest ihFirst ihRest =>
    obtain ⟨hfirst, hrest⟩ := Nat.add_eq_zero_iff.mp h
    rw [ihFirst hfirst, ihRest hrest, List.append_nil]
  | case13 first rest ihFirst ihRest =>
    obtain ⟨hfirst, hrest⟩ := Nat.add_eq_zero_iff.mp h
    rw [ihFirst hfirst, ihRest hrest, List.append_nil]

/-- The ways in which a step changes a state. -/
inductive ParseState.Move (st : ParseState) : ParseState → Prop where
  | push (t : Tree) (ht : t.groups = 0) : Move st (st.push t)
  | set (fs : FlagSettings) (extended : Bool) :
    Move st { st.push (.settings fs) with extended := extended }
  | nextBranch : Move st st.nextBranch
  | openGroup (kind : GroupKind) (hkind : ∀ name, kind ≠ .capture (some name)) :
    Move st (st.openGroup kind)
  | openNamed (name : String) :
    Move st ({ st with names := name :: st.names }.openGroup (.capture (some name)))
  | closeGroup {st' : ParseState} (h : st.closeGroup = .ok st') : Move st st'
  | repeatLast {st' : ParseState} (min : Nat) (max : Option Nat) (greedy : Bool)
    (h : st.repeatLast min max greedy = .ok st') : Move st st'

theorem move_of_openNamed {st' : ParseState} (h : openNamed st cs = .ok (st', rest)) :
    st.Move st' := by
  unfold openNamed at h
  split at h
  · simp only at h
    split at h
    · cases h
    · cases h
      exact .openNamed _
  · cases h

theorem move_of_groupHead {st' : ParseState} (h : groupHead st cs = .ok (st', rest)) :
    st.Move st' := by
  have hhead := groupHead_cases h
  generalize skipBlanks st.extended cs = start at hhead
  cases hhead with
  | capture hstart => exact .openGroup _ nofun
  | letter h => exact move_of_openNamed h
  | angle hc h => exact move_of_openNamed h
  | settings hflags hsome => exact .set _ _
  | flagged hflags => exact .openGroup _ nofun

/-- What is repeated is the last factor. -/
theorem ParseState.exists_of_repeatLast {st' : ParseState} {min : Nat} {max : Option Nat}
    {greedy : Bool} (h : st.repeatLast min max greedy = .ok st') :
    ∃ t ts, st.factors = t :: ts ∧
      st' = { st with factors := .repeated min max greedy t :: ts } := by
  unfold repeatLast at h
  split at h
  all_goals first | cases h; exact ⟨_, _, ‹_›, rfl⟩ | cases h

/-- Every step is one of these. -/
theorem move_of_parseStep {st' : ParseState} {c : Char}
    (h : parseStep st c cs = .ok (st', rest)) : st.Move st' := by
  unfold parseStep at h
  split at h
  · exact move_of_groupHead h
  · obtain ⟨st₂, hclose, hst⟩ := bind_eq_ok_iff.mp h
    cases hst
    exact .closeGroup hclose
  · cases h
    exact .nextBranch
  · obtain ⟨_, -, hst⟩ := bind_eq_ok_iff.mp h
    cases hst
    exact .push _ rfl
  · obtain ⟨st₂, hrepeat, hst⟩ := bind_eq_ok_iff.mp h
    cases hst
    exact .repeatLast _ _ _ hrepeat
  · obtain ⟨st₂, hrepeat, hst⟩ := bind_eq_ok_iff.mp h
    cases hst
    exact .repeatLast _ _ _ hrepeat
  · obtain ⟨st₂, hrepeat, hst⟩ := bind_eq_ok_iff.mp h
    cases hst
    exact .repeatLast _ _ _ hrepeat
  · obtain ⟨⟨low, high, after⟩, -, h⟩ := bind_eq_ok_iff.mp h
    simp only at h
    split at h
    · obtain ⟨st₂, hrepeat, hst⟩ := bind_eq_ok_iff.mp h
      cases hst
      exact .repeatLast _ _ _ hrepeat
    · cases h
  · obtain ⟨⟨p, after⟩, -, hst⟩ := bind_eq_ok_iff.mp h
    cases hst
    refine .push _ ?_
    cases p <;> rfl
  all_goals
    cases h
    exact .push _ rfl

/-! ## 4. The names in the trees -/

section Names

variable {n : String}

theorem Tree.mem_groupNames_ofFactors {ts : List Tree} :
    n ∈ (ofFactors ts).groupNames ↔ ∃ t ∈ ts, n ∈ t.groupNames := by
  induction ts with
  | nil => simp [ofFactors, groupNames]
  | cons t ts ih =>
    cases ts with
    | nil => simp [ofFactors]
    | cons t' ts => simp [ofFactors, groupNames, ih]

theorem Tree.mem_groupNames_ofBranches {ts : List Tree} :
    n ∈ (ofBranches ts).groupNames ↔ ∃ t ∈ ts, n ∈ t.groupNames := by
  induction ts with
  | nil => simp [ofBranches, groupNames]
  | cons t ts ih =>
    cases ts with
    | nil => simp [ofBranches]
    | cons t' ts => simp [ofBranches, groupNames, ih]

/-- All trees that a state holds; an open group counts as one without a body. -/
def ParseState.trees (st : ParseState) : List Tree :=
  st.factors ++ st.branches ++
    st.groups.flatMap fun g => .group g.kind .empty :: (g.factors ++ g.branches)

/-- Whether the names of a state are those of the groups in its trees. -/
def ParseState.Named (st : ParseState) : Prop :=
  ∀ n, n ∈ st.names ↔ ∃ t ∈ st.trees, n ∈ t.groupNames

theorem ParseState.mem_groupNames_content {st : ParseState} :
    n ∈ st.content.groupNames ↔ ∃ t ∈ st.factors ++ st.branches, n ∈ t.groupNames := by
  simp only [content, Tree.mem_groupNames_ofBranches, Tree.mem_groupNames_ofFactors,
    List.mem_reverse, List.mem_cons, List.mem_append, or_and_right, exists_or, exists_eq_left]

theorem Tree.mem_groupNames_group {kind : GroupKind} {t : Tree} :
    n ∈ (Tree.group kind t).groupNames ↔ kind = .capture (some n) ∨ n ∈ t.groupNames := by
  rcases kind with (_ | name) | fs <;> simp [groupNames, eq_comm]

/-- Every move keeps the names of a state to those in its trees. -/
theorem ParseState.Move.named {st st' : ParseState} (h : st.Move st') (hnamed : st.Named) :
    st'.Named := by
  intro n
  have hn := hnamed n
  cases h with
  | push t ht => simpa [trees, ParseState.push, Tree.groupNames_eq_nil ht] using hn
  | set fs extended => simpa [trees, ParseState.push, Tree.groupNames] using hn
  | nextBranch =>
    rw [show st.nextBranch.names = st.names from rfl, hn]
    simp only [trees, ParseState.nextBranch, List.nil_append, List.cons_append, List.mem_cons,
      List.mem_append, or_and_right, exists_or, exists_eq_left, Tree.mem_groupNames_ofFactors,
      List.mem_reverse, or_assoc]
  | openGroup kind hkind =>
    rw [show (st.openGroup kind).names = st.names from rfl, hn]
    simp [trees, ParseState.openGroup, or_and_right, exists_or, Tree.groupNames]
  | openNamed name =>
    simp [trees, ParseState.openGroup, or_and_right, exists_or, Tree.groupNames, hn]
  | closeGroup h =>
    obtain ⟨factors, branches, groups, extended, names⟩ := st
    cases groups with
    | nil => cases h
    | cons g gs =>
      cases h
      simp only [hn, trees, List.flatMap_cons, List.cons_append, List.mem_cons, List.mem_append,
        or_and_right, exists_or, exists_eq_left, Tree.mem_groupNames_group, mem_groupNames_content,
        Tree.groupNames, List.not_mem_nil, or_false]
      exact or_left_comm.trans or_assoc.symm
  | repeatLast min max greedy h =>
    obtain ⟨t, ts, ht, rfl⟩ := exists_of_repeatLast h
    simp [trees, hn, ht, Tree.groupNames]

end Names

end Wayfinder.Regex
