/-
  Wayfinder/Proofs/Regex/Endings.lean
  ===================================
  **How a text can end.**

  A text that is read to its end may end in a comment, as readers pass comments behind what
  they read.  What is put behind such a text goes on with the comment, up to the end of the
  line.  Behind any other text a closing parenthesis is left for the next step, and there is
  nothing between these two cases.
-/
import Wayfinder.Proofs.Regex.Steps

namespace Wayfinder.Regex

/-! ## 1. The end of a text -/

/-- What is so of a text that is read to its end when more is put behind it: the parenthesis
    there is left, or all is left that stands behind the comment. -/
inductive Ends (P : List Char → List Char → Prop) (cs : List Char) : Prop
  | closed (h : ∀ more, more.head? = some ')' → P (cs ++ more) more)
  | comment (h : ∀ more, P (cs ++ more) (dropComments true more))

section Ends

variable {P Q R : List Char → List Char → Prop} {cs mid : List Char}

theorem Ends.imp (h : Ends P cs) (hPQ : ∀ as bs, P as bs → Q as bs) : Ends Q cs := by
  cases h with
  | closed h => exact .closed fun more hmore => hPQ _ _ (h more hmore)
  | comment h => exact .comment fun more => hPQ _ _ (h more)

theorem Ends.tail {c : Char} (h : Ends P cs) (hR : ∀ as bs, P as bs → R (c :: as) bs) :
    Ends R (c :: cs) := by
  cases h with
  | closed h => exact .closed fun more hmore => hR _ _ (h more hmore)
  | comment h => exact .comment fun more => hR _ _ (h more)

theorem Firm.ends (h : Firm P cs []) : Ends P cs := .closed fun more _ => h.append more

/-- What is read last decides how a text ends. -/
theorem Stable.ends (h : Stable P cs mid) (hmid : mid ≠ []) (h' : Ends Q mid)
    (hPQ : ∀ as bs ds, P as bs → Q bs ds → R as ds) : Ends R cs := by
  have hfirst : ∀ more, P (cs ++ more) (mid ++ more) := fun more => h.append more (Or.inl hmid)
  cases h' with
  | closed h' => exact .closed fun more hmore => hPQ _ _ _ (hfirst more) (h' more hmore)
  | comment h' => exact .comment fun more => hPQ _ _ _ (hfirst more) (h' more)

end Ends

/-! ## 2. Blanks and escapes -/

section Readers

variable {extended : Bool} {cs : List Char}

/-- Blanks that go to the end of a text end in a comment or not, whatever follows. -/
theorem dropComments_append_of_eq_nil {inComment : Bool} (h : dropComments inComment cs = []) :
    ∃ inComment', ∀ more, dropComments inComment (cs ++ more) = dropComments inComment' more := by
  induction cs generalizing inComment with
  | nil => exact ⟨inComment, fun _ => rfl⟩
  | cons c cs ih =>
    simp only [List.cons_append, dropComments] at h ⊢
    split_ifs at h ⊢
    · exact ih h
    · exact ih h
    · exact ih h

theorem ends_skipBlanks (h : skipBlanks extended cs = []) :
    Ends (fun as bs => skipBlanks extended as = bs) cs := by
  cases extended with
  | false =>
    obtain rfl : cs = [] := h
    exact .closed fun _ _ => rfl
  | true =>
    obtain ⟨inComment, hmore⟩ := dropComments_append_of_eq_nil h
    cases inComment with
    | true => exact .comment hmore
    | false =>
      refine .closed fun more hhead => ?_
      obtain ⟨after, rfl⟩ := List.head?_eq_some_iff.mp hhead
      exact hmore _

theorem Ends.skip {P : List Char → List Char → Prop} (h : Ends P (skipBlanks extended cs))
    (hne : skipBlanks extended cs ≠ []) : Ends (fun as bs => P (skipBlanks extended as) bs) cs :=
  (stable_skipBlanks extended cs).ends hne h fun _ _ _ hskip hP => hskip ▸ hP

theorem ends_hexDigits {count value n : Nat} (h : hexDigits extended count value cs = some (n, []))
    (hcs : cs ≠ []) : Ends (fun as bs => hexDigits extended count value as = some (n, bs)) cs := by
  induction count generalizing value cs with
  | zero =>
    cases h
    exact absurd rfl hcs
  | succ count ih =>
    cases cs with
    | nil => cases h
    | cons c cs =>
      rw [hexDigits] at h
      split at h
      · rename_i d hd
        by_cases hskip : skipBlanks extended cs = []
        · -- the last digit, with nothing but blanks behind it
          rw [hskip] at h
          cases count with
          | succ count => cases h
          | zero =>
            cases h
            refine (ends_skipBlanks hskip).tail ?_
            rintro as bs rfl
            rw [hexDigits, hd]
            rfl
        · exact ((ih h hskip).skip hskip).tail fun as bs hbs => by rw [hexDigits, hd]; exact hbs
      · cases h

theorem ends_hexBraced {fuel value n : Nat} {any : Bool}
    (h : hexBraced extended fuel any value cs = some (n, [])) :
    Ends (fun as bs => ∀ fuel', as.length < fuel' →
      hexBraced extended fuel' any value as = some (n, bs)) cs := by
  induction fuel generalizing value any cs with
  | zero => cases h
  | succ fuel ih =>
    cases cs with
    | nil => cases h
    | cons c cs =>
      rw [hexBraced] at h
      split at h
      · rename_i hc
        split at h
        · rename_i hany
          obtain ⟨rfl, hskip⟩ := Prod.mk.inj (Option.some.inj h)
          refine (ends_skipBlanks hskip).tail ?_
          rintro as bs rfl (_ | fuel') hfuel
          · cases hfuel
          · rw [hexBraced, if_pos hc, if_pos hany]
        · cases h
      · rename_i hc
        split at h
        · rename_i d hd
          have hskip : skipBlanks extended cs ≠ [] := by
            intro hnil
            rw [hnil] at h
            cases fuel <;> cases h
          refine ((ih h).skip hskip).tail ?_
          rintro as bs hbs (_ | fuel') hfuel
          · cases hfuel
          · rw [hexBraced, if_neg hc, hd]
            exact hbs fuel' (length_skipBlanks_lt hfuel)
        · cases h

theorem ends_hexEscape {letter : Char} {l : Letter}
    (h : hexEscape extended letter cs = .ok (l, [])) :
    Ends (fun as bs => hexEscape extended letter as = .ok (l, bs)) cs := by
  simp only [hexEscape_eq_ok_iff] at h ⊢
  obtain ⟨value, c, hc, ⟨inner, rfl, rfl, hbraced⟩ | ⟨hbrace, rfl, hdigits⟩⟩ := h
  · have hskip : skipBlanks extended inner ≠ [] := by
      intro hnil
      rw [hnil] at hbraced
      cases hbraced
    refine ((ends_hexBraced hbraced).skip hskip).tail fun as bs hbs => ?_
    refine ⟨value, c, hc, Or.inl ⟨as, rfl, rfl, hbs _ ?_⟩⟩
    exact Nat.lt_of_le_of_lt (length_skipBlanks_le extended as) (by simp +arith)
  · -- there is a digit first, with whatever follows
    obtain ⟨d, cs, rfl⟩ : ∃ d ds, cs = d :: ds := by
      cases cs with
      | nil => split_ifs at hdigits <;> cases hdigits
      | cons d ds => exact ⟨d, ds, rfl⟩
    have hhead : Stable (fun as bs => as = bs ∧ as.head? ≠ some '\x7b') (d :: cs) (d :: cs) :=
      ⟨List.suffix_refl _, fun more _ => ⟨rfl, hbrace⟩⟩
    refine hhead.ends (List.cons_ne_nil d cs) (ends_hexDigits hdigits (List.cons_ne_nil d cs)) ?_
    rintro as _ bs ⟨rfl, hbrace⟩ hbs
    exact ⟨value, c, hc, Or.inr ⟨hbrace, rfl, hbs⟩⟩

theorem ends_unicodeQuery {query : UnicodeQuery} (h : unicodeQuery extended cs = .ok (query, [])) :
    Ends (fun as bs => unicodeQuery extended as = .ok (query, bs)) cs := by
  unfold unicodeQuery at h
  split at h
  · cases h
  · split at h
    · rename_i hname
      cases h
      refine (((firm_bracedName hname).skip fun _ _ => id).ends).tail fun as bs hbs => ?_
      rw [unicodeQuery]
      simp only [hbs _ (Nat.lt_succ_of_le (length_skipBlanks_le extended as))]
    · cases h
  · rename_i c rest hbrace
    split at h
    · cases h
    · rename_i hc
      obtain ⟨rfl, hskip⟩ := Prod.mk.inj (Except.ok.inj h)
      refine (ends_skipBlanks hskip).tail ?_
      rintro as bs rfl
      rw [unicodeQuery, if_neg hc]
      exact hbrace

theorem ends_wordEdge {a : Assertion} (h : wordEdge extended cs = .ok (a, [])) :
    Ends (fun as bs => wordEdge extended as = .ok (a, bs)) cs := by
  rcases wordEdge_cases h with hfirm | ⟨rfl, hstable⟩
  · exact hfirm.ends
  · exact .closed fun more hmore => hstable.append more (Or.inr ⟨List.not_mem_nil, hmore⟩)

theorem ends_escape {p : Primitive} (h : escape extended cs = .ok (p, [])) :
    Ends (fun as bs => escape extended as = .ok (p, bs)) cs := by
  cases cs with
  | nil => cases h
  | cons c cs =>
    cases escapeTail_of_escape h with
    | hex hread hescape =>
      have hskip : skipBlanks extended cs ≠ [] := by
        intro hnil
        rw [hnil, hexEscape_eq_ok_iff] at hread
        obtain ⟨value, d, -, ⟨inner, hnil, -⟩ | ⟨-, -, hdigits⟩⟩ := hread
        · cases hnil
        · split_ifs at hdigits <;> cases hdigits
      exact ((ends_hexEscape hread).skip hskip).tail hescape
    | unicode hread hescape =>
      have hskip : skipBlanks extended cs ≠ [] := by
        intro hnil
        rw [hnil] at hread
        cases hread
      exact ((ends_unicodeQuery hread).skip hskip).tail hescape
    | edge hread hescape => exact (ends_wordEdge hread).tail hescape
    | none hescape => exact (Firm.char hescape).ends

/-- Behind a counted repetition comes the mark of a lazy one, and between the two there may
    be comments. -/
theorem ends_laziness {greedy : Bool} (h : laziness (skipBlanks extended cs) = (greedy, [])) :
    (∀ more, more.head? = some ')' →
      laziness (skipBlanks extended (cs ++ more)) = (greedy, more)) ∨
    ∀ more, skipBlanks extended (cs ++ more) = dropComments true more := by
  have hblanks := stable_skipBlanks extended cs
  rcases hskip : skipBlanks extended cs with _ | ⟨c, after⟩
  · rw [hskip] at h
    cases h
    cases ends_skipBlanks hskip with
    | comment hcomment => exact Or.inr hcomment
    | closed hclosed =>
      refine Or.inl fun more hmore => ?_
      rw [hclosed more hmore]
      obtain ⟨after, rfl⟩ := List.head?_eq_some_iff.mp hmore
      rfl
  · rw [hskip] at h hblanks
    refine Or.inl fun more _ => ?_
    rw [hblanks.append more (Or.inl (List.cons_ne_nil c after))]
    unfold laziness at h
    split at h
    · rename_i hlazy
      obtain ⟨rfl, rfl⟩ := Prod.mk.inj h
      rw [hlazy]
      rfl
    · cases h

end Readers

/-! ## 3. The last step -/

variable {st st' : ParseState} {c : Char} {cs : List Char}

/-- Whether a step that reads a text to its end leaves a parenthesis behind the text for the
    next step. -/
def StepCloses (st st' : ParseState) (c : Char) (cs : List Char) : Prop :=
  ∀ base names more, more.head? = some ')' →
    parseStep (st.inside base names) c (cs ++ more) = .ok (st'.inside base names, more)

/-- Whether a step that reads a text to its end goes on to the end of the line. -/
def StepSwallows (st st' : ParseState) (c : Char) (cs : List Char) : Prop :=
  ∀ base names more, ∃ st₁ rest, parseStep (st.inside base names) c (cs ++ more) = .ok (st₁, rest) ∧
    st₁.groups = st'.groups ++ base ∧ rest <:+ dropComments true more

theorem Ends.step (h : Ends (fun as bs => ∀ base names,
      parseStep (st.inside base names) c as = .ok (st'.inside base names, bs)) cs) :
    StepCloses st st' c cs ∨ StepSwallows st st' c cs := by
  cases h with
  | closed h => exact Or.inl fun base names more hmore => h more hmore base names
  | comment h =>
    exact Or.inr fun base names more => ⟨_, _, h more base names, rfl, List.suffix_refl _⟩

theorem groups_of_openNamed {rest : List Char} (h : openNamed st cs = .ok (st', rest)) :
    st'.groups ≠ [] := by
  unfold openNamed at h
  split at h
  · simp only at h
    split at h
    · cases h
    · cases h
      exact List.cons_ne_nil _ _
  · cases h

/-- Where no group is open in the end, the head of a group was a setting of flags. -/
theorem ends_groupHead (h : parseStep st '(' cs = .ok (st', [])) (hgroups : st'.groups = []) :
    StepCloses st st' '(' cs ∨ StepSwallows st st' '(' cs := by
  have hhead := groupHead_cases h
  generalize hskip : skipBlanks st.extended cs = start at hhead
  cases hhead with
  | capture hstart => cases hgroups
  | letter h => exact absurd hgroups (groups_of_openNamed h)
  | angle hc h => exact absurd hgroups (groups_of_openNamed h)
  | flagged hflags => cases hgroups
  | settings hflags hsome =>
    rename_i c inner fs
    have hmark : Firm (fun as bs => ∃ as', as = '?' :: c :: as' ∧
        flagSettings false false [] (c :: as') = some (fs, true, bs)) ('?' :: c :: inner) [] :=
      ⟨List.cons_ne_nil _ _, List.nil_suffix, fun more =>
        ⟨inner ++ more, rfl, (firm_flagSettings hflags).append more⟩⟩
    rw [← hskip] at hmark
    refine Ends.step ((hmark.skip fun _ _ => id).ends.imp ?_)
    rintro as bs ⟨as', hskip', hread'⟩ base' names'
    refine (groupHead_flags (st.inside base' names') hskip' hread').trans ?_
    rw [if_pos rfl, if_neg hsome]
    rfl

/-- Whether a repetition is greedy does not decide whether there is something to repeat. -/
theorem exists_repeatLast {min : Nat} {max : Option Nat} {greedy : Bool}
    (h : st.repeatLast min max greedy = .ok st') (greedy' : Bool) :
    ∃ st₁, st.repeatLast min max greedy' = .ok st₁ ∧ st₁.groups = st'.groups := by
  unfold ParseState.repeatLast at h ⊢
  split at h
  all_goals first | cases h; exact ⟨_, rfl, rfl⟩ | cases h

theorem ends_counted (h : parseStep st '\x7b' cs = .ok (st', [])) :
    StepCloses st st' '\x7b' cs ∨ StepSwallows st st' '\x7b' cs := by
  obtain ⟨⟨low, high, after⟩, hcounts, h⟩ := bind_eq_ok_iff.mp h
  simp only at h
  split at h
  · rename_i after
    rcases hlazy : laziness (skipBlanks st.extended after) with ⟨greedy, rest⟩
    rw [hlazy] at h
    obtain ⟨st₂, hrepeat, hst⟩ := bind_eq_ok_iff.mp h
    cases hst
    -- the counts end at their brace, so only what is behind the brace can go on
    have hbrace : ∀ base names more greedy' rest',
        laziness (skipBlanks st.extended (after ++ more)) = (greedy', rest') →
        parseStep (st.inside base names) '\x7b' (cs ++ more) =
          ((st.repeatLast low high greedy').map (·.inside base names)).map (·, rest') := by
      intro base names more greedy' rest' hlazy'
      have hcounts' := ((stable_counts hcounts).skip fun _ _ => id).append more
        (Or.inl (List.cons_ne_nil _ _))
      simp only [parseStep, ParseState.extended_inside, hcounts', List.cons_append, bind,
        Except.bind, hlazy', ParseState.repeatLast_inside]
      cases st.repeatLast low high greedy' <;> rfl
    rcases ends_laziness hlazy with hclosed | hcomment
    · refine Or.inl fun base names more hmore => ?_
      rw [hbrace base names more _ _ (hclosed more hmore), hrepeat]
      rfl
    · refine Or.inr fun base names more => ?_
      rcases hlazy' : laziness (dropComments true more) with ⟨greedy', rest'⟩
      obtain ⟨st₁, hrepeat', hgroups⟩ := exists_repeatLast hrepeat greedy'
      refine ⟨st₁.inside base names, rest', ?_, congrArg (· ++ base) hgroups,
        (stable_laziness hlazy').suffix⟩
      rw [hbrace base names more _ _ ((congrArg laziness (hcomment more)).trans hlazy'), hrepeat']
      rfl
  · cases h

/-- A repetition with what makes it lazy behind it. -/
theorem closes_repeatLast (min : Nat) (max : Option Nat) {c : Char}
    (hread : ∀ st as, parseStep st c as = do
      let (greedy, after) := laziness as
      return (← st.repeatLast min max greedy, after))
    (h : parseStep st c cs = .ok (st', [])) : StepCloses st st' c cs := by
  rcases hlazy : laziness cs with ⟨greedy, after⟩
  rw [hread, hlazy] at h
  obtain ⟨st₂, hrepeat, hst⟩ := bind_eq_ok_iff.mp h
  cases hst
  have hcomment : '#' ∉ cs := by
    unfold laziness at hlazy
    split at hlazy
    · obtain ⟨-, rfl⟩ := Prod.mk.inj hlazy
      decide
    · obtain ⟨-, rfl⟩ := Prod.mk.inj hlazy
      exact List.not_mem_nil
  intro base names more hmore
  have hlazy' := (stable_laziness hlazy).append more (Or.inr ⟨hcomment, hmore⟩)
  simp only [hread, hlazy', ParseState.repeatLast_inside, hrepeat]
  rfl

/-- A step that reads a text to its end and leaves no group open either leaves a parenthesis
    behind the text, or goes on to the end of the line. -/
theorem ends_parseStep (h : parseStep st c cs = .ok (st', [])) (hgroups : st'.groups = []) :
    StepCloses st st' c cs ∨ StepSwallows st st' c cs := by
  have hwhole := h
  unfold parseStep at h
  split at h
  · exact ends_groupHead h hgroups
  · obtain ⟨st₂, hclose, hst⟩ := bind_eq_ok_iff.mp h
    cases hst
    have hopen : st.groups ≠ [] := by
      intro hnone
      simp [ParseState.closeGroup, hnone] at hclose
    refine Or.inl fun base names more _ => ?_
    simp only [parseStep, ParseState.closeGroup_inside hopen, hclose]
    rfl
  · cases h
    exact Or.inl fun base names more _ => rfl
  · obtain ⟨⟨negated, inner, after⟩, hclass, hst⟩ := bind_eq_ok_iff.mp h
    cases hst
    refine Ends.step ((firm_bracketClass hclass).ends.imp fun as bs hread base names => ?_)
    simp only [parseStep, ParseState.extended_inside, hread]
    rfl
  · exact Or.inl (closes_repeatLast 0 (some 1) (fun _ _ => rfl) hwhole)
  · exact Or.inl (closes_repeatLast 0 none (fun _ _ => rfl) hwhole)
  · exact Or.inl (closes_repeatLast 1 none (fun _ _ => rfl) hwhole)
  · exact ends_counted hwhole
  · obtain ⟨⟨p, after⟩, hescape, hst⟩ := bind_eq_ok_iff.mp h
    cases hst
    refine Ends.step ((ends_escape hescape).imp fun as bs hread base names => ?_)
    simp only [parseStep, ParseState.extended_inside, hread]
    rfl
  · cases h
    exact Or.inl fun base names more _ => rfl
  · cases h
    exact Or.inl fun base names more _ => rfl
  · cases h
    exact Or.inl fun base names more _ => rfl
  · cases h
    refine Or.inl fun base names more _ => ?_
    unfold parseStep
    split
    all_goals first | rfl | contradiction

end Wayfinder.Regex
