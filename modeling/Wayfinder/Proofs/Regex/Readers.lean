/-
  Wayfinder/Proofs/Regex/Readers.lean
  ===================================
  **Readers look no further than they read.**

  An expression is put together from texts that were accepted one by one, so it matters
  whether a text is read in the same way when more stands behind it.  The readers of the
  grammar look ahead: for the question mark of a lazy repetition, for a brace, for the end
  of a comment.  As long as something of a text was left unread, nothing behind the text
  can have been looked at.  Where all of it was read, what follows may still count, but a
  closing parenthesis ends everything except a comment.
-/
import Wayfinder.Proofs.Outcome
import Wayfinder.Regex.Parser

namespace Wayfinder.Regex

/-! ## 1. Putting more behind a text -/

/-- Whether more can be put behind a text of which `rest` was left unread.  Either something
    was left, or the text has no comment that could go on and a closing parenthesis
    follows. -/
def Seam (cs rest more : List Char) : Prop := rest ≠ [] ∨ '#' ∉ cs ∧ more.head? = some ')'

/-- What is read later has the same seam. -/
theorem Seam.of_suffix {cs mid rest more : List Char} (h : Seam cs rest more) (hmid : mid <:+ cs) :
    Seam mid rest more :=
  h.imp_right fun hcs => ⟨fun hmem => hcs.1 (hmid.subset hmem), hcs.2⟩

/-- At a seam behind a text of which nothing is left there is the parenthesis. -/
theorem Seam.eq_cons {cs more : List Char} (h : Seam cs [] more) :
    ∃ after, more = ')' :: after := by
  rcases h with hrest | ⟨-, hmore⟩
  · exact absurd rfl hrest
  · exact List.head?_eq_some_iff.mp hmore

/-- What a text starts with stays, and nothing before a seam turns to something else than the
    parenthesis. -/
theorem Seam.head_ne {cs more : List Char} (h : Seam cs cs more) {c : Char} (hc : c ≠ ')')
    (hcs : cs.head? ≠ some c) : (cs ++ more).head? ≠ some c := by
  cases cs with
  | nil =>
    obtain ⟨after, rfl⟩ := h.eq_cons
    exact fun hparen => hc (Option.some.inj hparen).symm
  | cons d cs => exact hcs

/-- What is so of a text and what is left of it, and stays so with more behind both. -/
structure Stable (P : List Char → List Char → Prop) (cs rest : List Char) : Prop where
  suffix : rest <:+ cs
  append : ∀ more, Seam cs rest more → P (cs ++ more) (rest ++ more)

namespace Stable

variable {P Q R : List Char → List Char → Prop} {cs mid rest : List Char}

theorem refl (cs : List Char) : Stable Eq cs cs := ⟨List.suffix_refl cs, fun _ _ => rfl⟩

theorem trans (h : Stable P cs mid) (h' : Stable Q mid rest)
    (hPQ : ∀ as bs ds, P as bs → Q bs ds → R as ds) : Stable R cs rest where
  suffix := h'.suffix.trans h.suffix
  append more hseam := by
    refine hPQ _ _ _ (h.append more ?_) (h'.append more ?_)
    · refine hseam.imp_left fun hrest hmid => hrest ?_
      rw [hmid] at h'
      exact List.suffix_nil.mp h'.suffix
    · exact hseam.of_suffix h.suffix

/-- What is read in one piece and then in another. -/
theorem comp (h : Stable P cs mid) (h' : Stable Q mid rest) :
    Stable (fun as ds => ∃ bs, P as bs ∧ Q bs ds) cs rest :=
  h.trans h' fun _ bs _ hP hQ => ⟨bs, hP, hQ⟩

theorem imp (h : Stable P cs rest) (hPQ : ∀ as bs, P as bs → Q as bs) : Stable Q cs rest :=
  ⟨h.suffix, fun more hseam => hPQ _ _ (h.append more hseam)⟩

/-- What a text is read as that was left as it is. -/
theorem here (hP : ∀ as, P as as) : Stable P cs cs := (refl cs).imp fun as _ h => h ▸ hP as

theorem tail {c : Char} (h : Stable P cs rest) (hR : ∀ as bs, P as bs → R (c :: as) bs) :
    Stable R (c :: cs) rest where
  suffix := h.suffix.trans (List.suffix_cons c cs)
  append more hseam :=
    hR _ _ (h.append more (hseam.of_suffix (List.suffix_cons c cs)))

/-- The first character of a text stays the first. -/
theorem head {c : Char} (h : Stable P (c :: cs) rest) :
    Stable (fun as bs => (∃ as', as = c :: as') ∧ P as bs) (c :: cs) rest :=
  ⟨h.suffix, fun more hseam => ⟨⟨cs ++ more, rfl⟩, h.append more hseam⟩⟩

theorem heads {c d : Char} (h : Stable P (c :: d :: cs) rest) :
    Stable (fun as bs => (∃ as', as = c :: d :: as') ∧ P as bs) (c :: d :: cs) rest :=
  ⟨h.suffix, fun more hseam => ⟨⟨cs ++ more, rfl⟩, h.append more hseam⟩⟩

/-- The first character that is left stays the first. -/
theorem left_head {c : Char} (h : Stable P cs (c :: rest)) :
    Stable (fun as bs => (∃ bs', bs = c :: bs') ∧ P as bs) cs (c :: rest) :=
  ⟨h.suffix, fun more hseam => ⟨⟨rest ++ more, rfl⟩, h.append more hseam⟩⟩

/-- No more is left than there was. -/
theorem with_length (h : Stable P cs rest) :
    Stable (fun as bs => bs.length ≤ as.length ∧ P as bs) cs rest := by
  refine ⟨h.suffix, fun more hseam => ⟨?_, h.append more hseam⟩⟩
  rw [List.length_append, List.length_append]
  exact Nat.add_le_add_right h.suffix.length_le _

theorem length_le (h : Stable P cs rest) : rest.length ≤ cs.length := h.suffix.length_le

end Stable

/-- What is so of a text up to a character that ends it, whatever is behind both. -/
structure Firm (P : List Char → List Char → Prop) (cs rest : List Char) : Prop where
  ne_nil : cs ≠ []
  suffix : rest <:+ cs
  append : ∀ more, P (cs ++ more) (rest ++ more)

section Firm

variable {P Q R : List Char → List Char → Prop} {c : Char} {cs mid rest : List Char}

theorem Firm.stable (h : Firm P cs rest) : Stable P cs rest :=
  ⟨h.suffix, fun more _ => h.append more⟩

/-- The character that ends a text. -/
theorem Firm.char (hP : ∀ as, P (c :: as) as) : Firm P (c :: cs) cs :=
  ⟨List.cons_ne_nil c cs, List.suffix_cons c cs, fun more => hP (cs ++ more)⟩

theorem Firm.tail (h : Firm P cs rest) (hR : ∀ as bs, P as bs → R (c :: as) bs) :
    Firm R (c :: cs) rest :=
  ⟨List.cons_ne_nil c cs, h.suffix.trans (List.suffix_cons c cs),
    fun more => hR _ _ (h.append more)⟩

/-- A character that ends a text is looked for behind what was read before it. -/
theorem Stable.firm (h : Stable P cs mid) (h' : Firm Q mid rest)
    (hPQ : ∀ as bs ds, P as bs → Q bs ds → R as ds) : Firm R cs rest where
  ne_nil hcs := h'.ne_nil (List.suffix_nil.mp (hcs ▸ h.suffix))
  suffix := h'.suffix.trans h.suffix
  append more := hPQ _ _ _ (h.append more (Or.inl h'.ne_nil)) (h'.append more)

end Firm

/-! ## 2. Blanks -/

@[simp] theorem skipBlanks_nil (extended : Bool) : skipBlanks extended [] = [] := by
  cases extended <;> rfl

theorem skipBlanks_of_not_extended {extended : Bool} (h : extended = false) (cs : List Char) :
    skipBlanks extended cs = cs := by
  rw [h]
  rfl

theorem dropComments_suffix (inComment : Bool) (cs : List Char) :
    dropComments inComment cs <:+ cs := by
  induction cs generalizing inComment with
  | nil => exact List.suffix_refl []
  | cons c cs ih =>
    rw [dropComments]
    split
    · exact (ih _).trans (List.suffix_cons c cs)
    · split
      · exact (ih _).trans (List.suffix_cons c cs)
      · split
        · exact (ih _).trans (List.suffix_cons c cs)
        · exact List.suffix_refl _

theorem dropComments_append_of_ne_nil {inComment : Bool} {cs : List Char}
    (h : dropComments inComment cs ≠ []) (more : List Char) :
    dropComments inComment (cs ++ more) = dropComments inComment cs ++ more := by
  induction cs generalizing inComment with
  | nil => exact absurd rfl h
  | cons c cs ih =>
    rw [dropComments] at h
    rw [List.cons_append, dropComments, dropComments]
    split_ifs at h ⊢ <;> first | exact ih h | rfl

/-- Without comments, blanks end at a closing parenthesis. -/
theorem dropComments_append_of_no_comment {cs : List Char} (h : '#' ∉ cs) {more : List Char}
    (hmore : more.head? = some ')') :
    dropComments false (cs ++ more) = dropComments false cs ++ more := by
  induction cs with
  | nil =>
    obtain ⟨more, rfl⟩ := List.head?_eq_some_iff.mp hmore
    rfl
  | cons c cs ih =>
    have hc : c ≠ '#' := fun hc => h (by rw [hc]; exact List.mem_cons_self)
    rw [List.cons_append, dropComments, dropComments]
    simp only [Bool.false_eq_true, if_false, if_neg hc]
    split
    · exact ih fun hmem => h (List.mem_cons_of_mem _ hmem)
    · rfl

theorem stable_skipBlanks (extended : Bool) (cs : List Char) :
    Stable (fun as bs => skipBlanks extended as = bs) cs (skipBlanks extended cs) := by
  cases extended with
  | false => exact .here fun _ => rfl
  | true =>
    refine ⟨dropComments_suffix false cs, fun more hseam => ?_⟩
    rcases hseam with hrest | ⟨hcs, hmore⟩
    · exact dropComments_append_of_ne_nil hrest more
    · exact dropComments_append_of_no_comment hcs hmore

/-- Blanks that end at a character end there with more text as well. -/
theorem skipBlanks_append_of_cons {extended : Bool} {cs rest : List Char} {c : Char}
    (h : skipBlanks extended cs = c :: rest) (more : List Char) :
    skipBlanks extended (cs ++ more) = c :: (rest ++ more) := by
  have hskip := stable_skipBlanks extended cs
  rw [h] at hskip
  exact hskip.append more (Or.inl (List.cons_ne_nil c rest))

theorem length_skipBlanks_le (extended : Bool) (cs : List Char) :
    (skipBlanks extended cs).length ≤ cs.length := (stable_skipBlanks extended cs).length_le

theorem Stable.skip {P R : List Char → List Char → Prop} {extended : Bool} {cs rest : List Char}
    (h : Stable P (skipBlanks extended cs) rest)
    (hR : ∀ as bs, P (skipBlanks extended as) bs → R as bs) : Stable R cs rest :=
  (stable_skipBlanks extended cs).trans h fun as _ ds hskip hP => hR as ds (hskip ▸ hP)

theorem Stable.skip_cons {P : List Char → List Char → Prop} {extended : Bool}
    {cs ds rest : List Char} {c : Char} (hskip : skipBlanks extended cs = c :: ds)
    (h : Stable P (c :: ds) rest) :
    Stable (fun as bs => ∃ ds', skipBlanks extended as = c :: ds' ∧ P (c :: ds') bs) cs rest := by
  have hhead := h.head
  rw [← hskip] at hhead
  exact hhead.skip fun as bs ⟨⟨ds', hds⟩, hP⟩ => ⟨ds', hds, hds ▸ hP⟩

theorem Firm.skip {P R : List Char → List Char → Prop} {extended : Bool} {cs rest : List Char}
    (h : Firm P (skipBlanks extended cs) rest)
    (hR : ∀ as bs, P (skipBlanks extended as) bs → R as bs) : Firm R cs rest :=
  (stable_skipBlanks extended cs).firm h fun as _ ds hskip hP => hR as ds (hskip ▸ hP)

theorem Firm.skip_cons {P : List Char → List Char → Prop} {extended : Bool}
    {cs ds rest : List Char} {c : Char} (hskip : skipBlanks extended cs = c :: ds)
    (h : Firm P (c :: ds) rest) :
    Firm (fun as bs => ∃ ds', skipBlanks extended as = c :: ds' ∧ P (c :: ds') bs) cs rest := by
  have hhead : Firm (fun as bs => (∃ ds', as = c :: ds') ∧ P as bs) (c :: ds) rest :=
    ⟨h.ne_nil, h.suffix, fun more => ⟨⟨ds ++ more, rfl⟩, h.append more⟩⟩
  rw [← hskip] at hhead
  exact hhead.skip fun as bs ⟨⟨ds', hds⟩, hP⟩ => ⟨ds', hds, hds ▸ hP⟩

theorem length_skipBlanks_lt {extended : Bool} {c : Char} {cs : List Char} {n : Nat}
    (h : (c :: cs).length < n + 1) : (skipBlanks extended cs).length < n :=
  Nat.lt_of_le_of_lt (length_skipBlanks_le extended cs) (Nat.lt_of_succ_lt_succ h)

/-! ## 3. Escapes -/

section Escapes

variable {extended : Bool} {cs rest : List Char}

theorem stable_hexDigits {count value n : Nat}
    (h : hexDigits extended count value cs = some (n, rest)) :
    Stable (fun as bs => hexDigits extended count value as = some (n, bs)) cs rest := by
  induction count generalizing value cs with
  | zero =>
    cases h
    exact .here fun _ => rfl
  | succ count ih =>
    cases cs with
    | nil => cases h
    | cons c cs =>
      rw [hexDigits] at h
      split at h
      · rename_i d hd
        exact ((ih h).skip fun _ _ => id).tail fun as bs hbs => by rw [hexDigits, hd]; exact hbs
      · cases h

theorem stable_hexBraced {fuel value n : Nat} {any : Bool}
    (h : hexBraced extended fuel any value cs = some (n, rest)) :
    Stable (fun as bs => ∀ fuel', as.length < fuel' →
      hexBraced extended fuel' any value as = some (n, bs)) cs rest := by
  induction fuel generalizing value any cs with
  | zero => cases h
  | succ fuel ih =>
    cases cs with
    | nil => cases h
    | cons c cs =>
      rw [hexBraced] at h
      split at h
      · rename_i hc
        split at h
        · rename_i hany
          cases h
          refine (stable_skipBlanks extended cs).tail ?_
          rintro as bs rfl (_ | fuel') hfuel
          · cases hfuel
          · rw [hexBraced, if_pos hc, if_pos hany]
        · cases h
      · rename_i hc
        split at h
        · rename_i d hd
          refine ((ih h).skip fun _ _ => id).tail ?_
          rintro as bs hbs (_ | fuel') hfuel
          · cases hfuel
          · rw [hexBraced, if_neg hc, hd]
            exact hbs fuel' (length_skipBlanks_lt hfuel)
        · cases h

/-- A hexadecimal escape has its digits in braces, or as many as its letter asks for. -/
theorem hexEscape_eq_ok_iff {letter : Char} {l : Letter} :
    hexEscape extended letter cs = .ok (l, rest) ↔
      ∃ value c, charOfNat? value = some c ∧
        ((∃ inner, cs = '\x7b' :: inner ∧ l = ⟨c, false⟩ ∧
            hexBraced extended (cs.length + 1) false 0 (skipBlanks extended inner) =
              some (value, rest)) ∨
          cs.head? ≠ some '\x7b' ∧ l = ⟨c, letter == 'x'⟩ ∧
            hexDigits extended (if letter = 'x' then 2 else if letter = 'u' then 4 else 8) 0 cs =
              some (value, rest)) := by
  unfold hexEscape
  constructor
  · intro h
    simp only at h
    split at h
    · rename_i value byteForm after hread
      split at h
      · rename_i c hc
        cases h
        refine ⟨value, c, hc, ?_⟩
        split at hread
        · rename_i inner
          obtain ⟨r, hbraced, hr⟩ := Option.map_eq_some_iff.mp hread
          cases hr
          exact Or.inl ⟨inner, rfl, rfl, hbraced⟩
        · rename_i hbrace
          obtain ⟨r, hdigits, hr⟩ := Option.map_eq_some_iff.mp hread
          cases hr
          refine Or.inr ⟨fun hhead => ?_, rfl, hdigits⟩
          obtain ⟨inner, rfl⟩ := List.head?_eq_some_iff.mp hhead
          exact hbrace inner rfl
      · cases h
    · cases h
  · rintro ⟨value, c, hc, ⟨inner, rfl, rfl, hbraced⟩ | ⟨hbrace, rfl, hdigits⟩⟩
    · simp only [hbraced, Option.map_some, hc]
    · generalize (if letter = 'x' then 2 else if letter = 'u' then 4 else 8) = digits at *
      split
      · exact absurd rfl hbrace
      · simp only [hdigits, Option.map_some, hc]

theorem stable_hexEscape {letter : Char} {l : Letter}
    (h : hexEscape extended letter cs = .ok (l, rest)) :
    Stable (fun as bs => hexEscape extended letter as = .ok (l, bs)) cs rest := by
  simp only [hexEscape_eq_ok_iff] at h ⊢
  obtain ⟨value, c, hc, ⟨inner, rfl, rfl, hbraced⟩ | ⟨hbrace, rfl, hdigits⟩⟩ := h
  · refine ((stable_hexBraced hbraced).skip fun _ _ => id).tail fun as bs hbs => ?_
    refine ⟨value, c, hc, Or.inl ⟨as, rfl, rfl, hbs _ ?_⟩⟩
    exact Nat.lt_of_le_of_lt (length_skipBlanks_le extended as) (by simp +arith)
  · -- there is a digit first, with whatever follows
    obtain ⟨d, cs, rfl⟩ : ∃ d ds, cs = d :: ds := by
      cases cs with
      | nil => split_ifs at hdigits <;> cases hdigits
      | cons d ds => exact ⟨d, ds, rfl⟩
    refine (stable_hexDigits hdigits).head.imp ?_
    rintro as bs ⟨⟨as, rfl⟩, hbs⟩
    exact ⟨value, c, hc, Or.inr ⟨hbrace, rfl, hbs⟩⟩

theorem firm_bracedName {fuel : Nat} {name : List Char}
    (h : bracedName extended fuel cs = some (name, rest)) :
    Firm (fun as bs => ∀ fuel', as.length < fuel' →
      bracedName extended fuel' as = some (name, bs)) cs rest := by
  induction fuel generalizing name cs with
  | zero => cases h
  | succ fuel ih =>
    cases cs with
    | nil => cases h
    | cons c cs =>
      rw [bracedName] at h
      split at h
      · rename_i hc
        cases h
        refine Firm.char ?_
        rintro as (_ | fuel') hfuel
        · cases hfuel
        · rw [bracedName, if_pos hc]
      · rename_i hc
        obtain ⟨⟨name', after⟩, hname, hr⟩ := Option.map_eq_some_iff.mp h
        cases hr
        refine ((ih hname).skip fun _ _ => id).tail ?_
        rintro as bs hbs (_ | fuel') hfuel
        · cases hfuel
        · rw [bracedName, if_neg hc, hbs fuel' (length_skipBlanks_lt hfuel)]
          rfl

theorem stable_unicodeQuery {query : UnicodeQuery}
    (h : unicodeQuery extended cs = .ok (query, rest)) :
    Stable (fun as bs => unicodeQuery extended as = .ok (query, bs)) cs rest := by
  unfold unicodeQuery at h
  split at h
  · cases h
  · split at h
    · rename_i hname
      cases h
      refine ((firm_bracedName hname).skip fun _ _ => id).stable.tail ?_
      intro as bs hbs
      rw [unicodeQuery]
      simp only [hbs _ (Nat.lt_succ_of_le (length_skipBlanks_le extended as))]
    · cases h
  · rename_i c rest' hbrace
    split at h
    · cases h
    · rename_i hc
      cases h
      refine (stable_skipBlanks extended rest').tail ?_
      rintro as bs rfl
      rw [unicodeQuery, if_neg hc]
      exact hbrace

theorem firm_edgeName {fuel : Nat} {name : List Char}
    (h : edgeName extended fuel cs = some (name, rest)) :
    Firm (fun as bs => ∀ fuel', as.length < fuel' →
      edgeName extended fuel' as = some (name, bs)) cs rest := by
  induction fuel generalizing name cs with
  | zero => cases h
  | succ fuel ih =>
    cases cs with
    | nil => cases h
    | cons c cs =>
      rw [edgeName] at h
      split at h
      · rename_i hc
        cases h
        refine Firm.char ?_
        rintro as (_ | fuel') hfuel
        · cases hfuel
        · rw [edgeName, if_pos hc]
      · rename_i hc
        split at h
        · rename_i hletter
          obtain ⟨⟨name', after⟩, hname, hr⟩ := Option.map_eq_some_iff.mp h
          cases hr
          refine ((ih hname).skip fun _ _ => id).tail ?_
          rintro as bs hbs (_ | fuel') hfuel
          · cases hfuel
          · rw [edgeName, if_neg hc, if_pos hletter, hbs fuel' (length_skipBlanks_lt hfuel)]
            rfl
        · cases h

/-- A named word edge is closed by its brace; any other word edge leaves what follows as it
    is. -/
theorem wordEdge_cases {a : Assertion} (h : wordEdge extended cs = .ok (a, rest)) :
    Firm (fun as bs => wordEdge extended as = .ok (a, bs)) cs rest ∨
      rest = cs ∧ Stable (fun as bs => wordEdge extended as = .ok (a, bs)) cs cs := by
  unfold wordEdge at h
  split at h
  · rename_i inner
    split at h
    · cases h
    · rename_i c letters hinner
      split at h
      · rename_i hletter
        split at h
        · rename_i label after hname
          obtain ⟨rfl, hlabel⟩ : rest = after ∧ ∀ bs : List Char,
              (if label = "start".toList then .ok (.wordStart, bs)
                else if label = "end".toList then .ok (.wordEnd, bs)
                else if label = "start-half".toList then .ok (.wordStartHalf, bs)
                else if label = "end-half".toList then .ok (.wordEndHalf, bs)
                else .error .malformed : Except Fault (Assertion × List Char)) =
              .ok (a, bs) := by
            split_ifs at h ⊢ <;> cases h <;> exact ⟨rfl, fun _ => rfl⟩
          refine Or.inl (((firm_edgeName hname).skip_cons hinner).tail ?_)
          rintro as bs ⟨letters', hskip, hread⟩
          rw [wordEdge, hskip]
          simp only [if_pos hletter, hread (letters'.length + 2) (by simp)]
          exact hlabel bs
        · cases h
      · rename_i hletter
        cases h
        refine Or.inr ⟨rfl, List.suffix_refl _, fun more _ => ?_⟩
        simp only [List.cons_append, wordEdge, skipBlanks_append_of_cons hinner more,
          if_neg hletter]
  · rename_i hbrace
    cases h
    refine Or.inr ⟨rfl, List.suffix_refl _, fun more hseam => ?_⟩
    have hhead := hseam.head_ne (c := '\x7b') (by decide) fun hhead => by
      obtain ⟨inner, rfl⟩ := List.head?_eq_some_iff.mp hhead
      exact hbrace inner rfl
    unfold wordEdge
    split
    · rename_i hmore
      rw [hmore] at hhead
      exact absurd rfl hhead
    · rfl

theorem stable_wordEdge {a : Assertion} (h : wordEdge extended cs = .ok (a, rest)) :
    Stable (fun as bs => wordEdge extended as = .ok (a, bs)) cs rest := by
  rcases wordEdge_cases h with hfirm | ⟨rfl, hstable⟩
  · exact hfirm.stable
  · exact hstable

/-- What an escape is read by behind its first character: as a hexadecimal number, as a
    Unicode class, as a word edge, or by nothing more. -/
inductive EscapeTail (extended : Bool) (c : Char) (p : Primitive) : List Char → List Char → Prop
  | hex {cs rest : List Char} {l : Letter}
      (hread : hexEscape extended c (skipBlanks extended cs) = .ok (l, rest))
      (hescape : ∀ as bs, hexEscape extended c (skipBlanks extended as) = .ok (l, bs) →
        escape extended (c :: as) = .ok (p, bs)) : EscapeTail extended c p cs rest
  | unicode {cs rest : List Char} {query : UnicodeQuery}
      (hread : unicodeQuery extended (skipBlanks extended cs) = .ok (query, rest))
      (hescape : ∀ as bs, unicodeQuery extended (skipBlanks extended as) = .ok (query, bs) →
        escape extended (c :: as) = .ok (p, bs)) : EscapeTail extended c p cs rest
  | edge {cs rest : List Char} {a : Assertion} (hread : wordEdge extended cs = .ok (a, rest))
      (hescape : ∀ as bs, wordEdge extended as = .ok (a, bs) →
        escape extended (c :: as) = .ok (p, bs)) : EscapeTail extended c p cs rest
  | none {cs : List Char} (hescape : ∀ as, escape extended (c :: as) = .ok (p, as)) :
      EscapeTail extended c p cs cs

theorem escapeTail_of_escape {c : Char} {p : Primitive}
    (h : escape extended (c :: cs) = .ok (p, rest)) : EscapeTail extended c p cs rest := by
  simp only [escape.eq_def] at h
  split at h
  · cases h
  · rename_i hdigit
    split at h
    · rename_i hhex
      obtain ⟨⟨l, after⟩, hread, hp⟩ := bind_eq_ok_iff.mp h
      cases hp
      refine .hex hread fun as bs hbs => ?_
      simp only [escape.eq_def, if_neg hdigit, if_pos hhex, hbs]
      rfl
    · rename_i hhex
      split at h
      · rename_i hclass
        obtain ⟨⟨query, after⟩, hread, hp⟩ := bind_eq_ok_iff.mp h
        cases hp
        refine .unicode hread fun as bs hbs => ?_
        simp only [escape.eq_def, if_neg hdigit, if_neg hhex, if_pos hclass, hbs]
        rfl
      · rename_i hclass
        split at h
        · rename_i hescapable
          cases h
          refine .none fun as => ?_
          simp only [escape.eq_def, if_neg hdigit, if_neg hhex, if_neg hclass, if_pos hescapable]
        · rename_i hescapable
          split at h
          -- the word edge may look further; all others are single letters
          case h_15 =>
            obtain ⟨⟨a, after⟩, hread, hp⟩ := bind_eq_ok_iff.mp h
            cases hp
            refine .edge hread fun as bs hbs => ?_
            simp only [escape.eq_def, if_neg hdigit, if_neg hhex, if_neg hclass,
              if_neg hescapable, hbs]
            rfl
          all_goals
            cases h
            try exact .none fun as => rfl

theorem stable_escape {p : Primitive} (h : escape extended cs = .ok (p, rest)) :
    Stable (fun as bs => escape extended as = .ok (p, bs)) cs rest := by
  cases cs with
  | nil => cases h
  | cons c cs =>
    cases escapeTail_of_escape h with
    | hex hread hescape =>
      exact ((stable_hexEscape hread).skip fun _ _ => id).tail hescape
    | unicode hread hescape =>
      exact ((stable_unicodeQuery hread).skip fun _ _ => id).tail hescape
    | edge hread hescape => exact (stable_wordEdge hread).tail hescape
    | none hescape => exact (Firm.char hescape).stable

end Escapes

/-! ## 4. Flags, counts and names -/

section Heads

variable {extended : Bool} {cs rest : List Char}

theorem firm_flagSettings {negated dangling closes : Bool} {read fs : FlagSettings}
    (h : flagSettings negated dangling read cs = some (fs, closes, rest)) :
    Firm (fun as bs => flagSettings negated dangling read as = some (fs, closes, bs)) cs
      rest := by
  induction cs generalizing negated dangling read with
  | nil => cases h
  | cons c cs ih =>
    rw [flagSettings] at h
    split at h
    · rename_i hend
      split at h
      · cases h
      · rename_i hdangling
        cases h
        exact Firm.char fun as => by rw [flagSettings, if_pos hend, if_neg hdangling]
    · rename_i hend
      split at h
      · rename_i hhyphen
        split at h
        · cases h
        · rename_i hnegated
          refine (ih h).tail fun as bs hbs => ?_
          rw [flagSettings, if_neg hend, if_pos hhyphen, if_neg hnegated, hbs]
      · rename_i hhyphen
        split at h
        · rename_i f hf
          split at h
          · cases h
          · rename_i hfresh
            refine (ih h).tail fun as bs hbs => ?_
            simp only [flagSettings, if_neg hend, if_neg hhyphen, hf, if_neg hfresh, hbs]
        · cases h

theorem stable_groupName {first : Bool} {name : List Char}
    (h : groupName first cs = some (name, rest)) :
    Stable (fun as bs => groupName first as = some (name, bs)) cs rest := by
  induction cs generalizing first name with
  | nil => cases h
  | cons c cs ih =>
    rw [groupName] at h
    split at h
    · rename_i hend
      split at h
      · cases h
      · rename_i hfirst
        cases h
        refine (Stable.refl _).tail ?_
        rintro as bs rfl
        rw [groupName, if_pos hend, if_neg hfirst]
    · rename_i hend
      by_cases hchar : (if first then isGroupNameStart c else isGroupNameRest c) = true
      · rw [if_pos hchar] at h
        obtain ⟨⟨name', after⟩, hname, hr⟩ := Option.map_eq_some_iff.mp h
        cases hr
        refine (ih hname).tail fun as bs hbs => ?_
        rw [groupName, if_neg hend, if_pos hchar, hbs]
        rfl
      · rw [if_neg hchar] at h
        cases h

/-- Whether a repetition is lazy shows in what follows it. -/
theorem stable_laziness {greedy : Bool} (h : laziness cs = (greedy, rest)) :
    Stable (fun as bs => laziness as = (greedy, bs)) cs rest := by
  unfold laziness at h
  split at h
  · cases h
    exact (Stable.refl _).tail fun as bs hab => hab ▸ rfl
  · rename_i hlazy
    cases h
    refine ⟨List.suffix_refl _, fun more hseam => ?_⟩
    have hhead := hseam.head_ne (c := '?') (by decide) fun hhead => by
      obtain ⟨after, rfl⟩ := List.head?_eq_some_iff.mp hhead
      exact hlazy after rfl
    unfold laziness
    split
    · rename_i hmore
      rw [hmore] at hhead
      exact absurd rfl hhead
    · rfl

theorem stable_dropBlanks (cs : List Char) :
    Stable (fun as bs => as.dropWhile Text.isBlank = bs) cs (cs.dropWhile Text.isBlank) := by
  refine ⟨List.dropWhile_suffix _, fun more hseam => ?_⟩
  rw [List.dropWhile_append]
  split
  · rename_i hempty
    rw [List.isEmpty_iff] at hempty
    rw [hempty] at hseam ⊢
    obtain ⟨after, rfl⟩ := hseam.eq_cons
    rfl
  · rfl

theorem stable_countDigits {fuel value : Nat} (hfuel : cs.length < fuel) :
    Stable (fun as bs => ∀ fuel', as.length < fuel' →
      countDigits extended fuel' value as = ((countDigits extended fuel value cs).1, bs)) cs
      (countDigits extended fuel value cs).2 := by
  induction fuel generalizing value cs with
  | zero => cases hfuel
  | succ fuel ih =>
    cases cs with
    | nil =>
      refine ⟨List.suffix_refl _, fun more hseam => ?_⟩
      obtain ⟨after, rfl⟩ := hseam.eq_cons
      rintro (_ | fuel') hfuel'
      · cases hfuel'
      · rfl
    | cons c cs =>
      rw [countDigits]
      split
      · rename_i hdigit
        refine ((ih (length_skipBlanks_lt hfuel)).skip fun _ _ => id).tail ?_
        rintro as bs hbs (_ | fuel') hfuel'
        · cases hfuel'
        · rw [countDigits, if_pos hdigit]
          exact hbs fuel' (length_skipBlanks_lt hfuel')
      · rename_i hdigit
        refine (Stable.refl (c :: cs)).head.imp ?_
        rintro as bs ⟨⟨as, rfl⟩, rfl⟩ (_ | fuel') hfuel'
        · cases hfuel'
        · rw [countDigits, if_neg hdigit]

theorem stable_blanksAfterCount {fuel : Nat} (hfuel : cs.length < fuel) :
    Stable (fun as bs => ∀ fuel', as.length < fuel' → blanksAfterCount extended fuel' as = bs) cs
      (blanksAfterCount extended fuel cs) := by
  induction fuel generalizing cs with
  | zero => cases hfuel
  | succ fuel ih =>
    cases cs with
    | nil =>
      refine ⟨List.suffix_refl _, fun more hseam => ?_⟩
      obtain ⟨after, rfl⟩ := hseam.eq_cons
      rintro (_ | fuel') hfuel'
      · cases hfuel'
      · rfl
    | cons c cs =>
      rw [blanksAfterCount]
      split
      · rename_i hblank
        refine ((ih (length_skipBlanks_lt hfuel)).skip fun _ _ => id).tail ?_
        rintro as bs hbs (_ | fuel') hfuel'
        · cases hfuel'
        · rw [blanksAfterCount, if_pos hblank]
          exact hbs fuel' (length_skipBlanks_lt hfuel')
      · rename_i hblank
        refine (Stable.refl (c :: cs)).head.imp ?_
        rintro as bs ⟨⟨as, rfl⟩, rfl⟩ (_ | fuel') hfuel'
        · cases hfuel'
        · rw [blanksAfterCount, if_neg hblank]

/-- A count that has digits. -/
theorem count_eq_some_iff {n : Nat} :
    count extended cs = .ok (some n, rest) ↔
      ∃ c ds after, cs.dropWhile Text.isBlank = c :: ds ∧ c.isDigit = true ∧ n < countBound ∧
        countDigits extended (ds.length + 2) 0 (c :: ds) = (n, after) ∧
        blanksAfterCount extended (after.length + 1) after = rest := by
  unfold count
  cases cs.dropWhile Text.isBlank with
  | nil => simp
  | cons c ds =>
    simp only [List.head?_cons, Option.any_some, List.length_cons]
    constructor
    · intro h
      split at h
      · rename_i hdigit
        split at h
        · rename_i hbound
          cases h
          exact ⟨c, ds, _, rfl, hdigit, hbound, rfl, rfl⟩
        · cases h
      · cases h
    · rintro ⟨c', ds', after, hcs, hdigit, hbound, hdigits, hblanks⟩
      obtain ⟨rfl, rfl⟩ := List.cons.inj hcs
      rw [if_pos hdigit]
      simp only [hdigits, if_pos hbound, hblanks]

theorem stable_count {n : Nat} (h : count extended cs = .ok (some n, rest)) :
    Stable (fun as bs => count extended as = .ok (some n, bs)) cs rest := by
  obtain ⟨c, ds, after, hcs, hdigit, hbound, hdigits, rfl⟩ := count_eq_some_iff.mp h
  have hstart := stable_dropBlanks cs
  rw [hcs] at hstart
  have hread := @stable_countDigits extended (c :: ds) (ds.length + 2) 0 (by simp)
  rw [hdigits] at hread
  have hnumber : Stable (fun as bs => ∃ ds', as.dropWhile Text.isBlank = c :: ds' ∧
      countDigits extended (ds'.length + 2) 0 (c :: ds') = (n, bs)) cs after := by
    refine hstart.trans hread.head ?_
    rintro as _ bs hskip ⟨⟨ds', rfl⟩, hread⟩
    exact ⟨ds', hskip, hread _ (by simp)⟩
  refine hnumber.trans (stable_blanksAfterCount (Nat.lt_succ_self _)) ?_
  rintro as after' bs ⟨ds', hskip, hread⟩ hblanks
  exact count_eq_some_iff.mpr
    ⟨c, ds', after', hskip, hdigit, hbound, hread, hblanks _ (Nat.lt_succ_self _)⟩

/-- How what stands behind the lower count of a repetition gives the upper one: there is no
    comma, a brace follows the comma, or a second count that is no smaller. -/
inductive UpperCount (extended : Bool) (low : Nat) : Option Nat → List Char → List Char → Prop
  | same {after : List Char} (hcomma : after.head? ≠ some ',') :
      UpperCount extended low (some low) after after
  | unlimited {inner close : List Char} (hskip : skipBlanks extended inner = '\x7d' :: close) :
      UpperCount extended low none (',' :: inner) ('\x7d' :: close)
  | limited {inner ds rest : List Char} {d : Char} {m : Nat}
      (hskip : skipBlanks extended inner = d :: ds) (hd : d ≠ '\x7d')
      (hcount : count extended (d :: ds) = .ok (some m, rest)) (hle : low ≤ m) :
      UpperCount extended low (some m) (',' :: inner) rest

theorem upperCount_of_counts {low : Nat} {high : Option Nat}
    (h : counts extended cs = .ok (low, high, rest)) :
    ∃ after, count extended cs = .ok (some low, after) ∧
      UpperCount extended low high after rest := by
  obtain ⟨⟨low?, after⟩, hlow, h⟩ := bind_eq_ok_iff.mp h
  cases low? with
  | none => cases h
  | some n =>
    simp only at h
    split at h
    · rename_i inner
      split at h
      · cases h
      · rename_i close hskip
        cases h
        exact ⟨_, hlow, hskip.symm ▸ .unlimited hskip⟩
      · rename_i hempty hopen
        obtain ⟨⟨high?, after⟩, hhigh, h⟩ := bind_eq_ok_iff.mp h
        obtain ⟨d, ds, hskip⟩ := List.exists_cons_of_ne_nil hempty
        cases high? with
        | none => cases h
        | some m =>
          simp only at h
          split at h
          · rename_i hle
            cases h
            rw [hskip] at hhigh
            refine ⟨_, hlow, .limited hskip ?_ hhigh hle⟩
            rintro rfl
            exact hopen ds hskip
          · cases h
    · rename_i hcomma
      cases h
      refine ⟨_, hlow, .same fun hhead => ?_⟩
      obtain ⟨inner, rfl⟩ := List.head?_eq_some_iff.mp hhead
      exact hcomma inner rfl

theorem UpperCount.counts_eq {low : Nat} {high : Option Nat} {after : List Char}
    (h : UpperCount extended low high after rest)
    (hlow : count extended cs = .ok (some low, after)) :
    counts extended cs = .ok (low, high, rest) := by
  rw [counts, hlow]
  simp only [bind, Except.bind]
  cases h with
  | same hcomma =>
    split
    · exact absurd rfl hcomma
    · rfl
  | unlimited hskip =>
    simp only [hskip]
    rfl
  | limited hskip hd hcount hle =>
    simp only [hskip]
    split
    · rename_i hnil
      cases hnil
    · rename_i hbrace
      exact absurd (List.cons.inj hbrace).1 hd
    · rw [hcount]
      simp only [if_pos hle]
      rfl

theorem UpperCount.stable {low : Nat} {high : Option Nat}
    (h : UpperCount extended low high cs rest) :
    Stable (UpperCount extended low high) cs rest := by
  cases h with
  | same hcomma =>
    refine ⟨List.suffix_refl _, fun more hseam => .same ?_⟩
    exact hseam.head_ne (by decide) hcomma
  | unlimited hskip =>
    rename_i inner close
    have hclose := stable_skipBlanks extended inner
    rw [hskip] at hclose
    refine hclose.left_head.tail ?_
    rintro as _ ⟨⟨close', rfl⟩, hskip'⟩
    exact .unlimited hskip'
  | limited hskip hd hcount hle =>
    refine ((stable_count hcount).skip_cons hskip).tail ?_
    rintro as bs ⟨ds', hskip', hcount'⟩
    exact .limited hskip' hd hcount' hle

theorem stable_counts {low : Nat} {high : Option Nat}
    (h : counts extended cs = .ok (low, high, rest)) :
    Stable (fun as bs => counts extended as = .ok (low, high, bs)) cs rest := by
  obtain ⟨after, hlow, hupper⟩ := upperCount_of_counts h
  refine (stable_count hlow).trans hupper.stable ?_
  intro as bs ds hlow' hupper'
  exact hupper'.counts_eq hlow'

end Heads

end Wayfinder.Regex
