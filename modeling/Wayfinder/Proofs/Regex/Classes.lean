/-
  Wayfinder/Proofs/Regex/Classes.lean
  ===================================
  **Bracketed classes look no further than they read.**

  Inside brackets a reader looks further ahead than elsewhere: past blanks for the other end
  of a range, and to the next colon for the name of a class.  Neither goes beyond the bracket
  that closes the class, as no name holds a bracket.
-/
import Wayfinder.Proofs.Regex.Readers
import Wayfinder.Regex.ClassParser

namespace Wayfinder.Regex

variable {extended : Bool} {cs rest : List Char}

/-! ## 1. Elements and ranges -/

theorem stable_classElement {p : Primitive} (h : classElement extended cs = .ok (p, rest)) :
    Stable (fun as bs => classElement extended as = .ok (p, bs)) cs rest := by
  unfold classElement at h
  split at h
  · cases h
  · exact (stable_escape h).tail fun as bs hbs => hbs
  · rename_i c after hescape
    cases h
    refine (Stable.refl _).tail ?_
    rintro as bs rfl
    unfold classElement
    split
    · rename_i hnil
      cases hnil
    · rename_i hcons
      obtain ⟨rfl, -⟩ := List.cons.inj hcons
      exact absurd rfl hescape
    · rename_i hcons
      cases hcons
      rfl

/-- Dropping comments starts with dropping blanks. -/
theorem dropComments_dropBlanks (cs : List Char) :
    dropComments false (cs.dropWhile Text.isBlank) = dropComments false cs := by
  induction cs with
  | nil => rfl
  | cons c cs ih =>
    rw [List.dropWhile_cons]
    split
    · rename_i hblank
      rw [ih, dropComments.eq_2, if_neg Bool.false_ne_true, if_pos hblank]
    · rfl

theorem dropComments_of_blank {inComment : Bool} {cs : List Char}
    (h : cs.dropWhile Text.isBlank = []) : dropComments inComment cs = [] := by
  induction cs generalizing inComment with
  | nil => rfl
  | cons c cs ih =>
    rw [List.dropWhile_cons] at h
    split at h
    · rename_i hblank
      rw [dropComments, if_pos hblank]
      split
      · exact ih h
      · exact ih h
    · cases h

/-- The character that is seen behind blanks and the mark of one comment. -/
def pastBlanks? (cs : List Char) : Option Char :=
  match cs.dropWhile Text.isBlank with
  | '#' :: comment => (comment.dropWhile Text.isBlank).head?
  | ds => ds.head?

theorem peekPastBlanks_eq (cs : List Char) :
    peekPastBlanks true cs = (pastBlanks? cs).or cs.head? := by
  rw [peekPastBlanks, if_pos rfl, pastBlanks?]
  split
  · rename_i hcs
    simp only [hcs]
  · rename_i c ds hc hcs
    rw [hcs]
    split
    · rename_i hcons
      exact absurd (List.cons.inj hcons).1 hc
    · rfl
  · rename_i hcs
    rw [hcs]
    rfl

theorem pastBlanks?_append {c : Char} (h : pastBlanks? cs = some c) (more : List Char) :
    pastBlanks? (cs ++ more) = some c := by
  unfold pastBlanks? at h ⊢
  rw [List.dropWhile_append]
  cases hcs : cs.dropWhile Text.isBlank with
  | nil =>
    rw [hcs] at h
    cases h
  | cons d ds =>
    rw [hcs] at h
    simp only [List.isEmpty_cons, Bool.false_eq_true, if_false, List.cons_append]
    by_cases hd : d = '#'
    · subst hd
      have hds : ds.dropWhile Text.isBlank ≠ [] := fun hnil => by simp [hnil] at h
      simp only at h ⊢
      rw [List.dropWhile_append, if_neg (by rwa [List.isEmpty_iff]), List.head?_append, h]
      rfl
    · split at h
      · rename_i hcons
        exact absurd (List.cons.inj hcons).1 hd
      · split
        · rename_i hcons
          exact absurd (List.cons.inj hcons).1 hd
        · exact h

/-- Where nothing is seen there are only blanks and one comment. -/
theorem dropComments_of_pastBlanks?_eq_none (h : pastBlanks? cs = none) :
    dropComments false cs = [] := by
  rw [← dropComments_dropBlanks]
  unfold pastBlanks? at h
  split at h
  · rename_i comment hcs
    rw [hcs]
    exact @dropComments_of_blank true _ (List.head?_eq_none_iff.mp h)
  · rw [List.head?_eq_none_iff.mp h]
    rfl

theorem pastBlanks?_cons {c : Char} (hc : c = ']' ∨ c = '-') (cs : List Char) :
    pastBlanks? (c :: cs) = some c := by
  rcases hc with rfl | rfl <;> rfl

/-- Looking ahead sees the same with more behind the text, if what counts next or one of the
    characters that are looked for is there. -/
theorem peekPastBlanks_append (h : skipBlanks extended cs ≠ [] ∨
    peekPastBlanks extended cs = some ']' ∨ peekPastBlanks extended cs = some '-')
    (more : List Char) : peekPastBlanks extended (cs ++ more) = peekPastBlanks extended cs := by
  cases extended with
  | false =>
    cases cs with
    | nil => simp [skipBlanks, peekPastBlanks] at h
    | cons c cs => rfl
  | true =>
    rw [peekPastBlanks_eq] at h
    rw [peekPastBlanks_eq, peekPastBlanks_eq]
    cases hseen : pastBlanks? cs with
    | some c =>
      rw [pastBlanks?_append hseen]
      rfl
    | none =>
      exfalso
      rw [hseen, Option.none_or, skipBlanks, if_pos rfl] at h
      rcases h with h | h
      · exact h (dropComments_of_pastBlanks?_eq_none hseen)
      · obtain ⟨c, hc, hhead⟩ : ∃ c, (c = ']' ∨ c = '-') ∧ cs.head? = some c := by
          rcases h with h | h
          · exact ⟨_, Or.inl rfl, h⟩
          · exact ⟨_, Or.inr rfl, h⟩
        obtain ⟨ds, rfl⟩ := List.head?_eq_some_iff.mp hhead
        rw [pastBlanks?_cons hc] at hseen
        cases hseen

theorem eq_of_alone {p : Primitive} {item : ClassTree} {after rest : List Char}
    (h : (match p.item? with
      | some item => .ok (item, after)
      | none => .error .malformed : Except Fault (ClassTree × List Char)) = .ok (item, rest)) :
    p.item? = some item ∧ after = rest := by
  split at h
  · rename_i hitem
    cases h
    exact ⟨hitem, rfl⟩
  · cases h

/-- How an item of a class ends behind its first element: the element stands alone, unless
    a hyphen joins it to another one. -/
inductive ItemEnd (extended : Bool) (first : Primitive) (item : ClassTree) :
    List Char → List Char → Prop
  | alone {after rest : List Char} (hitem : first.item? = some item)
      (hskip : skipBlanks extended after = rest) (hne : rest ≠ [])
      (hhyphen : ∀ next, rest = '-' :: next →
        peekPastBlanks extended next = some ']' ∨ peekPastBlanks extended next = some '-') :
      ItemEnd extended first item after rest
  | joined {after next rest : List Char} {a b : Letter}
      (hskip : skipBlanks extended after = '-' :: next)
      (hjoined : ¬(peekPastBlanks extended next = some ']' ∨
        peekPastBlanks extended next = some '-'))
      (hlast : classElement extended (skipBlanks extended next) = .ok (.letter b, rest))
      (hle : a.char ≤ b.char) (hfirst : first = .letter a) (hitem : item = .range a b) :
      ItemEnd extended first item after rest

theorem itemEnd_of_classRange {item : ClassTree} (h : classRange extended cs = .ok (item, rest)) :
    ∃ first after, classElement extended cs = .ok (first, after) ∧
      ItemEnd extended first item after rest := by
  obtain ⟨⟨first, after⟩, hfirst, h⟩ := bind_eq_ok_iff.mp h
  refine ⟨first, after, hfirst, ?_⟩
  simp only at h
  split at h
  · cases h
  · rename_i next hnext
    split at h
    · rename_i hahead
      obtain ⟨hitem, hrest⟩ := eq_of_alone h
      rw [hnext] at hrest
      subst hrest
      refine .alone hitem hnext (List.cons_ne_nil _ _) fun next' hcons => ?_
      obtain ⟨-, rfl⟩ := List.cons.inj hcons
      exact hahead
    · rename_i hahead
      split at h
      · cases h
      · rename_i hsecond
        obtain ⟨⟨last, after'⟩, hlast, h⟩ := bind_eq_ok_iff.mp h
        simp only at h
        split at h
        · rename_i a b _
          split at h
          · rename_i hle
            cases h
            exact .joined hnext hahead hlast hle rfl rfl
          · cases h
        · cases h
  · rename_i hempty hhyphen
    obtain ⟨hitem, hrest⟩ := eq_of_alone h
    rw [← hrest]
    exact .alone hitem rfl hempty fun next hnext => absurd hnext (hhyphen next)

/-- An element is read where there is something. -/
theorem ne_nil_of_classElement {p : Primitive} (h : classElement extended cs = .ok (p, rest)) :
    cs ≠ [] := by
  rintro rfl
  cases h

theorem ItemEnd.classRange_eq {first : Primitive} {item : ClassTree} {after : List Char}
    (h : ItemEnd extended first item after rest)
    (hfirst : classElement extended cs = .ok (first, after)) :
    classRange extended cs = .ok (item, rest) := by
  rw [classRange, hfirst]
  simp only [bind, Except.bind]
  cases h with
  | alone hitem hskip hne hhyphen =>
    simp only [hitem, hskip]
    split
    · exact absurd rfl hne
    · rename_i next
      rw [if_pos (hhyphen next rfl)]
    · rfl
  | joined hskip hjoined hlast hle hfirst hitem =>
    subst hfirst hitem
    simp only [hskip, if_neg hjoined]
    split
    · rename_i hnil
      exact absurd hnil (ne_nil_of_classElement hlast)
    · simp only [hlast, if_pos hle]
      rfl

theorem ItemEnd.stable {first : Primitive} {item : ClassTree}
    (h : ItemEnd extended first item cs rest) :
    Stable (ItemEnd extended first item) cs rest := by
  cases h with
  | alone hitem hskip hne hhyphen =>
    obtain ⟨c, next, rfl⟩ := List.exists_cons_of_ne_nil hne
    have hstop := stable_skipBlanks extended cs
    rw [hskip] at hstop
    refine ⟨hstop.suffix, fun more hseam => ?_⟩
    refine .alone hitem (hstop.append more hseam) (List.cons_ne_nil _ _) fun next' hmore => ?_
    obtain ⟨rfl, rfl⟩ := List.cons.inj hmore
    have hsame := peekPastBlanks_append (Or.inr (hhyphen next rfl)) more
    exact hsame ▸ hhyphen next rfl
  | joined hskip hjoined hlast hle hfirst hitem =>
    rename_i next a b
    have hsecond := (stable_classElement hlast).skip fun _ _ => id
    have hstart := stable_skipBlanks extended cs
    rw [hskip] at hstart
    refine ⟨(hsecond.suffix.trans (List.suffix_cons _ _)).trans hstart.suffix,
      fun more hseam => ?_⟩
    refine .joined (skipBlanks_append_of_cons hskip more) ?_
      (hsecond.append more (hseam.of_suffix ?_)) hle hfirst hitem
    · rw [peekPastBlanks_append (Or.inl (ne_nil_of_classElement hlast))]
      exact hjoined
    · exact (List.suffix_cons _ _).trans hstart.suffix

theorem stable_classRange {item : ClassTree} (h : classRange extended cs = .ok (item, rest)) :
    Stable (fun as bs => classRange extended as = .ok (item, bs)) cs rest := by
  obtain ⟨first, after, hfirst, hend⟩ := itemEnd_of_classRange h
  refine (stable_classElement hfirst).trans hend.stable ?_
  intro as bs ds hfirst' hend'
  exact hend'.classRange_eq hfirst'

theorem length_classElement_lt {p : Primitive} (h : classElement extended cs = .ok (p, rest)) :
    rest.length < cs.length := by
  unfold classElement at h
  split at h
  · cases h
  · exact Nat.lt_succ_of_le (stable_escape h).length_le
  · cases h
    exact Nat.lt_succ_self _

/-- What is left of a class item is less than there was. -/
theorem length_classRange_lt {item : ClassTree} (h : classRange extended cs = .ok (item, rest)) :
    rest.length < cs.length := by
  obtain ⟨first, after, hfirst, hend⟩ := itemEnd_of_classRange h
  exact Nat.lt_of_le_of_lt hend.stable.length_le (length_classElement_lt hfirst)

theorem ItemEnd.ne_nil {first : Primitive} {item : ClassTree}
    (h : ItemEnd extended first item cs rest) : cs ≠ [] := by
  rintro rfl
  cases h with
  | alone hitem hskip hne hhyphen => exact hne (hskip.symm.trans (skipBlanks_nil extended))
  | joined hskip hjoined hlast hle hfirst hitem =>
    rw [skipBlanks_nil] at hskip
    cases hskip

/-- An item of a class is followed by something. -/
theorem exists_cons_cons_of_classRange {item : ClassTree}
    (h : classRange extended cs = .ok (item, rest)) : ∃ c d ds, cs = c :: d :: ds := by
  obtain ⟨first, after, hfirst, hend⟩ := itemEnd_of_classRange h
  have hlt := length_classElement_lt hfirst
  have hpos := List.length_pos_iff.mpr hend.ne_nil
  rcases cs with _ | ⟨c, _ | ⟨d, ds⟩⟩
  · cases hlt
  · rw [List.length_singleton] at hlt
    omega
  · exact ⟨c, d, ds, rfl⟩

/-! ## 2. Named classes -/

theorem ne_of_mem_asciiClass {name : List Char} {kind : AsciiClass}
    (h : asciiClass? name = some kind) : ∀ c ∈ name, c ≠ ':' ∧ c ≠ '^' ∧ c ≠ ']' := by
  obtain ⟨entry, hentry, -⟩ := Option.map_eq_some_iff.mp h
  have hname := List.find?_some hentry
  have hmem := List.mem_of_find?_eq_some hentry
  obtain rfl : entry.1.toList = name := by simpa using hname
  suffices hall : (entry.1.toList.all fun c => c != ':' && c != '^' && c != ']') = true by
    intro c hc
    simpa [and_assoc] using List.all_eq_true.mp hall c hc
  clear h hname hentry
  revert entry
  decide

theorem namedClass?_of_body {negated : Bool} {body after : List Char}
    (hcaret : body.head? ≠ some '^')
    (hbody : body.dropWhile (fun c => decide (c ≠ ':')) = ':' :: ']' :: after) :
    namedClass? (':' :: ((bif negated then ['^'] else []) ++ body)) =
      (asciiClass? (body.takeWhile fun c => decide (c ≠ ':'))).map fun kind =>
        (.ascii kind negated, after) := by
  cases negated with
  | true => simp only [namedClass?, cond_true, List.cons_append, List.nil_append, List.head?_cons,
      beq_self_eq_true, if_true, List.tail_cons, hbody]
  | false => simp only [namedClass?, cond_false, List.nil_append, beq_eq_false_iff_ne.mpr hcaret,
      Bool.false_eq_true, if_false, hbody]

/-- A named class has its name between colons, after a caret perhaps. -/
theorem namedClass?_eq_some_iff {item : ClassTree} :
    namedClass? cs = some (item, rest) ↔ ∃ negated name kind, asciiClass? name = some kind ∧
      item = .ascii kind negated ∧
        cs = ':' :: ((bif negated then ['^'] else []) ++ name ++ [':']) ++ ']' :: rest := by
  constructor
  · intro h
    unfold namedClass? at h
    split at h
    · rename_i inner
      simp only at h
      split at h
      · rename_i after hbody
        obtain ⟨kind, hkind, hitem⟩ := Option.map_eq_some_iff.mp h
        cases hitem
        refine ⟨_, _, kind, hkind, rfl, ?_⟩
        generalize hnegated : (inner.head? == some '^') = negated at hbody ⊢
        have hinner : inner = (bif negated then ['^'] else []) ++
            (if negated = true then inner.tail else inner) := by
          subst hnegated
          cases inner with
          | nil => rfl
          | cons c inner => by_cases hc : c = '^' <;> simp [hc, beq_eq_false_iff_ne.mpr]
        have hsplit := @List.takeWhile_append_dropWhile _ (fun c => decide (c ≠ ':'))
          (if negated = true then inner.tail else inner)
        rw [hbody] at hsplit
        conv_lhs => rw [hinner, ← hsplit]
        simp
      · cases h
    · cases h
  · rintro ⟨negated, name, kind, hkind, rfl, rfl⟩
    have hname := ne_of_mem_asciiClass hkind
    have htake : (name ++ ':' :: ']' :: rest).takeWhile (fun c => decide (c ≠ ':')) = name := by
      rw [List.takeWhile_append_of_pos fun c hc => decide_eq_true (hname c hc).1]
      simp
    have hdrop : (name ++ ':' :: ']' :: rest).dropWhile (fun c => decide (c ≠ ':')) =
        ':' :: ']' :: rest := by
      rw [List.dropWhile_append_of_pos fun c hc => decide_eq_true (hname c hc).1]
      simp
    have hcaret : (name ++ ':' :: ']' :: rest).head? ≠ some '^' := by
      cases name with
      | nil => simp
      | cons c name => simpa using (hname c List.mem_cons_self).2.1
    have htext : ':' :: ((bif negated then ['^'] else []) ++ name ++ [':']) ++ ']' :: rest =
        ':' :: ((bif negated then ['^'] else []) ++ (name ++ ':' :: ']' :: rest)) := by simp
    rw [htext, namedClass?_of_body hcaret hdrop, htake, hkind]
    rfl

theorem stable_namedClass {item : ClassTree} (h : namedClass? cs = some (item, rest)) :
    Stable (fun as bs => namedClass? as = some (item, bs)) cs rest := by
  simp only [namedClass?_eq_some_iff] at h ⊢
  obtain ⟨negated, name, kind, hkind, hitem, rfl⟩ := h
  refine ⟨(List.suffix_cons _ _).trans (List.suffix_append _ _), fun more _ => ?_⟩
  exact ⟨negated, name, kind, hkind, hitem, by simp⟩

/-- What is no named class does not turn into one, since a bracket closes before. -/
theorem namedClass?_append_eq_none (h : namedClass? cs = none) (hclose : ']' ∈ cs)
    (more : List Char) : namedClass? (cs ++ more) = none := by
  rw [Option.eq_none_iff_forall_ne_some]
  rintro ⟨item, rest⟩ hsome
  obtain ⟨negated, name, kind, hkind, rfl, hcs⟩ := namedClass?_eq_some_iff.mp hsome
  have hname := ne_of_mem_asciiClass hkind
  have hno : ']' ∉ ':' :: ((bif negated then ['^'] else []) ++ name ++ [':']) := by
    have : ']' ∉ name := fun hmem => (hname _ hmem).2.2 rfl
    cases negated <;> simpa
  rcases List.append_eq_append_iff.mp hcs with ⟨as, hhead, -⟩ | ⟨bs, rfl, htail⟩
  · exact hno (hhead ▸ List.mem_append_left as hclose)
  · cases bs with
    | nil => exact hno (by simpa using hclose)
    | cons b bs =>
      obtain ⟨rfl, -⟩ := List.cons.inj htail
      have hthere : namedClass? _ = some (_, bs) :=
        namedClass?_eq_some_iff.mpr ⟨negated, name, kind, hkind, rfl, rfl⟩
      rw [h] at hthere
      cases hthere

/-! ## 3. The start of a class -/

theorem leadingHyphens_of_head? {items : List ClassTree} (h : cs.head? ≠ some '-') (fuel : Nat) :
    leadingHyphens extended fuel items cs = (items, cs) := by
  unfold leadingHyphens
  split
  · rfl
  · exact absurd rfl h
  · rfl

theorem stable_leadingHyphens {fuel : Nat} {items : List ClassTree} (hfuel : cs.length < fuel) :
    Stable (fun as bs => ∀ fuel', as.length < fuel' → leadingHyphens extended fuel' items as =
      ((leadingHyphens extended fuel items cs).1, bs)) cs
      (leadingHyphens extended fuel items cs).2 := by
  induction fuel generalizing items cs with
  | zero => cases hfuel
  | succ fuel ih =>
    by_cases hhyphen : cs.head? = some '-'
    · obtain ⟨after, rfl⟩ := List.head?_eq_some_iff.mp hhyphen
      refine ((ih (length_skipBlanks_lt hfuel)).skip fun _ _ => id).tail ?_
      rintro as bs hbs (_ | fuel') hfuel'
      · cases hfuel'
      · exact hbs fuel' (length_skipBlanks_lt hfuel')
    · rw [leadingHyphens_of_head? hhyphen]
      refine ⟨List.suffix_refl _, fun more hseam fuel' _ => ?_⟩
      exact leadingHyphens_of_head? (hseam.head_ne (by decide) hhyphen) fuel'

/-- The start of a class behind a caret that negates it. -/
def pastCaret (extended : Bool) (cs : List Char) : List Char :=
  if cs.head? == some '^' then advance extended cs else cs

/-- A closing bracket is literal where no item stands before it. -/
def literalBracket (extended : Bool) (items : List ClassTree) (cs : List Char) :
    List ClassTree × List Char :=
  match items, cs with
  | [], ']' :: after => ([.letter { char := ']' }], skipBlanks extended after)
  | _, _ => (items, cs)

theorem classOpening_eq (extended : Bool) (cs : List Char) :
    classOpening extended cs =
      let start := skipBlanks extended cs
      let body := pastCaret extended start
      let hyphens := leadingHyphens extended (body.length + 1) [] body
      let opening := literalBracket extended hyphens.1 hyphens.2
      if opening.2.isEmpty then .error .malformed
      else .ok (start.head? == some '^', opening.1, opening.2) := rfl

theorem stable_pastCaret (hcs : cs ≠ []) :
    Stable (fun as bs => as.head? = cs.head? ∧ pastCaret extended as = bs) cs
      (pastCaret extended cs) := by
  obtain ⟨c, cs, rfl⟩ := List.exists_cons_of_ne_nil hcs
  unfold pastCaret
  split
  · rename_i hcaret
    refine (stable_skipBlanks extended cs).tail fun as bs hskip => ⟨rfl, ?_⟩
    exact (if_pos hcaret).trans hskip
  · rename_i hcaret
    refine (Stable.refl (c :: cs)).head.imp ?_
    rintro as bs ⟨⟨as, rfl⟩, rfl⟩
    exact ⟨rfl, if_neg hcaret⟩

theorem literalBracket_of_ne {items : List ClassTree} (h : items = [] → cs.head? ≠ some ']') :
    literalBracket extended items cs = (items, cs) := by
  unfold literalBracket
  split
  · exact absurd rfl (h rfl)
  · rfl

theorem stable_literalBracket (extended : Bool) (items : List ClassTree) (cs : List Char) :
    Stable (fun as bs => literalBracket extended items as =
      ((literalBracket extended items cs).1, bs)) cs (literalBracket extended items cs).2 := by
  by_cases hfirst : items = [] ∧ cs.head? = some ']'
  · obtain ⟨rfl, hhead⟩ := hfirst
    obtain ⟨after, rfl⟩ := List.head?_eq_some_iff.mp hhead
    refine (stable_skipBlanks extended after).tail ?_
    rintro as bs rfl
    rfl
  · rw [literalBracket_of_ne fun hitems hhead => hfirst ⟨hitems, hhead⟩]
    refine ⟨List.suffix_refl _, fun more hseam => literalBracket_of_ne fun hitems => ?_⟩
    exact hseam.head_ne (by decide) fun hhead => hfirst ⟨hitems, hhead⟩

/-- The start of a class before its first item, if that is no bracket. -/
theorem stable_classOpening {negated : Bool} {items : List ClassTree}
    (h : classOpening extended cs = .ok (negated, items, rest)) :
    Stable (fun as bs => classOpening extended as = .ok (negated, items, bs)) cs rest := by
  simp only [classOpening_eq] at h ⊢
  split at h
  · cases h
  · rename_i hrest
    cases h
    have hstart : skipBlanks extended cs ≠ [] := by
      intro hnil
      rw [hnil] at hrest
      exact hrest rfl
    have hskip := stable_skipBlanks extended cs
    have hcaret := @stable_pastCaret extended _ hstart
    generalize skipBlanks extended cs = start at *
    generalize pastCaret extended start = body at *
    have hhyphens := @stable_leadingHyphens extended body (body.length + 1) [] (Nat.lt_succ_self _)
    generalize leadingHyphens extended (body.length + 1) [] body = hyphens at *
    have hbracket := stable_literalBracket extended hyphens.1 hyphens.2
    generalize literalBracket extended hyphens.1 hyphens.2 = opening at *
    obtain ⟨items, rest⟩ := opening
    obtain ⟨c, rest, rfl⟩ : ∃ c ds, rest = c :: ds :=
      List.exists_cons_of_ne_nil (by simpa using hrest)
    refine (((hskip.comp hcaret).comp hhyphens).comp hbracket.left_head).imp ?_
    rintro as _ ⟨after, ⟨body', ⟨_, rfl, hhead, rfl⟩, hread⟩, ⟨bs, rfl⟩, hopening⟩
    simp only [hread _ (Nat.lt_succ_self _), hopening, hhead]
    rfl

/-! ## 4. The loop -/

/-- Whether the loop goes on from `as`, where no blank stands, to `bs` with other frames and
    items, however many steps are left. -/
def ClassGoesOn (extended : Bool) (stack stack' : List ClassFrame) (items items' : List ClassTree)
    (as bs : List Char) : Prop :=
  bs.length < as.length ∧ ∀ as₀ fuel, skipBlanks extended as₀ = as →
    classLoop extended (fuel + 1) stack items as₀ = classLoop extended fuel stack' items' bs

variable {stack : List ClassFrame} {items : List ClassTree} {negated : Bool} {inner : ClassTree}

theorem stable_goesOn_named {item : ClassTree} (h : namedClass? cs = some (item, rest)) :
    Stable (ClassGoesOn extended stack stack items (item :: items)) ('[' :: cs) rest := by
  refine (stable_namedClass h).with_length.tail ?_
  rintro as bs ⟨hle, hread⟩
  refine ⟨Nat.lt_succ_of_le hle, fun as₀ fuel hskip => ?_⟩
  rw [classLoop]
  simp only [hskip, hread]

theorem stable_goesOn_opening (hnamed : namedClass? cs = none) {items' : List ClassTree}
    (h : classOpening extended cs = .ok (negated, items', rest)) (hclose : ']' ∈ rest) :
    Stable (ClassGoesOn extended stack (.bracket negated items :: stack) items items') ('[' :: cs)
      rest := by
  have hread := stable_classOpening h
  have hnone : Stable (fun as bs => namedClass? as = none ∧ as = bs) cs cs :=
    ⟨List.suffix_refl _, fun more _ =>
      ⟨namedClass?_append_eq_none hnamed (hread.suffix.subset hclose) more, rfl⟩⟩
  refine (hnone.comp hread.with_length).tail ?_
  rintro as bs ⟨_, ⟨hnone, rfl⟩, hle, hread⟩
  refine ⟨Nat.lt_succ_of_le hle, fun as₀ fuel hskip => ?_⟩
  rw [classLoop]
  simp only [hskip, hnone, hread]
  rfl

theorem stable_goesOn_closing {outside : List ClassTree} {stack' : List ClassFrame}
    (hsettle : settle (ClassTree.ofItems items.reverse) stack =
      (inner, .bracket negated outside :: stack')) (hmore : stack' ≠ []) :
    Stable (ClassGoesOn extended stack stack' items (.bracketed negated inner :: outside))
      (']' :: cs) cs := by
  refine (Stable.refl _).tail ?_
  rintro as bs rfl
  refine ⟨Nat.lt_succ_self _, fun as₀ fuel hskip => ?_⟩
  obtain ⟨frame, stack', rfl⟩ := List.exists_cons_of_ne_nil hmore
  rw [classLoop]
  simp only [hskip, hsettle]

theorem stable_goesOn_operator {op : SetOp} {c : Char}
    (hop : ∀ as₀ as fuel, skipBlanks extended as₀ = c :: c :: as →
      classLoop extended (fuel + 1) stack items as₀ =
        classLoop extended fuel
          (.pending op (settle (ClassTree.ofItems items.reverse) stack).1 ::
            (settle (ClassTree.ofItems items.reverse) stack).2) [] as) :
    Stable (ClassGoesOn extended stack
      (.pending op (settle (ClassTree.ofItems items.reverse) stack).1 ::
        (settle (ClassTree.ofItems items.reverse) stack).2) items []) (c :: c :: cs) cs := by
  refine Stable.tail (P := fun as bs => as = c :: bs) ((Stable.refl cs).tail ?_) ?_
  · rintro as bs rfl
    rfl
  · rintro _ bs rfl
    exact ⟨Nat.lt_succ_of_lt (Nat.lt_succ_self _), fun as₀ fuel hskip => hop as₀ bs fuel hskip⟩

theorem stable_goesOn_item {item : ClassTree} (hopen : ∀ as, cs ≠ '[' :: as)
    (hclose : ∀ as, cs ≠ ']' :: as) (hand : ∀ as, cs ≠ '&' :: '&' :: as)
    (hminus : ∀ as, cs ≠ '-' :: '-' :: as) (htilde : ∀ as, cs ≠ '~' :: '~' :: as)
    (h : classRange extended cs = .ok (item, rest)) :
    Stable (ClassGoesOn extended stack stack items (item :: items)) cs rest := by
  obtain ⟨c, d, ds, rfl⟩ := exists_cons_cons_of_classRange h
  refine (stable_classRange h).heads.imp ?_
  rintro _ bs ⟨⟨as, rfl⟩, hread⟩
  refine ⟨length_classRange_lt hread, fun as₀ fuel hskip => ?_⟩
  rw [classLoop]
  simp only [hskip]
  split
  · rename_i heq
    cases heq
  · rename_i heq
    obtain ⟨rfl, -⟩ := List.cons.inj heq
    exact absurd rfl (hopen _)
  · rename_i heq
    obtain ⟨rfl, -⟩ := List.cons.inj heq
    exact absurd rfl (hclose _)
  · rename_i heq
    cases heq
    exact absurd rfl (hand _)
  · rename_i heq
    cases heq
    exact absurd rfl (hminus _)
  · rename_i heq
    cases heq
    exact absurd rfl (htilde _)
  · simp only [hread]
    rfl

/-- A class that is read to its end closes, or goes on and is read to its end then. -/
theorem classLoop_cases {fuel : Nat}
    (h : classLoop extended (fuel + 1) stack items cs = .ok (negated, inner, rest)) :
    (skipBlanks extended cs = ']' :: rest ∧ ∃ outside,
      settle (ClassTree.ofItems items.reverse) stack = (inner, [.bracket negated outside])) ∨
    ∃ stack' items' after, classLoop extended fuel stack' items' after = .ok (negated, inner, rest) ∧
      (']' ∈ after → Stable (ClassGoesOn extended stack stack' items items')
        (skipBlanks extended cs) after) := by
  rw [classLoop] at h
  simp only at h
  generalize skipBlanks extended cs = start at h ⊢
  split at h
  · cases h
  · split at h
    · rename_i hnamed
      exact Or.inr ⟨_, _, _, h, fun _ => stable_goesOn_named hnamed⟩
    · rename_i hnamed
      obtain ⟨⟨negated', items', after⟩, hopening, h⟩ := bind_eq_ok_iff.mp h
      exact Or.inr ⟨_, _, _, h, stable_goesOn_opening hnamed hopening⟩
  · split at h
    · rename_i hsettle
      cases h
      exact Or.inl ⟨rfl, _, hsettle⟩
    · rename_i hmore hsettle
      exact Or.inr ⟨_, _, _, h, fun _ => stable_goesOn_closing hsettle hmore⟩
    · cases h
  · exact Or.inr ⟨_, _, _, h, fun _ =>
      stable_goesOn_operator fun as₀ as fuel hskip => by rw [classLoop]; simp only [hskip]⟩
  · exact Or.inr ⟨_, _, _, h, fun _ =>
      stable_goesOn_operator fun as₀ as fuel hskip => by rw [classLoop]; simp only [hskip]⟩
  · exact Or.inr ⟨_, _, _, h, fun _ =>
      stable_goesOn_operator fun as₀ as fuel hskip => by rw [classLoop]; simp only [hskip]⟩
  · rename_i hopen hclose hand hminus htilde
    obtain ⟨⟨item, after⟩, hitem, h⟩ := bind_eq_ok_iff.mp h
    exact Or.inr ⟨_, _, _, h, fun _ =>
      stable_goesOn_item hopen hclose hand hminus htilde hitem⟩

theorem firm_classLoop {fuel : Nat}
    (h : classLoop extended fuel stack items cs = .ok (negated, inner, rest)) :
    ']' ∈ cs ∧ Firm (fun as bs => ∀ fuel', as.length < fuel' →
      classLoop extended fuel' stack items as = .ok (negated, inner, bs)) cs rest := by
  -- a step needs the bracket that ends the loop somewhere behind it, so both parts go together
  induction fuel generalizing stack items cs with
  | zero => cases h
  | succ fuel ih =>
    have hskip := stable_skipBlanks extended cs
    rcases classLoop_cases h with ⟨hstart, outside, hsettle⟩ | ⟨stack', items', after, h, hgoes⟩
    · rw [hstart] at hskip
      refine ⟨hskip.suffix.subset List.mem_cons_self, ?_⟩
      have hclosed : Firm (fun as bs => as = ']' :: bs) (']' :: rest) rest :=
        Firm.char fun as => rfl
      refine hskip.firm hclosed ?_
      rintro as _ bs hskip' rfl (_ | fuel') hfuel
      · cases hfuel
      · rw [classLoop]
        simp only [hskip', hsettle]
    · obtain ⟨hclose, hrest⟩ := ih h
      have hstep := hgoes hclose
      refine ⟨hskip.suffix.subset (hstep.suffix.subset hclose), ?_⟩
      refine (hskip.with_length.comp hstep).firm hrest ?_
      rintro as mid bs ⟨start, ⟨hle, hskip'⟩, hlt, hloop⟩ hread (_ | fuel') hfuel
      · cases hfuel
      · rw [hloop as fuel' hskip']
        exact hread fuel' (by omega)

/-- A class ends at its last bracket. -/
theorem firm_bracketClass {negated : Bool} {inner : ClassTree}
    (h : bracketClass extended cs = .ok (negated, inner, rest)) :
    Firm (fun as bs => bracketClass extended as = .ok (negated, inner, bs)) cs rest := by
  obtain ⟨⟨negated', items, after⟩, hopening, h⟩ := bind_eq_ok_iff.mp h
  refine (stable_classOpening hopening).with_length.firm (firm_classLoop h).2 ?_
  rintro as mid bs ⟨hle, hread⟩ hloop
  rw [bracketClass, hread]
  exact hloop _ (Nat.lt_succ_of_le hle)

end Wayfinder.Regex
