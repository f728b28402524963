/-
  Wayfinder/Proofs/Declaration.lean
  =================================
  **What a declaration guarantees.**

  Every step of a declaration is checked at once, so whatever steps were taken, the
  draft has a valid pattern, the wildcards that extraction finds in it, one place for a
  constraint of each wildcard, and only constraints that compile.  From this follows
  the shape of the variants of the finished route.
-/
import Wayfinder.Proofs.Outcome
import Wayfinder.Proofs.Pattern.Variants
import Wayfinder.Draft

namespace Wayfinder

open Wayfinder.Pattern

/-! ## 1. Declared drafts -/

/-- Whether the characters of a text can be counted in machine words, as those of any
    text in memory can. -/
def Addressable (text : String) : Prop := text.length < wordBound

instance (text : String) : Decidable (Addressable text) := inferInstanceAs (Decidable (_ < _))

namespace Draft

theorem start_eq_ok_iff {uri : String} {d : Draft} :
    start uri = .ok d ↔
      validate uri = .ok () ∧ ∃ ws, extract uri = .ok ws ∧
        ws.optionalPositions.length ≤ maxOptionals ∧
        d = ⟨uri, none, ws, .unbound ws, [], [], none⟩ := by
  unfold start
  simp only [bind_eq_ok_iff]
  constructor
  · rintro ⟨⟨⟩, hvalid, ws, hws, h⟩
    split at h
    · cases h
    · rename_i hcount
      exact ⟨hvalid, ws, hws, Nat.le_of_not_lt hcount, (Except.ok.inj h).symm⟩
  · rintro ⟨hvalid, ws, hws, hcount, rfl⟩
    exact ⟨(), hvalid, ws, hws, if_neg (Nat.not_lt.mpr hcount)⟩

variable [Regex.SizeLimit]

/-- A draft that some steps make of a pattern. -/
def Declared (d : Draft) : Prop :=
  Addressable d.uri ∧ ∃ steps, build d.uri steps = .ok d

/-- What holds of a draft after any steps. -/
structure Sound (d : Draft) : Prop where
  valid : validate d.uri = .ok ()
  extracted : extract d.uri = .ok d.wildcards
  optionals : d.wildcards.optionalPositions.length ≤ maxOptionals
  size : d.constraints.bound.length = d.wildcards.size
  compiles : ∀ i fragment, d.constraints.get? i = some fragment →
    ∃ r, Regex.compile fragment = .ok r

theorem sound_of_start {uri : String} {d : Draft} (h : start uri = .ok d) : d.Sound := by
  obtain ⟨hvalid, ws, hws, hcount, rfl⟩ := start_eq_ok_iff.mp h
  refine ⟨hvalid, hws, hcount, by simp [Constraints.unbound], ?_⟩
  intro i fragment hget
  simp only [Constraints.unbound, Constraints.get?, List.getElem?_replicate] at hget
  split at hget <;> simp at hget

/-! ## 2. Steps -/

theorem bind_eq_ok {cs cs' : Constraints} {uri name fragment : String} {ws : Wildcards}
    (h : cs.bind uri ws name fragment = .ok cs') :
    ∃ i r, ws.indexOf? name = some i ∧ cs.get? i = none ∧ Regex.compile fragment = .ok r ∧
      cs' = ⟨cs.bound.set i (some fragment)⟩ := by
  unfold Constraints.bind at h
  split at h
  · cases h
  · rename_i i hi
    split at h
    · cases h
    · rename_i hfree
      split at h
      · cases h
      · rename_i r hr
        exact ⟨i, r, hi, by simpa using hfree, hr, (Except.ok.inj h).symm⟩

/-- All that a step can do to a draft, with what it asks for. -/
inductive Takes (d : Draft) : Step → Draft → Prop where
  | name {n : String} : isRouteName n = true → Takes d (.name n) { d with name := some n }
  | constraint {wildcard fragment : String} {i : Nat} {r : Regex} :
    d.wildcards.indexOf? wildcard = some i → d.constraints.get? i = none →
    Regex.compile fragment = .ok r →
    Takes d (.constraint wildcard fragment)
      { d with constraints := ⟨d.constraints.bound.set i (some fragment)⟩ }
  | method {m : Method} {handler : String} :
    Bindings.has d.methods m = false →
    Takes d (.method m handler) { d with methods := Bindings.insert m ⟨handler, false⟩ d.methods }
  | methodToken {token handler : String} {m : Method} :
    Method.ofToken? token = some m → Bindings.has d.methods m = false →
    Takes d (.methodToken token handler)
      { d with methods := Bindings.insert m ⟨handler, false⟩ d.methods }
  | middleware {id : String} :
    Takes d (.middleware id) { d with middlewares := d.middlewares ++ [id] }
  | provenance {tag : String} : Takes d (.provenance tag) { d with provenance := some tag }

theorem takes_of_take {d d' : Draft} {step : Step} (h : d.take step = .ok d') :
    d.Takes step d' := by
  cases step with
  | name n =>
    simp only [take, setName] at h
    split at h
    · rename_i hname
      obtain rfl := Except.ok.inj h
      exact .name hname
    · cases h
  | constraint wildcard fragment =>
    simp only [take, constrain, bind_eq_ok_iff] at h
    obtain ⟨cs, hcs, hd⟩ := h
    obtain rfl := Except.ok.inj hd
    obtain ⟨i, r, hi, hfree, hr, rfl⟩ := bind_eq_ok hcs
    exact .constraint hi hfree hr
  | method m handler =>
    simp only [take, bindMethod] at h
    split at h
    · cases h
    · rename_i hfree
      obtain rfl := Except.ok.inj h
      exact .method (by simpa using hfree)
  | methodToken token handler =>
    simp only [take, bindToken, bindMethod] at h
    split at h
    · rename_i m hm
      split at h
      · cases h
      · rename_i hfree
        obtain rfl := Except.ok.inj h
        exact .methodToken hm (by simpa using hfree)
    · cases h
  | middleware id =>
    obtain rfl := Except.ok.inj h
    exact .middleware
  | provenance tag =>
    obtain rfl := Except.ok.inj h
    exact .provenance

/-- What a step that succeeds does to a draft: it may bind a fragment that compiles, and
    it leaves the pattern and the wildcards alone. -/
theorem take_eq_ok {d d' : Draft} {step : Step} (h : d.take step = .ok d') :
    d'.uri = d.uri ∧ d'.wildcards = d.wildcards ∧
      (d'.constraints = d.constraints ∨
        ∃ i fragment r, Regex.compile fragment = .ok r ∧
          d'.constraints = ⟨d.constraints.bound.set i (some fragment)⟩) := by
  cases takes_of_take h with
  | name => exact ⟨rfl, rfl, Or.inl rfl⟩
  | constraint _ _ hr => exact ⟨rfl, rfl, Or.inr ⟨_, _, _, hr, rfl⟩⟩
  | method => exact ⟨rfl, rfl, Or.inl rfl⟩
  | methodToken => exact ⟨rfl, rfl, Or.inl rfl⟩
  | middleware => exact ⟨rfl, rfl, Or.inl rfl⟩
  | provenance => exact ⟨rfl, rfl, Or.inl rfl⟩

theorem Sound.take {d d' : Draft} {step : Step} (h : d.Sound) (hstep : d.take step = .ok d') :
    d'.Sound := by
  obtain ⟨huri, hws, hcs⟩ := take_eq_ok hstep
  refine ⟨by rw [huri]; exact h.valid, by rw [huri, hws]; exact h.extracted,
    by rw [hws]; exact h.optionals, ?_, ?_⟩
  · rcases hcs with hcs | ⟨i, fragment, r, -, hcs⟩
    · rw [hcs, hws]; exact h.size
    · rw [hcs, hws, List.length_set]; exact h.size
  · intro j f hget
    rcases hcs with hcs | ⟨i, fragment, r, hr, hcs⟩
    · exact h.compiles j f (by rwa [hcs] at hget)
    · rw [hcs, Constraints.get?, List.getElem?_set] at hget
      by_cases hij : i = j
      · rw [if_pos hij] at hget
        split at hget
        · obtain rfl : fragment = f := by simpa using hget
          exact ⟨r, hr⟩
        · simp at hget
      · rw [if_neg hij] at hget
        exact h.compiles j f hget

theorem takeAll_cons_eq_ok_iff {d d' : Draft} {step : Step} {steps : List Step} :
    d.takeAll (step :: steps) = .ok d' ↔ ∃ c, d.take step = .ok c ∧ c.takeAll steps = .ok d' := by
  rw [takeAll, List.foldlM_cons, bind_eq_ok_iff]
  rfl

theorem sound_of_build {uri : String} {steps : List Step} {d : Draft}
    (h : build uri steps = .ok d) : d.Sound := by
  obtain ⟨d₀, hstart, hrun⟩ := bind_eq_ok_iff.mp h
  exact foldlM_invariant Sound (fun _ _ _ hsound hstep => hsound.take hstep)
    (sound_of_start hstart) hrun

theorem Declared.sound {d : Draft} (h : d.Declared) : d.Sound := by
  obtain ⟨-, steps, hbuild⟩ := h
  exact sound_of_build hbuild

/-! ## 3. The variants of a finished draft -/

/-- The layout of the positional form of a draft. -/
def form (d : Draft) : List Part := numbered 0 (pieces d.uri)

theorem Sound.wildcards_eq {d : Draft} (h : d.Sound) :
    d.wildcards =
      { positionalForm := String.ofList (layoutText d.form)
        names := (wildcardsIn (pieces d.uri)).map (·.name)
        optional := (wildcardsIn (pieces d.uri)).map (·.optional) } :=
  (extract_eq_ok_iff.mp h.extracted).2

theorem Sound.nodup_names {d : Draft} (h : d.Sound) : d.wildcards.names.Nodup := by
  rw [h.wildcards_eq]
  exact (extract_eq_ok_iff.mp h.extracted).1

theorem Sound.validName {d : Draft} (h : d.Sound) {name : String}
    (hname : name ∈ d.wildcards.names) : ValidName name := by
  rw [h.wildcards_eq] at hname
  obtain ⟨w, hw, rfl⟩ := List.mem_map.mp hname
  exact validName_of_mem_pieces (mem_wildcardsIn.mp hw)

theorem Sound.length_optional {d : Draft} (h : d.Sound) :
    d.wildcards.optional.length = d.wildcards.names.length := by
  rw [h.wildcards_eq]
  simp

theorem Sound.tokensOf_form {d : Draft} (h : d.Sound) :
    tokensOf d.form = List.range d.wildcards.names.length := by
  rw [form, tokensOf_numbered, h.wildcards_eq, List.length_map, List.range_eq_range']

theorem Sound.length_fragments {d : Draft} (h : d.Sound) :
    d.constraints.fragments.length = d.wildcards.names.length := by
  rw [Constraints.fragments, List.length_map, h.size, Wildcards.size]

/-- The pattern of a draft has fewer wildcards than a machine word can count. -/
theorem Declared.length_names_lt {d : Draft} (h : d.Declared) :
    d.wildcards.names.length < wordBound := by
  have hle := length_wildcardsIn_pieces_le d.uri
  have hlt : d.uri.length < wordBound := h.1
  rw [h.sound.wildcards_eq]
  simp only [List.length_map]
  omega

theorem Sound.plain_form {d : Draft} (h : d.Sound) : ∀ p ∈ d.form, p.Plain :=
  plain_numbered (plain_pieces_of_validate h.valid) 0

theorem Sound.start_form {d : Draft} (h : d.Sound) : d.form.head? = some (.char '/') := by
  have hslash := holds_of_validate h.valid .leadingSlash
  have htext := flatMap_text_pieces d.uri
  rw [PathRule.holds, ← htext] at hslash
  rw [form]
  cases hps : pieces d.uri with
  | nil => rw [hps] at hslash; cases hslash
  | cons p ps =>
    rw [hps] at hslash
    cases p with
    | char c => simpa [Piece.text, numbered] using hslash
    | wildcard w => simp [Piece.text, Wildcard.token, openBrace] at hslash

theorem Sound.single_form {d : Draft} (h : d.Sound) : SingleSlashes d.form := by
  have hslashes := holds_of_validate h.valid .singleSlashes
  rw [PathRule.holds, ← flatMap_text_pieces d.uri] at hslashes
  exact singleSlashes_numbered (isChain_pieces_of_hasDoubled (by simpa using hslashes)) 0

theorem Declared.formLayout {d : Draft} (h : d.Declared) : FormLayout d.form where
  plain := h.sound.plain_form
  start := h.sound.start_form
  single := h.sound.single_form
  bound i hi := by
    rw [h.sound.tokensOf_form, List.mem_range] at hi
    exact hi.trans h.length_names_lt

/-- A variant has no position beyond the wildcards of the draft. -/
theorem Sound.lt_of_mem_indices {d : Draft} (h : d.Sound) {v : AnchoredVariant}
    (hv : v ∈ d.finish.variants) {i : Nat} (hi : i ∈ v.indices) : i < d.wildcards.names.length := by
  simp only [finish] at hv
  obtain ⟨u, hu, rfl⟩ := List.mem_map.mp hv
  have htokens : tokensOf d.form = List.range d.wildcards.optional.length := by
    rw [h.tokensOf_form, h.length_optional]
  rw [show d.wildcards.positionalForm = String.ofList (layoutText d.form) by
    rw [h.wildcards_eq]] at hu
  have hmem := mem_tokensOf_of_mem_expand h.plain_form h.start_form h.single_form htokens hu hi
  rwa [h.tokensOf_form, List.mem_range] at hmem

/-- `ps` is the layout of a variant of the finished draft. -/
structure LayoutOf (d : Draft) (v : AnchoredVariant) (ps : List Part) : Prop
    extends FormLayout ps where
  pattern : v.pattern = String.ofList (layoutText ps)
  indices : v.indices = tokensOf ps
  sublist : ps.Sublist d.form
  regex : v.regex = anchoredExpression v.pattern d.constraints.fragments

theorem Declared.exists_layout {d : Draft} (h : d.Declared) {v : AnchoredVariant}
    (hv : v ∈ d.finish.variants) : ∃ ps, d.LayoutOf v ps := by
  simp only [finish] at hv
  obtain ⟨u, hu, rfl⟩ := List.mem_map.mp hv
  have htokens : tokensOf d.form = List.range d.wildcards.optional.length := by
    rw [h.sound.tokensOf_form, h.sound.length_optional]
  rw [show d.wildcards.positionalForm = String.ofList (layoutText d.form) by
    rw [h.sound.wildcards_eq]] at hu
  obtain ⟨ps, hps⟩ := exists_layout_of_mem_expand h.formLayout htokens hu
  exact ⟨ps, hps.toFormLayout, hps.pattern, hps.indices, hps.sublist, rfl⟩

/-- A literal character of the form is one that patterns may hold. -/
theorem Sound.regular {d : Draft} (h : d.Sound) {c : Char} (hc : Part.char c ∈ d.form) :
    c ≠ '\\' ∧ Text.isBlank c = false := by
  have hmem : c ∈ d.uri.toList := by
    rw [← flatMap_text_pieces]
    exact List.mem_flatMap.mpr ⟨.char c, char_mem_numbered.mp hc, List.mem_singleton.mpr rfl⟩
  have hbackslash := holds_of_validate h.valid .noBackslash
  have hblank := holds_of_validate h.valid .noBlank
  simp only [PathRule.holds, Bool.not_eq_true', List.contains_eq_mem, decide_eq_false_iff_not,
    List.any_eq_false] at hbackslash hblank
  refine ⟨?_, by simpa using hblank c hmem⟩
  rintro rfl
  exact hbackslash hmem

end Draft

/-! ## 4. Layouts of variants -/

namespace Draft.LayoutOf

variable {d : Draft} {v : AnchoredVariant} {ps : List Part}

theorem places_pattern (h : d.LayoutOf v ps) : places v.pattern = ps.map Part.place := by
  rw [h.pattern, places_layoutText h.plain]

/-- The positions of a variant ascend, so none stands twice. -/
theorem nodup_indices [Regex.SizeLimit] (h : d.LayoutOf v ps) (hd : d.Declared) :
    v.indices.Nodup := by
  have hsub : (tokensOf ps).Sublist (tokensOf d.form) := h.sublist.filterMap _
  rw [hd.sound.tokensOf_form] at hsub
  rw [h.indices]
  exact hsub.nodup List.nodup_range

theorem lt_of_mem_indices [Regex.SizeLimit] (h : d.LayoutOf v ps) (hd : d.Declared) {i : Nat}
    (hi : i ∈ v.indices) : i < d.wildcards.names.length := by
  have hsub : (tokensOf ps).Sublist (tokensOf d.form) := h.sublist.filterMap _
  rw [hd.sound.tokensOf_form] at hsub
  rw [h.indices] at hi
  exact List.mem_range.mp (hsub.subset hi)

theorem names_indices [Regex.SizeLimit] (h : d.LayoutOf v ps) (hd : d.Declared) :
    ∀ i ∈ v.indices, ∃ name, d.wildcards.names[i]? = some name :=
  fun _ hi => ⟨_, List.getElem?_eq_getElem (h.lt_of_mem_indices hd hi)⟩

end Draft.LayoutOf

end Wayfinder
