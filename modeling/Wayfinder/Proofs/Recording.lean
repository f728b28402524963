/-
  Wayfinder/Proofs/Recording.lean
  ===============================
  **A draft holds what its steps say.**

  Each step adds one thing to a draft and leaves the rest alone, so a draft can be read off
  the steps that built it: the last name and the last tag, all middlewares in order, the
  handler of each method, and the fragment of each wildcard.  Neither a method nor a
  wildcard is given a second value on the way, since that is refused.
-/
import Wayfinder.Proofs.Loading

namespace Wayfinder

open Wayfinder.Pattern

/-! ## 1. Handlers -/

namespace Bindings

theorem mem_insert_iff {bs : Bindings} {m : Method} (hfree : has bs m = false) {b : Binding}
    {c : Method × Binding} : c ∈ insert m b bs ↔ c = (m, b) ∨ c ∈ bs := by
  induction bs with
  | nil => exact List.mem_singleton.trans (or_iff_left List.not_mem_nil).symm
  | cons d bs ih =>
    obtain ⟨n, d⟩ := d
    have hfresh : ∀ b, (m, b) ∉ (n, d) :: bs := by
      intro b hb
      rw [has_iff.mpr ⟨b, hb⟩] at hfree
      cases hfree
    have hrest : has bs m = false := by
      rw [← Bool.not_eq_true, has_iff]
      rintro ⟨b, hb⟩
      exact hfresh b (List.mem_cons_of_mem _ hb)
    rw [insert]
    split
    · exact List.mem_cons
    · split
      · rename_i hsame
        subst hsame
        exact absurd List.mem_cons_self (hfresh d)
      · rw [List.mem_cons, List.mem_cons, ih hrest]
        exact or_left_comm

/-- In order, every method has one handler at most. -/
theorem Sorted.eq_of_mem {bs : Bindings} (h : bs.Sorted) {m : Method} {b c : Binding}
    (hb : (m, b) ∈ bs) (hc : (m, c) ∈ bs) : b = c := by
  induction bs with
  | nil => cases hb
  | cons d bs ih =>
    obtain ⟨hfirst, hrest⟩ := List.pairwise_cons.mp h
    rcases List.mem_cons.mp hb with rfl | hb
    · rcases List.mem_cons.mp hc with hc | hc
      · exact (Prod.mk.inj hc).2.symm
      · exact absurd (hfirst _ hc) (Nat.lt_irrefl _)
    · rcases List.mem_cons.mp hc with hc | hc
      · rw [← hc] at hfirst
        exact absurd (hfirst _ hb) (Nat.lt_irrefl _)
      · exact ih hrest hb hc

theorem get?_eq_some_iff {bs : Bindings} (h : bs.Sorted) {m : Method} {b : Binding} :
    get? bs m = some b ↔ (m, b) ∈ bs := by
  have hfound : ∀ c, get? bs m = some c → (m, c) ∈ bs := by
    intro c hc
    obtain ⟨⟨n, c'⟩, hfind, rfl⟩ := Option.map_eq_some_iff.mp hc
    obtain rfl : n = m := by simpa using List.find?_some hfind
    exact List.mem_of_find?_eq_some hfind
  refine ⟨hfound b, ?_⟩
  intro hb
  obtain ⟨c, hc⟩ := Option.isSome_iff_exists.mp (has_iff.mpr ⟨b, hb⟩)
  rw [hc, h.eq_of_mem hb (hfound c hc)]

/-- HEAD gets the handler of GET where it has none. -/
theorem mem_withHead_iff {bs : Bindings} (h : bs.Sorted) {m : Method} {b : Binding} :
    (m, b) ∈ withHead bs ↔
      (m, b) ∈ bs ∨ m = .head ∧ (∃ c, (.get, c) ∈ bs ∧ b = ⟨c.handler, true⟩) ∧
        ∀ c, (.head, c) ∉ bs := by
  unfold withHead
  split
  · rename_i c hc
    rw [get?_eq_some_iff h] at hc
    have hget : (∃ c', (.get, c') ∈ bs ∧ b = ⟨c'.handler, true⟩) ↔ b = ⟨c.handler, true⟩ := by
      constructor
      · rintro ⟨c', hc', rfl⟩
        rw [h.eq_of_mem hc' hc]
      · rintro rfl
        exact ⟨c, hc, rfl⟩
    split
    · rename_i hhead
      obtain ⟨c', hc'⟩ := has_iff.mp hhead
      exact (or_iff_left fun hderived => hderived.2.2 c' hc').symm
    · rename_i hhead
      have hno : ∀ c, (.head, c) ∉ bs := fun c hc => hhead (has_iff.mpr ⟨c, hc⟩)
      rw [mem_insert_iff (by simpa using hhead), Prod.mk.injEq, or_comm, hget, and_iff_left hno]
  · rename_i hnone
    refine (or_iff_left ?_).symm
    rintro ⟨-, ⟨c, hc, -⟩, -⟩
    rw [(get?_eq_some_iff h).mpr hc] at hnone
    cases hnone

end Bindings

/-! ## 2. What steps leave -/

theorem filterMap_concat {α β : Type} (f : α → Option β) (as : List α) (a : α) :
    (as ++ [a]).filterMap f = as.filterMap f ++ (f a).toList := by
  rw [List.filterMap_append]
  cases h : f a <;> simp [h]

theorem getLast?_append_toList {β : Type} (bs : List β) (b : Option β) :
    (bs ++ b.toList).getLast? = b.or bs.getLast? := by
  cases b <;> simp

theorem Pattern.Constraints.get?_set {cs : Constraints} {i : Nat} (hi : i < cs.bound.length)
    (fragment : String) (j : Nat) :
    (Constraints.mk (cs.bound.set i (some fragment))).get? j =
      if i = j then some fragment else cs.get? j := by
  rw [Constraints.get?, List.getElem?_set, if_pos hi]
  split <;> rfl

namespace Draft

-- what each kind of step says; the other kinds say nothing of it
def Step.name? : Step → Option String
  | .name n => some n
  | _ => none

def Step.tag? : Step → Option String
  | .provenance tag => some tag
  | _ => none

def Step.middleware? : Step → Option String
  | .middleware id => some id
  | _ => none

def Step.constraint? : Step → Option (String × String)
  | .constraint wildcard fragment => some (wildcard, fragment)
  | _ => none

def Step.handler? : Step → Option (Method × String)
  | .method m handler => some (m, handler)
  | .methodToken token handler => (Method.ofToken? token).map fun m => (m, handler)
  | _ => none

/-- What a step changes, part by part. -/
structure Effect (d : Draft) (step : Step) (d' : Draft) : Prop where
  uri : d'.uri = d.uri
  wildcards : d'.wildcards = d.wildcards
  name : d'.name = step.name?.or d.name
  tag : d'.provenance = step.tag?.or d.provenance
  middlewares : d'.middlewares = d.middlewares ++ step.middleware?.toList
  handlers : (step.handler? = none ∧ d'.methods = d.methods) ∨
    ∃ m handler, step.handler? = some (m, handler) ∧ Bindings.has d.methods m = false ∧
      d'.methods = Bindings.insert m ⟨handler, false⟩ d.methods
  constraints : (step.constraint? = none ∧ d'.constraints = d.constraints) ∨
    ∃ wildcard fragment i, step.constraint? = some (wildcard, fragment) ∧
      d.wildcards.indexOf? wildcard = some i ∧ d.constraints.get? i = none ∧
      d'.constraints = ⟨d.constraints.bound.set i (some fragment)⟩
  tokens : ∀ token handler, step = .methodToken token handler → ∃ m, Method.ofToken? token = some m

theorem Takes.effect {d d' : Draft} {step : Step} (h : d.Takes step d') : Effect d step d' := by
  cases h with
  | name _ =>
    exact ⟨rfl, rfl, rfl, rfl, (List.append_nil _).symm, Or.inl ⟨rfl, rfl⟩,
      Or.inl ⟨rfl, rfl⟩, nofun⟩
  | constraint hi hfree _ =>
    exact ⟨rfl, rfl, rfl, rfl, (List.append_nil _).symm, Or.inl ⟨rfl, rfl⟩,
      Or.inr ⟨_, _, _, rfl, hi, hfree, rfl⟩, nofun⟩
  | method hfree =>
    exact ⟨rfl, rfl, rfl, rfl, (List.append_nil _).symm, Or.inr ⟨_, _, rfl, hfree, rfl⟩,
      Or.inl ⟨rfl, rfl⟩, nofun⟩
  | @methodToken token handler m hm hfree =>
    have hhandler : (Step.methodToken token handler).handler? = some (m, handler) := by
      rw [Step.handler?, hm]
      rfl
    refine ⟨rfl, rfl, rfl, rfl, (List.append_nil _).symm, Or.inr ⟨m, handler, hhandler, hfree, rfl⟩,
      Or.inl ⟨rfl, rfl⟩, ?_⟩
    intro token' handler' hstep
    obtain ⟨rfl, rfl⟩ := Step.methodToken.inj hstep
    exact ⟨m, hm⟩
  | middleware =>
    exact ⟨rfl, rfl, rfl, rfl, rfl, Or.inl ⟨rfl, rfl⟩, Or.inl ⟨rfl, rfl⟩, nofun⟩
  | provenance =>
    exact ⟨rfl, rfl, rfl, rfl, (List.append_nil _).symm, Or.inl ⟨rfl, rfl⟩,
      Or.inl ⟨rfl, rfl⟩, nofun⟩

/-- Whether a draft of a pattern holds what some steps say, and nothing else. -/
structure Records (uri : String) (steps : List Step) (d : Draft) : Prop where
  uri : d.uri = uri
  name : d.name = (steps.filterMap Step.name?).getLast?
  tag : d.provenance = (steps.filterMap Step.tag?).getLast?
  middlewares : d.middlewares = steps.filterMap Step.middleware?
  handlers : ∀ m b, (m, b) ∈ d.methods ↔
    ∃ handler, b = ⟨handler, false⟩ ∧ (m, handler) ∈ steps.filterMap Step.handler?
  fragments : ∀ i wildcard, d.wildcards.names[i]? = some wildcard → ∀ fragment,
    d.constraints.get? i = some fragment ↔ (wildcard, fragment) ∈ steps.filterMap Step.constraint?
  constrained : ∀ c ∈ steps.filterMap Step.constraint?, c.1 ∈ d.wildcards.names
  tokens : ∀ token handler, .methodToken token handler ∈ steps → ∃ m, Method.ofToken? token = some m

theorem records_start {uri : String} {d : Draft} (h : start uri = .ok d) : Records uri [] d := by
  obtain ⟨-, ws, -, -, rfl⟩ := start_eq_ok_iff.mp h
  refine ⟨rfl, rfl, rfl, rfl, by simp, ?_, by simp, by simp⟩
  intro i wildcard _ fragment
  rw [Constraints.unbound, Constraints.get?, List.getElem?_replicate]
  split <;> simp

section Step

variable {uri : String} {steps : List Step} {step : Step} {d d' : Draft}

theorem Records.handlers_of_effect (h : Records uri steps d) (heffect : Effect d step d')
    (m : Method) (b : Binding) :
    (m, b) ∈ d'.methods ↔
      ∃ handler, b = ⟨handler, false⟩ ∧
        (m, handler) ∈ (steps ++ [step]).filterMap Step.handler? := by
  rw [filterMap_concat]
  rcases heffect.handlers with ⟨hnone, hsame⟩ | ⟨m', handler', hstep, hfree, hinsert⟩
  · rw [hsame, hnone, Option.toList_none, List.append_nil]
    exact h.handlers m b
  · rw [hinsert, hstep, Bindings.mem_insert_iff hfree, h.handlers, Option.toList_some]
    simp only [List.mem_append, List.mem_singleton, Prod.mk.injEq, and_or_left, exists_or]
    rw [or_comm]
    refine or_congr Iff.rfl ⟨?_, ?_⟩
    · rintro ⟨rfl, rfl⟩
      exact ⟨handler', rfl, rfl, rfl⟩
    · rintro ⟨handler, rfl, rfl, rfl⟩
      exact ⟨rfl, rfl⟩

theorem Records.fragments_of_effect (h : Records uri steps d) (hsound : d.Sound)
    (heffect : Effect d step d') {i : Nat} {wildcard : String}
    (hi : d.wildcards.names[i]? = some wildcard) (fragment : String) :
    d'.constraints.get? i = some fragment ↔
      (wildcard, fragment) ∈ (steps ++ [step]).filterMap Step.constraint? := by
  rw [filterMap_concat]
  rcases heffect.constraints with ⟨hnone, hsame⟩ | ⟨wildcard', fragment', j, hstep, hj, hfree, hset⟩
  · rw [hsame, hnone, Option.toList_none, List.append_nil]
    exact h.fragments i wildcard hi fragment
  · rw [Wildcards.indexOf?_eq_some_iff hsound.nodup_names] at hj
    have hlt : j < d.constraints.bound.length := by
      rw [hsound.size]
      exact (List.getElem?_eq_some_iff.mp hj).1
    -- two wildcards have one name only if they are one
    have hposition : j = i ↔ wildcard = wildcard' := by
      constructor
      · rintro rfl
        exact Option.some.inj (hi.symm.trans hj)
      · rintro rfl
        rw [← Wildcards.indexOf?_eq_some_iff hsound.nodup_names] at hi hj
        exact Option.some.inj (hj.symm.trans hi)
    rw [hset, Constraints.get?_set hlt, hstep, Option.toList_some, List.mem_append, List.mem_singleton,
      Prod.mk.injEq, ← h.fragments i wildcard hi, ← hposition]
    split
    · rename_i hji
      rw [← hji, hfree]
      simp [@eq_comm _ fragment]
    · rename_i hji
      simp [hji]

theorem Records.take (h : Records uri steps d) (hsound : d.Sound) (heffect : Effect d step d') :
    Records uri (steps ++ [step]) d' := by
  refine ⟨heffect.uri.trans h.uri, ?_, ?_, ?_, h.handlers_of_effect heffect, ?_, ?_, ?_⟩
  · rw [filterMap_concat, getLast?_append_toList, ← h.name, heffect.name]
  · rw [filterMap_concat, getLast?_append_toList, ← h.tag, heffect.tag]
  · rw [filterMap_concat, ← h.middlewares, heffect.middlewares]
  · intro i wildcard hi
    rw [heffect.wildcards] at hi
    exact h.fragments_of_effect hsound heffect hi
  · intro c hc
    rw [heffect.wildcards]
    rw [filterMap_concat] at hc
    rcases List.mem_append.mp hc with hc | hc
    · exact h.constrained c hc
    · rcases heffect.constraints with ⟨hnone, -⟩ | ⟨wildcard, fragment, i, hstep, hi, -, -⟩
      · rw [hnone] at hc
        cases hc
      · rw [hstep] at hc
        obtain rfl := List.mem_singleton.mp hc
        rw [Wildcards.indexOf?_eq_some_iff hsound.nodup_names] at hi
        exact List.mem_of_getElem? hi
  · intro token handler hmem
    rcases List.mem_append.mp hmem with hmem | hmem
    · exact h.tokens token handler hmem
    · exact heffect.tokens token handler (List.mem_singleton.mp hmem).symm

end Step

/-- What the steps say that are taken comes behind what the steps before them said. -/
theorem Records.takeAll {uri : String} {done steps : List Step} {b d : Draft}
    (h : Records uri done b) (hsound : b.Sound) (hrun : b.takeAll steps = .ok d) :
    Records uri (done ++ steps) d := by
  induction steps generalizing done b with
  | nil =>
    obtain rfl := Except.ok.inj hrun
    rwa [List.append_nil]
  | cons step steps ih =>
    obtain ⟨c, hc, hrest⟩ := takeAll_cons_eq_ok_iff.mp hrun
    rw [List.append_cons]
    exact ih (h.take hsound (takes_of_take hc).effect) (hsound.take hc) hrest

/-- A draft holds what the steps say that built it. -/
theorem records_of_build {uri : String} {steps : List Step} {d : Draft}
    (h : build uri steps = .ok d) : Records uri steps d := by
  obtain ⟨b, hstart, hrun⟩ := bind_eq_ok_iff.mp h
  exact (records_start hstart).takeAll (sound_of_start hstart) hrun

/-- The handlers of a finished draft are those that its steps bind, and that of GET for HEAD if
    no step binds HEAD. -/
theorem mem_methods_finish_iff {uri : String} {steps : List Step} {d : Draft}
    (h : build uri steps = .ok d) {m : Method} {b : Binding} :
    (m, b) ∈ d.finish.methods ↔
      (∃ handler, (m, handler) ∈ steps.filterMap Step.handler? ∧ b = ⟨handler, false⟩) ∨
        m = .head ∧
          (∃ handler, (.get, handler) ∈ steps.filterMap Step.handler? ∧ b = ⟨handler, true⟩) ∧
          ∀ handler, (.head, handler) ∉ steps.filterMap Step.handler? := by
  change (m, b) ∈ Bindings.withHead d.methods ↔ _
  rw [Bindings.mem_withHead_iff (sorted_methods_of_build h)]
  simp only [(records_of_build h).handlers]
  refine or_congr (exists_congr fun _ => and_comm)
    (and_congr Iff.rfl (and_congr ⟨?_, ?_⟩ ⟨?_, ?_⟩))
  · rintro ⟨_, ⟨handler, rfl, hhandler⟩, rfl⟩
    exact ⟨handler, hhandler, rfl⟩
  · rintro ⟨handler, hhandler, rfl⟩
    exact ⟨_, ⟨handler, rfl, hhandler⟩, rfl⟩
  · intro hno handler hhandler
    exact hno _ ⟨handler, rfl, hhandler⟩
  · rintro hno _ ⟨handler, -, hhandler⟩
    exact hno handler hhandler

end Draft

end Wayfinder
