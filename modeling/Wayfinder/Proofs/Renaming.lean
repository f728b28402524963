/-
  Wayfinder/Proofs/Renaming.lean
  ==============================
  **The names of wildcards do not matter.**

  A name stands in the pattern as it was declared and in the steps that constrain its
  wildcard.  Everything that decides about a path comes from the positional form, which has
  numbers instead.  So a declaration under other names is accepted when the first one is,
  its route can be registered and sealed wherever the first one can, and a path leads to
  both with the same values.
-/
import Wayfinder.Proofs.Pattern.Grammar
import Wayfinder.Proofs.Recording
import Wayfinder.Proofs.Requests

namespace Wayfinder

open Wayfinder.Pattern

namespace Pattern

/-! ## 1. Patterns under other names -/

def Wildcard.rename (f : String → String) (w : Wildcard) : Wildcard := { w with name := f w.name }

def Piece.rename (f : String → String) : Piece → Piece
  | .char c => .char c
  | .wildcard w => .wildcard (w.rename f)

def Wildcards.rename (f : String → String) (ws : Wildcards) : Wildcards :=
  { ws with names := ws.names.map f }

/-- A pattern with other names for its wildcards. -/
@[irreducible]
def renamed (f : String → String) (text : String) : String :=
  String.ofList (((pieces text).map (Piece.rename f)).flatMap Piece.text)

def namesIn (text : String) : List String := (wildcardsIn (pieces text)).map (·.name)

/-- Whether a map sends different names of a list to different names. -/
def KeepsApart (f : String → String) (names : List String) : Prop :=
  ∀ name ∈ names, ∀ other ∈ names, f name = f other → name = other

instance (f : String → String) (names : List String) : Decidable (KeepsApart f names) :=
  inferInstanceAs (Decidable (∀ name ∈ names, ∀ other ∈ names, f name = f other → name = other))

/-- Whether a map gives the wildcards of a pattern valid names, and different ones. -/
structure Renames (f : String → String) (text : String) : Prop where
  valid : ∀ name ∈ namesIn text, ValidName (f name)
  apart : KeepsApart f (namesIn text)

section Pieces

variable {f : String → String}

theorem wildcardsIn_map_rename (ps : List Piece) :
    wildcardsIn (ps.map (Piece.rename f)) = (wildcardsIn ps).map (Wildcard.rename f) := by
  induction ps with
  | nil => rfl
  | cons p ps ih =>
    cases p with
    | char c => exact ih
    | wildcard w => exact congrArg (w.rename f :: ·) ih

theorem numbered_map_rename (start : Nat) (ps : List Piece) :
    numbered start (ps.map (Piece.rename f)) = numbered start ps := by
  induction ps generalizing start with
  | nil => rfl
  | cons p ps ih =>
    cases p with
    | char c => exact congrArg (Part.char c :: ·) (ih start)
    | wildcard w => exact congrArg (Part.token start :: ·) (ih (start + 1))

theorem Piece.rename_eq_char_iff {p : Piece} {c : Char} : p.rename f = .char c ↔ p = .char c := by
  cases p with
  | char d => rfl
  | wildcard w => exact ⟨nofun, nofun⟩

theorem ValidPieces.rename {ps : List Piece} (h : ValidPieces ps)
    (hvalid : ∀ w, .wildcard w ∈ ps → ValidName (f w.name)) :
    ValidPieces (ps.map (Piece.rename f)) where
  plain := by
    rw [List.forall_mem_map]
    intro p hp
    cases p with
    | char c => exact h.plain (.char c) hp
    | wildcard w => exact hvalid w hp
  start := by
    rw [List.head?_map, h.start]
    rfl
  single := by
    rw [List.isChain_map]
    apply h.single.imp
    intro p q hpq
    rwa [Piece.rename_eq_char_iff, Piece.rename_eq_char_iff]
  regular := by
    intro c hc
    obtain ⟨p, hp, hpc⟩ := List.mem_map.mp hc
    rw [Piece.rename_eq_char_iff] at hpc
    rw [hpc] at hp
    exact h.regular c hp

theorem validPieces_of_validate {text : String} (h : validate text = .ok ()) :
    ValidPieces (pieces text) := by
  obtain ⟨hrules, ws, hsplits⟩ := validate_eq_ok_iff.mp h
  exact validPieces_of_splits hsplits fun rule _ => hrules rule

variable {text : String}

theorem Renames.validPieces (h : Renames f text) (hvalid : validate text = .ok ()) :
    ValidPieces ((pieces text).map (Piece.rename f)) := by
  apply (validPieces_of_validate hvalid).rename
  intro w hw
  exact h.valid _ (List.mem_map.mpr ⟨w, mem_wildcardsIn.mpr hw, rfl⟩)

theorem Renames.validate_eq_ok (h : Renames f text) (hvalid : validate text = .ok ()) :
    validate (renamed f text) = .ok () := by
  rw [renamed]
  exact (h.validPieces hvalid).validate_eq_ok

theorem Renames.extract_eq_ok (h : Renames f text) (hvalid : validate text = .ok ())
    {ws : Wildcards} (hws : extract text = .ok ws) :
    extract (renamed f text) = .ok (ws.rename f) := by
  obtain ⟨hdistinct, rfl⟩ := extract_eq_ok_iff.mp hws
  have hpieces : pieces (renamed f text) = (pieces text).map (Piece.rename f) := by
    rw [renamed]
    exact pieces_ofList (h.validPieces hvalid).plain
  rw [extract_eq_ok_iff, hpieces, wildcardsIn_map_rename, numbered_map_rename]
  refine ⟨?_, by simp [Wildcards.rename, Wildcard.rename, Function.comp_def]⟩
  have hnames : ((wildcardsIn (pieces text)).map (Wildcard.rename f)).map (·.name) =
      (namesIn text).map f := by
    simp [namesIn, Wildcard.rename, Function.comp_def]
  rw [hnames]
  exact List.Nodup.map_on h.apart hdistinct

theorem findIdx?_congr {α : Type} {p q : α → Bool} {as : List α} (h : ∀ a ∈ as, p a = q a) :
    as.findIdx? p = as.findIdx? q := by
  induction as with
  | nil => rfl
  | cons a as ih =>
    obtain ⟨ha, hrest⟩ := List.forall_mem_cons.mp h
    rw [List.findIdx?_cons, List.findIdx?_cons, ha, ih hrest]

theorem Wildcards.indexOf?_rename {ws : Wildcards} (h : KeepsApart f ws.names) {name : String}
    (hname : name ∈ ws.names) : (ws.rename f).indexOf? (f name) = ws.indexOf? name := by
  rw [indexOf?, indexOf?, rename, List.findIdx?_map]
  apply findIdx?_congr
  intro other hother
  rw [Function.comp_apply, Bool.eq_iff_iff, beq_iff_eq, beq_iff_eq]
  exact ⟨h other hother name hname, congrArg f⟩

end Pieces

end Pattern

/-! ## 2. Declarations under other names -/

def Draft.Step.rename (f : String → String) : Draft.Step → Draft.Step
  | .constraint wildcard fragment => .constraint (f wildcard) fragment
  | step => step

def Draft.rename (f : String → String) (d : Draft) : Draft :=
  { d with uri := renamed f d.uri, wildcards := d.wildcards.rename f }

/-- A route with other names for its wildcards.  Only the names differ, and the pattern as it
    was declared. -/
def Route.rename (f : String → String) (r : Route) : Route :=
  { r with uri := renamed f r.uri, wildcards := r.wildcards.rename f }

namespace Draft

variable {f : String → String}

theorem finish_rename (d : Draft) : (d.rename f).finish = d.finish.rename f := rfl

theorem start_renamed {uri : String} {b : Draft} (h : Renames f uri) (hb : start uri = .ok b) :
    start (renamed f uri) = .ok (b.rename f) := by
  obtain ⟨hvalid, ws, hws, hcount, rfl⟩ := start_eq_ok_iff.mp hb
  rw [start_eq_ok_iff]
  refine ⟨h.validate_eq_ok hvalid, ws.rename f, h.extract_eq_ok hvalid hws, hcount, ?_⟩
  simp [rename, Constraints.unbound, Wildcards.rename, Wildcards.size]

theorem bind_rename_eq_ok_iff {cs cs' : Constraints} {uri uri' wildcard fragment : String}
    {ws : Wildcards} (h : KeepsApart f ws.names) (hdeclared : wildcard ∈ ws.names) :
    cs.bind uri' (ws.rename f) (f wildcard) fragment = .ok cs' ↔
      cs.bind uri ws wildcard fragment = .ok cs' := by
  unfold Constraints.bind
  rw [Wildcards.indexOf?_rename h hdeclared]
  cases ws.indexOf? wildcard with
  | none => simp
  | some i =>
    by_cases htaken : (cs.get? i).isSome
    · simp [htaken]
    · cases Regex.compile fragment <;> simp [htaken]

theorem bindMethod_rename_eq_ok_iff {d d' : Draft} {m : Method} {handler : String} :
    (d.rename f).bindMethod m handler = .ok d' ↔
      ∃ e, d.bindMethod m handler = .ok e ∧ d' = e.rename f := by
  by_cases htaken : Bindings.has d.methods m = true
  · simp [bindMethod, rename, htaken]
  · simp [bindMethod, rename, htaken, eq_comm]

/-- A step is taken under other names when it is taken under the first ones, with the same
    effect. -/
theorem take_rename_eq_ok_iff {d d' : Draft} {step : Step} (h : KeepsApart f d.wildcards.names)
    (hdeclared : ∀ c, step.constraint? = some c → c.1 ∈ d.wildcards.names) :
    (d.rename f).take (step.rename f) = .ok d' ↔ ∃ e, d.take step = .ok e ∧ d' = e.rename f := by
  cases step with
  | name n =>
    by_cases hn : isRouteName n = true
    · simp [Step.rename, take, setName, rename, hn, eq_comm]
    · simp [Step.rename, take, setName, rename, hn]
  | constraint wildcard fragment =>
    have hbind := fun cs => @bind_rename_eq_ok_iff f d.constraints cs d.uri (renamed f d.uri)
      wildcard fragment d.wildcards h (hdeclared _ rfl)
    simp only [Step.rename, take, constrain, rename, bind_eq_ok_iff, hbind, pure, Except.pure,
      Except.ok.injEq]
    constructor
    · rintro ⟨cs, hcs, rfl⟩
      exact ⟨_, ⟨cs, hcs, rfl⟩, rfl⟩
    · rintro ⟨_, ⟨cs, hcs, rfl⟩, rfl⟩
      exact ⟨cs, hcs, rfl⟩
  | method m handler => exact bindMethod_rename_eq_ok_iff
  | methodToken token handler =>
    simp only [Step.rename, take, bindToken]
    cases Method.ofToken? token with
    | some m => exact bindMethod_rename_eq_ok_iff
    | none => simp
  | middleware id => simp [Step.rename, take, rename, eq_comm]
  | provenance tag => simp [Step.rename, take, rename, eq_comm]

theorem takeAll_rename_eq_ok_iff {d d' : Draft} {steps : List Step}
    (h : KeepsApart f d.wildcards.names)
    (hdeclared : ∀ c ∈ steps.filterMap Step.constraint?, c.1 ∈ d.wildcards.names) :
    (d.rename f).takeAll (steps.map (Step.rename f)) = .ok d' ↔
      ∃ e, d.takeAll steps = .ok e ∧ d' = e.rename f := by
  induction steps generalizing d with
  | nil => simp [takeAll, pure, Except.pure, eq_comm]
  | cons step steps ih =>
    have hfirst : ∀ c, step.constraint? = some c → c.1 ∈ d.wildcards.names := by
      intro c hc
      exact hdeclared c (List.mem_filterMap.mpr ⟨step, List.mem_cons_self, hc⟩)
    have hlater : ∀ c ∈ steps.filterMap Step.constraint?, c.1 ∈ d.wildcards.names := by
      intro c hc
      exact hdeclared c (((List.sublist_cons_self step steps).filterMap _).subset hc)
    simp only [List.map_cons, takeAll_cons_eq_ok_iff, take_rename_eq_ok_iff h hfirst]
    constructor
    · rintro ⟨_, ⟨c, hc, rfl⟩, hrun⟩
      have hwildcards := (take_eq_ok hc).2.1
      rw [← hwildcards] at h hlater
      obtain ⟨e, he, rfl⟩ := (ih h hlater).mp hrun
      exact ⟨e, ⟨c, hc, he⟩, rfl⟩
    · rintro ⟨e, ⟨c, hc, he⟩, rfl⟩
      have hwildcards := (take_eq_ok hc).2.1
      rw [← hwildcards] at h hlater
      exact ⟨c.rename f, ⟨c, hc, rfl⟩, (ih h hlater).mpr ⟨e, he, rfl⟩⟩

theorem names_of_start {uri : String} {b : Draft} (h : start uri = .ok b) :
    b.wildcards.names = namesIn uri := by
  obtain ⟨-, ws, hws, -, rfl⟩ := start_eq_ok_iff.mp h
  obtain ⟨-, rfl⟩ := extract_eq_ok_iff.mp hws
  rfl

/-- A declaration that can be written under other names: its pattern is accepted, and its
    constraints are on wildcards of the pattern. -/
structure Renamable (f : String → String) (uri : String) (steps : List Step) : Prop
    extends Renames f uri where
  accepted : ∃ b, start uri = .ok b
  declared : ∀ c ∈ steps.filterMap Step.constraint?, c.1 ∈ namesIn uri

theorem Renamable.build_eq_ok_iff {uri : String} {steps : List Step} (h : Renamable f uri steps)
    {d' : Draft} :
    build (renamed f uri) (steps.map (Step.rename f)) = .ok d' ↔
      ∃ d, build uri steps = .ok d ∧ d' = d.rename f := by
  obtain ⟨b, hstart⟩ := h.accepted
  have hapart := h.apart
  have hdeclared := h.declared
  rw [← names_of_start hstart] at hapart hdeclared
  rw [build, build, start_renamed h.toRenames hstart, hstart]
  exact takeAll_rename_eq_ok_iff hapart hdeclared

end Draft

/-! ## 3. Routes under other names -/

theorem Router.paramsOf_map (f : String → String) (names : List String)
    (groups : Nat → Option String) (indices slots : List Nat) :
    paramsOf (names.map f) groups indices slots =
      (paramsOf names groups indices slots).map fun p => (f p.1, p.2) := by
  rw [paramsOf, paramsOf, List.map_filterMap]
  apply List.filterMap_congr
  rintro ⟨i, slot⟩ -
  simp only [List.getElem?_map]
  cases names[i]? with
  | none => rfl
  | some name => cases groups slot <;> rfl

namespace Route

variable {f : String → String}

/-- The route of a row is only named where the row cannot be made ready. -/
theorem matcherFor_eq_ok_iff {r s : Route} {variant : Option AnchoredVariant} {e : Entry}
    {m : Matcher} :
    Router.matcherFor r variant e = .ok m ↔ Router.matcherFor s variant e = .ok m := by
  unfold Router.matcherFor
  cases Regex.compile e.regex with
  | ok regex => exact Iff.rfl
  | error reason =>
    cases variant with
    | none => simp
    | some v =>
      simp only
      split <;> simp

theorem matcher_rename_eq_ok_iff {r : Route} {v : AnchoredVariant} {m : Matcher} :
    (r.rename f).matcher v = .ok m ↔ r.matcher v = .ok m :=
  matcherFor_eq_ok_iff

theorem seals_rename_iff {r : Route} : (r.rename f).Seals ↔ r.Seals :=
  forall₂_congr fun _ _ => exists_congr fun _ => matcher_rename_eq_ok_iff

theorem accept?_rename (r : Route) (path : String) (v : AnchoredVariant) :
    (r.rename f).accept? path v =
      (r.accept? path v).map fun params => params.map fun p => (f p.1, p.2) := by
  have hiff := fun m => @matcher_rename_eq_ok_iff f r v m
  unfold accept?
  cases hm : r.matcher v with
  | ok m =>
    rw [(hiff m).mpr hm, Option.map_map]
    apply Option.map_congr
    intro groups _
    exact Router.paramsOf_map f _ groups _ _
  | error fault =>
    cases hm' : (r.rename f).matcher v with
    | ok m =>
      rw [(hiff m).mp hm'] at hm
      cases hm
    | error fault' => rfl

theorem answer?_rename (r : Route) (path : String) :
    (r.rename f).answer? path =
      (r.answer? path).map fun params => params.map fun p => (f p.1, p.2) := by
  rw [answer?, answer?, List.map_findSome?]
  exact findSome?_congr fun v _ => accept?_rename r path v

end Route

/-! ## 4. Routes in place of one another -/

section Lists

variable {α β γ δ : Type} {R : α → β → Prop} {as : List α} {bs : List β}

theorem forall_mem_iff_of_forall₂ {P : α → Prop} {Q : β → Prop} (h : List.Forall₂ R as bs)
    (hR : ∀ a b, R a b → (P a ↔ Q b)) : (∀ a ∈ as, P a) ↔ ∀ b ∈ bs, Q b := by
  induction h with
  | nil => simp
  | cons hab _ ih => rw [List.forall_mem_cons, List.forall_mem_cons, hR _ _ hab, ih]

theorem forall₂_zipIdx (h : List.Forall₂ R as bs) (n : Nat) :
    List.Forall₂ (fun p q => R p.1 q.1 ∧ p.2 = q.2) (as.zipIdx n) (bs.zipIdx n) := by
  induction h generalizing n with
  | nil => exact .nil
  | cons hab _ ih => exact .cons ⟨hab, rfl⟩ (ih (n + 1))

theorem rel_findSome? {S : γ → δ → Prop} {f : α → Option γ} {g : β → Option δ}
    (h : List.Forall₂ R as bs) (hfg : ∀ a b, R a b → Option.Rel S (f a) (g b)) :
    Option.Rel S (as.findSome? f) (bs.findSome? g) := by
  have hresults : List.Forall₂ S (as.filterMap f) (bs.filterMap g) :=
    List.rel_filterMap (fun a b => hfg a b) h
  rw [← List.head?_filterMap, ← List.head?_filterMap]
  generalize as.filterMap f = cs, bs.filterMap g = ds at hresults
  cases hresults with
  | nil => exact .none
  | cons hab _ => exact .some hab

end Lists

section Replaced

variable (f : String → String) (uri : String) (steps : List Draft.Step)

/-- Whether a route is the one that a declaration amounts to. -/
def Route.DeclaredBy (r : Route) : Prop := ∃ d, Draft.build uri steps = .ok d ∧ r = d.finish

/-- Two routes that are the same, or the one of a declaration and the same under other names. -/
def Route.Replaced (r r' : Route) : Prop :=
  r' = r ∨ r.DeclaredBy uri steps ∧ r' = r.rename f

/-- The same answer with other names for the values. -/
def Resolved.rename (res : Resolved) : Resolved :=
  ⟨res.id, res.route.rename f, res.params.map fun p => (f p.1, p.2)⟩

def Resolved.Replaced (res res' : Resolved) : Prop :=
  res' = res ∨ res.route.DeclaredBy uri steps ∧ res' = res.rename f

namespace Registry

/-- Two requests that are the same, or for a declaration and the same under other names. -/
def Call.Replaced (c c' : Call) : Prop :=
  c' = c ∨
    c.route = Draft.finish <$> Draft.build uri steps ∧
      c'.route =
        Draft.finish <$> Draft.build (renamed f uri) (steps.map (Draft.Step.rename f))

structure Replaced (reg reg' : Registry) : Prop where
  left : reg.Consistent
  right : reg'.Consistent
  routes : List.Forall₂ (Route.Replaced f uri steps) reg.routes.toList reg'.routes.toList

end Registry

variable {f uri steps}

namespace Route

variable {r r' s s' : Route}

theorem Replaced.compatible_iff (hr : r.Replaced f uri steps r') (hs : s.Replaced f uri steps s') :
    r.Compatible s ↔ r'.Compatible s' := by
  -- neither names of wildcards nor the declared pattern are compared
  have hrename : ∀ r s : Route, (r.rename f).Compatible s ↔ r.Compatible s := by
    intro r s
    rw [Route.compatible_iff, Route.compatible_iff]
    exact Iff.rfl
  have hrename' : ∀ r s : Route, r.Compatible (s.rename f) ↔ r.Compatible s := by
    intro r s
    rw [Route.compatible_iff, Route.compatible_iff]
    exact Iff.rfl
  rcases hr with rfl | ⟨-, rfl⟩
  · rcases hs with rfl | ⟨-, rfl⟩
    · rfl
    · rw [hrename']
  · rcases hs with rfl | ⟨-, rfl⟩
    · rw [hrename]
    · rw [hrename, hrename']

theorem Replaced.seals_iff (h : r.Replaced f uri steps r') : r.Seals ↔ r'.Seals := by
  rcases h with rfl | ⟨-, rfl⟩
  · rfl
  · exact seals_rename_iff.symm

theorem Replaced.resolvedBy (h : r.Replaced f uri steps r') (path : String)
    (method : Option Method) (i : Nat) :
    Option.Rel (Resolved.Replaced f uri steps) (Registry.resolvedBy path method (r, i))
      (Registry.resolvedBy path method (r', i)) := by
  rcases h with rfl | ⟨hdeclared, rfl⟩
  · cases Registry.resolvedBy path method (r', i) with
    | none => exact .none
    | some res => exact .some (Or.inl rfl)
  · have hconsidered : Router.considered method (r.rename f) = Router.considered method r := by
      cases method <;> rfl
    rw [Registry.resolvedBy, Registry.resolvedBy, hconsidered, answer?_rename]
    split
    · cases r.answer? path with
      | none => exact .none
      | some params => exact .some (Or.inr ⟨hdeclared, rfl⟩)
    · exact .none

end Route

theorem Resolved.Replaced.id_eq {res res' : Resolved} (h : res.Replaced f uri steps res') :
    res'.id = res.id := by
  rcases h with rfl | ⟨-, rfl⟩
  · rfl
  · rfl

theorem Resolved.Replaced.values_eq {res res' : Resolved} (h : res.Replaced f uri steps res') :
    res'.params.map (·.2) = res.params.map (·.2) := by
  rcases h with rfl | ⟨-, rfl⟩
  · rfl
  · rw [Resolved.rename, List.map_map]
    rfl

namespace Registry

theorem Call.Replaced.route (hrenamable : Draft.Renamable f uri steps) {c c' : Call}
    (h : c.Replaced f uri steps c') :
    (∃ e e', c.route = .error e ∧ c'.route = .error e') ∨
      ∃ r r', c.route = .ok r ∧ c'.route = .ok r' ∧ r.Replaced f uri steps r' := by
  rcases h with rfl | ⟨hroute, hroute'⟩
  · cases hroute : c'.route with
    | error e => exact Or.inl ⟨e, e, rfl, rfl⟩
    | ok r => exact Or.inr ⟨r, r, rfl, rfl, Or.inl rfl⟩
  · rw [hroute, hroute']
    cases hbuild : Draft.build uri steps with
    | ok d =>
      rw [hrenamable.build_eq_ok_iff.mpr ⟨d, hbuild, rfl⟩]
      exact Or.inr ⟨_, _, rfl, rfl, Or.inr ⟨⟨d, hbuild, rfl⟩, rfl⟩⟩
    | error e =>
      cases hbuild' : Draft.build (renamed f uri) (steps.map (Draft.Step.rename f)) with
      | error e' => exact Or.inl ⟨e, e', rfl, rfl⟩
      | ok d' =>
        obtain ⟨d, hd, -⟩ := hrenamable.build_eq_ok_iff.mp hbuild'
        rw [hbuild] at hd
        cases hd

variable {reg reg' : Registry}

/-- A request is met in both registries or in neither, with one number, and afterwards the
    routes still stand in place of one another. -/
theorem Replaced.call (hrenamable : Draft.Renamable f uri steps)
    (h : reg.Replaced f uri steps reg') {c c' : Call} (hc : c.Replaced f uri steps c') :
    (reg.call c).2.toOption = (reg'.call c').2.toOption ∧
      (reg.call c).1.Replaced f uri steps (reg'.call c').1 := by
  have hroute := hc.route hrenamable
  have hmet : (∃ i, (reg.call c).2 = .ok i) ↔ ∃ i, (reg'.call c').2 = .ok i := by
    rcases hroute with ⟨e, e', he, he'⟩ | ⟨r, r', hr, hr', hreplaced⟩
    · have hno : ¬∃ i, (reg.call c).2 = .ok i := by
        rintro ⟨i, hi⟩
        obtain ⟨-, r, hr, -⟩ := call_eq_ok hi
        rw [he] at hr
        cases hr
      have hno' : ¬∃ i, (reg'.call c').2 = .ok i := by
        rintro ⟨i, hi⟩
        obtain ⟨-, r, hr, -⟩ := call_eq_ok hi
        rw [he'] at hr
        cases hr
      exact iff_of_false hno hno'
    · rw [h.left.call_eq_ok_iff hr, h.right.call_eq_ok_iff hr']
      exact forall_mem_iff_of_forall₂ h.routes fun s s' hs => hs.compatible_iff hreplaced
  cases hcall : (reg.call c).2 with
  | error e =>
    cases hcall' : (reg'.call c').2 with
    | error e' =>
      rw [call_eq_error hcall, call_eq_error hcall']
      exact ⟨rfl, h⟩
    | ok i' =>
      obtain ⟨i, hi⟩ := hmet.mpr ⟨i', hcall'⟩
      rw [hcall] at hi
      cases hi
  | ok i =>
    obtain ⟨i', hcall'⟩ := hmet.mp ⟨i, hcall⟩
    obtain ⟨rfl, r, hr, hroutes⟩ := call_eq_ok hcall
    obtain ⟨rfl, r', hr', hroutes'⟩ := call_eq_ok hcall'
    obtain ⟨e, e', he, -⟩ | ⟨_, _, hs, hs', hreplaced⟩ := hroute
    · rw [he] at hr
      cases hr
    · obtain rfl := Except.ok.inj (hr.symm.trans hs)
      obtain rfl := Except.ok.inj (hr'.symm.trans hs')
      have hsize : reg.size = reg'.size := h.routes.length_eq
      refine ⟨by rw [hcall', hsize], h.left.call c, h.right.call c', ?_⟩
      rw [hroutes, hroutes', Array.toList_push, Array.toList_push]
      exact List.rel_append h.routes (.cons hreplaced .nil)

theorem Replaced.calls (hrenamable : Draft.Renamable f uri steps)
    (h : reg.Replaced f uri steps reg') {cs cs' : List Call}
    (hcs : List.Forall₂ (Call.Replaced f uri steps) cs cs') :
    (reg.calls cs).2.map Except.toOption = (reg'.calls cs').2.map Except.toOption ∧
      (reg.calls cs).1.Replaced f uri steps (reg'.calls cs').1 := by
  induction hcs generalizing reg reg' with
  | nil => exact ⟨rfl, h⟩
  | cons hc _ ih =>
    obtain ⟨hanswer, hnext⟩ := h.call hrenamable hc
    obtain ⟨hanswers, hlast⟩ := ih hnext
    refine ⟨?_, hlast⟩
    rw [Registry.calls, Registry.calls, List.map_cons, List.map_cons, hanswer, hanswers]

theorem Replaced.exists_toRouter_iff (h : reg.Replaced f uri steps reg') :
    (∃ router, reg.toRouter = .ok router) ↔ ∃ router, reg'.toRouter = .ok router := by
  rw [Registry.exists_toRouter_iff, Registry.exists_toRouter_iff]
  exact forall_mem_iff_of_forall₂ h.routes fun _ _ hr => hr.seals_iff

theorem Replaced.find? (h : reg.Replaced f uri steps reg') {router router' : Router}
    (hseal : reg.toRouter = .ok router) (hseal' : reg'.toRouter = .ok router') (path : String)
    (method : Option Method) :
    Option.Rel (Resolved.Replaced f uri steps) (router.find? path method)
      (router'.find? path method) := by
  rw [find?_eq_findSome? hseal, find?_eq_findSome? hseal']
  apply rel_findSome? (forall₂_zipIdx h.routes 0)
  rintro ⟨r, i⟩ ⟨r', _⟩ ⟨hr, rfl⟩
  exact hr.resolvedBy path method i

end Registry

/-- Names of wildcards do not matter.  Under other names a declaration is accepted when it was
    before, and its route differs in the names only.  Where it takes the place of the other
    route, in any requests to an open registry, the same requests are met with the same
    numbers, the registry can be sealed or cannot as before, and a path leads to the route
    with the same number and to the same values. -/
theorem Draft.names_irrelevant (h : Draft.Renamable f uri steps) :
    (∃ b, Draft.start (renamed f uri) = .ok b) ∧
    ((∃ d, Draft.build uri steps = .ok d) ↔
      ∃ d, Draft.build (renamed f uri) (steps.map (Draft.Step.rename f)) = .ok d) ∧
    (∀ d d', Draft.build uri steps = .ok d →
      Draft.build (renamed f uri) (steps.map (Draft.Step.rename f)) = .ok d' →
      d'.finish = d.finish.rename f) ∧
    ∀ cs cs', List.Forall₂ (Registry.Call.Replaced f uri steps) cs cs' →
      (Registry.empty.calls cs).2.map Except.toOption =
        (Registry.empty.calls cs').2.map Except.toOption ∧
      ((∃ router, (Registry.empty.calls cs).1.toRouter = .ok router) ↔
        ∃ router, (Registry.empty.calls cs').1.toRouter = .ok router) ∧
      ∀ router router', (Registry.empty.calls cs).1.toRouter = .ok router →
        (Registry.empty.calls cs').1.toRouter = .ok router' → ∀ path method,
          (∀ e, router.resolve path method = .error e ↔ router'.resolve path method = .error e) ∧
          ∀ res res', router.resolve path method = .ok res →
            router'.resolve path method = .ok res' →
            res'.id = res.id ∧ res'.params.map (·.2) = res.params.map (·.2) ∧
              res.Replaced f uri steps res' := by
  refine ⟨?_, ?_, ?_, ?_⟩
  · obtain ⟨b, hb⟩ := h.accepted
    exact ⟨b.rename f, Draft.start_renamed h.toRenames hb⟩
  · simp only [h.build_eq_ok_iff]
    constructor
    · rintro ⟨d, hd⟩
      exact ⟨d.rename f, d, hd, rfl⟩
    · rintro ⟨_, d, hd, -⟩
      exact ⟨d, hd⟩
  · intro d d' hd hd'
    obtain ⟨e, he, rfl⟩ := h.build_eq_ok_iff.mp hd'
    obtain rfl := Except.ok.inj (hd.symm.trans he)
    exact Draft.finish_rename d
  · intro cs cs' hcs
    have hempty : Registry.empty.Replaced f uri steps Registry.empty :=
      ⟨Registry.consistent_empty, Registry.consistent_empty, .nil⟩
    obtain ⟨hanswers, hreplaced⟩ := hempty.calls h hcs
    refine ⟨hanswers, hreplaced.exists_toRouter_iff, ?_⟩
    intro router router' hseal hseal' path method
    have hfind := hreplaced.find? hseal hseal' path method
    rw [Router.resolve, Router.resolve]
    generalize router.find? path method = found, router'.find? path method = found' at hfind
    cases hfind with
    | none => exact ⟨fun _ => Iff.rfl, nofun⟩
    | some hres =>
      refine ⟨fun _ => ⟨nofun, nofun⟩, ?_⟩
      rintro _ _ ⟨⟩ ⟨⟩
      exact ⟨hres.id_eq, hres.values_eq, hres⟩

end Replaced

namespace Draft

/-- The name of the first wildcard becomes longer, and the second takes the one it had. -/
def shiftNames (name : String) : String := if name = "id" then "user_id" else "id"

def listDraft : Draft := ⟨"/users", none, ⟨"/users", [], []⟩, ⟨[]⟩, [], [], none⟩

def pagesDraft : Draft :=
  ⟨"/users/\x7bid\x7d/\x7bpage?\x7d", none,
    ⟨"/users/\x7b0\x7d/\x7b1\x7d", ["id", "page"], [false, true]⟩, ⟨[some "[0-9]+", none]⟩,
    [], [], none⟩

def pagesSteps : List Step := [.constraint "id" "[0-9]+"]

theorem renamable_pages : Renamable shiftNames pagesDraft.uri pagesSteps := by
  have hnames : namesIn pagesDraft.uri = ["id", "page"] := by decide
  have hvalid : ValidName "user_id" ∧ ValidName "id" :=
    ⟨⟨'u', ['s', 'e', 'r', '_', 'i', 'd'], by simp, by decide, List.all_eq_true.mp (by decide)⟩,
      ⟨'i', ['d'], by simp, by decide, List.all_eq_true.mp (by decide)⟩⟩
  refine ⟨⟨?_, ?_⟩, exists_ok_of_isSome (by decide), ?_⟩
  · simpa [hnames, shiftNames] using hvalid
  · rw [hnames]
    decide
  · rw [hnames]
    decide

theorem names_irrelevant_pages :
    build "/users/\x7bid\x7d/\x7bpage?\x7d" [.constraint "id" "[0-9]+"] = .ok pagesDraft ∧
    build "/users/\x7buser_id\x7d/\x7bid?\x7d" [.constraint "user_id" "[0-9]+"] =
      .ok (pagesDraft.rename shiftNames) ∧
    ∃ router router',
      (Registry.empty.calls [.add listDraft, .add pagesDraft]).1.toRouter = .ok router ∧
      (Registry.empty.calls [.add listDraft, .add (pagesDraft.rename shiftNames)]).1.toRouter =
        .ok router' ∧
      ∃ res res', router.resolve "/users/7/2" none = .ok res ∧
        router'.resolve "/users/7/2" none = .ok res' ∧
        res.params = [("id", "7"), ("page", "2")] ∧
        res'.id = 1 ∧ res'.params.map (·.2) = ["7", "2"] := by
  have hbuild : build pagesDraft.uri pagesSteps = .ok pagesDraft := by decide +kernel
  have hbuild' : build (renamed shiftNames pagesDraft.uri)
      (pagesSteps.map (Step.rename shiftNames)) = .ok (pagesDraft.rename shiftNames) :=
    renamable_pages.build_eq_ok_iff.mpr ⟨pagesDraft, hbuild, rfl⟩
  have huri : renamed shiftNames pagesDraft.uri = "/users/\x7buser_id\x7d/\x7bid?\x7d" := by
    rw [renamed]
    decide
  obtain ⟨-, -, -, hregistry⟩ := names_irrelevant renamable_pages
  have hcalls : List.Forall₂ (Registry.Call.Replaced shiftNames pagesDraft.uri pagesSteps)
      [.add listDraft, .add pagesDraft] [.add listDraft, .add (pagesDraft.rename shiftNames)] := by
    refine .cons (Or.inl rfl) (.cons (Or.inr ⟨?_, ?_⟩) .nil)
    · rw [hbuild]
      rfl
    · rw [hbuild']
      rfl
  obtain ⟨-, hseals, hresolve⟩ := hregistry _ _ hcalls
  have hroutes : (Registry.empty.calls [.add listDraft, .add pagesDraft]).1.routes.toList =
      [listDraft.finish, pagesDraft.finish] := by
    cbv
  obtain ⟨router, hseal⟩ : ∃ router,
      (Registry.empty.calls [.add listDraft, .add pagesDraft]).1.toRouter = .ok router := by
    rw [Registry.exists_toRouter_iff, hroutes, List.forall_mem_cons, List.forall_mem_singleton]
    exact ⟨Route.seals_of_ready (by cbv), Route.seals_of_ready (by cbv)⟩
  obtain ⟨router', hseal'⟩ := hseals.mp ⟨router, hseal⟩
  obtain ⟨herror, hok⟩ := hresolve _ _ hseal hseal' "/users/7/2" none
  have hres : router.resolve "/users/7/2" none =
      .ok ⟨1, pagesDraft.finish, [("id", "7"), ("page", "2")]⟩ := by
    rw [Registry.resolve_eq_ok_iff, Registry.find?_eq_findSome? hseal, hroutes]
    cbv
  rw [huri] at hbuild'
  cases hres' : router'.resolve "/users/7/2" none with
  | error e =>
    rw [(herror e).mpr hres'] at hres
    cases hres
  | ok res' =>
    obtain ⟨hid, hvalues, -⟩ := hok _ _ hres hres'
    exact ⟨hbuild, hbuild', router, router', hseal, hseal', _, res', hres, hres', rfl, hid, hvalues⟩

end Draft

end Wayfinder
