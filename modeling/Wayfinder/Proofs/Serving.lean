/-
  Wayfinder/Proofs/Serving.lean
  =============================
  **A service follows the last good manifest.**

  While a service runs, its manifest is written anew or removed, read again, or neither, and
  inputs are served in between.  What a service should do is told without its router: it
  remembers the files as they were when the manifest was last read with success, and shows
  for each path of an input what resolving that path with those files shows.  A running
  service does just this, in runs of any length.
-/
import Wayfinder.Proofs.Loading

namespace Wayfinder.Service

/-! ## 1. Lines -/

@[simp] theorem lines_break (bs : Bytes) : lines (10 :: bs) = [] :: lines bs := rfl

theorem lines_cons_of_ne {b : UInt8} (hb : b ≠ 10) (bs : Bytes) :
    lines (b :: bs) = (b :: (lines bs).headD []) :: (lines bs).tail := by
  rw [lines, if_neg hb]
  cases lines bs <;> rfl

theorem lines_append_break_ne_nil (a : Bytes) : lines (a ++ [10]) ≠ [] := by
  cases a with
  | nil => simp
  | cons b a =>
    by_cases hb : b = 10
    · simp [hb]
    · simp [lines_cons_of_ne hb]

theorem lines_append (a b : Bytes) : lines (a ++ 10 :: b) = lines (a ++ [10]) ++ lines b := by
  induction a with
  | nil => rfl
  | cons c a ih =>
    by_cases hc : c = 10
    · simp [hc, ih]
    · obtain ⟨l, ls, hlines⟩ := List.exists_cons_of_ne_nil (lines_append_break_ne_nil a)
      rw [List.cons_append, List.cons_append, lines_cons_of_ne hc, lines_cons_of_ne hc, ih, hlines]
      rfl

/-- A line break at the end of an input ends its last line, or adds an empty one. -/
theorem lines_append_break (a : Bytes) :
    lines (a ++ [10]) = lines a ∨ lines (a ++ [10]) = lines a ++ [[]] := by
  induction a with
  | nil => exact Or.inr rfl
  | cons c a ih =>
    by_cases hc : c = 10
    · simpa [hc] using ih
    · rw [List.cons_append, lines_cons_of_ne hc, lines_cons_of_ne hc]
      rcases ih with ih | ih
      · exact Or.inl (by rw [ih])
      · rw [ih]
        cases lines a with
        | nil => exact Or.inl rfl
        | cons l ls => exact Or.inr rfl

/-! ## 2. Serving inputs in turn -/

/-- Serve inputs in turn, up to the first that fails. -/
def serveInTurn (s : Service) : List Bytes → String × Option Failure
  | [] => ("", none)
  | input :: inputs =>
    match s.serve input with
    | (output, some f) => (output, some f)
    | (output, none) =>
      let (rest, failure) := s.serveInTurn inputs
      (output ++ rest, failure)

theorem answerAll_append (s : Service) (ls ms : List Bytes) :
    s.answerAll (ls ++ ms) =
      match s.answerAll ls with
      | (output, some f) => (output, some f)
      | (output, none) => (output ++ (s.answerAll ms).1, (s.answerAll ms).2) := by
  induction ls with
  | nil => simp [answerAll]
  | cons l ls ih =>
    rw [List.cons_append, answerAll, answerAll]
    cases textOfBytes? l with
    | none => rfl
    | some line =>
      simp only [ih]
      rcases s.answerAll ls with ⟨output, failure⟩
      cases failure with
      | none => simp [String.append_assoc]
      | some f => rfl

theorem answerAll_empty_line (s : Service) : s.answerAll [[]] = ("", none) := rfl

theorem serve_append_break (s : Service) (a : Bytes) : s.serve (a ++ [10]) = s.serve a := by
  rw [serve, serve]
  rcases lines_append_break a with hlines | hlines
  · rw [hlines]
  · rw [hlines, answerAll_append, answerAll_empty_line]
    rcases s.answerAll (lines a) with ⟨output, failure⟩
    cases failure <;> simp

/-- An input that is cut at a line break is served as its two parts in turn. -/
theorem serve_append (s : Service) (a b : Bytes) :
    s.serve (a ++ 10 :: b) = s.serveInTurn [a, b] := by
  have hcut : s.serve (a ++ 10 :: b) = s.answerAll (lines (a ++ [10]) ++ lines b) := by
    rw [serve, lines_append]
  rw [hcut, answerAll_append, ← serve, serve_append_break]
  simp only [serveInTurn, serve]
  rcases s.answerAll (lines a) with ⟨output, failure⟩
  cases failure with
  | some f => rfl
  | none =>
    rcases s.answerAll (lines b) with ⟨rest, failure⟩
    cases failure <;> simp

/-! ## 3. Runs -/

/-- What can happen to a service and its manifest. -/
inductive Event where
  /-- The manifest is written anew, if it can be. -/
  | rewrite (content : Bytes)
  /-- The manifest is removed, if it is there. -/
  | remove
  /-- The service reads the manifest again. -/
  | reload
  /-- The service is given an input. -/
  | serve (input : Bytes)
deriving DecidableEq, Repr

/-- What is seen of an event. -/
inductive Reply where
  | nothing
  | reloaded (result : Except Failure Nat)
  | served (output : String) (failure : Option Failure)
deriving DecidableEq

/-- The files after an event.  What cannot be done leaves them as they are. -/
def Event.after (path : String) (fs : Files) : Event → Files
  | .rewrite content => ((fs.write path content).toOption).getD fs
  | .remove => ((fs.remove path).toOption).getD fs
  | .reload | .serve _ => fs

theorem Event.after_reload (path : String) (fs : Files) : Event.after path fs .reload = fs := rfl

theorem Event.after_serve (path : String) (fs : Files) (input : Bytes) :
    Event.after path fs (.serve input) = fs := rfl

/-- What is seen of a run, for something that changes with each event and depends on the files
    as they are then. -/
def replies {σ : Type} (path : String) (react : Files → σ → Event → σ × Reply) (fs : Files)
    (s : σ) : List Event → List Reply
  | [] => []
  | e :: es =>
    (react fs s e).2 :: replies path react (e.after path fs) (react fs s e).1 es

/-- Two that reply alike to each event, as long as they are related, reply alike in every run. -/
theorem replies_eq {σ τ : Type} {path : String} {react : Files → σ → Event → σ × Reply}
    {react' : Files → τ → Event → τ × Reply} (R : σ → τ → Prop)
    (hstep : ∀ fs s t e, R s t →
      (react fs s e).2 = (react' fs t e).2 ∧ R (react fs s e).1 (react' fs t e).1)
    {s : σ} {t : τ} (h : R s t) (fs : Files) (events : List Event) :
    replies path react fs s events = replies path react' fs t events := by
  induction events generalizing fs s t with
  | nil => rfl
  | cons e events ih =>
    obtain ⟨hreply, hnext⟩ := hstep fs s t e h
    rw [replies, replies, hreply, ih hnext]

/-- What an event makes of a service, and what is seen of it. -/
def react (path : String) (fs : Files) (s : Service) : Event → Service × Reply
  | .rewrite _ | .remove => (s, .nothing)
  | .reload => ((s.reload fs path).1, .reloaded (s.reload fs path).2)
  | .serve input => (s, .served (s.serve input).1 (s.serve input).2)

/-! ## 4. What a service should do -/

/-- The paths that an input asks for: its lines before the first that is no text, trimmed, and
    without the blank ones. -/
def pathsIn (input : Bytes) : List String :=
  let texts := ((lines input).takeWhile fun l => (textOfBytes? l).isSome).filterMap textOfBytes?
  (texts.map Text.trim).filter fun p => !p.isEmpty

/-- What resolving the paths of an input with the manifest in some files shows. -/
def resolved (good : Files) (path : String) (input : Bytes) : String :=
  String.join
    ((pathsIn input).map fun p => (Command.runResolve good path none none false [p]).output)

def inputFailure (input : Bytes) : Option Failure :=
  if ∀ l ∈ lines input, (textOfBytes? l).isSome then none else some unreadableLine

/-- What an event makes of the files as they were when the manifest was last read with success,
    and what should be seen of it. -/
def follow (path : String) (fs good : Files) : Event → Files × Reply
  | .rewrite _ | .remove => (good, .nothing)
  | .reload =>
    match Router.load fs path with
    | .ok router => (fs, .reloaded (.ok router.size))
    | .error f => (good, .reloaded (.error f))
  | .serve input => (good, .served (resolved good path input) (inputFailure input))

/-! ## 5. One event -/

section Step

variable {path : String} {good : Files} {s : Service}

theorem answer_eq (hgood : Router.load good path = .ok s.router) {line : String}
    (hline : (Text.trim line).isEmpty = false) :
    s.answer line = (Command.runResolve good path none none false [Text.trim line]).output := by
  rw [Command.output_runResolve hgood, answer]
  simp [hline]

theorem join_answers (hgood : Router.load good path = .ok s.router) (texts : List String) :
    String.join (texts.map s.answer) =
      String.join (((texts.map Text.trim).filter fun p => !p.isEmpty).map fun p =>
        (Command.runResolve good path none none false [p]).output) := by
  induction texts with
  | nil => simp
  | cons line texts ih =>
    rw [List.map_cons, List.map_cons, String.join_cons, ih]
    cases hline : (Text.trim line).isEmpty with
    | true =>
      rw [List.filter_cons_of_neg (by simp [hline])]
      simp [answer, hline]
    | false =>
      rw [List.filter_cons_of_pos (by simp [hline]), List.map_cons, String.join_cons,
        answer_eq hgood hline]

theorem answerAll_eq (s : Service) (ls : List Bytes) :
    s.answerAll ls =
      (String.join (((ls.takeWhile fun l => (textOfBytes? l).isSome).filterMap textOfBytes?).map
          s.answer),
        if ∀ l ∈ ls, (textOfBytes? l).isSome then none else some unreadableLine) := by
  induction ls with
  | nil => rfl
  | cons l ls ih =>
    cases hl : textOfBytes? l with
    | none => simp [answerAll, hl]
    | some line => simp [answerAll, hl, ih]

/-- What is shown for an input follows from the paths in it. -/
theorem resolved_eq {router : Router} (hgood : Router.load good path = .ok router)
    (input : Bytes) :
    resolved good path input =
      String.join ((pathsIn input).map (router.resolutionLine none)) := by
  rw [resolved]
  exact congrArg String.join (List.map_congr_left fun p _ => Command.output_runResolve hgood p)

theorem serve_eq (hgood : Router.load good path = .ok s.router) (input : Bytes) :
    s.serve input = (resolved good path input, inputFailure input) := by
  rw [serve, answerAll_eq, join_answers hgood]
  rfl

theorem reload_of_error {fs : Files} {f : Failure} (h : Router.load fs path = .error f) :
    s.reload fs path = (s, .error f) := by
  rw [reload, h]

theorem reload_of_ok {fs : Files} {router : Router} (h : Router.load fs path = .ok router) :
    s.reload fs path = (⟨router⟩, .ok router.size) := by
  rw [reload, h]

/-- A service with the router of the good files replies as it should, and goes on with the
    router of the good files. -/
theorem react_of_load (hgood : Router.load good path = .ok s.router) (fs : Files) (e : Event) :
    (s.react path fs e).2 = (follow path fs good e).2 ∧
      Router.load (follow path fs good e).1 path = .ok (s.react path fs e).1.router := by
  cases e with
  | rewrite content => exact ⟨rfl, hgood⟩
  | remove => exact ⟨rfl, hgood⟩
  | serve input =>
    refine ⟨?_, hgood⟩
    simp only [react, follow, serve_eq hgood]
  | reload =>
    cases hload : Router.load fs path with
    | error f =>
      -- nothing changes, neither the router nor the good files
      simp only [react, follow, reload_of_error hload, hload]
      exact ⟨trivial, hgood⟩
    | ok router =>
      simp only [react, follow, reload_of_ok hload, hload]
      exact ⟨trivial, trivial⟩

theorem replies_reload_of_error {fs : Files} {f : Failure} (h : Router.load fs path = .error f)
    (later : List Event) :
    replies path (react path) fs s (.reload :: later) =
      .reloaded (.error f) :: replies path (react path) fs s later := by
  simp only [replies, react, Event.after, reload_of_error h]

theorem replies_reload_of_ok {fs : Files} {router : Router} (h : Router.load fs path = .ok router)
    (later : List Event) :
    replies path (react path) fs s (.reload :: later) =
      .reloaded (.ok router.size) :: replies path (react path) fs ⟨router⟩ later := by
  simp only [replies, react, Event.after, reload_of_ok h]

end Step

/-! ## 6. Runs of any length -/

/-- A service that was started does in every run what it should, by the manifest with which it
    was started or the last good one after that.  Reading the manifest again tells why that
    fails and has no effect then, or it tells the number of routes that are served from then on;
    and it makes no difference whether an input is served as a whole or cut at a line break. -/
theorem follows_last_good {fs₀ : Files} {path : String} {s₀ : Service}
    (hstart : start fs₀ path = .ok s₀) (events : List Event) :
    replies path (react path) fs₀ s₀ events = replies path (follow path) fs₀ fs₀ events ∧
    (∀ (fs : Files) (s : Service) (later : List Event),
      (∀ f, Router.load fs path = .error f →
        replies path (react path) fs s (.reload :: later) =
          .reloaded (.error f) :: replies path (react path) fs s later) ∧
      ∀ router, Router.load fs path = .ok router →
        replies path (react path) fs s (.reload :: later) =
          .reloaded (.ok router.size) :: replies path (react path) fs ⟨router⟩ later) ∧
    ∀ (s : Service) (a b : Bytes),
      s.serve (a ++ 10 :: b) = s.serveInTurn [a, b] ∧
        s.serve (a ++ 10 :: b) = s.serveInTurn [a ++ [10], b] := by
  obtain ⟨router, hrouter, hservice⟩ := bind_eq_ok_iff.mp hstart
  obtain rfl := Except.ok.inj hservice
  refine ⟨?_, ?_, ?_⟩
  · apply replies_eq (fun s good => Router.load good path = .ok s.router)
    · intro fs s good e hgood
      exact react_of_load hgood fs e
    · exact hrouter
  · intro fs s later
    exact ⟨fun f hf => replies_reload_of_error hf later,
      fun router hrouter => replies_reload_of_ok hrouter later⟩
  · intro s a b
    refine ⟨serve_append s a b, ?_⟩
    rw [serve_append]
    simp only [serveInTurn, serve_append_break]

/-- A directory with a manifest and nothing else. -/
def directoryOf (manifest : String) : Files :=
  ⟨[(["routes.json"], .file (bytesOfText manifest))]⟩

/-- A manifest that declares no routes. -/
def routeless : String := "\x7b\"routes\": []\x7d"

/-- A manifest that declares one route. -/
def onePage : String := "\x7b\"routes\": [\x7b\"uri\": \"/b\"\x7d]\x7d"

/-- A manifest that cannot be parsed. -/
def cutOff : String := "\x7b"

theorem load_cutOff :
    Router.load (directoryOf cutOff) "routes.json" =
      .error ⟨["failed to parse route manifest `routes.json`", "invalid JSON route manifest"],
        .malformed .json⟩ := by
  have hmalformed : Manifest.load (directoryOf cutOff) "routes.json" =
      .error ⟨["failed to parse route manifest `routes.json`", "invalid JSON route manifest"],
        .malformed .json⟩ := by
    decide +kernel
  rw [Router.load, hmalformed]
  rfl

theorem load_empty :
    Router.load .empty "routes.json" =
      .error ⟨["failed to read route manifest `routes.json`"], .file .notFound⟩ :=
  rfl

/-- An input with two paths. -/
def twoPaths : Bytes := bytesOfText " /a\n\n/b\r\n"

/-- An input whose second line is no text. -/
def unreadable : Bytes := [0x2F, 0x62, 10, 0xFF, 10, 0x2F]

def breaking : List Event :=
  [.serve twoPaths, .rewrite (bytesOfText onePage), .reload, .serve twoPaths,
    .rewrite (bytesOfText cutOff), .reload, .serve unreadable, .remove, .reload]

/-- The manifest gets a route, which is served from then on.  It is broken and then removed, and
    the service goes on with the route. -/
theorem follows_last_good_breaking :
    ∃ s₀, start (directoryOf routeless) "routes.json" = .ok s₀ ∧
      replies "routes.json" (react "routes.json") (directoryOf routeless) s₀ breaking =
        [.served "/a -> no route\n/b -> no route\n" none, .nothing, .reloaded (.ok 1),
          .served "/a -> no route\n/b -> #0 /b\n" none, .nothing,
          .reloaded (.error ⟨["failed to parse route manifest `routes.json`",
            "invalid JSON route manifest"], .malformed .json⟩),
          .served "/b -> #0 /b\n" (some unreadableLine), .nothing,
          .reloaded (.error
            ⟨["failed to read route manifest `routes.json`"], .file .notFound⟩)] := by
  have hstarted : (start (directoryOf routeless) "routes.json").toOption.isSome = true := by
    decide +kernel
  obtain ⟨s₀, hs₀⟩ := exists_ok_of_isSome hstarted
  refine ⟨s₀, hs₀, (follows_last_good hs₀ breaking).1.trans ?_⟩
  obtain ⟨router, hvalue, hload⟩ := @Router.exists_load_of_text _ "routes.json" onePage .json
    ⟨[⟨"/b", none, [], [], []⟩]⟩
    (fun router => (router.size, router.resolutionLine none "/a", router.resolutionLine none "/b"))
    (1, "/a -> no route\n", "/b -> #0 /b\n") rfl (by decide +kernel) (by cbv)
  obtain ⟨hsize, ha, hb⟩ : router.size = 1 ∧ router.resolutionLine none "/a" = "/a -> no route\n" ∧
      router.resolutionLine none "/b" = "/b -> #0 /b\n" := by
    simpa using hvalue
  have hgood := hload (directoryOf onePage) rfl
  -- the files after each change
  have hwritten : Event.after "routes.json" (directoryOf routeless)
      (.rewrite (bytesOfText onePage)) = directoryOf onePage := rfl
  have hbroken : Event.after "routes.json" (directoryOf onePage)
      (.rewrite (bytesOfText cutOff)) = directoryOf cutOff := rfl
  have hremoved : Event.after "routes.json" (directoryOf cutOff) .remove = .empty := rfl
  have hbefore : resolved (directoryOf routeless) "routes.json" twoPaths =
      "/a -> no route\n/b -> no route\n" := by
    decide +kernel
  have htwo : pathsIn twoPaths = ["/a", "/b"] := by decide +kernel
  have hone : pathsIn unreadable = ["/b"] := by decide +kernel
  have hread : inputFailure twoPaths = none := by decide +kernel
  have hunread : inputFailure unreadable = some unreadableLine := by decide +kernel
  simp only [breaking, replies, follow, Event.after_reload, Event.after_serve, hwritten, hbroken,
    hremoved, hgood, load_cutOff, load_empty, hsize, hbefore, resolved_eq hgood, htwo, hone,
    hread, hunread, List.map_cons, List.map_nil, ha, hb]
  rfl

end Wayfinder.Service
