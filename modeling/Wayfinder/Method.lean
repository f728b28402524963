/-
  Wayfinder/Method.lean
  =====================
  **Request methods.**

  The methods that a route can bind a handler to, in the order in which bindings are
  listed.  A token names a method exactly, in capitals.
-/

namespace Wayfinder

/-- A request method. -/
inductive Method where
  | get | post | put | patch | delete | copy | head | options | link | unlink
  | purge | lock | unlock | propfind | view | trace | connect
deriving DecidableEq, Repr

namespace Method

/-- All methods, in order. -/
def all : List Method :=
  [.get, .post, .put, .patch, .delete, .copy, .head, .options, .link, .unlink,
    .purge, .lock, .unlock, .propfind, .view, .trace, .connect]

/-- The token of a method. -/
def token : Method → String
  | .get => "GET"
  | .post => "POST"
  | .put => "PUT"
  | .patch => "PATCH"
  | .delete => "DELETE"
  | .copy => "COPY"
  | .head => "HEAD"
  | .options => "OPTIONS"
  | .link => "LINK"
  | .unlink => "UNLINK"
  | .purge => "PURGE"
  | .lock => "LOCK"
  | .unlock => "UNLOCK"
  | .propfind => "PROPFIND"
  | .view => "VIEW"
  | .trace => "TRACE"
  | .connect => "CONNECT"

/-- The method that a token names. -/
def ofToken? (s : String) : Option Method := all.find? fun m => m.token == s

/-- The place of a method in the order. -/
def rank : Method → Nat
  | .get => 0
  | .post => 1
  | .put => 2
  | .patch => 3
  | .delete => 4
  | .copy => 5
  | .head => 6
  | .options => 7
  | .link => 8
  | .unlink => 9
  | .purge => 10
  | .lock => 11
  | .unlock => 12
  | .propfind => 13
  | .view => 14
  | .trace => 15
  | .connect => 16

theorem mem_all (m : Method) : m ∈ all := by cases m <;> decide

theorem ofToken?_token (m : Method) : ofToken? m.token = some m := by cases m <;> decide

theorem token_of_ofToken? {s : String} {m : Method} (h : ofToken? s = some m) : m.token = s := by
  simpa using List.find?_some h

end Method

/-- Whether a character may stand in a token of the protocol. -/
def isTokenChar (c : Char) : Bool :=
  c.isAlphanum ||
    ['!', '#', '$', '%', '&', '\'', '*', '+', '-', '.', '^', '_', '\u0060', '|', '~'].contains c

/-- Whether a text is a token of the protocol. -/
def isToken (s : String) : Bool := !s.isEmpty && s.toList.all isTokenChar

end Wayfinder
