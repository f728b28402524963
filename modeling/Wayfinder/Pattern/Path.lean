/-
  Wayfinder/Pattern/Path.lean
  ===========================
  **Canonical paths.**

  Taking a wildcard out of a pattern can leave doubled or trailing slashes behind.
  `normalize` collapses a run of slashes to one, drops a trailing slash unless it is
  the whole path, and puts a slash in front where there is none.
-/

namespace Wayfinder.Pattern

/-! ## 1. The three steps -/

/-- Keep the first slash of every run.  `afterSlash` tells whether the character before
    was a slash. -/
def collapseSlashes (afterSlash : Bool) : List Char → List Char
  | [] => []
  | c :: cs =>
    if c = '/' then
      if afterSlash then collapseSlashes true cs else '/' :: collapseSlashes true cs
    else c :: collapseSlashes false cs

/-- Drop the last character when it is a slash and not the only character. -/
def dropTrailingSlash : List Char → List Char
  | [] => []
  | [c] => [c]
  | [c, d] => if d = '/' then [c] else [c, d]
  | c :: d :: rest => c :: dropTrailingSlash (d :: rest)

/-- Put a slash in front of a text that does not start with one. -/
def ensureLeadingSlash : List Char → List Char
  | '/' :: cs => '/' :: cs
  | cs => '/' :: cs

/-! ## 2. Normalisation -/

/-- The canonical form of a path. -/
def normalizeChars (cs : List Char) : List Char :=
  ensureLeadingSlash (dropTrailingSlash (collapseSlashes false cs))

/-- The canonical form of a path text. -/
def normalize (path : String) : String := String.ofList (normalizeChars path.toList)

end Wayfinder.Pattern
