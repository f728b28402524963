/-
  Wayfinder/Unicode/Lookup.lean
  =============================
  **Finding a class of characters by name.**

  Names are compared loosely: case, spaces, hyphens and underscores do not count, nor
  does a leading `is`.  A name alone may mean a binary property, a general category or
  a script, in this order of preference.
-/
import Wayfinder.Unicode.CodeSet
import Wayfinder.Unicode.Category
import Wayfinder.Unicode.Script
import Wayfinder.Unicode.Property
import Wayfinder.Unicode.Age
import Wayfinder.Unicode.Segmentation

namespace Wayfinder.Unicode

/-! ## 1. Loose names -/

/-- The characters of a name that count, in lower case.  Characters beyond ASCII never
    count. -/
def countingChars (cs : List Char) : List Char :=
  (cs.filter fun c => c.toNat < 128 && c != ' ' && c != '_' && c != '-').map Char.toLower

/-- The normal form of a name.  A leading `is` is dropped, except from `isc`, which is a
    name of its own. -/
def normalName (name : String) : String :=
  match name.toList with
  | a :: b :: rest =>
    if (a == 'i' || a == 'I') && (b == 's' || b == 'S') then
      let body := countingChars rest
      if body = ['c'] then "isc" else String.ofList body
    else String.ofList (countingChars (a :: b :: rest))
  | cs => String.ofList (countingChars cs)

/-! ## 2. Look-up -/

/-- The names that are short for a general category although a property has them too. -/
def categoryFirst : List String := ["cf", "sc", "lc"]

/-- The class that a name alone means. -/
def classNamed? (name : String) : Option CodeSet :=
  let norm := normalName name
  let property := if categoryFirst.contains norm then none else Property.named? norm
  (property.or (Category.named? norm)).or ((Script.named? norm).map Script.characters)

/-- The class of the characters for which a property has a value. -/
def classWithValue? (property value : String) : Option CodeSet :=
  let value := normalName value
  match normalName property with
  | "gc" | "generalcategory" => Category.named? value
  | "sc" | "script" => (Script.named? value).map Script.characters
  | "scx" | "scriptextensions" => (Script.named? value).map Script.extended
  | "age" => Age.named? value
  | "gcb" | "graphemeclusterbreak" => Segmentation.named? Segmentation.graphemeBreaks value
  | "wb" | "wordbreak" => Segmentation.named? Segmentation.wordBreaks value
  | "sb" | "sentencebreak" => Segmentation.named? Segmentation.sentenceBreaks value
  | _ => none

end Wayfinder.Unicode
