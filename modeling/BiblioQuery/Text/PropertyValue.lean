import BiblioQuery.Text.AgeTable
import BiblioQuery.Text.Break
import BiblioQuery.Text.ExtensionTable

/-!
# Values of properties by name

Some properties have several values: the general category, the script, the scripts that a character
is used with, the age, and what tells where texts may be divided.  The names of the properties and
of their values are compared as the names of properties are.

## Main definitions

* `Text.scriptExtensionRanges?` : the characters that are used with a script.
* `Text.namedValueRanges?` : the characters with a value of a property.
-/

namespace BiblioQuery.Text

/-- The characters that are listed with the script of the given abbreviation. -/
def extensionsOf (code : String) : List (Nat × Nat) :=
  (scriptExtensions.filter fun e => (e.1.splitOn " ").contains code).foldl
    (fun acc e => CodeRange.union (listedRanges [e.2]) acc) []

/-- The characters that are listed with any scripts. -/
def extendedRanges : Unit → List (Nat × Nat) := fun _ =>
  scriptExtensions.foldl (fun acc e => CodeRange.union (listedRanges [e.2]) acc) []

/-- The characters that are used with the script of the given name: those listed with it, and of its
own characters those that are not listed at all. -/
def scriptExtensionRanges? (name : String) : Option (List (Nat × Nat)) :=
  (scriptNames.find? fun e => e.2.contains name).map fun e =>
    CodeRange.union (extensionsOf e.1)
      (CodeRange.diff (runRanges (· == e.1) scriptRuns) (extendedRanges ()))

/-- The characters that have a value, with a name, of one of the properties that have several. -/
def namedValueRanges? (property value : List Char) : Option (List (Nat × Nat)) :=
  match plainName property with
  | "gc" | "generalcategory" => categoryRanges? (plainName value)
  | "sc" | "script" => scriptRanges? (plainName value)
  | "scx" | "scriptextensions" => scriptExtensionRanges? (plainName value)
  | "age" => ageRanges? (plainName value)
  | "gcb" | "graphemeclusterbreak" => graphemeBreakRanges? (plainName value)
  | "wb" | "wordbreak" => wordBreakRanges? (plainName value)
  | "sb" | "sentencebreak" => sentenceBreakRanges? (plainName value)
  | _ => none

end BiblioQuery.Text
