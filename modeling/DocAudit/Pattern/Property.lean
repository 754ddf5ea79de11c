import DocAudit.Pattern.CharSet
import DocAudit.Text.Blank
import DocAudit.Unicode.Age
import DocAudit.Unicode.Binary
import DocAudit.Unicode.Break
import DocAudit.Unicode.Category
import DocAudit.Unicode.Digit
import DocAudit.Unicode.Script
import DocAudit.Unicode.ScriptExtension
import DocAudit.Unicode.Word

/-!
# Sets with a name

Patterns can name sets of characters by Unicode properties.  Names are compared loosely: case,
blanks, hyphens and underscores do not count, and a leading `is` may be present.  A bare name is
looked up among the binary properties, then the general categories, then the scripts;
`name=value` asks for the characters with a certain value of a property.
-/

namespace DocAudit.Pattern

open DocAudit.Unicode

/-- The part of a name that counts, in small letters. -/
def looseName (name : List Char) : String :=
  let shorten (cs : List Char) : List Char :=
    (cs.filter fun c => c ≠ ' ' && c ≠ '_' && c ≠ '-' && c.toNat < 128).map Char.toLower
  match name with
  | i :: s :: rest =>
    if (i = 'i' || i = 'I') && (s = 's' || s = 'S') then
      let cs := shorten rest
      if cs = ['c'] then "isc" else String.ofList cs
    else String.ofList (shorten name)
  | _ => String.ofList (shorten name)

/-- The set of a general category, or one of the three sets that are named like one. -/
def categorySet? (name : String) : Option CharSet :=
  if name = "any" then some .all
  else if name = "assigned" then
    (lookup? categoryTable "unassigned").map fun rs => CharSet.compl ⟨rs⟩
  else if name = "ascii" then some ⟨[(0, 0x7F)]⟩
  else (lookup? categoryTable name).map .mk

def scriptSet? (name : String) : Option CharSet := (lookup? scriptTable name).map .mk

/-- The characters that were assigned up to a version. -/
def ageSet? (name : String) (older : CharSet) :
    List (String × List String) → Option CharSet
  | [] => none
  | (names, text) :: rest =>
    let upToHere := older.union ⟨unpack text⟩
    if (names.splitOn " ").contains name then some upToHere else ageSet? name upToHere rest

/-- The set that a bare name stands for. -/
def namedSet? (name : List Char) : Option CharSet :=
  let name := looseName name
  ((lookup? binaryTable name).map .mk).or ((categorySet? name).or (scriptSet? name))

/-- The characters for which the property has the given value. -/
def valuedSet? (property value : List Char) : Option CharSet :=
  let property := looseName property
  let value := looseName value
  if property = "generalcategory" || property = "gc" then categorySet? value
  else if property = "script" || property = "sc" then scriptSet? value
  else if property = "scriptextensions" || property = "scx" then
    (lookup? scriptExtensionTable value).map .mk
  else if property = "age" then ageSet? value .none ageTable
  else if property = "graphemeclusterbreak" || property = "gcb" then
    (lookup? graphemeBreakTable value).map .mk
  else if property = "wordbreak" || property = "wb" then (lookup? wordBreakTable value).map .mk
  else if property = "sentencebreak" || property = "sb" then
    (lookup? sentenceBreakTable value).map .mk
  else none

/-- Decimal digits of any script. -/
def digitSet : CharSet := ⟨digitRanges⟩

/-- White space. -/
def blankSet : CharSet := ⟨Text.blankRanges⟩

/-- Characters of words. -/
def wordSet : CharSet := ⟨wordRanges⟩

def asciiDigitSet : CharSet := ⟨[(0x30, 0x39)]⟩

def asciiBlankSet : CharSet := ⟨[(0x09, 0x0D), (0x20, 0x20)]⟩

/-- ASCII letters, digits and the underscore. -/
def asciiWordSet : CharSet := ⟨[(0x30, 0x39), (0x41, 0x5A), (0x5F, 0x5F), (0x61, 0x7A)]⟩

/-- The named sets of bracket expressions, ASCII only. -/
def bracketSet? (name : String) : Option CharSet :=
  match name with
  | "alnum" => some ⟨[(0x30, 0x39), (0x41, 0x5A), (0x61, 0x7A)]⟩
  | "alpha" => some ⟨[(0x41, 0x5A), (0x61, 0x7A)]⟩
  | "ascii" => some ⟨[(0x00, 0x7F)]⟩
  | "blank" => some ⟨[(0x09, 0x09), (0x20, 0x20)]⟩
  | "cntrl" => some ⟨[(0x00, 0x1F), (0x7F, 0x7F)]⟩
  | "digit" => some asciiDigitSet
  | "graph" => some ⟨[(0x21, 0x7E)]⟩
  | "lower" => some ⟨[(0x61, 0x7A)]⟩
  | "print" => some ⟨[(0x20, 0x7E)]⟩
  | "punct" => some ⟨[(0x21, 0x2F), (0x3A, 0x40), (0x5B, 0x60), (0x7B, 0x7E)]⟩
  | "space" => some asciiBlankSet
  | "upper" => some ⟨[(0x41, 0x5A)]⟩
  | "word" => some asciiWordSet
  | "xdigit" => some ⟨[(0x30, 0x39), (0x41, 0x46), (0x61, 0x66)]⟩
  | _ => none

end DocAudit.Pattern
