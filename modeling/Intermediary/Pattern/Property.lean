import Intermediary.Pattern.CharSet
import Intermediary.Text.Category
import Intermediary.Text.Property
import Intermediary.Text.Script

/-!
# Sets of characters by name

A property is named without regard to case, blanks, underscores, hyphens and a
leading `is`.  A name alone is that of a binary property, a general category or
a script; a name with a value says which of them it is.
-/

namespace Intermediary

namespace Pattern

open Text

namespace CharSet

def ofCategories (codes : List String) : CharSet :=
  ofTable categoryTable codes.contains

def ofCategory (code : String) : CharSet :=
  match code with
  | "LC" => ofCategories ["Lu", "Ll", "Lt"]
  | "Cs" => range 0xD800 0xDFFF
  | "Cn" => (ofTable categoryTable fun _ => true).complement.diff (range 0xD800 0xDFFF)
  | "C" =>
      (ofTable categoryTable fun code => ! code.startsWith "C").complement
  | _ =>
      ofTable categoryTable fun other =>
        other == code || (code.length == 1 && other.startsWith code)

def ofScript (code : String) : CharSet :=
  ofTable scriptTable (· == code)

def ofScriptUse (code : String) : CharSet :=
  let several := ofTable scriptUseTable fun _ => true
  ((ofScript code).diff several).union (ofTable scriptUseTable (·.contains code))

/-- The set of a table without values. -/
def ofRanges (table : RangeTable) : CharSet :=
  ofTable table fun _ => true

def lowercase : CharSet := (ofCategory "Ll").union (ofRanges otherLowercase)

def uppercase : CharSet := (ofCategory "Lu").union (ofRanges otherUppercase)

def alphabetic : CharSet :=
  (((ofCategories ["Lu", "Ll", "Lt", "Lm", "Lo", "Nl"]).union
    (ofRanges otherLowercase)).union (ofRanges otherUppercase)).union
      (ofRanges otherAlphabetic)

def digit : CharSet := ofCategory "Nd"

def numeric : CharSet := ofCategory "N"

def blank : CharSet :=
  ⟨[(9, 13), (0x20, 0x20), (0x85, 0x85), (0xA0, 0xA0), (0x1680, 0x1680), (0x2000, 0x200A),
    (0x2028, 0x2029), (0x202F, 0x202F), (0x205F, 0x205F), (0x3000, 0x3000)]⟩

/-- Characters of words: letters, marks, digits, connectors and joiners. -/
def word : CharSet :=
  ((((ofCategories
      ["Lu", "Ll", "Lt", "Lm", "Lo", "Nl", "Mn", "Mc", "Me", "Nd", "Pc"]).union
    (ofRanges otherLowercase)).union (ofRanges otherUppercase)).union
      (ofRanges otherAlphabetic)).union (range 0x200C 0x200D)

def asciiDigit : CharSet := range 0x30 0x39

def asciiBlank : CharSet := ⟨[(9, 13), (0x20, 0x20)]⟩

def asciiWord : CharSet := ⟨[(0x30, 0x39), (0x41, 0x5A), (0x5F, 0x5F), (0x61, 0x7A)]⟩

def graphemeExtend : CharSet :=
  (ofCategories ["Mn", "Me"]).union (ofRanges otherGraphemeExtend)

def identifierStart : CharSet :=
  (((ofCategories ["Lu", "Ll", "Lt", "Lm", "Lo", "Nl"]).union
    (ofRanges otherIdStart)).diff (range 0x2E2F 0x2E2F))

def identifierContinue : CharSet :=
  (((ofCategories
      ["Lu", "Ll", "Lt", "Lm", "Lo", "Nl", "Mn", "Mc", "Nd", "Pc"]).union
    (ofRanges otherIdStart)).union (ofRanges otherIdContinue)).diff (range 0x2E2F 0x2E2F)

def ofProperty? (name : String) : Option CharSet :=
  match propertyTables.find? (·.1.contains name) with
  | some (_, written) => some (ofRanges (RangeTable.ofText written))
  | none =>
      if ["lower", "lowercase"].contains name then some lowercase
      else if ["upper", "uppercase"].contains name then some uppercase
      else if ["alpha", "alphabetic"].contains name then some alphabetic
      else if name = "cased" then
        some ((lowercase.union uppercase).union (ofCategory "Lt"))
      else if name = "math" then some ((ofCategory "Sm").union (ofRanges otherMath))
      else if ["grext", "graphemeextend"].contains name then some graphemeExtend
      else if ["grbase", "graphemebase"].contains name then
        some ((ofTable categoryTable fun code =>
          ! ["Cc", "Cf", "Co", "Zl", "Zp"].contains code).diff graphemeExtend)
      else if ["ids", "idstart"].contains name then some identifierStart
      else if ["idc", "idcontinue"].contains name then some identifierContinue
      else if ["xids", "xidstart"].contains name then
        some (identifierStart.diff (ofRanges notXidStart))
      else if ["xidc", "xidcontinue"].contains name then
        some (identifierContinue.diff (ofRanges notXidContinue))
      else if ["olower", "otherlowercase"].contains name then some (ofRanges otherLowercase)
      else if ["oupper", "otheruppercase"].contains name then some (ofRanges otherUppercase)
      else if ["oalpha", "otheralphabetic"].contains name then
        some (ofRanges otherAlphabetic)
      else if ["omath", "othermath"].contains name then some (ofRanges otherMath)
      else if ["ogrext", "othergraphemeextend"].contains name then
        some (ofRanges otherGraphemeExtend)
      else if ["oids", "otheridstart"].contains name then some (ofRanges otherIdStart)
      else if ["oidc", "otheridcontinue"].contains name then some (ofRanges otherIdContinue)
      else none

/-- The code under which a name stands in a list of codes and other names. -/
def codeOf? (names : List (String × List String)) (name : String) : Option String :=
  (names.find? fun (code, others) =>
    String.ofList (code.toList.map Char.toLower) == name || others.contains name).map (·.1)

def ofCategoryName? (name : String) : Option CharSet :=
  match name with
  | "any" => some all
  | "assigned" => some (ofCategory "Cn").complement
  | "ascii" => some (range 0 0x7F)
  | _ => (codeOf? categoryNames name).map ofCategory

def ofScriptName? (name : String) : Option CharSet :=
  (codeOf? scriptNames name).map ofScript

def plainName (name : List Char) : String :=
  let marked : Bool :=
    match name with
    | i :: s :: _ => (i == 'i' || i == 'I') && (s == 's' || s == 'S')
    | _ => false
  let kept := (if marked then name.drop 2 else name).filter fun c =>
    c != ' ' && c != '_' && c != '-' && c.toNat < 128
  let plain := String.ofList (kept.map Char.toLower)
  if marked && plain == "c" then "isc" else plain

def ofName? (name : List Char) : Option CharSet :=
  let plain := plainName name
  let property :=
    if ["cf", "sc", "lc"].contains plain then none else ofProperty? plain
  (property.or (ofCategoryName? plain)).or (ofScriptName? plain)

def ofNameAndValue? (name value : List Char) : Option CharSet :=
  let plain := plainName value
  match plainName name with
  | "gc" | "generalcategory" => ofCategoryName? plain
  | "sc" | "script" => ofScriptName? plain
  | "scx" | "scriptextensions" => (codeOf? scriptNames plain).map ofScriptUse
  | _ => none

/-- The sets with names of their own inside a bracket, all in ASCII. -/
def ofAsciiName? : String -> Option CharSet
  | "alnum" => some ⟨[(0x30, 0x39), (0x41, 0x5A), (0x61, 0x7A)]⟩
  | "alpha" => some ⟨[(0x41, 0x5A), (0x61, 0x7A)]⟩
  | "ascii" => some (range 0 0x7F)
  | "blank" => some ⟨[(9, 9), (0x20, 0x20)]⟩
  | "cntrl" => some ⟨[(0, 0x1F), (0x7F, 0x7F)]⟩
  | "digit" => some asciiDigit
  | "graph" => some (range 0x21 0x7E)
  | "lower" => some (range 0x61 0x7A)
  | "print" => some (range 0x20 0x7E)
  | "punct" => some ⟨[(0x21, 0x2F), (0x3A, 0x40), (0x5B, 0x60), (0x7B, 0x7E)]⟩
  | "space" => some asciiBlank
  | "upper" => some (range 0x41 0x5A)
  | "word" => some asciiWord
  | "xdigit" => some ⟨[(0x30, 0x39), (0x41, 0x46), (0x61, 0x66)]⟩
  | _ => none

end CharSet

end Pattern

end Intermediary
