import Telemetry.Character.Age
import Telemetry.Character.Script
import Telemetry.Character.Trait

/-!
# Properties by name

Sets of characters under the names that Unicode gives them: traits, categories and scripts by their
name alone, and categories, scripts, extensions, ages and boundaries as the value of a property.
Names are compared in small letters, without blanks, hyphens and underscores and without `is` at
their start.
-/

namespace Telemetry.Character

open Text (Ranges)

/-- A name as names are compared. What is not ASCII does not count. After `is` the letter `c` alone
is no category. -/
def plainName (name : String) : String :=
  let plain (text : List Char) : List Char :=
    (text.filter fun c => c.toNat < 0x80 && c ≠ ' ' && c ≠ '_' && c ≠ '-').map Char.toLower
  match name.toList with
  | i :: s :: rest =>
    if i.toLower = 'i' && s.toLower = 's' then
      let plained := plain rest
      String.ofList (if plained = ['c'] then ['i', 's', 'c'] else plained)
    else String.ofList (plain (i :: s :: rest))
  | text => String.ofList (plain text)

def traitAliases : List (String × String) := [
  ("ahex", "asciihexdigit"), ("alpha", "alphabetic"), ("bidic", "bidicontrol"),
  ("bidim", "bidimirrored"), ("ci", "caseignorable"), ("cwcf", "changeswhencasefolded"),
  ("cwcm", "changeswhencasemapped"), ("cwl", "changeswhenlowercased"),
  ("cwt", "changeswhentitlecased"), ("cwu", "changeswhenuppercased"),
  ("dep", "deprecated"), ("di", "defaultignorablecodepoint"), ("dia", "diacritic"),
  ("ebase", "emojimodifierbase"), ("ecomp", "emojicomponent"), ("emod", "emojimodifier"),
  ("epres", "emojipresentation"), ("ext", "extender"), ("extpict", "extendedpictographic"),
  ("grbase", "graphemebase"), ("grext", "graphemeextend"), ("grlink", "graphemelink"),
  ("hex", "hexdigit"), ("idc", "idcontinue"), ("ideo", "ideographic"), ("ids", "idstart"),
  ("idsb", "idsbinaryoperator"), ("idst", "idstrinaryoperator"), ("idsu", "idsunaryoperator"),
  ("joinc", "joincontrol"), ("loe", "logicalorderexception"), ("lower", "lowercase"),
  ("mcm", "modifiercombiningmark"), ("nchar", "noncharactercodepoint"),
  ("oalpha", "otheralphabetic"), ("odi", "otherdefaultignorablecodepoint"),
  ("ogrext", "othergraphemeextend"), ("oidc", "otheridcontinue"), ("oids", "otheridstart"),
  ("olower", "otherlowercase"), ("omath", "othermath"), ("oupper", "otheruppercase"),
  ("patsyn", "patternsyntax"), ("patws", "patternwhitespace"),
  ("pcm", "prependedconcatenationmark"), ("qmark", "quotationmark"),
  ("ri", "regionalindicator"), ("sd", "softdotted"), ("space", "whitespace"),
  ("sterm", "sentenceterminal"), ("term", "terminalpunctuation"), ("uideo", "unifiedideograph"),
  ("upper", "uppercase"), ("vs", "variationselector"), ("wspace", "whitespace"),
  ("xidc", "xidcontinue"), ("xids", "xidstart")]

/-- The categories with the names that they go by. -/
def categoryNames : List (String × List String) := [
  ("Cc", ["cc", "control", "cntrl"]), ("Cf", ["cf", "format"]),
  ("Co", ["co", "privateuse"]), ("Ll", ["ll", "lowercaseletter"]),
  ("Lm", ["lm", "modifierletter"]), ("Lo", ["lo", "otherletter"]),
  ("Lt", ["lt", "titlecaseletter"]), ("Lu", ["lu", "uppercaseletter"]),
  ("Mc", ["mc", "spacingmark"]), ("Me", ["me", "enclosingmark"]),
  ("Mn", ["mn", "nonspacingmark"]), ("Nd", ["nd", "decimalnumber", "digit"]),
  ("Nl", ["nl", "letternumber"]), ("No", ["no", "othernumber"]),
  ("Pc", ["pc", "connectorpunctuation"]), ("Pd", ["pd", "dashpunctuation"]),
  ("Pe", ["pe", "closepunctuation"]), ("Pf", ["pf", "finalpunctuation"]),
  ("Pi", ["pi", "initialpunctuation"]), ("Po", ["po", "otherpunctuation"]),
  ("Ps", ["ps", "openpunctuation"]), ("Sc", ["sc", "currencysymbol"]),
  ("Sk", ["sk", "modifiersymbol"]), ("Sm", ["sm", "mathsymbol"]),
  ("So", ["so", "othersymbol"]), ("Zl", ["zl", "lineseparator"]),
  ("Zp", ["zp", "paragraphseparator"]), ("Zs", ["zs", "spaceseparator"])]

/-- A category or a group of categories. The surrogates are none: no text holds them. -/
def namedCategory? (name : String) : Option Ranges :=
  match name with
  | "any" => some [(0, Ranges.last)]
  | "ascii" => some [(0, 0x7F)]
  | "assigned" => some (Ranges.complement unassigned)
  | "cn" | "unassigned" => some unassigned
  | "c" | "other" => some (Ranges.union (categories ["Cc", "Cf", "Co"]) unassigned)
  | "l" | "letter" => some (categories ["Lu", "Ll", "Lt", "Lm", "Lo"])
  | "lc" | "casedletter" => some (categories ["Lu", "Ll", "Lt"])
  | "m" | "mark" | "combiningmark" => some (categories ["Mn", "Mc", "Me"])
  | "n" | "number" => some (categories ["Nd", "Nl", "No"])
  | "p" | "punctuation" | "punct" =>
    some (categories ["Pc", "Pd", "Ps", "Pe", "Pi", "Pf", "Po"])
  | "s" | "symbol" => some (categories ["Sm", "Sc", "Sk", "So"])
  | "z" | "separator" => some (categories ["Zs", "Zl", "Zp"])
  | name => (categoryNames.find? (·.2.contains name)).map fun (code, _) => category code

/-- The set of a trait, a category or a script. Three abbreviations are those of categories and of
properties too: they stand for the categories. -/
def named? (name : String) : Option Ranges :=
  let name := plainName name
  let trait := if ["cf", "sc", "lc"].contains name then none
    else trait? ((traitAliases.lookup name).getD name)
  (trait.or (namedCategory? name)).or (script? name)

def ageNamed? (name : String) : Option Ranges :=
  match ageTexts.find? fun (version, _) =>
    name = version || name.toList = 'v' :: version.toList.filter (· ≠ '.') with
  | some (version, _) => ofAge? version
  | none => none

def graphemeBreakAliases : List (String × String) := [
  ("cn", "control"), ("ex", "extend"), ("pp", "prepend"), ("ri", "regionalindicator"),
  ("sm", "spacingmark")]

def wordBreakAliases : List (String × String) := [
  ("dq", "doublequote"), ("ex", "extendnumlet"), ("fo", "format"), ("hl", "hebrewletter"),
  ("ka", "katakana"), ("le", "aletter"), ("mb", "midnumlet"), ("ml", "midletter"),
  ("mn", "midnum"), ("nl", "newline"), ("nu", "numeric"), ("ri", "regionalindicator"),
  ("sq", "singlequote")]

def sentenceBreakAliases : List (String × String) := [
  ("at", "aterm"), ("cl", "close"), ("ex", "extend"), ("fo", "format"), ("le", "oletter"),
  ("lo", "lower"), ("nu", "numeric"), ("sc", "scontinue"), ("se", "sep"), ("st", "sterm"),
  ("up", "upper")]

/-- The set of what has a value under a property. -/
def valued? (property value : String) : Option Ranges :=
  let value := plainName value
  match plainName property with
  | "gc" | "generalcategory" => namedCategory? value
  | "sc" | "script" => script? value
  | "scx" | "scriptextensions" => scriptExtension? value
  | "age" => ageNamed? value
  | "gcb" | "graphemeclusterbreak" =>
    graphemeBreak? ((graphemeBreakAliases.lookup value).getD value)
  | "wb" | "wordbreak" => wordBreak? ((wordBreakAliases.lookup value).getD value)
  | "sb" | "sentencebreak" => sentenceBreak? ((sentenceBreakAliases.lookup value).getD value)
  | _ => none

/-- What the shorthand of a pattern for digits stands for. -/
def digits : Ranges := category "Nd"

/-- What the shorthand for blanks stands for. -/
def blanks : Ranges := givenTrait "whitespace"

/-- Letters, marks, digits, connectors and the two joiners. -/
def wordCharacters : Ranges :=
  Ranges.unions [alphabetic, categories ["Mn", "Mc", "Me", "Nd", "Pc"], givenTrait "joincontrol"]

end Telemetry.Character
