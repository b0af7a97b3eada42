import Descent.Unicode.Age
import Descent.Unicode.CaseChange
import Descent.Unicode.ScriptExtension
import Descent.Unicode.Segmentation

/-!
Sets of symbols by the names of properties: general categories, scripts, ages, the properties of
segmentation, and properties that hold or do not. Names are compared loosely: case, blanks, hyphens,
underscores and a leading `is` do not count.
-/

namespace Descent.Unicode.Property

/-- A name in the form in which names are compared. What is left of `isc` is kept as it is, since
it would be the name of a category otherwise. -/
def looseName (name : Text) : String :=
  let plain (name : Text) : Text :=
    (name.filter fun symbol =>
      symbol ≤ '\x7F' && symbol != ' ' && symbol != '_' && symbol != '-').map Char.toLower
  match name with
  | first :: second :: rest =>
    if first.toLower == 'i' && second.toLower == 's' then
      let rest := plain rest
      if rest == ['c'] then "isc" else .ofList rest
    else .ofList (plain name)
  | _ => .ofList (plain name)

def category? (name : String) : Option Ranges :=
  match name with
  | "any" => some (.between 0 0x10FFFF)
  | "ascii" => some (.between 0 0x7F)
  | "assigned" => some assigned
  | "c" | "other" => some other
  | "cc" | "control" | "cntrl" => some control
  | "cf" | "format" => some format
  | "cn" | "unassigned" => some assigned.compl
  | "co" | "privateuse" => some privateUse
  | "l" | "letter" => some letter
  | "lc" | "casedletter" => some casedLetter
  | "ll" | "lowercaseletter" => some lowercaseLetter
  | "lm" | "modifierletter" => some modifierLetter
  | "lo" | "otherletter" => some otherLetter
  | "lt" | "titlecaseletter" => some titlecaseLetter
  | "lu" | "uppercaseletter" => some uppercaseLetter
  | "m" | "mark" | "combiningmark" => some mark
  | "mc" | "spacingmark" => some spacingMark
  | "me" | "enclosingmark" => some enclosingMark
  | "mn" | "nonspacingmark" => some nonspacingMark
  | "n" | "number" => some number
  | "nd" | "decimalnumber" | "digit" => some decimalNumber
  | "nl" | "letternumber" => some letterNumber
  | "no" | "othernumber" => some otherNumber
  | "p" | "punctuation" | "punct" => some punctuation
  | "pc" | "connectorpunctuation" => some connectorPunctuation
  | "pd" | "dashpunctuation" => some dashPunctuation
  | "pe" | "closepunctuation" => some closePunctuation
  | "pf" | "finalpunctuation" => some finalPunctuation
  | "pi" | "initialpunctuation" => some initialPunctuation
  | "po" | "otherpunctuation" => some otherPunctuation
  | "ps" | "openpunctuation" => some openPunctuation
  | "s" | "symbol" => some symbol
  | "sc" | "currencysymbol" => some currencySymbol
  | "sk" | "modifiersymbol" => some modifierSymbol
  | "sm" | "mathsymbol" => some mathSymbol
  | "so" | "othersymbol" => some otherSymbol
  | "z" | "separator" => some separator
  | "zl" | "lineseparator" => some lineSeparator
  | "zp" | "paragraphseparator" => some paragraphSeparator
  | "zs" | "spaceseparator" => some spaceSeparator
  | _ => none

/-- The values of the property Script. A script goes by several names, the first of which is its
main one. -/
def namedScript? (name : String) : Option (List String × Ranges) :=
  Script.all.find? fun (names, _) => names.contains name

def script? (name : String) : Option Ranges := (namedScript? name).map (·.2)

def scriptExtension? (name : String) : Option Ranges :=
  (namedScript? name).map fun (names, script) => Script.extension (names.headD name) script

/-- The symbols that a version of the standard knows, with a use since that version or an earlier
one. -/
def age? (name : String) : Option Ranges :=
  let isNamed (version : String) : Bool :=
    version == name || "v" ++ String.ofList (version.toList.filter (· != '.')) == name
  match Age.all.span fun (version, _) => !isNamed version with
  | (_, []) => none
  | (earlier, (_, added) :: _) => some (.ofList (earlier.flatMap (·.2) ++ added))

def binary? (name : String) : Option Ranges :=
  match name with
  | "asciihexdigit" | "ahex" => some [(0x30, 0x39), (0x41, 0x46), (0x61, 0x66)]
  | "alphabetic" | "alpha" => some alphabetic
  | "bidicontrol" | "bidic" => some bidiControl
  | "bidimirrored" | "bidim" => some bidiMirrored
  | "caseignorable" | "ci" => some caseIgnorable
  | "cased" => some cased
  | "changeswhencasefolded" | "cwcf" => some changesWhenCasefolded
  | "changeswhencasemapped" | "cwcm" => some changesWhenCasemapped
  | "changeswhenlowercased" | "cwl" => some changesWhenLowercased
  | "changeswhentitlecased" | "cwt" => some changesWhenTitlecased
  | "changeswhenuppercased" | "cwu" => some changesWhenUppercased
  | "dash" => some dash
  | "defaultignorablecodepoint" | "di" => some defaultIgnorable
  | "deprecated" | "dep" => some deprecated
  | "diacritic" | "dia" => some diacritic
  | "emoji" => some emoji
  | "emojicomponent" | "ecomp" => some emojiComponent
  | "emojimodifier" | "emod" => some emojiModifier
  | "emojimodifierbase" | "ebase" => some emojiModifierBase
  | "emojipresentation" | "epres" => some emojiPresentation
  | "extendedpictographic" | "extpict" => some extendedPictographic
  | "extender" | "ext" => some extender
  | "graphemebase" | "grbase" => some graphemeBase
  | "graphemeextend" | "grext" => some graphemeExtend
  | "hexdigit" | "hex" =>
    some [(0x30, 0x39), (0x41, 0x46), (0x61, 0x66), (0xFF10, 0xFF19), (0xFF21, 0xFF26),
      (0xFF41, 0xFF46)]
  | "hyphen" => some hyphen
  | "idcontinue" | "idc" => some idContinue
  | "idstart" | "ids" => some idStart
  | "ideographic" | "ideo" => some ideographic
  | "idsbinaryoperator" | "idsb" => some idsBinaryOperator
  | "idstrinaryoperator" | "idst" => some idsTrinaryOperator
  | "joincontrol" | "joinc" => some joinControl
  | "logicalorderexception" | "loe" => some logicalOrderException
  | "lowercase" | "lower" => some lowercase
  | "math" => some math
  | "noncharactercodepoint" | "nchar" => some noncharacter
  | "otheralphabetic" | "oalpha" => some otherAlphabetic
  | "othergraphemeextend" | "ogrext" => some otherGraphemeExtend
  | "otheridcontinue" | "oidc" => some otherIdContinue
  | "otheridstart" | "oids" => some otherIdStart
  | "otherlowercase" | "olower" => some otherLowercase
  | "othermath" | "omath" => some otherMath
  | "otheruppercase" | "oupper" => some otherUppercase
  | "patternsyntax" | "patsyn" => some patternSyntax
  | "patternwhitespace" | "patws" => some patternWhiteSpace
  | "prependedconcatenationmark" | "pcm" => some prependedConcatenationMark
  | "quotationmark" | "qmark" => some quotationMark
  | "radical" => some radical
  | "regionalindicator" | "ri" => some regionalIndicator
  | "sentenceterminal" | "sterm" => some sentenceTerminal
  | "softdotted" | "sd" => some softDotted
  | "terminalpunctuation" | "term" => some terminalPunctuation
  | "unifiedideograph" | "uideo" => some unifiedIdeograph
  | "uppercase" | "upper" => some uppercase
  | "variationselector" | "vs" => some variationSelector
  | "whitespace" | "wspace" | "space" => some whiteSpace
  | "xidcontinue" | "xidc" => some xidContinue
  | "xidstart" | "xids" => some xidStart
  | _ => none

def named? (name : Text) : Option Ranges :=
  let name := looseName name
  (binary? name).or ((category? name).or (script? name))

def valued? (property value : Text) : Option Ranges :=
  let value := looseName value
  match looseName property with
  | "generalcategory" | "gc" => category? value
  | "script" | "sc" => script? value
  | "scriptextensions" | "scx" => scriptExtension? value
  | "age" => age? value
  | "graphemeclusterbreak" | "gcb" => Segmentation.grapheme? value
  | "wordbreak" | "wb" => Segmentation.word? value
  | "sentencebreak" | "sb" => Segmentation.sentence? value
  | _ => none

end Descent.Unicode.Property
