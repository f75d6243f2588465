import LineTemplate.Text.Basic
import LineTemplate.Unicode.Age
import LineTemplate.Unicode.Identifier
import LineTemplate.Unicode.ScriptExtension
import LineTemplate.Unicode.Segmentation

/-!
# Names of properties

The names by which a pattern refers to properties of characters: general categories and groups of
them, scripts, ages, classes of characters at boundaries, and the properties that a character has or
has not. Case, blanks, `-`, `_` and a leading `is` make no difference in a name.
-/

namespace LineTemplate.Regex

open Unicode

/-- A name of a property with everything removed that makes no difference. -/
def looseName (s : Text) : Text :=
  let kept := (s.filter fun c => c.toNat < 128 && c ≠ ' ' && c ≠ '_' && c ≠ '-').map Char.toLower
  match s, kept with
  | 'i' :: 's' :: _, _ | 'i' :: 'S' :: _, _ | 'I' :: 's' :: _, _ | 'I' :: 'S' :: _, _ =>
    if kept = ['i', 's', 'c'] then kept else kept.drop 2
  | _, _ => kept

def categoryNames : Category → List String
  | .lu => ["lu", "uppercaseletter"]
  | .ll => ["ll", "lowercaseletter"]
  | .lt => ["lt", "titlecaseletter"]
  | .lm => ["lm", "modifierletter"]
  | .lo => ["lo", "otherletter"]
  | .mn => ["mn", "nonspacingmark"]
  | .mc => ["mc", "spacingmark"]
  | .me => ["me", "enclosingmark"]
  | .nd => ["nd", "decimalnumber", "digit"]
  | .nl => ["nl", "letternumber"]
  | .no => ["no", "othernumber"]
  | .pc => ["pc", "connectorpunctuation"]
  | .pd => ["pd", "dashpunctuation"]
  | .ps => ["ps", "openpunctuation"]
  | .pe => ["pe", "closepunctuation"]
  | .pi => ["pi", "initialpunctuation"]
  | .pf => ["pf", "finalpunctuation"]
  | .po => ["po", "otherpunctuation"]
  | .sm => ["sm", "mathsymbol"]
  | .sc => ["sc", "currencysymbol"]
  | .sk => ["sk", "modifiersymbol"]
  | .so => ["so", "othersymbol"]
  | .zs => ["zs", "spaceseparator"]
  | .zl => ["zl", "lineseparator"]
  | .zp => ["zp", "paragraphseparator"]
  | .cc => ["cc", "control", "cntrl"]
  | .cf => ["cf", "format"]
  | .co => ["co", "privateuse"]

/-- The characters of the general category, or of the group of categories, with a loose name. -/
def categoryRanges? (name : String) : Option Ranges :=
  match name with
  | "any" => some .full
  | "ascii" => some [(0, 0x7F)]
  | "assigned" => some assignedRanges
  | "cn" | "unassigned" => some unassignedRanges
  | "c" | "other" => some ((Category.rangesOf [.cc, .cf, .co]).union unassignedRanges)
  | "l" | "letter" => some (Category.rangesOf [.lu, .ll, .lt, .lm, .lo])
  | "lc" | "casedletter" => some (Category.rangesOf [.lu, .ll, .lt])
  | "m" | "mark" | "combiningmark" => some (Category.rangesOf [.mn, .mc, .me])
  | "n" | "number" => some (Category.rangesOf [.nd, .nl, .no])
  | "p" | "punctuation" | "punct" =>
    some (Category.rangesOf [.pc, .pd, .ps, .pe, .pi, .pf, .po])
  | "s" | "symbol" => some (Category.rangesOf [.sm, .sc, .sk, .so])
  | "z" | "separator" => some (Category.rangesOf [.zs, .zl, .zp])
  | _ => (Category.all.find? fun category => (categoryNames category).contains name).map (·.ranges)

/-- The properties that a character has or has not, with their loose names. -/
def properties : List (List String × Ranges) := [
  (["ahex", "asciihexdigit"], asciiHexDigitRanges),
  (["alpha", "alphabetic"], alphabeticRanges),
  (["bidic", "bidicontrol"], bidiControlRanges),
  (["ci", "caseignorable"], caseIgnorableRanges),
  (["cased"], casedRanges),
  (["cwcf", "changeswhencasefolded"], changedByFoldingRanges),
  (["cwcm", "changeswhencasemapped"], changedByCasingRanges),
  (["cwl", "changeswhenlowercased"], changedByLowercaseRanges),
  (["cwt", "changeswhentitlecased"], changedByTitlecaseRanges),
  (["cwu", "changeswhenuppercased"], changedByUppercaseRanges),
  (["dash"], dashRanges),
  (["dep", "deprecated"], deprecatedRanges),
  (["di", "defaultignorablecodepoint"], ignorableRanges),
  (["dia", "diacritic"], diacriticRanges),
  (["ebase", "emojimodifierbase"], emojiModifierBaseRanges),
  (["ecomp", "emojicomponent"], emojiComponentRanges),
  (["emod", "emojimodifier"], emojiModifierRanges),
  (["emoji"], emojiRanges),
  (["epres", "emojipresentation"], emojiPresentationRanges),
  (["ext", "extender"], extenderRanges),
  (["extpict", "extendedpictographic"], pictographRanges),
  (["grbase", "graphemebase"], graphemeBaseRanges),
  (["grext", "graphemeextend"], joiningRanges),
  (["grlink", "graphemelink"], graphemeLinkRanges),
  (["hex", "hexdigit"], hexDigitRanges),
  (["hyphen"], hyphenRanges),
  (["idc", "idcontinue"], idContinueRanges),
  (["idcompatmathcontinue"], mathIdContinueRanges),
  (["idcompatmathstart"], mathIdStartRanges),
  (["ideo", "ideographic"], ideographicRanges),
  (["ids", "idstart"], idStartRanges),
  (["idsb", "idsbinaryoperator"], binaryDescriptionRanges),
  (["idst", "idstrinaryoperator"], trinaryDescriptionRanges),
  (["idsu", "idsunaryoperator"], unaryDescriptionRanges),
  (["joinc", "joincontrol"], joinControlRanges),
  (["loe", "logicalorderexception"], logicalOrderExceptionRanges),
  (["lower", "lowercase"], lowercaseRanges),
  (["math"], mathRanges),
  (["mcm", "modifiercombiningmark"], modifierCombiningMarkRanges),
  (["nchar", "noncharactercodepoint"], noncharacterRanges),
  (["oalpha", "otheralphabetic"], otherAlphabeticRanges),
  (["odi", "otherdefaultignorablecodepoint"], otherIgnorableRanges),
  (["ogrext", "othergraphemeextend"], otherGraphemeExtendRanges),
  (["oidc", "otheridcontinue"], otherIdContinueRanges),
  (["oids", "otheridstart"], otherIdStartRanges),
  (["olower", "otherlowercase"], otherLowercaseRanges),
  (["omath", "othermath"], otherMathRanges),
  (["oupper", "otheruppercase"], otherUppercaseRanges),
  (["patsyn", "patternsyntax"], patternSyntaxRanges),
  (["patws", "patternwhitespace"], patternBlankRanges),
  (["pcm", "prependedconcatenationmark"], prependedMarkRanges),
  (["qmark", "quotationmark"], quotationMarkRanges),
  (["radical"], radicalRanges),
  (["ri", "regionalindicator"], regionalIndicatorRanges),
  (["sd", "softdotted"], softDottedRanges),
  (["sterm", "sentenceterminal"], sentenceTerminalRanges),
  (["term", "terminalpunctuation"], terminalPunctuationRanges),
  (["uideo", "unifiedideograph"], unifiedIdeographRanges),
  (["upper", "uppercase"], uppercaseRanges),
  (["vs", "variationselector"], variationSelectorRanges),
  (["wspace", "whitespace", "space"], blankRanges),
  (["xidc", "xidcontinue"], xidContinueRanges),
  (["xids", "xidstart"], xidStartRanges)]

/-- The characters that have the property with a loose name. -/
def binaryRanges? (name : String) : Option Ranges :=
  (properties.find? fun (names, _) => names.contains name).map (·.2)

/-- The characters that the name of a property, a category or a script stands for. -/
def propertyRanges? (name : Text) : Option Ranges :=
  let name := (looseName name).str
  ((binaryRanges? name).or (categoryRanges? name)).or ((script? name).map (·.ranges))

/-- The characters whose property has a value. -/
def valueRanges? (property value : Text) : Option Ranges :=
  let value := (looseName value).str
  match (looseName property).str with
  | "gc" | "generalcategory" => categoryRanges? value
  | "sc" | "script" => (script? value).map (·.ranges)
  | "scx" | "scriptextensions" => (script? value).map (·.extendedRanges)
  | "age" => assignedBy? value
  | "gcb" | "graphemeclusterbreak" => breakClass? graphemeBreaks value
  | "wb" | "wordbreak" => breakClass? wordBreaks value
  | "sb" | "sentencebreak" => breakClass? sentenceBreaks value
  | _ => none

end LineTemplate.Regex
