import Shading.Regex.CharSet
import Shading.Text
import Shading.Unicode.Age
import Shading.Unicode.PropertyList
import Shading.Unicode.ScriptExtension
import Shading.Unicode.TextBreak

set_option autoImplicit false

namespace Shading.CharSet

open Unicode (Category)

-- A property name with what does not count removed: case, blanks, `-`, `_` and a leading `is`. The
-- name `isc` is not the category `c`.
def canonicalName (name : List Char) : List Char :=
  let plain (s : List Char) : List Char :=
    (s.filter fun c => c.toNat < 128 && c != ' ' && c != '_' && c != '-').map Char.toLower
  match name with
  | i :: s :: rest =>
      if i.toLower = 'i' && s.toLower = 's' then
        if plain rest = ['c'] then ['i', 's', 'c'] else plain rest
      else plain name
  | _ => plain name

def named? {α : Type} (table : List (List String × α)) (name : List Char) : Option α :=
  (table.find? fun (names, _) => names.any fun n => n.toList == name).map (·.2)

def unionOf (sets : List CharSet) : CharSet := sets.foldr union empty

def categoryNames : List (List String × List Category) := [
  (["lu", "uppercaseletter"], [.lu]), (["ll", "lowercaseletter"], [.ll]),
  (["lt", "titlecaseletter"], [.lt]), (["lm", "modifierletter"], [.lm]),
  (["lo", "otherletter"], [.lo]), (["mn", "nonspacingmark"], [.mn]),
  (["mc", "spacingmark"], [.mc]), (["me", "enclosingmark"], [.me]),
  (["nd", "decimalnumber", "digit"], [.nd]), (["nl", "letternumber"], [.nl]),
  (["no", "othernumber"], [.no]), (["pc", "connectorpunctuation"], [.pc]),
  (["pd", "dashpunctuation"], [.pd]), (["ps", "openpunctuation"], [.ps]),
  (["pe", "closepunctuation"], [.pe]), (["pi", "initialpunctuation"], [.pi]),
  (["pf", "finalpunctuation"], [.pf]), (["po", "otherpunctuation"], [.po]),
  (["sm", "mathsymbol"], [.sm]), (["sc", "currencysymbol"], [.sc]),
  (["sk", "modifiersymbol"], [.sk]), (["so", "othersymbol"], [.so]),
  (["zs", "spaceseparator"], [.zs]), (["zl", "lineseparator"], [.zl]),
  (["zp", "paragraphseparator"], [.zp]), (["cc", "control", "cntrl"], [.cc]),
  (["cf", "format"], [.cf]), (["co", "privateuse"], [.co]), (["cn", "unassigned"], [.cn]),
  (["lc", "casedletter"], [.lu, .ll, .lt]), (["l", "letter"], [.lu, .ll, .lt, .lm, .lo]),
  (["m", "mark", "combiningmark"], [.mn, .mc, .me]), (["n", "number"], [.nd, .nl, .no]),
  (["p", "punctuation", "punct"], [.pc, .pd, .ps, .pe, .pi, .pf, .po]),
  (["s", "symbol"], [.sm, .sc, .sk, .so]), (["z", "separator"], [.zs, .zl, .zp]),
  (["c", "other"], [.cc, .cf, .co, .cn])]

-- A general category, a group of them, or one of the sets `Any`, `Assigned` and `ASCII`.
def ofCategoryName? (name : List Char) : Option CharSet :=
  if name = "any".toList then some all
  else if name = "assigned".toList then some (compl (categories [.cn]))
  else if name = "ascii".toList then some (ranges [(0, 127)])
  else (named? categoryNames name).map categories

def script? (name : List Char) : Option Unicode.Script :=
  Unicode.scripts.find? fun s => s.names.any fun n => canonicalName n.toList == name

def ofScriptName? (name : List Char) : Option CharSet := (script? name).map fun s => ranges s.ranges

def ofScriptExtension? (name : List Char) : Option CharSet :=
  (script? name).map fun s =>
    let listed := Unicode.scriptRuns.map fun run => (run.first, run.last)
    let used := Unicode.scriptRuns.filter fun run => s.names.any run.scripts.contains
    union (diff (ranges s.ranges) (ranges listed)) (ranges (used.map fun run => (run.first, run.last)))

def ofAge? (name : List Char) : Option CharSet :=
  let (before, rest) := Unicode.ages.span fun (names, _) => !(names.any fun n => n.toList == name)
  rest.head?.map fun (_, added) => ranges (before.flatMap (·.2) ++ added)

def lowercase : CharSet := union (categories [.ll]) (ranges Unicode.otherLowercase)

def uppercase : CharSet := union (categories [.lu]) (ranges Unicode.otherUppercase)

def caseIgnorable : CharSet :=
  unionOf [categories [.mn, .me, .cf, .lm, .sk], ranges Unicode.midLetters, ranges Unicode.midNumLetters,
    single '\'']

def caseFolding : CharSet := ranges (Unicode.foldingRuns.flatMap Unicode.FoldingRun.folded)

def changesWhenCasefolded : CharSet :=
  union (diff caseFolding (ranges [(0x1FBE, 0x1FBE)])) (ranges [
    (0xDF, 0xDF), (0x130, 0x130), (0x149, 0x149), (0x587, 0x587), (0x1E9A, 0x1E9A), (0x1F80, 0x1F87),
    (0x1F90, 0x1F97), (0x1FA0, 0x1FA7), (0x1FB2, 0x1FB4), (0x1FB7, 0x1FB7), (0x1FC2, 0x1FC4),
    (0x1FC7, 0x1FC7), (0x1FF2, 0x1FF4), (0x1FF7, 0x1FF7), (0xFB00, 0xFB06), (0xFB13, 0xFB17)])

def changesWhenLowercased : CharSet :=
  union (inter caseFolding (union uppercase (categories [.lt]))) (ranges [(0x130, 0x130), (0x13A0, 0x13F5)])

def changesWhenUppercased : CharSet :=
  union (diff (ranges (Unicode.foldingRuns.flatMap Unicode.FoldingRun.targets)) (ranges [(0x13A0, 0x13F5)]))
    (ranges [
      (0xB5, 0xB5), (0x131, 0x131), (0x149, 0x149), (0x17F, 0x17F), (0x1C5, 0x1C5), (0x1C8, 0x1C8),
      (0x1CB, 0x1CB), (0x1F0, 0x1F0), (0x1F2, 0x1F2), (0x345, 0x345), (0x390, 0x390), (0x3B0, 0x3B0),
      (0x3C2, 0x3C2), (0x3D0, 0x3D1), (0x3D5, 0x3D6), (0x3F0, 0x3F1), (0x3F5, 0x3F5), (0x587, 0x587),
      (0x13F8, 0x13FD), (0x1C80, 0x1C88), (0x1E96, 0x1E9B), (0x1F50, 0x1F50), (0x1F52, 0x1F52),
      (0x1F54, 0x1F54), (0x1F56, 0x1F56), (0x1F88, 0x1F8F), (0x1F98, 0x1F9F), (0x1FA8, 0x1FAF),
      (0x1FB2, 0x1FB2), (0x1FB4, 0x1FB4), (0x1FB6, 0x1FB7), (0x1FBC, 0x1FBC), (0x1FBE, 0x1FBE),
      (0x1FC2, 0x1FC2), (0x1FC4, 0x1FC4), (0x1FC6, 0x1FC7), (0x1FCC, 0x1FCC), (0x1FD2, 0x1FD3),
      (0x1FD6, 0x1FD7), (0x1FE2, 0x1FE4), (0x1FE6, 0x1FE7), (0x1FF2, 0x1FF2), (0x1FF4, 0x1FF4),
      (0x1FF6, 0x1FF7), (0x1FFC, 0x1FFC), (0xAB70, 0xABBF), (0xFB00, 0xFB06), (0xFB13, 0xFB17)])

def changesWhenTitlecased : CharSet :=
  union (ranges [(0x1C4, 0x1C4), (0x1C7, 0x1C7), (0x1CA, 0x1CA), (0x1F1, 0x1F1)])
    (diff changesWhenUppercased (ranges [
      (0x1C5, 0x1C5), (0x1C8, 0x1C8), (0x1CB, 0x1CB), (0x1F2, 0x1F2), (0x10D0, 0x10FA), (0x10FD, 0x10FF),
      (0x1F88, 0x1F8F), (0x1F98, 0x1F9F), (0x1FA8, 0x1FAF), (0x1FBC, 0x1FBC), (0x1FCC, 0x1FCC),
      (0x1FFC, 0x1FFC)]))

def graphemeExtend : CharSet := union (categories [.me, .mn]) (ranges Unicode.otherGraphemeExtend)

def idStart : CharSet :=
  diff (union (categories [.lu, .ll, .lt, .lm, .lo, .nl]) (ranges Unicode.otherIdStart))
    (union (ranges Unicode.patternSyntax) (ranges Unicode.patternBlanks))

def idContinue : CharSet :=
  unionOf [idStart, categories [.mn, .mc, .nd, .pc], ranges Unicode.otherIdContinue]

def defaultIgnorable : CharSet :=
  union (ranges Unicode.otherDefaultIgnorable)
    (diff (union (categories [.cf]) (ranges Unicode.variationSelectors)) (ranges Unicode.visibleFormat))

def binaryProperties : List (List String × CharSet) := [
  (["asciihexdigit", "ahex"], ranges Unicode.asciiHexDigits),
  (["alphabetic", "alpha"], alphabetic),
  (["bidicontrol", "bidic"], ranges Unicode.bidiControls),
  (["bidimirrored", "bidim"], ranges Unicode.bidiMirrored),
  (["caseignorable", "ci"], caseIgnorable),
  (["cased"], unionOf [lowercase, uppercase, categories [.lt]]),
  (["changeswhencasefolded", "cwcf"], changesWhenCasefolded),
  (["changeswhencasemapped", "cwcm"],
    unionOf [changesWhenLowercased, changesWhenUppercased, changesWhenTitlecased]),
  (["changeswhenlowercased", "cwl"], changesWhenLowercased),
  (["changeswhentitlecased", "cwt"], changesWhenTitlecased),
  (["changeswhenuppercased", "cwu"], changesWhenUppercased),
  (["dash"], ranges Unicode.dashes),
  (["defaultignorablecodepoint", "di"], defaultIgnorable),
  (["deprecated", "dep"], ranges Unicode.deprecated),
  (["diacritic", "dia"], ranges Unicode.diacritics),
  (["emoji"], ranges Unicode.emoji),
  (["emojicomponent", "ecomp"], ranges Unicode.emojiComponents),
  (["emojimodifier", "emod"], ranges Unicode.emojiModifiers),
  (["emojimodifierbase", "ebase"], ranges Unicode.emojiModifierBases),
  (["emojipresentation", "epres"], ranges Unicode.emojiPresentation),
  (["extendedpictographic", "extpict"], ranges Unicode.extendedPictographic),
  (["extender", "ext"], ranges Unicode.extenders),
  (["graphemebase", "grbase"],
    compl (union (categories [.cc, .cf, .cs, .co, .cn, .zl, .zp]) graphemeExtend)),
  (["graphemeextend", "grext"], graphemeExtend),
  (["hexdigit", "hex"], ranges Unicode.hexDigits),
  (["idsbinaryoperator", "idsb"], ranges Unicode.binaryIdeographOperators),
  (["idstrinaryoperator", "idst"], ranges Unicode.ternaryIdeographOperators),
  (["idcontinue", "idc"], idContinue),
  (["idstart", "ids"], idStart),
  (["ideographic", "ideo"], ranges Unicode.ideographic),
  (["joincontrol", "joinc"], ranges Unicode.joinControls),
  (["logicalorderexception", "loe"], ranges Unicode.logicalOrderExceptions),
  (["lowercase", "lower"], lowercase),
  (["math"], union (categories [.sm]) (ranges Unicode.otherMath)),
  (["noncharactercodepoint", "nchar"], ranges Unicode.noncharacters),
  (["patternsyntax", "patsyn"], ranges Unicode.patternSyntax),
  (["patternwhitespace", "patws"], ranges Unicode.patternBlanks),
  (["prependedconcatenationmark", "pcm"], ranges Unicode.prependedMarks),
  (["quotationmark", "qmark"], ranges Unicode.quotationMarks),
  (["radical"], ranges Unicode.radicals),
  (["regionalindicator", "ri"], ranges Unicode.regionalIndicators),
  (["sentenceterminal", "sterm"], ranges Unicode.sentenceTerminals),
  (["softdotted", "sd"], ranges Unicode.softDotted),
  (["terminalpunctuation", "term"], ranges Unicode.terminalPunctuation),
  (["unifiedideograph", "uideo"], ranges Unicode.unifiedIdeographs),
  (["uppercase", "upper"], uppercase),
  (["variationselector", "vs"], ranges Unicode.variationSelectors),
  (["whitespace", "wspace", "space"], blank),
  (["xidcontinue", "xidc"], diff idContinue (ranges Unicode.unstableIdContinue)),
  (["xidstart", "xids"], diff idStart (ranges Unicode.unstableIdStart))]

-- Hangul syllables begin at `0xAC00`, 28 for each pair of a leading consonant and a vowel, the first of
-- them without a trailing consonant.
def openSyllables : CharSet := ranges ((List.range 399).map fun k => (0xAC00 + 28 * k, 0xAC00 + 28 * k))

def graphemeBreaks : List (List String × CharSet) := [
  (["cr"], single '\r'),
  (["lf"], single '\n'),
  (["cn", "control"],
    union (ranges Unicode.unassignedControls) (diff (categories [.zl, .zp, .cc, .cf])
      (unionOf [ranges [(0xA, 0xA), (0xD, 0xD)], ranges Unicode.plainFormat, ranges Unicode.prependedMarks]))),
  (["ex", "extend"], union graphemeExtend (ranges Unicode.emojiModifiers)),
  (["zwj"], ranges [(0x200D, 0x200D)]),
  (["ri", "regionalindicator"], ranges Unicode.regionalIndicators),
  (["pp", "prepend"], union (ranges Unicode.prependedMarks) (ranges Unicode.otherPrepended)),
  (["sm", "spacingmark"],
    union (ranges Unicode.otherSpacingMarks)
      (diff (categories [.mc]) (union graphemeExtend (ranges Unicode.plainSpacingMarks)))),
  (["l"], ranges Unicode.leadingJamo),
  (["v"], ranges Unicode.vowelJamo),
  (["t"], ranges Unicode.trailingJamo),
  (["lv"], openSyllables),
  (["lvt"], diff (ranges [(0xAC00, 0xD7A3)]) openSyllables)]

def wordExtend : CharSet := unionOf [graphemeExtend, categories [.mc], ranges Unicode.emojiModifiers]

def wordFormat : CharSet := diff (categories [.cf]) (ranges [(0x200B, 0x200D), (0xE0020, 0xE007F)])

def wordHebrew : CharSet := inter ((ofScriptName? "hebr".toList).getD empty) (categories [.lo])

def wordKatakana : CharSet :=
  union ((ofScriptName? "kana".toList).getD empty) (ranges Unicode.otherWordKatakana)

def wordLetters : CharSet :=
  union (ranges Unicode.otherWordLetters) (diff alphabetic
    (unionOf [ranges Unicode.ideographic, wordKatakana, wordHebrew, wordExtend,
      (ofScriptName? "hira".toList).getD empty, ranges Unicode.dictionaryLetters]))

def wordBreaks : List (List String × CharSet) := [
  (["cr"], single '\r'),
  (["lf"], single '\n'),
  (["nl", "newline"], ranges Unicode.wordNewlines),
  (["extend"], wordExtend),
  (["zwj"], ranges [(0x200D, 0x200D)]),
  (["fo", "format"], wordFormat),
  (["ka", "katakana"], wordKatakana),
  (["hl", "hebrewletter"], wordHebrew),
  (["le", "aletter"], wordLetters),
  (["sq", "singlequote"], single '\''),
  (["dq", "doublequote"], single '"'),
  (["mb", "midnumlet"], ranges Unicode.midNumLetters),
  (["ml", "midletter"], ranges Unicode.midLetters),
  (["mn", "midnum"], ranges Unicode.midNumbers),
  (["nu", "numeric"], union (categories [.nd]) (ranges [(0x66B, 0x66B)])),
  (["ex", "extendnumlet"], union (categories [.pc]) (ranges [(0x202F, 0x202F)])),
  (["wsegspace"], ranges Unicode.wordSpaces),
  (["ri", "regionalindicator"], ranges Unicode.regionalIndicators)]

def sentenceExtend : CharSet := unionOf [graphemeExtend, categories [.mc], ranges [(0x200D, 0x200D)]]

def sentenceLower : CharSet := diff lowercase (ranges [(0x345, 0x345), (0x10D0, 0x10FA), (0x10FD, 0x10FF)])

def sentenceUpper : CharSet :=
  diff (union uppercase (categories [.lt])) (ranges [(0x1C90, 0x1CBA), (0x1CBD, 0x1CBF)])

def sentenceBreaks : List (List String × CharSet) := [
  (["cr"], single '\r'),
  (["lf"], single '\n'),
  (["ex", "extend"], sentenceExtend),
  (["se", "sep"], ranges [(0x85, 0x85), (0x2028, 0x2029)]),
  (["fo", "format"], diff (categories [.cf]) (ranges [(0x200C, 0x200D), (0xE0020, 0xE007F)])),
  (["sp"], diff blank (ranges [(0xA, 0xA), (0xD, 0xD), (0x85, 0x85), (0x2028, 0x2029)])),
  (["lo", "lower"], sentenceLower),
  (["up", "upper"], sentenceUpper),
  (["le", "oletter"],
    union (ranges [(0x5F3, 0x5F3)]) (diff alphabetic (unionOf [sentenceLower, sentenceUpper, sentenceExtend]))),
  (["nu", "numeric"], union (categories [.nd]) (ranges [(0x66B, 0x66C)])),
  (["at", "aterm"], ranges Unicode.fullStops),
  (["sc", "scontinue"], ranges Unicode.sentenceContinuations),
  (["st", "sterm"], diff (ranges Unicode.sentenceTerminals) (ranges Unicode.fullStops)),
  (["cl", "close"],
    union (ranges Unicode.otherClosing) (diff (union (categories [.ps, .pe, .pi, .pf]) (ranges Unicode.quotationMarks))
      (ranges Unicode.plainQuotationMarks)))]

def ofPropertyName? (name : List Char) : Option CharSet :=
  let canonical := canonicalName name
  (named? binaryProperties canonical).orElse fun _ =>
    (ofCategoryName? canonical).orElse fun _ => ofScriptName? canonical

def ofPropertyValue? (property value : List Char) : Option CharSet :=
  let property := canonicalName property
  let value := canonicalName value
  let isNamed (names : List String) : Bool := names.any fun n => n.toList == property
  if isNamed ["gc", "generalcategory"] then ofCategoryName? value
  else if isNamed ["sc", "script"] then ofScriptName? value
  else if isNamed ["scx", "scriptextensions"] then ofScriptExtension? value
  else if isNamed ["age"] then ofAge? value
  else if isNamed ["gcb", "graphemeclusterbreak"] then named? graphemeBreaks value
  else if isNamed ["wb", "wordbreak"] then named? wordBreaks value
  else if isNamed ["sb", "sentencebreak"] then named? sentenceBreaks value
  else none

-- What is written between the braces of `\p{…}`: whether the characters outside the set are meant, and
-- the set.
def ofName? (name : Text) : Option (Bool × CharSet) :=
  let valued (separator : Char) : Option (Bool × CharSet) :=
    (Text.cutAt? separator name).bind fun (property, value) =>
      (ofPropertyValue? property value).map (false, ·)
  match Text.cutAt? '!' name with
  | some (property, '=' :: value) => (ofPropertyValue? property value).map (true, ·)
  | _ =>
      if name.contains ':' then valued ':'
      else if name.contains '=' then valued '='
      else (ofPropertyName? name).map (false, ·)

end Shading.CharSet
