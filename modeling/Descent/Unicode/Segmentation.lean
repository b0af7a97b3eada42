import Descent.Unicode.Class
import Descent.Unicode.Emoji
import Descent.Unicode.Script
import Descent.Unicode.Usage

/-!
How symbols take part in the division of text into characters as readers see them, words and
sentences. Every property here gives each symbol one value; symbols without a part have no value
with a name here.
-/

namespace Descent.Unicode.Segmentation

private def zeroWidthJoiner : Ranges := [(0x200D, 0x200D)]

/-- The syllables of Hangul: 28 for every pair of an initial consonant and a vowel, the first of
them without a final consonant. -/
private def hangulSyllables : Ranges := [(0xAC00, 0xD7A3)]

private def openSyllables : Ranges := .ofRuns [(0xAC00, 0xD788, 28)]

private def graphemeExtension : Ranges := (graphemeExtend.union emojiModifier).diff zeroWidthJoiner

private def prepended : Ranges :=
  prependedConcatenationMark.union [
    (0xD4E, 0xD4E), (0x111C2, 0x111C3), (0x113D1, 0x113D1), (0x1193F, 0x1193F), (0x11941, 0x11941),
    (0x11A3A, 0x11A3A), (0x11A84, 0x11A89), (0x11D46, 0x11D46), (0x11F02, 0x11F02)]

private def looseMarks : Ranges := [
  (0x102B, 0x102C), (0x1038, 0x1038), (0x1062, 0x1064), (0x1067, 0x106D), (0x1083, 0x1083),
  (0x1087, 0x108C), (0x108F, 0x108F), (0x109A, 0x109C), (0x1A61, 0x1A61), (0x1A63, 0x1A64),
  (0xAA7B, 0xAA7B), (0xAA7D, 0xAA7D), (0x11720, 0x11721)]

/-- Controls: separators, formats and what is ignored by default, unless it takes another part. -/
private def controls : Ranges :=
  let ignored := defaultIgnorable.diff assigned
  let parts := prependedConcatenationMark.union (graphemeExtension.union zeroWidthJoiner)
  (Ranges.ofList (lineSeparator ++ paragraphSeparator ++ control ++ format ++ ignored)).diff
    (parts.union [(0xA, 0xA), (0xD, 0xD)])

def grapheme? (value : String) : Option Ranges :=
  match value with
  | "cr" => some [(0xD, 0xD)]
  | "lf" => some [(0xA, 0xA)]
  | "control" | "cn" => some controls
  | "extend" | "ex" => some graphemeExtension
  | "zwj" => some zeroWidthJoiner
  | "regionalindicator" | "ri" => some regionalIndicator
  | "prepend" | "pp" => some prepended
  | "spacingmark" | "sm" =>
    some ((spacingMark.union [(0xE33, 0xE33), (0xEB3, 0xEB3)]).diff
      (graphemeExtension.union looseMarks))
  | "l" => some [(0x1100, 0x115F), (0xA960, 0xA97C)]
  | "v" => some [(0x1160, 0x11A7), (0xD7B0, 0xD7C6), (0x16D63, 0x16D63), (0x16D67, 0x16D6A)]
  | "t" => some [(0x11A8, 0x11FF), (0xD7CB, 0xD7FB)]
  | "lv" => some openSyllables
  | "lvt" => some (hangulSyllables.diff openSyllables)
  | _ => none

private def extension : Ranges := graphemeExtend.union spacingMark

/-- Signs before numbers, which count as digits. -/
private def numberSigns : Ranges := prependedConcatenationMark.diff [(0x70F, 0x70F)]

private def katakana : Ranges :=
  Script.katakana.union [
    (0x3031, 0x3035), (0x309B, 0x309C), (0x30A0, 0x30A0), (0x30FC, 0x30FC), (0xFF70, 0xFF70)]

private def hebrewLetter : Ranges := Script.hebrew.inter otherLetter

/-- Letters of scripts that do not divide words by blanks. -/
private def unspacedLetter : Ranges := [
  (0xE01, 0xE30), (0xE32, 0xE33), (0xE40, 0xE46), (0xE81, 0xE82), (0xE84, 0xE84), (0xE86, 0xE8A),
  (0xE8C, 0xEA3), (0xEA5, 0xEA5), (0xEA7, 0xEB0), (0xEB2, 0xEB3), (0xEBD, 0xEBD), (0xEC0, 0xEC4),
  (0xEC6, 0xEC6), (0xEDC, 0xEDF), (0x1000, 0x102A), (0x103F, 0x103F), (0x1050, 0x1055),
  (0x105A, 0x105D), (0x1061, 0x1061), (0x1065, 0x1066), (0x106E, 0x1070), (0x1075, 0x1081),
  (0x108E, 0x108E), (0x1780, 0x17B3), (0x17D7, 0x17D7), (0x17DC, 0x17DC), (0x1950, 0x196D),
  (0x1970, 0x1974), (0x1980, 0x19AB), (0x19B0, 0x19C9), (0x1A20, 0x1A54), (0x1AA7, 0x1AA7),
  (0xA9E0, 0xA9E4), (0xA9E6, 0xA9EF), (0xA9FA, 0xA9FE), (0xAA60, 0xAA76), (0xAA7A, 0xAA7A),
  (0xAA7E, 0xAAAF), (0xAAB1, 0xAAB1), (0xAAB5, 0xAAB6), (0xAAB9, 0xAABD), (0xAAC0, 0xAAC0),
  (0xAAC2, 0xAAC2), (0xAADB, 0xAADD), (0x11700, 0x1171A), (0x11740, 0x11746)]

private def letterlike : Ranges := [
  (0x2C2, 0x2C5), (0x2D2, 0x2D7), (0x2DE, 0x2DF), (0x2E5, 0x2EB), (0x2ED, 0x2ED), (0x2EF, 0x2FF),
  (0x55A, 0x55C), (0x55E, 0x55E), (0x58A, 0x58A), (0x5F3, 0x5F3), (0x70F, 0x70F), (0xA708, 0xA716),
  (0xA720, 0xA721), (0xA789, 0xA78A), (0xAB5B, 0xAB5B)]

private def wordLetter : Ranges :=
  (alphabetic.union letterlike).diff <|
    .ofList (ideographic ++ katakana ++ Script.hiragana ++ hebrewLetter ++ extension ++
      unspacedLetter)

def word? (value : String) : Option Ranges :=
  match value with
  | "cr" => some [(0xD, 0xD)]
  | "lf" => some [(0xA, 0xA)]
  | "newline" | "nl" => some [(0xB, 0xC), (0x85, 0x85), (0x2028, 0x2029)]
  | "extend" => some ((extension.union emojiModifier).diff zeroWidthJoiner)
  | "zwj" => some zeroWidthJoiner
  | "regionalindicator" | "ri" => some regionalIndicator
  | "format" | "fo" =>
    some (format.diff
      (.ofList ([(0x200B, 0x200D)] ++ graphemeExtend ++ prependedConcatenationMark)))
  | "katakana" | "ka" => some katakana
  | "hebrewletter" | "hl" => some hebrewLetter
  | "aletter" | "le" => some wordLetter
  | "singlequote" | "sq" => some [(0x27, 0x27)]
  | "doublequote" | "dq" => some [(0x22, 0x22)]
  | "midletter" | "ml" =>
    some [(0x3A, 0x3A), (0xB7, 0xB7), (0x387, 0x387), (0x55F, 0x55F), (0x5F4, 0x5F4),
      (0x2027, 0x2027), (0xFE13, 0xFE13), (0xFE55, 0xFE55), (0xFF1A, 0xFF1A)]
  | "midnum" | "mn" =>
    some [(0x2C, 0x2C), (0x3B, 0x3B), (0x37E, 0x37E), (0x589, 0x589), (0x60C, 0x60D),
      (0x66C, 0x66C), (0x7F8, 0x7F8), (0x2044, 0x2044), (0xFE10, 0xFE10), (0xFE14, 0xFE14),
      (0xFE50, 0xFE50), (0xFE54, 0xFE54), (0xFF0C, 0xFF0C), (0xFF1B, 0xFF1B)]
  | "midnumlet" | "mb" =>
    some [(0x2E, 0x2E), (0x2018, 0x2019), (0x2024, 0x2024), (0xFE52, 0xFE52), (0xFF07, 0xFF07),
      (0xFF0E, 0xFF0E)]
  | "numeric" | "nu" => some (.ofList (decimalNumber ++ numberSigns ++ [(0x66B, 0x66B)]))
  | "extendnumlet" | "ex" => some (connectorPunctuation.union [(0x202F, 0x202F)])
  | "wsegspace" =>
    some [(0x20, 0x20), (0x1680, 0x1680), (0x2000, 0x2006), (0x2008, 0x200A), (0x205F, 0x205F),
      (0x3000, 0x3000)]
  | _ => none

/-- Letters with case that do not count as capital or small letters in sentences: in one script,
capitals are used for whole words only. -/
private def unsentencedCase : Ranges := [
  (0x10D0, 0x10FA), (0x10FD, 0x10FF), (0x1C90, 0x1CBA), (0x1CBD, 0x1CBF)]

private def sentenceLower : Ranges := lowercase.diff (unsentencedCase.union graphemeExtend)

private def sentenceUpper : Ranges := (uppercase.union titlecaseLetter).diff unsentencedCase

private def stops : Ranges := [
  (0x2E, 0x2E), (0x2024, 0x2024), (0xFE52, 0xFE52), (0xFF0E, 0xFF0E)]

private def brackets : Ranges :=
  .ofList (openPunctuation ++ closePunctuation ++ initialPunctuation ++ finalPunctuation ++
    quotationMark.diff [(0xFF02, 0xFF02), (0xFF07, 0xFF07)] ++
    [(0x275B, 0x2760), (0x2E00, 0x2E01), (0x2E06, 0x2E08), (0x2E0B, 0x2E0B), (0x1F676, 0x1F678)])

def sentence? (value : String) : Option Ranges :=
  match value with
  | "cr" => some [(0xD, 0xD)]
  | "lf" => some [(0xA, 0xA)]
  | "sep" | "se" => some [(0x85, 0x85), (0x2028, 0x2029)]
  | "extend" | "ex" => some (extension.union zeroWidthJoiner)
  | "format" | "fo" =>
    some (format.diff (.ofList ([(0x200C, 0x200D)] ++ graphemeExtend ++ numberSigns)))
  | "sp" => some (whiteSpace.diff [(0xA, 0xA), (0xD, 0xD), (0x85, 0x85), (0x2028, 0x2029)])
  | "lower" | "lo" => some sentenceLower
  | "upper" | "up" => some sentenceUpper
  | "oletter" | "le" =>
    some ((alphabetic.union [(0x5F3, 0x5F3)]).diff
      (.ofList (sentenceLower ++ sentenceUpper ++ extension)))
  | "numeric" | "nu" => some (.ofList (decimalNumber ++ numberSigns ++ [(0x66B, 0x66C)]))
  | "aterm" | "at" => some stops
  | "sterm" | "st" => some (sentenceTerminal.diff stops)
  | "close" | "cl" => some brackets
  | "scontinue" | "sc" =>
    some [(0x2C, 0x2D), (0x3A, 0x3B), (0x37E, 0x37E), (0x55D, 0x55D), (0x60C, 0x60D),
      (0x7F8, 0x7F8), (0x1802, 0x1802), (0x1808, 0x1808), (0x2013, 0x2014), (0x3001, 0x3001),
      (0xFE10, 0xFE11), (0xFE13, 0xFE14), (0xFE31, 0xFE32), (0xFE50, 0xFE51), (0xFE54, 0xFE55),
      (0xFE58, 0xFE58), (0xFE63, 0xFE63), (0xFF0C, 0xFF0D), (0xFF1A, 0xFF1B), (0xFF64, 0xFF64)]
  | _ => none

end Descent.Unicode.Segmentation
