import Descent.Unicode.Category.Letter
import Descent.Unicode.Category.Mark
import Descent.Unicode.Category.Number
import Descent.Unicode.Category.Other
import Descent.Unicode.Category.Punctuation
import Descent.Unicode.Category.Symbol
import Descent.Unicode.Contributory
import Descent.Unicode.Usage

/-!
Classes of symbols that are put together from tables: groups of general categories, and the
properties that letters and their like have.
-/

namespace Descent.Unicode

def casedLetter : Ranges := .ofList (uppercaseLetter ++ lowercaseLetter ++ titlecaseLetter)

def letter : Ranges := .ofList (casedLetter ++ modifierLetter ++ otherLetter)

def mark : Ranges := .ofList (nonspacingMark ++ spacingMark ++ enclosingMark)

def number : Ranges := .ofList (decimalNumber ++ letterNumber ++ otherNumber)

def punctuation : Ranges :=
  .ofList (connectorPunctuation ++ dashPunctuation ++ openPunctuation ++ closePunctuation ++
    initialPunctuation ++ finalPunctuation ++ otherPunctuation)

def symbol : Ranges := .ofList (mathSymbol ++ currencySymbol ++ modifierSymbol ++ otherSymbol)

def separator : Ranges := .ofList (spaceSeparator ++ lineSeparator ++ paragraphSeparator)

def assigned : Ranges :=
  .ofList (letter ++ mark ++ number ++ punctuation ++ symbol ++ separator ++ control ++ format ++
    privateUse)

/-- General category C: what belongs to no other group. -/
def other : Ranges := .ofList (control ++ format ++ privateUse ++ assigned.compl)

def alphabetic : Ranges := .ofList (letter ++ letterNumber ++ otherAlphabetic)

def uppercase : Ranges := .ofList (uppercaseLetter ++ otherUppercase)

def lowercase : Ranges := .ofList (lowercaseLetter ++ otherLowercase)

def cased : Ranges := .ofList (uppercase ++ lowercase ++ titlecaseLetter)

/-- What a change of case in a word does not take into account. -/
def caseIgnorable : Ranges :=
  .ofList (nonspacingMark ++ enclosingMark ++ format ++ modifierLetter ++ modifierSymbol ++
    wordMiddle)

def math : Ranges := mathSymbol.union otherMath

private def patternSigns : Ranges := patternSyntax.union patternWhiteSpace

def idStart : Ranges :=
  (Ranges.ofList (letter ++ letterNumber)).diff patternSigns |>.union otherIdStart

def idContinue : Ranges :=
  (Ranges.ofList (idStart ++ nonspacingMark ++ spacingMark ++ decimalNumber ++
    connectorPunctuation)).diff patternSigns |>.union otherIdContinue

def xidStart : Ranges :=
  idStart.diff [
    (0x37A, 0x37A), (0xE33, 0xE33), (0xEB3, 0xEB3), (0x309B, 0x309C), (0xFC5E, 0xFC63),
    (0xFDFA, 0xFDFB), (0xFE70, 0xFE70), (0xFE72, 0xFE72), (0xFE74, 0xFE74), (0xFE76, 0xFE76),
    (0xFE78, 0xFE78), (0xFE7A, 0xFE7A), (0xFE7C, 0xFE7C), (0xFE7E, 0xFE7E), (0xFF9E, 0xFF9F)]

def xidContinue : Ranges :=
  idContinue.diff [
    (0x37A, 0x37A), (0x309B, 0x309C), (0xFC5E, 0xFC63), (0xFDFA, 0xFDFB), (0xFE70, 0xFE70),
    (0xFE72, 0xFE72), (0xFE74, 0xFE74), (0xFE76, 0xFE76), (0xFE78, 0xFE78), (0xFE7A, 0xFE7A),
    (0xFE7C, 0xFE7C), (0xFE7E, 0xFE7E)]

def graphemeExtend : Ranges := .ofList (nonspacingMark ++ enclosingMark ++ otherGraphemeExtend)

def graphemeBase : Ranges :=
  assigned.diff <|
    .ofList (control ++ format ++ privateUse ++ lineSeparator ++ paragraphSeparator ++
      graphemeExtend)

/-- What words are made of: alphabetic symbols, marks, decimal digits, connector punctuation and
joiners. -/
def word : Ranges :=
  .ofList (alphabetic ++ mark ++ decimalNumber ++ connectorPunctuation ++ joinControl)

def isBlank (symbol : Char) : Bool := whiteSpace.contains symbol.toNat

def isAlphabetic (symbol : Char) : Bool := alphabetic.contains symbol.toNat

def isNumeric (symbol : Char) : Bool := number.contains symbol.toNat

def isWord (symbol : Char) : Bool := word.contains symbol.toNat

end Descent.Unicode
