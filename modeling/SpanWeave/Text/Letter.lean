import SpanWeave.Text.Category.Letters
import SpanWeave.Text.Category.Marks
import SpanWeave.Text.Category.Numbers
import SpanWeave.Text.Category.Punctuation
import SpanWeave.Text.Property

namespace SpanWeave.Text

def isLetter (c : Char) : Bool :=
  inRuns Category.uppercaseLetters c || inRuns Category.lowercaseLetters c ||
    inRuns Category.titlecaseLetters c || inRuns Category.modifierLetters c ||
    inRuns Category.otherLetters c

def isCombiningMark (c : Char) : Bool :=
  inRuns Category.nonspacingMarks c || inRuns Category.spacingMarks c ||
    inRuns Category.enclosingMarks c

/-- Characters with the property `Alphabetic`. -/
def isAlphabetic (c : Char) : Bool :=
  if c.toNat < 128 then c.isAlpha
  else isLetter c || inRuns Category.letterNumbers c || inRuns Property.otherAlphabetic c

def isNumeric (c : Char) : Bool :=
  if c.toNat < 128 then c.isDigit
  else inRuns Category.decimalDigits c || inRuns Category.letterNumbers c ||
    inRuns Category.otherNumbers c

/-- Alphabetic characters and numbers. -/
def isAlphanumeric (c : Char) : Bool := isAlphabetic c || isNumeric c

/-- Characters of words: alphabetic ones, marks, decimal digits, connecting punctuation and the
joiners. -/
def isWordCharacter (c : Char) : Bool :=
  if c.toNat < 128 then c.isAlphanum || c == '_'
  else isAlphabetic c || isCombiningMark c || inRuns Category.decimalDigits c ||
    inRuns Category.connectors c || c.toNat == 0x200C || c.toNat == 0x200D

end SpanWeave.Text
