import SpanWeave.Text.Letter
import SpanWeave.Text.Category.Symbols
import SpanWeave.Text.Category.Controls

namespace SpanWeave.Text

/-- Characters that attach to the one before them. -/
def isExtender (c : Char) : Bool :=
  inRuns Category.nonspacingMarks c || inRuns Category.enclosingMarks c ||
    inRuns Property.otherExtenders c

def isPunctuation (c : Char) : Bool :=
  inRuns Category.connectors c || inRuns Category.dashes c || inRuns Category.openers c ||
    inRuns Category.closers c || inRuns Category.initialQuotes c ||
    inRuns Category.finalQuotes c || inRuns Category.otherPunctuation c

def isSymbol (c : Char) : Bool :=
  inRuns Category.mathSymbols c || inRuns Category.currencySymbols c ||
    inRuns Category.modifierSymbols c || inRuns Category.otherSymbols c

/-- Characters that can be seen, and the space. -/
def isVisible (c : Char) : Bool :=
  if c.toNat < 128 then 0x20 ≤ c.toNat && c.toNat < 0x7F
  else isLetter c || isCombiningMark c || inRuns Category.decimalDigits c ||
    inRuns Category.letterNumbers c || inRuns Category.otherNumbers c || isPunctuation c ||
    isSymbol c

/-- One character as it is shown between double quotes. -/
def showChar (c : Char) : Text :=
  if c = '\t' then "\\t".toList
  else if c = '\r' then "\\r".toList
  else if c = '\n' then "\\n".toList
  else if c = '\x22' then "\\\"".toList
  else if c = '\\' then "\\\\".toList
  else if c.toNat = 0 then "\\0".toList
  else if isVisible c && !isExtender c then [c]
  else "\\u\x7b".toList ++ Nat.toDigits 16 c.toNat ++ "\x7d".toList

/-- A text as it is shown in a message. -/
def shown (s : Text) : Text := '\x22' :: (s.flatMap showChar ++ ['\x22'])

end SpanWeave.Text
