import SpanWeave.Text.Basic

namespace SpanWeave.Text.Literal

/-- A character inside the quotes: the quote, the backslash and the ends of lines are
escaped. -/
def escape (c : Char) : Text :=
  if c = '\\' then "\\\\".toList
  else if c = '\x27' then "\\'".toList
  else if c = '\n' then "\\n".toList
  else if c = '\r' then "\\r".toList
  else if c = '\u2028' then "\\u2028".toList
  else if c = '\u2029' then "\\u2029".toList
  else [c]

/-- The literal that stands for `s`. -/
def quote (s : Text) : Text := '\x27' :: (s.flatMap escape ++ ['\x27'])

end SpanWeave.Text.Literal
