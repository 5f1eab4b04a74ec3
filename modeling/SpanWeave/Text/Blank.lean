import SpanWeave.Text.Basic

namespace SpanWeave.Text

/-- Characters with the Unicode property `White_Space`. -/
def isBlank (c : Char) : Bool :=
  let n := c.toNat
  (9 ≤ n && n ≤ 13) || n == 0x20 || n == 0x85 || n == 0xA0 || n == 0x1680 ||
    (0x2000 ≤ n && n ≤ 0x200A) || n == 0x2028 || n == 0x2029 || n == 0x202F ||
    n == 0x205F || n == 0x3000

/-- White space of the basic Latin block. -/
def isAsciiBlank (c : Char) : Bool :=
  let n := c.toNat
  (9 ≤ n && n ≤ 13) || n == 0x20

/-- Nothing but white space. -/
def blank (s : Text) : Bool := s.all isBlank

/-- `s` without its leading white space. -/
def trimStart (s : Text) : Text := s.dropWhile isBlank

/-- The leading white space of `s`. -/
def leadingBlank (s : Text) : Text := s.takeWhile isBlank

/-- Drops the carriage return that ends a line. -/
def dropReturn (line : Text) : Text :=
  if line.getLast? = some '\r' then line.dropLast else line

/-- The lines of a text without their ends: a line ends at a line feed, a carriage return
in front of that belongs to the end, and no line follows the last line feed. -/
def lines (s : Text) : List Text :=
  match (splitAt '\n' s).reverse with
  | [] => []
  | last :: ended => ended.reverse.map dropReturn ++ (if last = [] then [] else [last])

end SpanWeave.Text
