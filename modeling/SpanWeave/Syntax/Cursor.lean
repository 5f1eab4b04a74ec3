import SpanWeave.Text.Blank
import SpanWeave.Syntax.Node

namespace SpanWeave.Syntax

/-- A place in the source: what is left to read, how many bytes were read, and whether a markup
comment may stand here. -/
structure Cursor where
  rest : Text
  offset : Nat
  /-- What stands in front is neither a value nor the end of a statement. -/
  fresh : Bool

namespace Cursor

def ofText (s : Text) : Cursor := ⟨s, 0, true⟩

/-- The cursor behind the next `n` characters. -/
def advance : Nat → Cursor → Cursor
  | 0, c => c
  | _ + 1, ⟨[], o, f⟩ => ⟨[], o, f⟩
  | n + 1, ⟨a :: s, o, f⟩ => advance n ⟨s, o + a.utf8Size, f⟩

end Cursor

/-- White space between tokens: every space of Unicode and the marks without width. -/
def isSpace (c : Char) : Bool :=
  (Text.isBlank c && c.toNat != 0x85) || c.toNat == 0xFEFF || c.toNat == 0x2060 ||
    c.toNat == 0x200B

/-- The separators of lines and of paragraphs. -/
def isSeparator (c : Char) : Bool := c.toNat == 0x2028 || c.toNat == 0x2029

/-- Ends of a line, as a line comment sees them. -/
def isLineEnd (c : Char) : Bool := c == '\n' || c == '\r' || isSeparator c

/-- Number of characters up to and with the next `*/`. -/
def blockCommentEnd? : Text → Nat → Option Nat
  | '*' :: '/' :: _, n => some (n + 2)
  | _ :: s, n => blockCommentEnd? s (n + 1)
  | [], _ => none

/-- Number of characters of the comment that stands first in a text. -/
def commentLength? : Text → Option Nat
  | '/' :: '/' :: s => some (2 + (s.takeWhile fun c => !isLineEnd c).length)
  | '/' :: '*' :: s => blockCommentEnd? s 2
  | _ => none

/-- A line goes on with this character. A carriage return alone does not end it. -/
def lineGoesOn (c : Char) : Bool := !(c == '\n' || isSeparator c)

/-- Number of characters of the markup comment that stands first in a text. It reaches to the
end of its line. -/
def htmlCommentLength? : Text → Option Nat
  | '<' :: '!' :: '-' :: '-' :: s => some (4 + (s.takeWhile lineGoesOn).length)
  | '-' :: '-' :: '>' :: s => some (3 + (s.takeWhile lineGoesOn).length)
  | _ => none

/-- The kind and length of the comment that stands first in a text; markup comments are seen
only when `html` holds. -/
def commentAt? (html : Bool) (s : Text) : Option (Kind × Nat) :=
  match commentLength? s with
  | some n => some (.comment, n)
  | none => if html then (htmlCommentLength? s).map fun n => (.htmlComment, n) else none

/-- Skips `skip` characters and then white space and comments, and gives the comments in order
with the place behind them. Only simple white space may stand in front of a markup comment,
and `near` tells that nothing else was passed. -/
def skipTrivia (fresh : Bool) : (near : Bool) → (skip : Nat) → Text → Nat → List Node × Cursor
  | _, _, [], o => ([], ⟨[], o, fresh⟩)
  | near, skip + 1, a :: s, o => skipTrivia fresh near skip s (o + a.utf8Size)
  | near, 0, a :: s, o =>
      if isSpace a then
        skipTrivia fresh (near && (Text.isAsciiBlank a || isSeparator a)) 0 s (o + a.utf8Size)
      else
        match commentAt? (fresh && near) (a :: s) with
        | some (k, n) =>
            let (ns, c) := skipTrivia fresh true (n - 1) s (o + a.utf8Size)
            (.leaf k o (o + Text.byteSize ((a :: s).take n)) :: ns, c)
        | none => ([], ⟨a :: s, o, fresh⟩)

namespace Cursor

/-- The comments at the cursor and the cursor behind them and the white space around them. -/
def trivia (c : Cursor) : List Node × Cursor := skipTrivia c.fresh true 0 c.rest c.offset

/-- What follows the cursor once white space and comments are skipped. -/
def ahead (c : Cursor) : Text := c.trivia.2.rest

end Cursor

end SpanWeave.Syntax
