import SpanWeave.Syntax.Lexeme

/-!
Semicolons that the writer may leave out. A statement or a block may end where a line ends,
where the enclosing block closes or where the source ends, unless what follows would continue
it. Comments passed on the way belong to what the semicolon ends.
-/

namespace SpanWeave.Syntax

/-- What a missing semicolon would end. -/
inductive Place where
  /-- An expression, which an operator, a call or a subscript on the next line continues. -/
  | expression
  /-- A keyword, a type or a class member. -/
  | plain
  /-- A signature, which a body on the next line completes. -/
  | signature
  deriving DecidableEq, Repr

/-- Passes white space and comments behind a line end; `skip` characters are passed first.
There is no result at a slash that begins no comment. -/
def passBreak? : (skip : Nat) → Text → Option Text
  | _, [] => some []
  | skip + 1, _ :: s => passBreak? skip s
  | 0, c :: s =>
      if Text.isAsciiBlank c then passBreak? 0 s
      else if c == '/' then
        match s with
        | '/' :: t => passBreak? (1 + runLength lineGoesOn t) s
        | '*' :: t => passBreak? (1 + (blockCommentEnd? t 0).getD t.length) s
        | _ => none
      else some (c :: s)

/-- Letters of the basic Latin block. -/
def isLatin (c : Char) : Bool := c.isAlpha

/-- The next line, which begins with `s`, does not continue what stands before it. -/
def startsAfresh (p : Place) (s : Text) : Bool :=
  match s with
  | [] => true
  | '+' :: t => t.head? == some '+'
  | '-' :: t => t.head? == some '-'
  | '!' :: t => t.head? != some '='
  | 'i' :: 'n' :: t =>
      if !t.head?.any isLatin then false
      else
        match Text.afterLead? "stanceof".toList t with
        | some u => u.head?.any isLatin
        | none => true
  | c :: _ =>
      if "\x60,.;*%><=?^|&/:".toList.contains c then false
      else if c == '\x7b' then p != .signature
      else if c == '(' || c == '[' then p != .expression
      else true

/-- A missing semicolon is accepted in front of `s`. A closing brace with a colon behind it may
close a literal, so it ends nothing but an expression. -/
def endsHere (p : Place) : Text → Bool
  | [] => true
  | c :: s =>
      if c == '\x7d' then
        p == .expression || (s.dropWhile Text.isAsciiBlank).head? != some ':'
      else if c == '\n' then
        match passBreak? 0 s with
        | some t => startsAfresh p t
        | none => false
      else if Text.isAsciiBlank c then endsHere p s
      else false

/-- Looks for the place of a missing semicolon, at the cursor or behind one of the comments
that follow it; gives those comments. -/
def autoSemicolon? (p : Place) : Nat → Cursor → Option (List Node × Cursor)
  | 0, _ => none
  | fuel + 1, c =>
      if endsHere p c.rest then some ([], c)
      else
        let d := c.advance (runLength isSpace c.rest)
        match commentLength? d.rest with
        | some n =>
            let e := d.advance n
            match autoSemicolon? p fuel e with
            | some (ns, f) => some (.leaf .comment d.offset e.offset :: ns, f)
            | none => none
        | none => none

end SpanWeave.Syntax
