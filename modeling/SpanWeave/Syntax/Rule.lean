import SpanWeave.Syntax.Semicolon

/-!
Grammar rules. A rule reads from a cursor and gives the nodes it read, comments included, or
has no result; choice tries its alternatives in order from the same place. The recursion of
the grammar goes through `Grammar.read`, one goal at a time, so every rule is an ordinary
definition.
-/

namespace SpanWeave.Syntax

/-- A sequence of sibling nodes. -/
abbrev Forest := List Node

/-- A reader of the source with a result of type `α`. -/
abbrev Rule (α : Type) := StateT Cursor Option α

/-- How an expression is read. -/
structure Mode where
  /-- What a missing semicolon may end here. -/
  stop : Option Place
  /-- The parameters of an arrow function may be followed by a result type. -/
  arrowTypes : Bool
  /-- The body of a class may follow. -/
  heritage : Bool
  /-- An arrow function ends with the expression, and may be the tag of a template. -/
  tag : Bool

/-- An expression between brackets. -/
def Mode.inner : Mode := ⟨none, true, false, false⟩

/-- An expression that ends a statement. -/
def Mode.outer : Mode := ⟨some .expression, true, false, false⟩

/-- How a type is read. -/
structure TypeMode where
  /-- What a missing semicolon may end here. -/
  stop : Option Place
  /-- The type stands behind a value, so doubled bars and ampersands are operators. -/
  inExpression : Bool
  /-- An arrow belongs to a function type. -/
  arrows : Bool

def TypeMode.inner : TypeMode := ⟨none, false, true⟩

/-- A type that ends a member or a declaration. -/
def TypeMode.outer (p : Place) : TypeMode := ⟨some p, false, true⟩

/-- A type behind a value that is read in mode `m`. -/
def Mode.typeMode (m : Mode) : TypeMode := ⟨m.stop, true, true⟩

/-- The constructs through which the grammar is recursive. -/
inductive Goal where
  | statement
  /-- A declaration; its first word may be a name instead if `soft` holds. -/
  | declaration (soft : Bool)
  | block (p : Place)
  | expressions (m : Mode)
  | expression (m : Mode)
  | binary (level : Nat) (m : Mode)
  | operand (m : Mode)
  | chain (m : Mode)
  | type (m : TypeMode)
  | pattern
  | parameters
  | classBody
  | element

/-- The dialect read, and the reader for each goal. -/
structure Grammar where
  /-- Markup elements are expressions; type assertions in angle brackets are not. -/
  markup : Bool
  read : Goal → Rule Forest

/-- Succeeds exactly when `b` holds, and reads nothing. -/
def require (b : Bool) : Rule Unit := if b then pure () else failure

/-- What follows white space and comments. -/
def ahead : Rule Text := do return (← get).ahead

def comments : Rule Forest := fun c => some c.trivia

/-- Behind a token of this kind stands neither a value nor the end of a statement: it is a
keyword or a mark other than a closing bracket. -/
def opensPlace : Kind → Bool
  | .token t => !(t == ")" || t == "]" || t == "\x7d")
  | _ => false

/-- Reads `n` characters as one node. -/
def lexeme (k : Kind) (n : Nat) : Rule Forest := fun c =>
  let (ns, c) := c.trivia
  let d := c.advance n
  some (ns ++ [.leaf k c.offset d.offset], ⟨d.rest, d.offset, opensPlace k⟩)

/-- What `r` reads, behind which a markup comment may stand if `fresh` holds. -/
def thenFresh (fresh : Bool) (r : Rule Forest) : Rule Forest := do
  let ns ← r
  modify fun c => ⟨c.rest, c.offset, fresh⟩
  return ns

/-- The text `w` stands at the head of `s` as a whole word. -/
def wordStands (w : String) (s : Text) : Bool :=
  match Text.afterLead? w.toList s with
  | some [] => true
  | some (c :: t) => isMark c && !(c == '\\' && (unicodeEscapeLength? t).isSome)
  | none => false

/-- The keyword `w` is next. -/
def keywordAhead (w : String) : Rule Bool := do return wordStands w (← ahead)

/-- Reads the keyword `w`. -/
def keyword (w : String) : Rule Forest := do
  require (← keywordAhead w)
  lexeme (.token w) w.length

/-- What `r` reads if the keyword `w` is next, and nothing otherwise. -/
def whenAhead (w : String) (r : Rule Forest) : Rule Forest := do
  if ← keywordAhead w then r else pure []

/-- The mark `s` is next, whatever follows it. -/
def markAhead (s : String) : Rule Bool := do return Text.startsWith (← ahead) s.toList

/-- Reads the mark `s`, whatever follows it. -/
def mark (s : String) : Rule Forest := do
  require (← markAhead s)
  lexeme (.token s) s.length

/-- Reads the mark `s` unless one of the characters `bad` follows it. -/
def markUnless (s : String) (bad : String) : Rule Forest := do
  match Text.afterLead? s.toList (← ahead) with
  | some t =>
      require (!t.head?.any fun c => bad.toList.contains c)
      lexeme (.token s) s.length
  | none => failure

/-- Reads a word as a node of kind `k`, unless it is one of the words `but`. -/
def word (k : Kind) (but : List String) : Rule Forest := do
  let s ← ahead
  let n := wordLength s
  require (n > 0 && !but.contains (String.ofList (s.take n)))
  lexeme k n

/-- The rules one after another. -/
def seq : List (Rule Forest) → Rule Forest
  | [] => pure []
  | r :: rs => do
      let a ← r
      let b ← seq rs
      return a ++ b

/-- The first of the rules that has a result. -/
def oneOf : List (Rule Forest) → Rule Forest
  | [] => failure
  | r :: rs => fun c =>
      match r c with
      | some x => some x
      | none => oneOf rs c

def optionally (r : Rule Forest) : Rule Forest := oneOf [r, pure []]

/-- The rule has a result here; reads nothing. -/
def wouldRead (r : Rule Forest) : Rule Bool := fun c => some ((r c).isSome, c)

/-- The rule has no result here; reads nothing. -/
def unlessRead (r : Rule Forest) : Rule Forest := fun c =>
  match r c with
  | some _ => none
  | none => some ([], c)

/-- The rule as often as it reads something, at most `fuel` times. -/
def repeated (r : Rule Forest) : Nat → Rule Forest
  | 0 => pure []
  | fuel + 1 => fun c =>
      match r c with
      | none => some ([], c)
      | some (a, d) =>
          if d.offset ≤ c.offset then some ([], c)
          else
            match repeated r fuel d with
            | some (b, e) => some (a ++ b, e)
            | none => none

/-- The rule as often as it reads something. -/
def many (r : Rule Forest) : Rule Forest := fun c => repeated r (c.rest.length + 1) c

/-- One or more items with `sep` between them. -/
def sepBy1 (sep item : Rule Forest) : Rule Forest := seq [item, many (seq [sep, item])]

/-- Items with commas between them, any of which may be missing. -/
def commaHoles (item : Rule Forest) : Rule Forest :=
  seq [optionally item, many (seq [mark ",", optionally item])]

/-- One or more items with commas between them, and a comma behind them if the writer likes. -/
def commaList (item : Rule Forest) : Rule Forest :=
  seq [sepBy1 (mark ",") item, optionally (mark ",")]

/-- Gathers what `r` reads into a node of kind `k`. Comments in front of the first token stay
outside, so they belong to the parent. -/
def gather (k : Kind) (ns : Forest) : Forest :=
  let lead := ns.takeWhile fun n => n.kind.isExtra
  match ns.dropWhile fun n => n.kind.isExtra with
  | [] => lead
  | first :: rest =>
      let last := rest.getLast?.getD first
      lead ++ [.mk k none ⟨first.span.start, last.span.stop⟩ (first :: rest)]

/-- A node of kind `k` whose children `r` reads. -/
def node (k : Kind) (r : Rule Forest) : Rule Forest := do return gather k (← r)

/-- What `r` reads, in role `f`. -/
def role (f : Field) (r : Rule Forest) : Rule Forest := do
  return (← r).map (Node.inField f)

/-- The kind of the last node of a forest. -/
def lastKind? (ns : Forest) : Option Kind := ns.getLast?.map Node.kind

/-- A missing semicolon; gives the comments in front of it. -/
def missingSemicolon (p : Place) : Rule Forest :=
  thenFresh true fun c => autoSemicolon? p (c.rest.length + 1) c

def semicolon (p : Place) : Rule Forest := oneOf [missingSemicolon p, mark ";"]

/-- A missing semicolon would be accepted here. -/
def mayStop (p : Place) : Rule Bool := wouldRead (missingSemicolon p)

/-- A missing semicolon is taken here, so nothing continues what stands in front. -/
def halted (stop : Option Place) : Rule Bool :=
  match stop with
  | some p => mayStop p
  | none => pure false

/-- What `r` reads, unless a missing semicolon is taken in front of it. -/
def unlessHalted (stop : Option Place) (r : Rule Forest) : Rule Forest := do
  require (!(← halted stop))
  r

end SpanWeave.Syntax
