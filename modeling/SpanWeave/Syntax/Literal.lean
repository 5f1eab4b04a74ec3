import SpanWeave.Syntax.Lookahead

namespace SpanWeave.Syntax

/-- Number of characters of a string behind its opening `quote`, the closing one included.
Behind a raw line end only white space may stand in front of the closing mark or of a comment;
behind the comment the string goes on. -/
def stringTailLength? (quote : Char) : (skip : Nat) → Text → Nat → Option Nat
  | _, [], _ => none
  | skip + 1, _ :: s, n => stringTailLength? quote skip s (n + 1)
  | 0, c :: s, n =>
      if c == quote then some (n + 1)
      else if c == '\\' then
        match escapeLength? (c :: s) with
        | some k => stringTailLength? quote (k - 1) s (n + 1)
        | none => none
      else if c == '\n' || c == '\r' then
        let k := runLength isSpace s
        let t := s.drop k
        if t.head? == some quote then some (n + k + 2)
        else
          match commentLength? t with
          | some j => stringTailLength? quote (k + j) s (n + 1)
          | none => none
      else stringTailLength? quote 0 s (n + 1)

/-- A string in single or double quotes. -/
def stringLiteral : Rule Forest := do
  match ← ahead with
  | c :: s =>
      require (c == '\x22' || c == '\x27')
      match stringTailLength? c 0 s 1 with
      | some n => lexeme .string n
      | none => failure
  | [] => failure

def numberLiteral : Rule Forest := do
  let n := numberLength (← ahead)
  require (n > 0)
  lexeme .number n

/-- The flags of a regular expression may also stand right behind a comment that follows its
closing slash on the same line. -/
def lateFlags (body : Forest) : Rule Forest := fun c =>
  let (ns, d) := c.trivia
  let n := runLength Char.isLower d.rest
  let gap := c.rest.takeWhile isSpace
  if n > 0 && !gap.contains '\n' && ns.getLast?.any fun m => m.span.stop == d.offset then
    node .regex (do return body ++ (← thenFresh false (lexeme (.token "flags") n))) c
  else some (body, c)

def regexLiteral : Rule Forest := do
  let s ← ahead
  match regexBodyLength? s with
  | some n =>
      let flags := runLength Char.isLower (s.drop (n + 2))
      let ns ← lexeme .regex (n + 2 + flags)
      if flags > 0 then return ns else lateFlags ns
  | none => failure

/-- Number of characters of a template that stand for themselves. -/
def templateCharsLength : Text → Nat
  | [] => 0
  | c :: s =>
      if c == '\x60' || c == '\\' then 0
      else if c == '$' && s.head? == some '\x7b' then 0
      else 1 + templateCharsLength s

/-- Passes `n` characters without making a node of them. -/
def pass (n : Nat) : Rule Forest := fun c => some ([], c.advance n)

/-- The pieces of a template up to its closing mark; `hole` reads what a substitution holds, and
escapes are read if `escapes` holds. -/
def templatePieces (escapes : Bool) (hole : Rule Forest) : Nat → Rule Forest
  | 0 => failure
  | fuel + 1 => do
      match (← get).rest with
      | [] => failure
      | c :: s =>
          if c == '\x60' then lexeme (.token "\x60") 1
          else if c == '\\' then
            match if escapes then escapeLength? (c :: s) else none with
            | some n => seq [pass n, templatePieces escapes hole fuel]
            | none => failure
          else if c == '$' && s.head? == some '\x7b' then
            seq [node .templateSubstitution
                  (seq [lexeme (.token "$\x7b") 2, hole, mark "\x7d"]),
                templatePieces escapes hole fuel]
          else seq [pass (templateCharsLength (c :: s)), templatePieces escapes hole fuel]

/-- A template with substitutions read by `hole`, as a node of kind `k`. -/
def template (k : Kind) (escapes : Bool) (hole : Rule Forest) : Rule Forest :=
  thenFresh false
    (node k (seq [mark "\x60", fun c => templatePieces escapes hole (c.rest.length + 1) c]))

def templateString (g : Grammar) : Rule Forest :=
  template .templateString true (g.read (.expressions .inner))

end SpanWeave.Syntax
