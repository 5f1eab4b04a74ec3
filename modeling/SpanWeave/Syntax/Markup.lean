import SpanWeave.Syntax.Patterns

namespace SpanWeave.Syntax

/-- Letters, digits and the two marks that names in a tag may hold besides hyphens. -/
def isTagCharacter (c : Char) : Bool := c.isAlphanum || c == '_' || c == '$'

/-- Length of a tag or attribute name: a word, or a name of simple letters with a hyphen in
it. -/
def markupNameLength (s : Text) : Nat :=
  let n := runLength isTagCharacter s
  if n > 0 && !s.head?.any Char.isDigit && (s.drop n).head? == some '-' then
    runLength (fun c => c == '-' || isTagCharacter c) s
  else wordLength s

/-- One part of a tag or attribute name. -/
def markupName : Rule Forest := do
  let n := markupNameLength (← ahead)
  require (n > 0)
  thenFresh true (lexeme .jsxName n)

def tagWord : Rule Forest := thenFresh true (word .jsxName [])

/-- The objects of which a tag is a member, and the member. -/
def memberTagName : Rule Forest :=
  seq [tagWord, mark ".", tagWord, many (seq [mark ".", tagWord])]

/-- A name of a tag, with a namespace or the objects it is a member of. -/
def tagName : Rule Forest := oneOf [
  memberTagName,
  seq [markupName, optionally (seq [mark ":", markupName])]]

/-- Length of a character reference: an ampersand, a name or a number, and a semicolon. -/
def referenceLength? : Text → Option Nat
  | '&' :: '#' :: x :: s =>
      if x == 'x' || x == 'X' then closed (runLength isHexDigit s) 6 3 s
      else closed (runLength Char.isDigit (x :: s)) 5 2 (x :: s)
  | '&' :: s => closed (runLength Char.isAlpha s) 30 1 s
  | _ => none
where
  /-- The `n` characters of the reference, at most `most`, stand in front of a semicolon. -/
  closed (n most lead : Nat) (s : Text) : Option Nat :=
    if 0 < n && n ≤ most && (s.drop n).head? == some ';' then some (n + lead + 1) else none

/-- Number of characters of a markup comment with the simple white space in front of it; zero when
there is none. -/
def htmlCommentReach (s : Text) : Nat :=
  let n := runLength (fun c => Text.isAsciiBlank c || isSeparator c) s
  match htmlCommentLength? (s.drop n) with
  | some k => n + k
  | none => 0

/-- Number of characters of an attribute's string behind its opening `quote`, the closing one
included. An ampersand is a reference, or stands in front of a character that cannot begin
one. A markup comment may stand where the string or a part of it behind a reference begins
(`edge`). -/
def attributeTailLength? (quote : Char) : (edge : Bool) → (skip : Nat) → Text → Nat → Option Nat
  | _, _, [], _ => none
  | edge, skip + 1, _ :: s, n => attributeTailLength? quote edge skip s (n + 1)
  | edge, 0, c :: s, n =>
      let reach := if edge then htmlCommentReach (c :: s) else 0
      if reach > 0 then attributeTailLength? quote true (reach - 1) s (n + 1)
      else if c == quote then some (n + 1)
      else if c == '&' then
        match referenceLength? (c :: s), s with
        | some k, _ => attributeTailLength? quote true (k - 1) s (n + 1)
        | none, a :: _ =>
            if a == '#' || a.isAlpha then none else attributeTailLength? quote false 1 s (n + 1)
        | none, [] => none
      else attributeTailLength? quote false 0 s (n + 1)

/-- A string in an attribute, which may hold line ends and has no escapes. -/
def markupString : Rule Forest := do
  match ← ahead with
  | q :: s =>
      require (q == '\x22' || q == '\x27')
      match attributeTailLength? q true 0 s 1 with
      | some n => lexeme .string n
      | none => failure
  | [] => failure

def markupExpression (g : Grammar) : Rule Forest :=
  node .jsxExpression (seq [
    mark "\x7b",
    optionally (oneOf [
      node .spreadElement (seq [mark "...", g.read (.expression .inner)]),
      g.read (.expressions .inner)]),
    mark "\x7d"])

def markupAttribute (g : Grammar) : Rule Forest := oneOf [
  markupExpression g,
  node .jsxAttribute (seq [
    markupName,
    optionally (seq [mark ":", markupName]),
    optionally (seq [mark "=",
      oneOf [markupString, markupExpression g, g.read .element]])])]

/-- Characters that end a text between tags. -/
def endsMarkupText (c : Char) : Bool := "<>&\x7b\x7d".toList.contains c

/-- What stands between two tags. -/
def markupChildren (g : Grammar) : Nat → Rule Forest
  | 0 => pure []
  | fuel + 1 => do
      match (← get).rest with
      | [] => pure []
      | c :: s =>
          if c == '\x7b' then seq [markupExpression g, markupChildren g fuel]
          else if c == '<' then
            if s.head? == some '/' then pure []
            else
              match htmlCommentLength? (c :: s) with
              | some n =>
                  let comment : Rule Forest := fun d =>
                    let e := d.advance n
                    some ([.leaf .htmlComment d.offset e.offset], e)
                  seq [comment, markupChildren g fuel]
              | none => seq [g.read .element, markupChildren g fuel]
          else if c == '&' then
            match referenceLength? (c :: s) with
            | some n => seq [pass n, markupChildren g fuel]
            | none => failure
          else if c == '>' || c == '\x7d' then failure
          else
            seq [pass (runLength (fun a => !endsMarkupText a) (c :: s)), markupChildren g fuel]

def markupContent (g : Grammar) : Rule Forest := fun c =>
  markupChildren g (c.rest.length + 1) c

/-- A name of a tag with type arguments, which no namespace and no hyphen may stand in front
of. -/
def genericTagName (g : Grammar) : Rule Forest :=
  seq [oneOf [memberTagName, tagWord], typeArguments g]

/-- An opening tag up to its end. -/
def tagHead (g : Grammar) : Rule Forest := seq [
  mark "<",
  optionally (seq [oneOf [genericTagName g, tagName], many (markupAttribute g)])]

/-- An element: a tag that closes itself, or two tags with content between them. -/
def markupElement (g : Grammar) : Rule Forest := do
  let head ← tagHead g
  oneOf [
    node .jsxSelfClosingElement (do return head ++ (← thenFresh false (mark "/>"))),
    node .jsxElement (do
      let opening := gather .jsxOpeningElement (head ++ (← mark ">"))
      let rest ← seq [markupContent g,
        node .jsxClosingElement (seq [mark "</", optionally tagName,
          thenFresh false (mark ">")])]
      return opening ++ rest)]

end SpanWeave.Syntax
