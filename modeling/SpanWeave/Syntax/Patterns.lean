import SpanWeave.Syntax.Types

namespace SpanWeave.Syntax

def initializer (g : Grammar) (m : Mode) : Rule Forest :=
  seq [markUnless "=" "=>", role .value (g.read (.expression m))]

def defaultValue (g : Grammar) : Rule Forest :=
  seq [markUnless "=" "=>", g.read (.expression .inner)]

/-- A pattern with its default value, if it has one. The rest has none. -/
def patternWithDefault (g : Grammar) : Rule Forest := do
  let left ← g.read .pattern
  if lastKind? left == some .restPattern then return left
  else continued .assignmentPattern left (defaultValue g)

/-- Names taken from the items of an array. -/
def arrayPattern (g : Grammar) : Rule Forest :=
  node .arrayPattern (seq [mark "[", commaHoles (patternWithDefault g), mark "]"])

def restPattern (g : Grammar) : Rule Forest := do
  let lead ← mark "..."
  require (!(← markAhead "..."))
  node .restPattern (do return lead ++ (← g.read .pattern))

def objectPatternMember (g : Grammar) : Rule Forest := oneOf [
  restPattern g,
  node .pairPattern (seq [propertyName g, mark ":", role .value (patternWithDefault g)]),
  do
    let left ← word .shorthandPropertyIdentifierPattern []
    continued .objectAssignmentPattern left (defaultValue g),
  do
    require ((← markAhead "\x7b") || (← markAhead "["))
    node .objectAssignmentPattern (seq [g.read .pattern, defaultValue g])]

/-- Names taken from the members of an object. -/
def objectPattern (g : Grammar) : Rule Forest :=
  node .objectPattern (seq [mark "\x7b", commaHoles (objectPatternMember g), mark "\x7d"])

/-- An object or array pattern. -/
def destructuring (g : Grammar) : Rule Forest := oneOf [objectPattern g, arrayPattern g]

/-- Kinds of expressions that a value can be assigned to. -/
def isTarget : Kind → Bool
  | .identifier | .undefinedLiteral | .memberExpression | .subscriptExpression
  | .nonNullExpression | .objectPattern | .arrayPattern => true
  | _ => false

/-- A name or a member of an object that a value can be assigned to. -/
def target (g : Grammar) : Rule Forest := do
  let ns ← g.read (.chain .inner)
  require ((lastKind? ns).any isTarget)
  return ns

/-- A place for a value: a name, a pattern, or a member of an object. Brackets are read as a
pattern unless a step to a member follows them. -/
def anyPattern (g : Grammar) : Rule Forest := do
  match ← ahead with
  | [] => failure
  | c :: s =>
      if c == '\x7b' || c == '[' then
        if (behindBracket? (c :: s)).any fun t => t.head?.any fun a => "([.!\x60?".toList.contains a
        then oneOf [target g, destructuring g]
        else destructuring g
      else if c == '.' then restPattern g
      else target g

/-- An expression behind an at sign. -/
def decorator (g : Grammar) : Rule Forest :=
  let name := seq [thenFresh true (word .identifier []),
    many (seq [markUnless "." ".", word .propertyIdentifier []])]
  let call := seq [name, optionally (oneOf [
    seq [typeArguments g, callArguments g],
    callArguments g])]
  thenFresh true (node .decorator (seq [mark "@", oneOf [call, seq [mark "(", call, mark ")"]]]))

/-- A question mark behind white space and comments that begins a choice between two
expressions: it stands behind simple white space alone, and in front of no colon, comma or
closing parenthesis. -/
def choiceAhead : Rule Bool := fun c =>
  let (ns, d) := c.trivia
  let gap := d.offset - (ns.getLast?.map fun n => n.span.stop).getD c.offset
  let simple := (Text.takeBytes c.rest (d.offset - c.offset)).reverse.takeWhile Text.isAsciiBlank
  some (gap == simple.length && choiceStands d.rest, c)
where
  /-- The mark at the head of a text begins a choice. -/
  choiceStands (s : Text) : Bool :=
    match s with
    | '?' :: '?' :: _ => false
    | '?' :: '.' :: t => t.head?.any Char.isDigit
    | '?' :: t =>
        match t.dropWhile Text.isAsciiBlank with
        | '.' :: u => u.head?.any Char.isDigit
        | u => !u.head?.any fun c => ":),".toList.contains c
    | _ => false

def optionalMark : Rule Forest := do
  require (!(← choiceAhead))
  markUnless "?" "?."

/-- An operand can begin at the head of a text. -/
def operandStands (s : Text) : Bool :=
  match s with
  | [] => false
  | '.' :: t => t.head?.any Char.isDigit
  | '!' :: t => t.head? != some '='
  | '<' :: t => !t.head?.any fun c => c == '<' || c == '='
  | c :: _ =>
      if wordLength s > 0 then !operatorWords.contains (String.ofList (wordAt s))
      else c.isDigit || "([\x7b\"'\x60/+-~@#".toList.contains c

def parameterModifier (w : String) : Rule Forest := do
  let ns ← thenFresh false (keyword w)
  let s ← ahead
  require (Text.startsWith s "...".toList ||
    (operandStands s && !s.head?.any fun c => "(<\x60".toList.contains c))
  return ns

def parameterName (g : Grammar) : Rule Forest := do
  let s ← ahead
  let next := ((Cursor.ofText (s.drop 4)).ahead).head?
  if wordStands "this" s && !next.any fun c => "([.!".toList.contains c then keyword "this"
  else g.read .pattern

/-- A parameter: a pattern, optional or not, with its type and its default value. -/
def parameter (g : Grammar) : Rule Forest := do
  let head ← seq [
    many (decorator g),
    optionally (oneOf (accessWords.map parameterModifier)),
    optionally (parameterModifier "override"),
    oneOf [
      seq [parameterModifier "readonly", parameterName g],
      parameterName g]]
  let optional ← optionally optionalMark
  let type ← optionally (ascription g .inner)
  let rest := type.isEmpty && optional.isEmpty && lastKind? head == some .restPattern
  let tail ← if rest then pure [] else optionally (defaultValue g)
  return gather (if optional.isEmpty then .requiredParameter else .optionalParameter)
    (head ++ optional ++ type ++ tail)

def formalParameters (g : Grammar) : Rule Forest :=
  node .formalParameters (oneOf [
    seq [mark "(", thenFresh true (mark ")")],
    seq [mark "(", commaList (parameter g), mark ")"]])

end SpanWeave.Syntax
