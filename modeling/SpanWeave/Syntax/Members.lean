import SpanWeave.Syntax.Markup

namespace SpanWeave.Syntax

def functionExpression (g : Grammar) : Rule Forest := do
  let head ← seq [optionally (thenFresh false (keyword "async")), keyword "function"]
  let star ← optionally (mark "*")
  let rest ← seq [optionally (role .name (thenFresh true (word .identifier []))),
    callSignature g .inner,
    role .body (g.read (.block .expression))]
  return gather (if star.isEmpty then .functionExpression else .generatorFunction)
    (head ++ star ++ rest)

/-- What `r` reads at an opening brace, unless the brace begins a block: a word that begins a
statement follows it, or a name or an assignment to one, behind which a missing semicolon is
taken. -/
def unlessBlock (g : Grammar) (r : Rule Forest) : Rule Forest := do
  require (!(← wouldRead (seq [mark "\x7b", fun c =>
    let w := String.ofList (wordAt c.ahead)
    if (operandWords ++ statementWords).contains w then some ([], c)
    else seq [
      word .identifier [],
      optionally (unlessHalted (some .expression)
        (seq [markUnless "=" "=>", g.read (.expression .outer)])),
      missingSemicolon .expression] c])))
  r

/-- The body of an arrow function: a block or an expression. A pattern with a value assigned to
it is an expression. -/
def arrowBody (g : Grammar) (m : Mode) : Rule Forest :=
  role .body (do
    let value := g.read (.expression { m with tag := true })
    if ← markAhead "\x7b" then
      if ← targetAhead then unlessBlock g value
      else oneOf [g.read (.block .expression), unlessBlock g value]
    else value)

/-- An arrow function with a bare name as its parameter. -/
def bareArrow (g : Grammar) (m : Mode) : Rule Forest :=
  seq [role .parameter (word .identifier operandWords), unlessHalted m.stop (mark "=>"),
    arrowBody g m]

/-- Parameters of an arrow function in parentheses are next. -/
def arrowAhead (m : Mode) : Rule Bool := do
  let s ← ahead
  if s.head? == some '<' then return true
  if ← parametersAhead then return true
  if m.arrowTypes then annotationBehind else return false

/-- The result type of an arrow function, and the arrow. The arrow behind a type in parentheses
may belong to a function type or not. -/
def typedArrow (g : Grammar) (m : Mode) : Rule Forest :=
  let typed (t : TypeMode) : Rule Forest := do
    require m.arrowTypes
    seq [resultClause g t, mark "=>"]
  oneOf [mark "=>", typed .inner, typed { TypeMode.inner with arrows := false }]

/-- An arrow function with its parameters in parentheses; the words `but` are no names of its first
type parameter. -/
def listArrow (g : Grammar) (m : Mode) (but : List String) : Rule Forest := do
  require (← arrowAhead m)
  seq [
    optionally (typeParameters g but),
    thenFresh true (role .parameters (g.read .parameters)),
    typedArrow g m,
    arrowBody g m]

/-- An asynchronous arrow function behind its first word. A name there is nothing but a
parameter. -/
def asyncArrow (g : Grammar) (m : Mode) : Rule Forest := oneOf [
  listArrow g m [],
  seq [role .parameter (thenFresh true (word .identifier ("function" :: operatorWords))),
    mark "=>", arrowBody g m]]

def arrowFunction (g : Grammar) (m : Mode) : Rule Forest :=
  node .arrowFunction (oneOf [
    bareArrow g m,
    listArrow g m (if g.markup then [] else typeWords),
    do
      let ns ← thenFresh false (keyword "async")
      return ns ++ (← unlessHalted m.stop (asyncArrow g m))])

/-- The brackets of a call or an array may also hold the items of a list. -/
def spreadOr (g : Grammar) : Rule Forest := oneOf [
  node .spreadElement (seq [mark "...", g.read (.expression .inner)]),
  g.read (.expression .inner)]

def objectMethod (g : Grammar) : Rule Forest :=
  node .methodDefinition (seq [
    methodModifiers none,
    thenFresh true (role .name (propertyName g)),
    optionally (mark "?"),
    callSignature g .inner,
    role .body (g.read (.block .plain))])

def objectMember (g : Grammar) : Rule Forest := oneOf [
  node .spreadElement (seq [mark "...", g.read (.expression .inner)]),
  objectMethod g,
  node .pair (seq [thenFresh true (propertyName g), mark ":",
    role .value (g.read (.expression .inner))]),
  thenFresh true (word .shorthandPropertyIdentifier [])]

def objectLiteral (g : Grammar) : Rule Forest :=
  node .object (seq [mark "\x7b", commaHoles (objectMember g), mark "\x7d"])

def arrayLiteral (g : Grammar) : Rule Forest :=
  node .array (seq [mark "[", commaHoles (spreadOr g), mark "]"])

def classHeritage (g : Grammar) : Rule Forest :=
  let value := seq [
    g.read (.expression { Mode.inner with heritage := true }),
    optionally (typeArguments g)]
  let extending := seq [keyword "extends", sepBy1 (mark ",") value]
  let implementing := seq [keyword "implements", sepBy1 (mark ",") (typeRule g .inner)]
  node .classHeritage (oneOf [seq [extending, optionally implementing], implementing])

/-- A class behind its name: type parameters, heritage and body. -/
def classTail (g : Grammar) : Rule Forest := seq [
  optionally (typeParameters g []),
  optionally (classHeritage g),
  role .body (g.read .classBody)]

def className : Rule Forest :=
  thenFresh true (role .name (word .typeIdentifier ["extends", "implements"]))

def classExpression (g : Grammar) : Rule Forest :=
  node .classExpression (seq [many (decorator g), keyword "class", optionally className,
    classTail g])

/-- Words that are no keys of a class member behind the modifiers `mods`, since they are modifiers
there. -/
def modifierWords (mods : Forest) : List String :=
  let among (ws : List String) : Bool := mods.all fun n =>
    n.kind.isExtra || ws.any fun w => n.kind = .token w
  if among ("declare" :: accessWords) then ["abstract", "accessor"]
  else if among ("readonly" :: "declare" :: accessWords) then ["abstract"]
  else []

/-- The key of a class member behind its modifiers. -/
def memberKey (g : Grammar) (mods : Forest) : Rule Forest := do
  let s ← ahead
  require (!(modifierWords mods).any fun w => wordStands w s)
  role .name (propertyName g)

/-- Modifiers, key, parameters and result type of a method. Where the key may be that of a field
as well, a missing semicolon behind it makes it one. -/
def methodHead (g : Grammar) (mods : Rule Forest) (stop : Place) : Rule Forest := do
  let mods ← mods
  let abstractOverride := ["abstract", "override"].all fun w => mods.any fun n => n.kind = .token w
  let field := if mods.any isMethodMark || abstractOverride then none else some Place.plain
  let key ← seq [memberKey g mods, optionally (unlessHalted field (mark "?"))]
  return mods ++ key ++ (← unlessHalted field (callSignature g (.outer stop)))

def methodDefinition (g : Grammar) (head : Forest) : Rule Forest := do
  require (!(← mayStop .signature))
  node .methodDefinition (do return head ++ (← role .body (g.read (.block .plain))))

/-- The end of a class member that has no body. -/
def memberEnd (p : Place) : Rule Forest := oneOf [missingSemicolon p, mark ",", mark ";"]

/-- A method, or its signature alone unless it is `decorated`. -/
def methodMember (g : Grammar) (decorated : Bool) : Rule Forest := do
  let head ← methodHead g (methodModifiers (some .plain)) .signature
  oneOf [
    methodDefinition g head,
    do
      require (!decorated)
      return gather .methodSignature head ++ (← memberEnd .signature)]

def abstractMember (g : Grammar) : Rule Forest := do
  let stop := some Place.plain
  let mods := seq [anyModifier stop accessWords, keyword "abstract", anyModifier stop ["override"],
    oneOf [mark "*", anyModifier stop ["get", "set"]]]
  let head ← methodHead g mods .plain
  return gather .abstractMethodSignature head ++ (← memberEnd .plain)

def fieldModifiers : Rule Forest :=
  let one := modifier (some .plain)
  let any := anyModifier (some .plain)
  seq [
    oneOf [
      seq [one "declare", any accessWords],
      seq [oneOf (accessWords.map one), any ["declare"]],
      pure []],
    oneOf [
      seq [keyword "abstract", any ["readonly"]],
      seq [one "readonly", keyword "abstract"],
      keyword "accessor",
      seq [any ["static"], any ["override"], any ["readonly"]]]]

/-- A field with its type and its initial value. -/
def fieldMember (g : Grammar) : Rule Forest := do
  let mods ← fieldModifiers
  let key ← memberKey g mods
  let going := unlessHalted (some .plain)
  let sign ← optionally (going (oneOf [mark "?", mark "!"]))
  let annotation ← optionally (going (ascription g (.outer .plain)))
  let value ← optionally (going (initializer g .outer))
  let stop ← memberEnd (if value.isEmpty then .plain else .expression)
  return gather .publicFieldDefinition (mods ++ key ++ sign ++ annotation ++ value) ++ stop

/-- A block that is run when the class is made. -/
def staticBlock (g : Grammar) : Rule Forest :=
  node .classStaticBlock (seq [keyword "static", optionally (missingSemicolon .plain),
    role .body (g.read (.block .plain))])

def classMember (g : Grammar) : Rule Forest := do
  match ← ahead with
  | ';' :: _ => mark ";"
  | '@' :: _ =>
      let decorators ← seq [decorator g, many (decorator g)]
      return decorators ++ (← oneOf [methodMember g true, fieldMember g])
  | _ =>
      let index := seq [indexSignature g, memberEnd .plain]
      if ← keyClauseAhead then index
      else oneOf [
        staticBlock g, index, methodMember g false, abstractMember g, fieldMember g]

def classBody (g : Grammar) : Rule Forest :=
  node .classBody (seq [mark "\x7b", many (classMember g), mark "\x7d"])

end SpanWeave.Syntax
