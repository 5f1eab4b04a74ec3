import SpanWeave.Syntax.Expressions

namespace SpanWeave.Syntax

def firstWord (soft : Bool) (w : String) : Rule Forest := do
  let ns ← thenFresh (!soft) (keyword w)
  let stops ← if soft then mayStop .expression else pure false
  require (!stops)
  return ns

/-- Words that are no names behind the first word of a declaration: if that is a name itself,
they are operators. -/
def wordsBehind (soft : Bool) : List String := if soft then operatorWords else []

/-- What a missing semicolon ends behind a declaration that may also be an expression. -/
def declarationPlace (soft : Bool) : Place := if soft then .expression else .plain

/-- A function with a body, or its signature alone. -/
def functionDeclaration (g : Grammar) (soft : Bool) : Rule Forest := do
  let place := declarationPlace soft
  let head ← seq [optionally (firstWord soft "async"), keyword "function"]
  let star ← optionally (mark "*")
  let signature ← seq [role .name (thenFresh true (word .identifier [])),
    callSignature g (if star.isEmpty then .outer .signature else .inner)]
  let ended ← if star.isEmpty then mayStop .signature else pure false
  if (← markAhead "\x7b") && !ended then
    let body ← role .body (g.read (.block place))
    let stop ← optionally (missingSemicolon place)
    return gather (if star.isEmpty then .functionDeclaration else .generatorFunctionDeclaration)
      (head ++ star ++ signature ++ body ++ stop)
  else
    require star.isEmpty
    let stop ← semicolon .signature
    return gather .functionSignature (head ++ signature ++ stop)

/-- A variable with its type and its initial value; the words `but` are no names of it. -/
def variableDeclarator (g : Grammar) (but : List String) : Rule Forest :=
  let going := unlessHalted (some .plain)
  node .variableDeclarator (oneOf [
    seq [
      role .name (word .identifier but),
      going (mark "!"),
      ascription g (.outer .plain)],
    seq [
      role .name (oneOf [destructuring g, word .identifier but]),
      optionally (going (ascription g (.outer .plain))),
      optionally (going (initializer g .outer))]])

/-- Where a missing semicolon may end a declaration with these variables. -/
def declaratorPlace (ns : Forest) : Place :=
  match ns.getLast? with
  | some n => if (n.child? .value).isSome then .expression else .plain
  | none => .plain

/-- Variables behind their keyword, up to the end of the statement; the words `but` are no names
of the first. -/
def declarators (g : Grammar) (but : List String) : Rule Forest := do
  let ns ← seq [variableDeclarator g but,
    many (unlessHalted (some .expression) (seq [mark ",", variableDeclarator g []]))]
  let stop ← semicolon (declaratorPlace ns)
  return ns ++ stop

/-- Constants and block-scoped variables. -/
def lexicalDeclaration (g : Grammar) (soft : Bool) : Rule Forest :=
  node .lexicalDeclaration (oneOf [
    seq [keyword "const", declarators g ["enum"]],
    seq [firstWord soft "let", declarators g (wordsBehind soft)]])

def variableDeclaration (g : Grammar) : Rule Forest :=
  node .variableDeclaration (seq [keyword "var", declarators g []])

def classDeclaration (g : Grammar) (soft : Bool) : Rule Forest :=
  node .classDeclaration (seq [many (decorator g), keyword "class", className, classTail g,
    optionally (missingSemicolon (declarationPlace soft))])

def abstractClassDeclaration (g : Grammar) : Rule Forest :=
  node .abstractClassDeclaration (seq [many (decorator g), keyword "abstract", keyword "class",
    thenFresh true (role .name (word .typeIdentifier [])), thenFresh true (classTail g)])

def moduleDeclaration (g : Grammar) (soft : Bool) : Rule Forest :=
  node .moduleDeclaration (seq [firstWord soft "module", moduleTail g (wordsBehind soft) none])

def namespaceDeclaration (g : Grammar) (soft : Bool) : Rule Forest :=
  node .internalModule (seq [firstWord soft "namespace",
    moduleTail g (wordsBehind soft) (if soft then some .expression else none),
    if soft then optionally (missingSemicolon .expression) else pure []])

def typeAliasDeclaration (g : Grammar) (soft : Bool) : Rule Forest :=
  node .typeAliasDeclaration (seq [
    firstWord soft "type",
    role .name (thenFresh true (word .typeIdentifier (wordsBehind soft))),
    optionally (typeParameters g []),
    mark "=",
    typeRule g (.outer .plain),
    semicolon .plain])

def interfaceDeclaration (g : Grammar) : Rule Forest :=
  node .interfaceDeclaration (seq [
    keyword "interface",
    thenFresh true (role .name (word .typeIdentifier [])),
    optionally (typeParameters g []),
    optionally (seq [keyword "extends", sepBy1 (mark ",") (namedType g .inner [])]),
    thenFresh true (objectType g)])

def enumDeclaration (g : Grammar) : Rule Forest :=
  node .enumDeclaration (seq [
    optionally (keyword "const"),
    keyword "enum",
    thenFresh true (role .name (word .identifier [])),
    thenFresh true (node .enumBody (seq [
      mark "\x7b",
      optionally (commaList (do
        let key ← thenFresh true (propertyName g)
        continued .enumAssignment key (initializer g .inner))),
      mark "\x7d"]))])

/-- A short name for a member of a module. -/
def importAlias : Rule Forest :=
  node .importAlias (seq [
    keyword "import",
    word .identifier ["type", "typeof"],
    mark "=",
    word .identifier ["require"],
    many (seq [markUnless "." ".", word .identifier []]),
    semicolon .plain])

/-- A declaration of something that exists elsewhere. -/
def ambientDeclaration (g : Grammar) (soft : Bool) : Rule Forest :=
  node .ambientDeclaration (seq [firstWord soft "declare", oneOf [
    g.read (.declaration false),
    seq [keyword "global", g.read (.block .plain)],
    seq [keyword "module", mark ".", word .propertyIdentifier [], mark ":",
      typeRule g (.outer .plain), semicolon .plain]]])

def declarationRule (g : Grammar) (soft : Bool) : Rule Forest := do
  let s ← ahead
  let w := String.ofList (wordAt s)
  if s.head? == some '@' then oneOf [classDeclaration g soft, abstractClassDeclaration g]
  else if w == "function" || w == "async" then functionDeclaration g soft
  else if w == "class" then classDeclaration g soft
  else if w == "abstract" then abstractClassDeclaration g
  else if w == "const" then oneOf [enumDeclaration g, lexicalDeclaration g soft]
  else if w == "let" then lexicalDeclaration g soft
  else if w == "var" then variableDeclaration g
  else if w == "module" then moduleDeclaration g soft
  else if w == "namespace" then namespaceDeclaration g soft
  else if w == "type" then typeAliasDeclaration g soft
  else if w == "interface" then interfaceDeclaration g
  else if w == "enum" then enumDeclaration g
  else if w == "import" then importAlias
  else if w == "declare" then ambientDeclaration g soft
  else failure

/-- The next token continues an expression and begins no statement. -/
def expressionContinues : Rule Bool := do
  if ← mayStop .expression then return false
  let s ← ahead
  match s with
  | [] => return false
  | '.' :: t => return !t.head?.any Char.isDigit
  | '!' :: t => return t.head? == some '='
  | '<' :: t => return t.head?.any fun c => c == '<' || c == '='
  | c :: _ =>
      return "?,*%>=&|^".toList.contains c || operatorWords.any fun w => wordStands w s

/-- Kinds of statements that would be expressions if something continued them. -/
def mayBeExpression : Kind → Bool
  | .functionDeclaration | .generatorFunctionDeclaration | .classDeclaration | .internalModule
  | .statementBlock => true
  | _ => false

/-- What `r` reads. What continues as an expression behind it is left to `other`. -/
def unlessContinued (r other : Rule Forest) : Rule Forest := fun c =>
  match r c with
  | none => none
  | some (ns, d) =>
      match (lastKind? ns).any mayBeExpression, expressionContinues d with
      | true, some (true, _) => other c
      | _, _ => some (ns, d)

/-- A function, a class or a namespace with a name begins here. -/
def namedHeadAhead : Rule Bool := wouldRead (oneOf [
  seq [optionally (firstWord true "async"), keyword "function", optionally (mark "*"),
    word .identifier []],
  seq [keyword "class", className],
  seq [firstWord true "namespace", oneOf [stringLiteral, word .identifier operatorWords]]])

end SpanWeave.Syntax
