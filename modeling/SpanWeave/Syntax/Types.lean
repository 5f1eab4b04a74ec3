import SpanWeave.Syntax.Literal

namespace SpanWeave.Syntax

def typeRule (g : Grammar) (m : TypeMode) : Rule Forest := g.read (.type m)

def ascription (g : Grammar) (m : TypeMode) : Rule Forest :=
  node .ascription (seq [mark ":", typeRule g m])

/-- Types in angle brackets. -/
def typeArguments (g : Grammar) : Rule Forest :=
  node .typeArguments
    (seq [mark "<", commaList (typeRule g .inner), thenFresh false (mark ">")])

def predefinedTypes : List String :=
  ["any", "boolean", "never", "number", "object", "string", "symbol", "unknown", "void"]

def literalWords : List String := ["false", "null", "true", "undefined"]

/-- Words that begin a type and are no names anywhere a type may stand. -/
def typeOnlyWords : List String := ["abstract", "infer", "keyof", "never", "unique", "unknown"]

def typeWords : List String :=
  predefinedTypes ++ literalWords ++
    ["abstract", "import", "infer", "keyof", "new", "readonly", "this", "typeof", "unique"]

/-- A type parameter with its bound and its default; the words `but` are no names of it. -/
def typeParameter (g : Grammar) (but : List String) : Rule Forest :=
  node .typeParameter (seq [
    oneOf [
      seq [keyword "const", role .name (thenFresh true (word .typeIdentifier []))],
      role .name (thenFresh true (word .typeIdentifier ("const" :: but)))],
    optionally (seq [oneOf [keyword "extends", mark ":"], typeRule g .inner]),
    optionally (seq [mark "=", typeRule g .inner])])

/-- Type parameters in angle brackets; the words `but` are no names of the first. -/
def typeParameters (g : Grammar) (but : List String) : Rule Forest :=
  node .typeParameters (seq [mark "<", typeParameter g but,
    many (seq [mark ",", typeParameter g []]), optionally (mark ","), mark ">"])

def privateName : Rule Forest := do
  let s ← ahead
  let n := wordLength (s.drop 1)
  require (s.head? == some '#' && n > 0)
  lexeme .privatePropertyIdentifier (n + 1)

/-- The key of a member: a word, a private name, a string, a number or an expression in square
brackets. -/
def propertyName (g : Grammar) : Rule Forest := oneOf [
  word .propertyIdentifier [],
  privateName,
  stringLiteral,
  numberLiteral,
  node .computedPropertyName (seq [mark "[", g.read (.expression .inner), mark "]"])]

/-- `unique symbol`, or a word that is only a type. -/
def predefinedType : Rule Forest :=
  oneOf (seq [keyword "unique", keyword "symbol"] :: predefinedTypes.map keyword)

/-- `name is T`, as the result of a test. -/
def typePredicate (g : Grammar) (m : TypeMode) : Rule Forest :=
  node .typeExpression (seq [
    oneOf [keyword "this", predefinedType, word .identifier ("asserts" :: typeWords)],
    unlessHalted m.stop (keyword "is"),
    typeRule g m])

/-- `asserts name`, or `asserts name is T`. -/
def assertsPredicate (g : Grammar) (m : TypeMode) : Rule Forest :=
  node .typeExpression (seq [keyword "asserts",
    oneOf [
      typePredicate g m,
      keyword "this",
      word .identifier ("unique" :: predefinedTypes)]])

/-- What may stand for the result of a function: a type or a predicate. -/
def resultType (g : Grammar) (m : TypeMode) : Rule Forest := do
  if ← keywordAhead "asserts" then assertsPredicate g m
  else oneOf [typePredicate g m, typeRule g m]

/-- The result type of a function behind its colon. -/
def resultClause (g : Grammar) (m : TypeMode) : Rule Forest :=
  node .ascription (seq [mark ":", resultType g m])

/-- Type parameters, parameters and result type of a function. -/
def callSignature (g : Grammar) (m : TypeMode) : Rule Forest := seq [
  optionally (typeParameters g []),
  thenFresh m.stop.isNone (role .parameters (g.read .parameters)),
  optionally (unlessHalted m.stop (resultClause g m))]

/-- Words that are names of values and keywords as well, but no names of types where a value may
stand. -/
def softWords : List String :=
  ["async", "declare", "export", "get", "let", "module", "namespace", "override", "private",
   "protected", "public", "set", "static", "type"]

/-- Words that begin values and no types. -/
def valueWords : List String :=
  ["import", "function", "class", "super", "delete", "await", "yield", "using"]

/-- The key of a member, for a look ahead: what a computed key holds is passed unread. -/
def memberKeyAhead : Rule Forest := oneOf [
  word .propertyIdentifier [],
  stringLiteral,
  numberLiteral,
  do
    let s ← ahead
    require (s.head? == some '[')
    match behindBracket? s with
    | some t => set (Cursor.ofText t)
    | none => failure
    return []]

/-- A type that is a word, a literal or an empty pair of brackets, as a value may be. -/
def shortType : Rule Forest := oneOf [
  seq [optionally (keyword "typeof"), word .typeIdentifier (valueWords ++ softWords)],
  stringLiteral,
  seq [optionally (oneOf [mark "-", mark "+"]), numberLiteral],
  seq [mark "\x7b", mark "\x7d"],
  seq [mark "[", mark "]"]]

/-- The sign `c` stands at the head of a text and is no part of a longer one. -/
def signStands (c : Char) (s : Text) : Bool :=
  s.head? == some c && !((c == '>' || c == '|' || c == '&') &&
    (s.drop 1).head?.any fun d => d == c || d == '=')

def signAhead (signs : String) : Rule Forest := do
  let s ← ahead
  require (signs.toList.any fun c => signStands c s)
  return []

/-- What can be a type or a value but is read as a type: a word that begins types, what `typeof`
or a sign makes of a name or a number, inside brackets a predefined type or `undefined`, or a
brace behind whose first member a missing semicolon is taken. Where it could go on as a value,
one of the signs `closers` must follow it. -/
def typeFirst : (fuel : Nat) → (closers : String) → (inside : Bool) → Rule Forest
  | 0, _, _ => failure
  | fuel + 1, closers, inside =>
      let typeWord (words : List String) : Rule Forest := do
        let s ← ahead
        require (words.any fun w => wordStands w s)
        word .typeIdentifier []
      oneOf [
        typeWord typeOnlyWords,
        seq [keyword "typeof", word .identifier [], signAhead (".(|&[" ++ closers)],
        seq [oneOf [mark "-", mark "+"], numberLiteral, signAhead ("|&[" ++ closers)],
        do
          require inside
          seq [typeWord ("undefined" :: predefinedTypes), signAhead closers],
        seq [mark "(", typeFirst fuel ")" true],
        seq [mark "[", typeFirst fuel "]," true],
        seq [
          mark "\x7b",
          memberKeyAhead,
          oneOf [
            missingSemicolon .plain,
            seq [mark ":", oneOf [
              seq [shortType, missingSemicolon .expression],
              typeFirst fuel "," true]]]]]

/-- What stands behind a less-than sign is read as a type. -/
def operandIsType (s : Text) : Bool := (typeFirst s.length ",>" false (.ofText s)).isSome

/-- The parenthesis at the head of a text holds a type and no parameters. -/
def holdsType : Text → Bool
  | '(' :: s =>
      let s := (Cursor.ofText s).ahead
      let next := (Cursor.ofText (s.drop (wordLength s))).ahead
      (literalWords.contains (String.ofList (wordAt s)) && next.head? == some ')') ||
        (typeFirst s.length ")" true (.ofText s)).isSome
  | _ => false

def functionTypeAhead (arrows : Bool) : Rule Bool := do
  let s ← ahead
  return s.head? == some '<' ||
    (arrows && s.head? == some '(' && !holdsType s && (behindBracket? s).any arrowStands)

/-- `(x: A) => B`. -/
def functionType (g : Grammar) (m : TypeMode) : Rule Forest :=
  node .typeExpression (seq [optionally (typeParameters g []), g.read .parameters, mark "=>",
    resultType g m])

/-- `new (x: A) => B`. -/
def constructorType (g : Grammar) (m : TypeMode) : Rule Forest :=
  node .typeExpression (seq [optionally (keyword "abstract"), keyword "new",
    optionally (typeParameters g []), g.read .parameters, mark "=>", typeRule g m])

/-- Words that begin an operand of their own and so are no names where an expression may
stand. -/
def operandWords : List String :=
  ["function", "class", "this", "super", "null", "true", "false", "undefined", "typeof", "void",
   "delete", "await", "yield", "import", "using"]

/-- Words that begin a statement and are no names there. -/
def statementWords : List String :=
  ["if", "for", "while", "do", "switch", "try", "with", "return", "throw", "break", "continue",
   "debugger", "var", "const", "enum", "interface", "abstract"]

def operatorWords : List String := ["as", "satisfies", "in", "instanceof"]

/-- The name that ranges over keys, and `in`. -/
def keyVariable : Rule Forest :=
  seq [word .typeIdentifier (operandWords ++ softWords ++ typeWords), keyword "in"]

/-- A clause in square brackets that ranges over keys is next. -/
def keyClauseAhead : Rule Bool := wouldRead (seq [mark "[", keyVariable])

/-- A key in square brackets with its type, or a clause that ranges over keys. -/
def indexSignature (g : Grammar) : Rule Forest :=
  node .indexSignature (seq [
    optionally (seq [optionally (oneOf [mark "-", mark "+"]), keyword "readonly"]),
    mark "[",
    oneOf [
      seq [word .identifier operandWords, mark ":", typeRule g .inner],
      seq [keyVariable, typeRule g .inner, optionally (seq [keyword "as", typeRule g .inner])]],
    thenFresh true (mark "]"),
    oneOf [mark ":", mark "-?:", mark "+?:", mark "?:"],
    typeRule g (.outer .plain)])

/-- The name of a member is next, or the sign of a generator. -/
def memberNameAhead : Rule Bool := do
  let s ← ahead
  return wordLength s > 0 || numberLength s > 0 || s.head?.any fun c => "\"'[#*".toList.contains c

/-- The word `w` in front of the name of a member. At the end of a line, where a missing
semicolon may stand, the word is the name. -/
def modifier (stop : Option Place) (w : String) : Rule Forest := do
  let ns ← thenFresh stop.isNone (keyword w)
  require (!(← halted stop))
  require (← memberNameAhead)
  return ns

/-- One of the modifiers `ws`, or none. -/
def anyModifier (stop : Option Place) (ws : List String) : Rule Forest :=
  optionally (oneOf (ws.map (modifier stop)))

def accessWords : List String := ["public", "private", "protected"]

/-- What may stand in front of a method or a property, in this order. -/
def propertyModifiers (stop : Option Place) : Rule Forest := seq [
  anyModifier stop accessWords, anyModifier stop ["static"], anyModifier stop ["override"],
  anyModifier stop ["readonly"]]

/-- What may stand in front of a method. Behind `async` no field can be meant, so no missing
semicolon is taken. -/
def methodModifiers (stop : Option Place) : Rule Forest := do
  let mods ← propertyModifiers stop
  let async ← anyModifier stop ["async"]
  let stop := if async.isEmpty then stop else none
  return mods ++ async ++ (← oneOf [mark "*", anyModifier stop ["get", "set"]])

/-- Words and marks that only methods have in front of them. -/
def isMethodMark (n : Node) : Bool :=
  ["async", "get", "set", "*"].any fun w => n.kind = .token w

def constructSignature (g : Grammar) : Rule Forest :=
  node .typeExpression (seq [optionally (keyword "abstract"), keyword "new",
    optionally (typeParameters g []), g.read .parameters,
    optionally (ascription g (.outer .plain))])

/-- A method or a property of an object type. -/
def namedTypeMember (g : Grammar) : Rule Forest :=
  let going := unlessHalted (some .plain)
  let key := seq [propertyName g, optionally (going (mark "?"))]
  node .typeExpression (oneOf [
    do
      let mods ← methodModifiers (some .plain)
      if mods.any isMethodMark then
        return mods ++ (← seq [propertyName g, optionally (mark "?"),
          callSignature g (.outer .plain)])
      else return mods ++ (← seq [key, going (callSignature g (.outer .plain))]),
    seq [propertyModifiers (some .plain), key,
      optionally (going (ascription g (.outer .plain)))]])

/-- An export statement may stand among the members of an object type. -/
def exportedMember (g : Grammar) : Rule Forest := do
  let ns ← g.read .statement
  require (lastKind? ns == some .exportStatement)
  return ns

def typeMember (g : Grammar) : Rule Forest := do
  let s ← ahead
  if wordStands "abstract" s then constructSignature g
  else if s.head? == some '(' || s.head? == some '<' then
    node .typeExpression (callSignature g (.outer .plain))
  else if wordStands "export" s || s.head? == some '@' then
    oneOf [exportedMember g, namedTypeMember g]
  else if ← keyClauseAhead then indexSignature g
  else oneOf [indexSignature g, constructSignature g, namedTypeMember g]

/-- Members in braces, or in braces with bars. -/
def objectType (g : Grammar) : Rule Forest :=
  let sep := oneOf [missingSemicolon .plain, mark ",", mark ";"]
  node .typeExpression (seq [
    oneOf [mark "\x7b|", mark "\x7b"],
    optionally (seq [
      optionally (oneOf [mark ",", mark ";"]),
      sepBy1 sep (typeMember g),
      optionally sep]),
    oneOf [mark "|\x7d", mark "\x7d"]])

def tupleMember (g : Grammar) : Rule Forest := oneOf [
  seq [word .identifier typeWords, optionally (mark "?"), ascription g .inner],
  seq [mark "...", g.read .pattern, ascription g .inner],
  seq [mark "...", typeRule g .inner],
  seq [typeRule g .inner, optionally (mark "?")]]

def callArguments (g : Grammar) : Rule Forest :=
  let item := oneOf [
    node .spreadElement (seq [mark "...", g.read (.expression .inner)]),
    g.read (.expression .inner)]
  role .arguments (node .arguments (seq [mark "(", commaHoles item, mark ")"]))

def memberName : Rule Forest := oneOf [word .propertyIdentifier [], privateName]

/-- Type arguments where a less-than sign can be nothing else, and nothing where there is no such
sign. -/
def requiredTypeArguments (g : Grammar) (m : TypeMode) : Rule Forest := do
  let s ← ahead
  let doubled := (s.drop 1).head?.any fun c => c == '<' || c == '='
  if s.head? == some '<' && !(m.inExpression && doubled) && !(← halted m.stop) then typeArguments g
  else pure []

/-- The members, subscripts and calls behind the name in a query for a type; a call is not called
again (`callable`). -/
def querySteps (g : Grammar) (m : TypeMode) : Nat → (callable : Bool) → Rule Forest
  | 0, _ => pure []
  | fuel + 1, callable => do
      if ← halted m.stop then pure []
      else
        let key := oneOf (stringLiteral :: numberLiteral :: predefinedTypes.map keyword)
        oneOf [
          seq [oneOf [mark "?.", markUnless "." "."], memberName, querySteps g m fuel true],
          seq [mark "?.", mark "[", key, mark "]", querySteps g m fuel true],
          do
            require callable
            oneOf [
              seq [callArguments g, querySteps g m fuel false],
              do
                let ns ← requiredTypeArguments g m
                require (!ns.isEmpty)
                return ns],
          do
            require (!(callable && (← markAhead "<")))
            pure []]

/-- `typeof` with a name, its members and type arguments. -/
def typeQuery (g : Grammar) (m : TypeMode) : Rule Forest :=
  let steps (callable : Bool) : Rule Forest := fun c =>
    querySteps g m (c.rest.length + 1) callable c
  node .typeExpression (seq [
    keyword "typeof",
    oneOf [
      seq [keyword "this", steps false],
      seq [keyword "import", oneOf [seq [callArguments g, steps false], typeArguments g]],
      seq [word .identifier ["this", "import"], steps true]]])

/-- A module as a type, or one of its members. -/
def importType (g : Grammar) (m : TypeMode) : Rule Forest :=
  let member := seq [markUnless "." ".", memberName]
  let call := unlessHalted m.stop (callArguments g)
  let step := unlessHalted m.stop (seq [member, optionally call])
  node .typeExpression (seq [keyword "import", oneOf [callArguments g, step], many step])

def namedType (g : Grammar) (m : TypeMode) (but : List String) : Rule Forest :=
  node .typeExpression (seq [
    thenFresh (m.stop.isNone && !m.inExpression) (word .typeIdentifier but),
    many (unlessHalted m.stop (seq [markUnless "." ".", word .typeIdentifier []])),
    requiredTypeArguments g m])

/-- What a substitution in a template type holds: a type that subscripts may follow, a union or
an inferred type. -/
def substitutedType (g : Grammar) : Rule Forest := do
  let s ← ahead
  require (!(← functionTypeAhead true))
  require (["new", "abstract", "readonly", "import"].all fun w => !wordStands w s)
  typeRule g .inner

/-- A type that is written without operators. -/
def atomicType (g : Grammar) (m : TypeMode) : Rule Forest := do
  match ← ahead with
  | [] => failure
  | c :: _ =>
      if c == '(' then node .typeExpression (seq [mark "(", typeRule g .inner, mark ")"])
      else if c == '\x7b' then objectType g
      else if c == '[' then
        node .typeExpression (seq [mark "[",
          oneOf [commaList (tupleMember g), optionally (mark ",")], mark "]"])
      else if c == '\x60' then template .typeExpression false (substitutedType g)
      else if c == '*' then node .typeExpression (mark "*")
      else if c == '-' || c == '+' then
        node .typeExpression (seq [oneOf [mark "-", mark "+"], numberLiteral])
      else oneOf [
        node .typeExpression stringLiteral,
        node .typeExpression numberLiteral,
        typeQuery g m,
        node .typeExpression (oneOf (predefinedType :: keyword "this" :: literalWords.map keyword)),
        namedType g m typeWords]

def typeSubscripts (g : Grammar) (m : TypeMode) : Rule Forest :=
  many (unlessHalted m.stop (seq [mark "[", optionally (typeRule g .inner), mark "]"]))

def subscriptedType (g : Grammar) (m : TypeMode) : Rule Forest :=
  node .typeExpression (seq [atomicType g m, typeSubscripts g m])

/-- A type that subscripts may follow, behind its operators. -/
def primaryType (g : Grammar) (m : TypeMode) : Nat → Rule Forest
  | 0 => failure
  | fuel + 1 => do
      let s ← ahead
      if wordStands "keyof" s then
        node .typeExpression (seq [keyword "keyof", primaryType g m fuel])
      else if s.head? == some '?' then
        node .typeExpression (seq [mark "?", primaryType g m fuel])
      else if s.head? == some '|' || s.head? == some '&' then typeRule g m
      else subscriptedType g m

def memberType (g : Grammar) (m : TypeMode) : Rule Forest := do
  let s ← ahead
  if ← functionTypeAhead m.arrows then functionType g m
  else if wordStands "new" s || wordStands "abstract" s then constructorType g m
  else if wordStands "infer" s then
    node .typeExpression (seq [keyword "infer", word .typeIdentifier [],
      optionally (unlessHalted m.stop (seq [keyword "extends", typeRule g m]))])
  else if wordStands "readonly" s then
    node .typeExpression (seq [keyword "readonly", typeRule g m])
  else if wordStands "import" s then importType g m
  else fun c => primaryType g m (c.rest.length + 1) c

/-- The sign of a union or an intersection. Behind a value a doubled sign is an operator. -/
def unionSign (m : TypeMode) : Rule Forest :=
  if m.inExpression then oneOf [markUnless "|" "|\x7d", markUnless "&" "&"]
  else oneOf [markUnless "|" "\x7d", mark "&"]

/-- A union or an intersection; signs may also stand in front. -/
def unionType (g : Grammar) (m : TypeMode) : Rule Forest :=
  let first : TypeMode := { m with inExpression := false }
  node .typeExpression (seq [
    many (unionSign first),
    sepBy1 (unlessHalted m.stop (seq [unionSign m, many (unionSign first)])) (memberType g m)])

/-- The rest of a choice by what a type extends. -/
def conditionalTail (g : Grammar) (m : TypeMode) : Rule Forest := seq [
  keyword "extends", typeRule g .inner, mark "?", typeRule g .inner, mark ":", typeRule g m]

/-- What `r` reads behind `left`, gathered with it into a node of kind `k`; `left` alone when
`r` has no result. -/
def continued (k : Kind) (left : Forest) (r : Rule Forest) : Rule Forest :=
  oneOf [node k (do return left ++ (← r)), pure left]

/-- A type with operators, as a whole: a union, an intersection or a choice. -/
def isCompoundType (ns : Forest) : Bool :=
  ns.getLast?.any fun n => ["|", "&", "?"].any n.hasToken

/-- A union, or a choice by what a type extends. -/
def typeChoice (g : Grammar) (m : TypeMode) (left : Forest) : Rule Forest :=
  continued .typeExpression left (unlessHalted m.stop (conditionalTail g m))

/-- What may follow a type with operators: subscripts of the whole, and then further members of
a union. -/
def compoundTail (g : Grammar) (m : TypeMode) : Nat → Forest → Rule Forest
  | 0, left => pure left
  | fuel + 1, left => do
      if (← markAhead "[") && isCompoundType left then
        let subscripts ← typeSubscripts g m
        if subscripts.isEmpty then return left
        else
          let rest ← optionally (unlessHalted m.stop (seq [unionSign m, unionType g m]))
          let next ← typeChoice g m (gather .typeExpression (left ++ subscripts ++ rest))
          compoundTail g m fuel next
      else return left

def anyType (g : Grammar) (m : TypeMode) : Rule Forest := do
  let first ← unionType g m
  let left ← typeChoice g m first
  thenFresh (m.stop.isNone && !m.inExpression) fun c =>
    compoundTail g m (c.rest.length + 1) left c

end SpanWeave.Syntax
