import SpanWeave.Syntax.Members

namespace SpanWeave.Syntax

/-- An expression in parentheses, which may have a type, or several expressions. -/
def parenthesized (g : Grammar) : Rule Forest :=
  node .parenthesizedExpression (seq [
    mark "(",
    do
      let ns ← g.read (.expressions .inner)
      if lastKind? ns == some .sequenceExpression then return ns
      else return ns ++ (← optionally (ascription g .inner)),
    mark ")"])

/-- An expression in parentheses that may also hold parameters: a word that modifies a parameter
is no name in front of an operand. -/
def parenthesizedOperand (g : Grammar) : Rule Forest := do
  let s := (Cursor.ofText ((← ahead).drop 1)).ahead
  let first := String.ofList (wordAt s)
  let next := (Cursor.ofText (s.drop (wordLength s))).ahead
  require (!(("override" :: accessWords).contains first && operandStands next))
  parenthesized g

/-- The sign of an optional step, unless a fraction follows it. -/
def optionalChain : Rule Forest := do
  require (!(← choiceAhead))
  thenFresh true (lexemeOf .optionalChain "?.")
where
  lexemeOf (k : Kind) (s : String) : Rule Forest := do
    require (← markAhead s)
    lexeme k s.length

/-- Kinds of expressions that are no operand of a tag or of an optional call. -/
def isCompound : Kind → Bool
  | .newExpression | .updateExpression | .instantiationExpression | .jsxElement
  | .jsxSelfClosingElement | .asExpression | .satisfiesExpression | .yieldExpression
  | .internalModule => true
  | _ => false

/-- Type arguments behind a value. A sign behind their first word that makes it the operand of an
operator shows that none are meant, and so do a word that can only be a value and a choice in
square brackets. -/
def valueTypeArguments (g : Grammar) : Rule Forest := do
  require (!(← oneSignAhead))
  let s := (Cursor.ofText ((← ahead).drop 1)).ahead
  let next := (Cursor.ofText (s.drop (wordLength s))).ahead
  require (["||", "&&", ">>", ">="].all fun sign => !Text.startsWith next sign.toList)
  require (!(valueWords ++ softWords).any fun w => wordStands w s)
  require (!(← bracketedChoice))
  typeArguments g
where
  /-- What the less-than sign and a square bracket stand before is the condition of a choice. -/
  bracketedChoice : Rule Bool := wouldRead (do
    let _ ← seq [mark "<", mark "[", many (mark "["), shortType]
    require (← choiceAhead)
    return [])
  /-- The less-than sign ahead is the first character of a longer sign. -/
  oneSignAhead : Rule Bool := do return (← markAhead "<<") || (← markAhead "<=")

/-- An expression read in mode `m` can end here. -/
def expressionEnds (m : Mode) : Rule Bool := do
  let s ← ahead
  return s.isEmpty || (s.head?.any fun c => ";,)]\x7d:".toList.contains c) || (← halted m.stop)

/-- A less-than sign and the operand behind it. -/
def comparedOperand (g : Grammar) : Rule Forest := do
  let ns ← mark "<"
  require (!operandIsType (← ahead))
  return ns ++ (← g.read (.binary 9 .inner))

/-- Type arguments alone behind a value, where no comparison can be meant: what the angle
brackets hold and the expression that follows them are not both operands. -/
def loneTypeArguments (g : Grammar) (m : Mode) : Rule Forest := do
  let start ← get
  let ns ← valueTypeArguments g
  let s ← ahead
  let bodyFollows := m.heritage && (s.head? == some '\x7b' || wordStands "implements" s)
  let tagFollows := m.tag && s.head? == some '\x60'
  let dangling := operatorWords.any fun w => wordStands w s &&
    !operandStands (Cursor.ofText (s.drop w.length)).ahead
  if (← get).rest.head? == some '=' then
    require (seq [comparedOperand g, mark ">="] start).isNone
    return ns
  else if bodyFollows || tagFollows || !(operandStands s || dangling) then return ns
  else
    let between := oneOf [markUnless "|" "|=", markUnless "&" "&=", markUnless "<" "<="]
    let stop := (← get).offset
    let comparison := do
      let _ ← seq [comparedOperand g, many (seq [between, g.read (.binary 9 .inner)])]
      if (← get).offset < stop then
        let _ ← seq [markUnless ">" ">=", g.read (.expression m)]
      require (← expressionEnds m)
    require (comparison start).isNone
    return ns

/-- A step from `left` to one of its members. -/
def memberSuffix (g : Grammar) (left : Forest) : Rule Forest :=
  let subscript := seq [mark "[", g.read (.expressions .inner), mark "]"]
  oneOf [
    node .memberExpression (do return left ++ (← seq [markUnless "." ".", memberName])),
    node .subscriptExpression (do return left ++ (← subscript)),
    node .subscriptExpression (do return left ++ (← seq [optionalChain, subscript])),
    node .memberExpression (do return left ++ (← seq [optionalChain, memberName]))]

/-- An optional call of `left`, or `left` as the tag of a template. -/
def tagSuffix (g : Grammar) (left : Forest) : Rule Forest :=
  let callee := left.map (Node.inField .function)
  let compound := (lastKind? left).any isCompound
  oneOf [
    node .callExpression (do
      require (!compound || lastKind? left == some .newExpression)
      return callee ++ (← role .arguments (templateString g))),
    node .callExpression (do
      require (!compound)
      return callee ++
        (← seq [optionalChain, optionally (typeArguments g), callArguments g]))]

/-- A call of `left`. -/
def callSuffix (g : Grammar) (left : Forest) : Rule Forest :=
  let callee := left.map (Node.inField .function)
  node .callExpression (do
    return callee ++ (← oneOf [callArguments g, do
      let types ← valueTypeArguments g
      require (!(← parametersAhead))
      return types ++ (← callArguments g)]))

/-- `left` with a mark behind it: it is not null, or it is changed by one. -/
def signSuffix (left : Forest) : Rule Forest := oneOf [
  node .nonNullExpression (do return left ++ (← thenFresh false (markUnless "!" "="))),
  node .updateExpression (do
    return left ++ (← thenFresh false (oneOf [mark "++", mark "--"])))]

/-- A call of `left`, a step to one of its members, or a sign behind it. -/
def suffix (g : Grammar) (m : Mode) (left : Forest) : Rule Forest := oneOf [
  callSuffix g left,
  memberSuffix g left,
  tagSuffix g left,
  signSuffix left,
  node .instantiationExpression (do return left ++ (← loneTypeArguments g m))]

/-- Only these characters can begin a suffix. -/
def suffixAhead : Rule Bool := do
  return (← ahead).head?.any fun c => "(.[!\x60?<+-".toList.contains c

/-- All suffixes `step` finds behind `left`, up to a missing semicolon. -/
def suffixes (m : Mode) (step : Forest → Rule Forest) : Nat → Forest → Rule Forest
  | 0, left => pure left
  | fuel + 1, left => do
      if (← suffixAhead) && !(← halted m.stop) then
        fun c =>
          match step left c with
          | some (ns, d) => suffixes m step fuel ns d
          | none => some (left, c)
      else pure left

/-- `left` with everything that is called or selected behind it. -/
def withSuffixes (g : Grammar) (m : Mode) (left : Forest) : Rule Forest := fun c =>
  suffixes m (suffix g m) (c.rest.length + 1) left c

def name (w : String) (n : Nat) : Rule Forest :=
  if w == "this" then lexeme .thisExpression n
  else if w == "super" then lexeme .superExpression n
  else if w == "null" then lexeme .nullLiteral n
  else if w == "true" then lexeme .trueLiteral n
  else if w == "false" then lexeme .falseLiteral n
  else if w == "undefined" then lexeme .undefinedLiteral n
  else lexeme .identifier n

def unaryWords : List String := ["await", "yield", "typeof", "void", "delete"]

/-- The module that is running, a call that loads another one, or a member of what loads it. -/
def importedModule (g : Grammar) : Rule Forest :=
  let loader := lexeme .importExpression "import".length
  oneOf [
    node .metaProperty (seq [keyword "import", mark ".", thenFresh false (keyword "meta")]),
    do
      require (← keywordAhead "import")
      let left ← loader
      oneOf [
        node .callExpression (do
          return left.map (Node.inField .function) ++
            (← seq [optionally (typeArguments g), callArguments g])),
        node .memberExpression (do return left ++ (← seq [optionalChain, memberName]))]]

/-- The name of a module with its parts, and its body, unless a missing semicolon is taken in
front of that. -/
def moduleTail (g : Grammar) (but : List String) (stop : Option Place) : Rule Forest :=
  let going := unlessHalted stop
  seq [
    oneOf [
      stringLiteral,
      seq [
        thenFresh stop.isNone (word .identifier but),
        many (going (seq [markUnless "." ".", word .identifier []]))]],
    do
      if (← markAhead "\x7b") && !(← halted stop) then g.read (.block (stop.getD .plain))
      else pure []]

def namespaceValue (g : Grammar) (m : Mode) : Rule Forest :=
  node .internalModule (do
    let ns ← thenFresh false (keyword "namespace")
    require (!(← halted m.stop))
    return ns ++ (← moduleTail g operatorWords m.stop))

/-- Parentheses, brackets, literals, functions, classes and names. -/
def atom (g : Grammar) (m : Mode) : Rule Forest := do
  let s ← ahead
  match s with
  | [] => failure
  | c :: _ =>
      if c == '(' then parenthesizedOperand g
      else if c == '[' then
        if ← targetAhead then oneOf [arrayPattern g, arrayLiteral g] else arrayLiteral g
      else if c == '\x7b' then
        if ← targetAhead then oneOf [objectPattern g, objectLiteral g] else objectLiteral g
      else if c == '\x22' || c == '\x27' then stringLiteral
      else if c == '\x60' then templateString g
      else if c == '/' then regexLiteral
      else if c == '@' then classExpression g
      else if c.isDigit || c == '.' then numberLiteral
      else
        let n := wordLength s
        let w := String.ofList (s.take n)
        if n = 0 then failure
        else if w == "function" then functionExpression g
        else if w == "class" then classExpression g
        else if w == "import" then importedModule g
        else if w == "async" then oneOf [
          do
            let broken ← wouldRead (seq [keyword "async", missingSemicolon .expression])
            require (!(broken && m.stop.isSome))
            functionExpression g,
          name w n]
        else if w == "namespace" then oneOf [namespaceValue g m, name w n]
        else if unaryWords.contains w || w == "using" then failure
        else name w n

/-- An arrow function with a block can be called like any value, and any arrow function can be the
tag of a template. -/
def arrowOperand (g : Grammar) (m : Mode) : Rule Forest := do
  let ns ← arrowFunction g m
  let closed := (ns.getLast?.bind fun n => n.child? .body).any fun b =>
    b.kind = .statementBlock
  if closed || (← markAhead "\x60") then withSuffixes g m ns else pure ns

/-- What stands behind `new` is a constructor: the word is no name in front of an operand. -/
def constructorAhead (m : Mode) : Rule Bool := fun c =>
  match thenFresh false (keyword "new") c with
  | some (_, d) =>
      match halted m.stop d with
      | some (true, _) => some (false, c)
      | _ => some (operandStands d.ahead || d.ahead.head? == some '.', c)
  | none => some (false, c)

/-- A constructor and its arguments behind `new`. The constructor may be a member or the result
of another constructor, and behind it a less-than sign begins type arguments. -/
def newExpression (g : Grammar) (m : Mode) : Nat → Rule Forest
  | 0 => failure
  | fuel + 1 => oneOf [
      node .metaProperty (seq [
        thenFresh false (keyword "new"),
        mark ".",
        thenFresh false (keyword "target")]),
      node .newExpression (seq [
        thenFresh false (keyword "new"),
        do
          let step (left : Forest) : Rule Forest := oneOf [memberSuffix g left, tagSuffix g left]
          let first ←
            if ← constructorAhead m then do
              let inner ← newExpression g m fuel
              if lastKind? inner == some .metaProperty then pure inner
              else oneOf [callSuffix g inner, step inner, signSuffix inner]
            else oneOf [arrowFunction g m, atom g m]
          fun c => suffixes m step (c.rest.length + 1) first c,
        do
          let s ← ahead
          if s.head? == some '<' && operandStands s then typeArguments g else pure [],
        do
          if ← halted m.stop then pure [] else optionally (callArguments g)])]

def primary (g : Grammar) (m : Mode) : Rule Forest := do
  let first ← if ← constructorAhead m then
      fun c => newExpression g m (c.rest.length + 1) c
    else atom g m
  withSuffixes g m first

/-- An element, unless the tag reads as a list of type parameters. -/
def elementOperand (g : Grammar) (m : Mode) : Rule Forest := do
  let s := (Cursor.ofText ((← ahead).drop 1)).ahead
  let n := wordLength s
  let next := (Cursor.ofText (s.drop n)).ahead
  let bound := String.ofList (wordAt (Cursor.ofText (next.drop 1)).ahead)
  require (!wordStands "const" s && !(n > 0 && wordStands "extends" next))
  require (!(n > 0 && next.head? == some ':' && typeWords.contains bound))
  let left ← g.read .element
  withSuffixes g m left

/-- A value with everything that is called or selected behind it. -/
def chainRule (g : Grammar) (m : Mode) : Rule Forest := do
  let s ← ahead
  if s.head? == some '<' then
    if g.markup then oneOf [arrowOperand g m, elementOperand g m] else arrowOperand g m
  else if s.head? == some '(' || wordLength s > 0 then oneOf [arrowOperand g m, primary g m]
  else primary g m

/-- The signs that change the value of a variable. -/
def augmentedSigns : List String :=
  ["+=", "-=", "*=", "/=", "%=", "^=", "&=", "|=", ">>>=", ">>=", "<<=", "**=", "&&=", "||=",
   "??="]

/-- The value of an expression of this kind can be changed by a sign. -/
def isVariable : Kind → Bool
  | .identifier | .memberExpression | .subscriptExpression | .nonNullExpression
  | .parenthesizedExpression => true
  | _ => false

/-- A value can be assigned to an expression of this kind. -/
def isAssignable (k : Kind) : Bool := isTarget k || k = .parenthesizedExpression

/-- An assignment to `left`, if one follows it. -/
def assignmentTail (g : Grammar) (m : Mode) (left : Forest) : Rule Forest := oneOf [
  unlessHalted m.stop (oneOf [
    node .assignmentExpression (do
      require ((lastKind? left).any isAssignable)
      return left ++ (← seq [markUnless "=" "=>", g.read (.expression m)])),
    node .augmentedAssignmentExpression (do
      require ((lastKind? left).any isVariable)
      return left ++ (← seq [oneOf (augmentedSigns.map mark), g.read (.expression m)]))]),
  pure left]

/-- A resource that is released at the end of its scope. -/
def usingAssignment (g : Grammar) (m : Mode) : Rule Forest :=
  node .assignmentExpression (seq [
    keyword "using",
    do
      let ns ← g.read (.chain .inner)
      require ((lastKind? ns).any isAssignable)
      return ns,
    markUnless "=" "=>",
    g.read (.expression m)])

def unaryExpression (g : Grammar) (m : Mode) : Rule Forest := oneOf [
  node .updateExpression (seq [oneOf [mark "++", mark "--"], g.read (.operand m)]),
  node .unaryExpression (seq [oneOf [mark "!", mark "~", mark "+", mark "-"],
    g.read (.operand m)])]

/-- `yield`, with a value if one can begin behind it. -/
def yieldExpression (g : Grammar) (m : Mode) : Rule Forest := do
  let ns ← thenFresh false (keyword "yield")
  let s ← ahead
  if s.head? == some '*' && (s.drop 1).head? != some '*' then
    node .yieldExpression (do return ns ++ (← seq [mark "*", g.read (.expression m)]))
  else if !(← halted m.stop) && operandStands s then
    node .yieldExpression (do return ns ++ (← g.read (.expression m)))
  else assignmentTail g m (← withSuffixes g m (gather .yieldExpression ns))

def wordExpression (g : Grammar) (m : Mode) (w : String) : Rule Forest :=
  if w == "await" then node .awaitExpression (seq [keyword w, g.read (.operand m)])
  else if w == "yield" then yieldExpression g m
  else node .unaryExpression (seq [keyword w, g.read (.operand m)])

/-- A private name, as what a value is asked for. -/
def privateQuestion (g : Grammar) (m : Mode) : Rule Forest :=
  node .binaryExpression (seq [privateName, keyword "in", g.read (.binary 9 m)])

def operandRule (g : Grammar) (m : Mode) : Rule Forest := do
  let s ← ahead
  let w := String.ofList (wordAt s)
  if s.head?.any fun c => "!~+-".toList.contains c then unaryExpression g m
  else if s.head? == some '#' then privateQuestion g m
  else if s.head? == some '<' && !g.markup then
    oneOf [
      do
        let left ← g.read (.chain m)
        assignmentTail g m left,
      do
        let s := (Cursor.ofText (s.drop 1)).ahead
        require (!wordStands "const" s)
        node .typeAssertion (seq [typeArguments g, g.read (.operand m)])]
  else if unaryWords.contains w then wordExpression g m w
  else if w == "using" then usingAssignment g m
  else
    let left ← g.read (.chain m)
    assignmentTail g m left

/-- A binary operator: its sign, its level and whether it groups to the right. Signs of
assignments are none. -/
def operatorAt? (s : Text) : Option (String × Nat × Bool) :=
  match s with
  | '*' :: '*' :: t => notBefore t "=" ("**", 13, true)
  | '*' :: t => notBefore t "=" ("*", 11, false)
  | '/' :: t => notBefore t "=" ("/", 11, false)
  | '%' :: t => notBefore t "=" ("%", 11, false)
  | '+' :: t => notBefore t "+=" ("+", 10, false)
  | '-' :: t => notBefore t "-=" ("-", 10, false)
  | '<' :: '<' :: t => notBefore t "=" ("<<", 9, false)
  | '<' :: '=' :: _ => some ("<=", 8, false)
  | '<' :: _ => some ("<", 8, false)
  | '>' :: '>' :: '>' :: t => notBefore t "=" (">>>", 9, false)
  | '>' :: '>' :: t => notBefore t "=" (">>", 9, false)
  | '>' :: '=' :: _ => some (">=", 8, false)
  | '>' :: _ => some (">", 8, false)
  | '=' :: '=' :: '=' :: _ => some ("===", 7, false)
  | '=' :: '=' :: _ => some ("==", 7, false)
  | '!' :: '=' :: '=' :: _ => some ("!==", 7, false)
  | '!' :: '=' :: _ => some ("!=", 7, false)
  | '&' :: '&' :: t => notBefore t "=" ("&&", 3, false)
  | '&' :: t => notBefore t "=" ("&", 6, false)
  | '|' :: '|' :: t => notBefore t "=" ("||", 2, false)
  | '|' :: t => notBefore t "=" ("|", 4, false)
  | '^' :: t => notBefore t "=" ("^", 5, false)
  | '?' :: '?' :: t => notBefore t "=" ("??", 1, false)
  | _ =>
      if wordStands "in" s then some ("in", 8, false)
      else if wordStands "instanceof" s then some ("instanceof", 8, false)
      else none
where
  /-- The operator, unless one of the characters `bad` follows its sign. -/
  notBefore (t : Text) (bad : String) (op : String × Nat × Bool) : Option (String × Nat × Bool) :=
    if t.head?.any fun c => bad.toList.contains c then none else some op

/-- The sign of an operator and its right operand. Behind a less-than sign a type may stand, so
what is read as a type is no operand there. -/
def operation (g : Grammar) (m : Mode) (sign : String) (level : Nat) : Rule Forest := do
  let ns ← lexeme (.token sign) sign.length
  let s ← ahead
  require (!(sign == "<" && operandIsType s))
  return ns ++ (← g.read (.binary level m))

/-- A type behind `as` or `satisfies`, with what is called, selected or assigned behind it. -/
def typedTail (g : Grammar) (m : Mode) (left : Forest) : Rule Forest := do
  let type := typeRule g m.typeMode
  let ns ← oneOf [
    node .asExpression (do
      return left ++ (← seq [keyword "as", oneOf [thenFresh false (keyword "const"), type]])),
    node .satisfiesExpression (do return left ++ (← seq [keyword "satisfies", type]))]
  assignmentTail g m (← withSuffixes g m ns)

/-- The operators of `level` and above behind `left`, with their operands. Types behind a value
bind weaker than operators, except than the power on its left. -/
def binaryTail (g : Grammar) (m : Mode) (level : Nat) : Nat → Forest → Rule Forest
  | 0, left => pure left
  | fuel + 1, left => do
      if ← halted m.stop then pure left
      else
        let s ← ahead
        match operatorAt? s with
        | some (sign, l, right) =>
            if l < level then pure left
            else
              fun c =>
                match operation g m sign (if right then l else l + 1) c with
                | some (ns, d) =>
                    binaryTail g m level fuel (gather .binaryExpression (left ++ ns)) d
                | none => some (left, c)
        | none =>
            if level = 0 || level = 13 then
              fun c =>
                match typedTail g m left c with
                | some (ns, d) => binaryTail g m level fuel ns d
                | none => some (left, c)
            else pure left

/-- Operands joined by operators of `level` and above. -/
def binaryRule (g : Grammar) (level : Nat) (m : Mode) : Rule Forest := do
  let left ← g.read (.operand m)
  fun c => binaryTail g m level (c.rest.length + 1) left c

/-- A choice between two expressions by `condition`. -/
def choiceTail (g : Grammar) (m : Mode) (condition : Forest) (inner : Mode) : Rule Forest :=
  node .ternaryExpression (do
    return condition ++ (← seq [mark "?", g.read (.expression inner), mark ":",
      g.read (.expression m)]))

def expressionRule (g : Grammar) (m : Mode) : Rule Forest := do
  let left ← g.read (.binary 0 m)
  if (← choiceAhead) && !(← halted m.stop) then
    oneOf [
      choiceTail g m left .inner,
      choiceTail g m left { Mode.inner with arrowTypes := false },
      pure left]
  else pure left

def expressionsRule (g : Grammar) (m : Mode) : Rule Forest := do
  let first ← g.read (.expression m)
  if (← markAhead ",") && !(← halted m.stop) then
    continued .sequenceExpression first (do
      let rest ← many (seq [mark ",", g.read (.expression m)])
      require (!rest.isEmpty)
      return rest)
  else pure first

end SpanWeave.Syntax
