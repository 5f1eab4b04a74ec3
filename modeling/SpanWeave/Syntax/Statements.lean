import SpanWeave.Syntax.Modules

namespace SpanWeave.Syntax

/-- Statements in braces. A missing semicolon behind the closing brace is part of the block,
with the comments in front of it. -/
def blockRule (g : Grammar) (p : Place) : Rule Forest :=
  node .statementBlock (seq [mark "\x7b", many (g.read .statement), mark "\x7d",
    optionally (missingSemicolon p)])

/-- The word `let` in front of a square bracket declares variables. -/
def listDeclared : Rule Bool := wouldRead (seq [keyword "let", mark "["])

def expressionStatement (g : Grammar) : Rule Forest := do
  require (!statementWords.contains (String.ofList (wordAt (← ahead))))
  require (!(← listDeclared))
  node .expressionStatement (seq [g.read (.expressions .outer), semicolon .expression])

def condition (g : Grammar) : Rule Forest := thenFresh true (parenthesized g)

/-- `if`, with or without `else`. -/
def ifStatement (g : Grammar) : Rule Forest :=
  node .ifStatement (seq [keyword "if", condition g, g.read .statement,
    whenAhead "else" (node .elseClause (seq [keyword "else", g.read .statement]))])

/-- What `r` reads, unless a word that declares variables is next. -/
def unlessDeclared (r : Rule Forest) : Rule Forest := do
  require (!((← keywordAhead "var") || (← keywordAhead "const") || (← listDeclared)))
  r

/-- The head of a loop over the items or the keys of a value. -/
def forInHeader (g : Grammar) (awaited : Bool) : Rule Forest :=
  let going (p : Place) := unlessHalted (if awaited then none else some p)
  let direction := oneOf [keyword "in", keyword "of"]
  let binding (but : List String) := oneOf [destructuring g, word .identifier but]
  seq [
    mark "(",
    oneOf [
      seq [
        keyword "var",
        binding [],
        oneOf [
          going .plain direction,
          seq [markUnless "=" "=>", g.read (.binary 9 .inner), keyword "in"],
          seq [initializer g .inner, going .expression direction]]],
      seq [
        oneOf [
          seq [keyword "const", binding []],
          seq [thenFresh false (keyword "let"), binding ("of" :: operatorWords)]],
        optionally (missingSemicolon .plain),
        direction],
      do
        let s ← ahead
        let pattern := s.head?.any fun c => c == '[' || c == '\x7b'
        let ns ← if pattern then g.read .pattern else unlessDeclared (g.read (.chain .inner))
        require ((lastKind? ns).any isAssignable)
        return ns ++ (← direction),
      seq [oneOf [keyword "namespace", keyword "new"], keyword "of"]],
    g.read (.expressions .inner),
    thenFresh true (mark ")")]

def forHeader (g : Grammar) : Rule Forest := seq [
  mark "(",
  oneOf [
    node .lexicalDeclaration (oneOf [
      seq [keyword "const", declarators g []],
      seq [thenFresh false (keyword "let"), declarators g ("of" :: operatorWords)]]),
    variableDeclaration g,
    seq [unlessRead (seq [keyword "async", keyword "of"]),
      unlessDeclared (g.read (.expressions .inner)), mark ";"],
    node .emptyStatement (mark ";")],
  oneOf [seq [g.read (.expressions .inner), mark ";"], node .emptyStatement (mark ";")],
  optionally (g.read (.expressions .inner)),
  thenFresh true (mark ")")]

def forStatement (g : Grammar) : Rule Forest := oneOf [
  node .forInStatement (seq [keyword "for", keyword "await", forInHeader g true,
    g.read .statement]),
  node .forInStatement (seq [keyword "for", forInHeader g false, g.read .statement]),
  node .forStatement (seq [keyword "for", forHeader g, g.read .statement])]

/-- The statements of one case, up to the next case. -/
def caseBody (g : Grammar) : Rule Forest :=
  many (seq [unlessRead (keyword "case"), unlessRead (keyword "default"), g.read .statement])

/-- `switch`. -/
def switchStatement (g : Grammar) : Rule Forest :=
  node .switchStatement (seq [keyword "switch", condition g,
    node .switchBody (seq [
      mark "\x7b",
      many (oneOf [
        node .switchCase (seq [keyword "case", g.read (.expressions .inner), mark ":",
          caseBody g]),
        node .switchDefault (seq [keyword "default", mark ":", caseBody g])]),
      thenFresh true (mark "\x7d")])])

/-- `try`, with what follows a failure or any end. -/
def tryStatement (g : Grammar) : Rule Forest :=
  node .tryStatement (seq [
    keyword "try",
    g.read (.block .plain),
    whenAhead "catch" (node .catchClause (seq [
      keyword "catch",
      optionally (seq [mark "(", oneOf [destructuring g, word .identifier []],
        optionally (ascription g .inner), mark ")"]),
      g.read (.block .plain)])),
    whenAhead "finally" (node .finallyClause (seq [keyword "finally", g.read (.block .plain)]))])

/-- A jump out of or to the next round of a loop. -/
def jumpStatement (k : Kind) (w : String) : Rule Forest :=
  let head := thenFresh false (keyword w)
  node k (oneOf [
    seq [head, semicolon .plain],
    seq [head, word .statementIdentifier [], semicolon .plain]])

/-- `return`, with a value on the same line or without one. -/
def returnStatement (g : Grammar) : Rule Forest :=
  let head := thenFresh false (keyword "return")
  node .returnStatement (oneOf [
    seq [head, semicolon .plain],
    seq [head, g.read (.expressions .outer), semicolon .expression]])

def labeledStatement (g : Grammar) : Rule Forest :=
  node .labeledStatement (seq [word .statementIdentifier (operandWords ++ statementWords),
    mark ":", g.read .statement])

/-- A loop whose condition follows its body. -/
def doStatement (g : Grammar) (body : Rule Forest) : Rule Forest :=
  node .doStatement (seq [keyword "do", body, keyword "while", parenthesized g,
    optionally (semicolon .plain)])

/-- A statement that begins with the word `w`, if that is a keyword. -/
def wordStatement (g : Grammar) (w : String) : Rule Forest :=
  if w == "if" then ifStatement g
  else if w == "for" then forStatement g
  else if w == "while" then
    node .whileStatement (seq [keyword w, condition g, g.read .statement])
  else if w == "do" then
    oneOf [doStatement g (g.read .statement), doStatement g (expressionStatement g)]
  else if w == "switch" then switchStatement g
  else if w == "try" then tryStatement g
  else if w == "with" then
    node .withStatement (seq [keyword w, condition g, g.read .statement])
  else if w == "return" then returnStatement g
  else if w == "throw" then
    node .throwStatement (seq [keyword w, g.read (.expressions .outer), semicolon .expression])
  else if w == "break" then jumpStatement .breakStatement w
  else if w == "continue" then jumpStatement .continueStatement w
  else if w == "debugger" then
    node .debuggerStatement (seq [thenFresh false (keyword w), semicolon .plain])
  else if w == "import" then oneOf [importStatement g, importAlias]
  else g.read (.declaration true)

def statementRule (g : Grammar) : Rule Forest := do
  let s ← ahead
  match s.head? with
  | some ';' => node .emptyStatement (mark ";")
  | some '\x7b' => oneOf [
      unlessContinued (g.read (.block .plain)) (unlessBlock g (expressionStatement g)),
      unlessBlock g (expressionStatement g),
      do
        let ns ← g.read (.block .plain)
        require (ns.getLast?.any fun n => !n.namedChildren.isEmpty)
        return ns]
  | some '@' => oneOf [
      exportStatement g,
      unlessContinued (g.read (.declaration true)) (expressionStatement g),
      expressionStatement g]
  | _ =>
      let w := String.ofList (wordAt s)
      if w == "" then expressionStatement g
      else if ← exportAhead then exportStatement g
      else if ← namedHeadAhead then
        unlessContinued (g.read (.declaration true)) (expressionStatement g)
      else oneOf [labeledStatement g, wordStatement g w, expressionStatement g]

end SpanWeave.Syntax
