import SpanWeave.Syntax.Declarations

namespace SpanWeave.Syntax

/-- The module that names come from. -/
def fromClause : Rule Forest := seq [keyword "from", role .source stringLiteral]

/-- A name in a list of names or in front of one. -/
def listedWord (but : List String) : Rule Forest := thenFresh true (word .identifier but)

/-- `* as name`. -/
def namespaceImport : Rule Forest :=
  node .namespaceImport (seq [mark "*", keyword "as", listedWord []])

def listedString : Rule Forest := thenFresh true stringLiteral

/-- The end of one name in a list of names. -/
def nameEnds : Rule Forest := do
  require ((← markAhead ",") || (← markAhead "\x7d"))
  return []

/-- An imported name, under another one or under its own; the words `but` are no names. -/
def importedName (but : List String) : Rule Forest := oneOf [
  seq [role .name (oneOf [listedWord but, listedString]), keyword "as",
    role .localName (listedWord []), nameEnds],
  seq [role .name (listedWord ("default" :: but)), nameEnds]]

/-- One of the names in an import, or one that is imported as a type. Behind the word `type` a
second name follows that word, or it is the name. -/
def importSpecifier : Rule Forest := oneOf [
  node .importSpecifier (seq [keyword "type", importedName ["as"]]),
  node .importSpecifier (seq [keyword "typeof", importedName []]),
  node .importSpecifier (importedName ["typeof"])]

def namedImports : Rule Forest :=
  node .namedImports (seq [mark "\x7b", optionally (commaList importSpecifier),
    optionally (mark ","), thenFresh true (mark "\x7d")])

/-- What a module is imported as; the words `but` are no names. -/
def importClause (but : List String) : Rule Forest :=
  node .importClause (oneOf [
    namespaceImport,
    namedImports,
    seq [listedWord but, optionally (seq [mark ",", oneOf [namespaceImport, namedImports]])]])

def importAttribute (g : Grammar) : Rule Forest := do
  require (!(← mayStop .plain))
  node .importAttribute (seq [oneOf [keyword "with", keyword "assert"],
    thenFresh false (objectLiteral g)])

/-- `name = require('module')`. -/
def importRequireClause (but : List String) : Rule Forest :=
  node .importRequireClause (seq [listedWord but, mark "=", keyword "require", mark "(",
    role .source stringLiteral, mark ")"])

/-- What an import statement imports; the words `but` are no names. -/
def importedThings (but : List String) : Rule Forest := oneOf [
  seq [importClause but, fromClause],
  importRequireClause ("type" :: but),
  role .source stringLiteral]

def importStatement (g : Grammar) : Rule Forest :=
  node .importStatement (seq [
    keyword "import",
    oneOf [
      seq [keyword "type", importedThings ["from"]],
      seq [keyword "typeof", importedThings []],
      importedThings ["typeof"]],
    optionally (importAttribute g),
    semicolon .plain])

/-- A name as another module sees it. -/
def exportedName (but : List String) : Rule Forest := oneOf [listedWord but, listedString]

/-- One of the names in an export, or one that is exported as a type. -/
def exportSpecifier : Rule Forest :=
  let listed (but : List String) : Rule Forest := seq [
    role .name (exportedName but),
    optionally (seq [keyword "as", role .localName (exportedName [])]),
    nameEnds]
  node .exportSpecifier (oneOf [
    seq [oneOf [keyword "type", keyword "typeof"], listed []],
    listed ["type", "typeof"]])

def exportClause : Rule Forest :=
  node .exportClause (seq [mark "\x7b", optionally (commaList exportSpecifier),
    optionally (mark ","), mark "\x7d"])

/-- The end of an export that lists names. A missing semicolon stands before the module. -/
def exportedEnd : Rule Forest := do
  if ← mayStop .plain then missingSemicolon .plain
  else seq [optionally fromClause, semicolon .plain]

/-- What follows `export` when names are listed. -/
def exportedNames : Rule Forest := oneOf [
  seq [
    oneOf [
      seq [mark "*", fromClause],
      seq [node .namespaceExport (seq [mark "*", keyword "as", exportedName []]), fromClause]],
    semicolon .plain],
  seq [optionally (keyword "type"), exportClause, exportedEnd]]

/-- What follows `export default`: a declaration or a value. -/
def defaultExport (g : Grammar) : Rule Forest := seq [
  keyword "default",
  oneOf [
    role .declaration (unlessContinued (g.read (.declaration true)) failure),
    do
      let s ← ahead
      require (["abstract", "const", "enum", "interface", "var"].all fun w => !wordStands w s)
      seq [role .value (g.read (.expression .outer)),
        semicolon .expression]]]

def exportedDeclaration (g : Grammar) : Rule Forest := oneOf [
  defaultExport g,
  role .declaration (g.read (.declaration false))]

/-- An export statement. Decorators may stand in front of one that declares something. -/
def exportStatement (g : Grammar) : Rule Forest :=
  node .exportStatement (oneOf [
    seq [decorator g, many (decorator g), keyword "export", exportedDeclaration g],
    seq [
      firstWord true "export",
      oneOf [
        exportedNames,
        seq [markUnless "=" "=>", g.read (.expression .outer),
          semicolon .expression],
        seq [keyword "as", keyword "namespace", word .identifier [],
          semicolon .plain],
        exportedDeclaration g]]])

def exportedWords : List String :=
  ["abstract", "as", "async", "class", "const", "declare", "default", "enum", "function", "import",
   "interface", "let", "module", "namespace", "type", "var"]

/-- The word `export` ahead is no name: what follows it belongs to an export statement. -/
def exportAhead : Rule Bool := fun c =>
  match firstWord true "export" c with
  | some (_, d) =>
      let s := d.ahead
      some (exportedWords.any (fun w => wordStands w s) || assignmentStands s ||
        (s.head?.any fun a => "\x7b@".toList.contains a) ||
        (s.head? == some '*' && !(s.drop 1).head?.any fun a => a == '*' || a == '='), c)
  | none => some (false, c)

end SpanWeave.Syntax
