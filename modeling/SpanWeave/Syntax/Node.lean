import SpanWeave.Text.Basic

namespace SpanWeave.Syntax

/-- What a node is. Every construct of the language has a kind of its own, except that all
forms of types share `typeExpression`. -/
inductive Kind where
  | token (text : String)
  | comment
  | htmlComment
  | hashBangLine
  | program
  | importStatement
  | importClause
  | namespaceImport
  | namedImports
  | importSpecifier
  | importRequireClause
  | importAttribute
  | importAlias
  | exportStatement
  | exportClause
  | exportSpecifier
  | namespaceExport
  | functionDeclaration
  | generatorFunctionDeclaration
  | functionSignature
  | lexicalDeclaration
  | variableDeclaration
  | variableDeclarator
  | classDeclaration
  | abstractClassDeclaration
  | ambientDeclaration
  | moduleDeclaration
  | internalModule
  | typeAliasDeclaration
  | interfaceDeclaration
  | enumDeclaration
  | enumBody
  | enumAssignment
  | expressionStatement
  | statementBlock
  | ifStatement
  | elseClause
  | switchStatement
  | switchBody
  | switchCase
  | switchDefault
  | forStatement
  | forInStatement
  | whileStatement
  | doStatement
  | tryStatement
  | catchClause
  | finallyClause
  | withStatement
  | labeledStatement
  | breakStatement
  | continueStatement
  | returnStatement
  | throwStatement
  | debuggerStatement
  | emptyStatement
  | identifier
  | statementIdentifier
  | propertyIdentifier
  | privatePropertyIdentifier
  | shorthandPropertyIdentifier
  | shorthandPropertyIdentifierPattern
  | typeIdentifier
  | nestedIdentifier
  | undefinedLiteral
  | thisExpression
  | superExpression
  | trueLiteral
  | falseLiteral
  | nullLiteral
  | number
  | string
  | templateString
  | templateSubstitution
  | regex
  | object
  | pair
  | spreadElement
  | array
  | functionExpression
  | generatorFunction
  | arrowFunction
  | classExpression
  | classHeritage
  | classBody
  | classStaticBlock
  | methodDefinition
  | methodSignature
  | abstractMethodSignature
  | publicFieldDefinition
  | indexSignature
  | computedPropertyName
  | decorator
  | callExpression
  | newExpression
  | memberExpression
  | subscriptExpression
  | optionalChain
  | metaProperty
  | importExpression
  | parenthesizedExpression
  | sequenceExpression
  | assignmentExpression
  | augmentedAssignmentExpression
  | unaryExpression
  | updateExpression
  | binaryExpression
  | ternaryExpression
  | awaitExpression
  | yieldExpression
  | asExpression
  | satisfiesExpression
  | nonNullExpression
  | instantiationExpression
  | typeAssertion
  | arguments
  | formalParameters
  | requiredParameter
  | optionalParameter
  | objectPattern
  | arrayPattern
  | pairPattern
  | restPattern
  | assignmentPattern
  | objectAssignmentPattern
  | ascription
  | typeArguments
  | typeParameters
  | typeParameter
  | typeExpression
  | jsxElement
  | jsxOpeningElement
  | jsxClosingElement
  | jsxSelfClosingElement
  | jsxAttribute
  | jsxExpression
  | jsxText
  | jsxName
  deriving DecidableEq, Repr

/-- Keywords and punctuation are the nodes without a name of their own. -/
def Kind.isNamed : Kind → Bool
  | .token _ => false
  | _ => true

/-- Comments may stand between any two tokens. -/
def Kind.isExtra : Kind → Bool
  | .comment | .htmlComment => true
  | _ => false

/-- The role of a node in its parent. -/
inductive Field where
  | name
  | localName
  | source
  | declaration
  | value
  | function
  | arguments
  | parameters
  | parameter
  | body
  deriving DecidableEq, Repr

/-- A range of bytes, the end excluded. -/
structure Span where
  start : Nat
  stop : Nat
  deriving DecidableEq, Repr

/-- A node of a syntax tree. -/
inductive Node where
  | mk (kind : Kind) (field : Option Field) (span : Span) (children : List Node)
  deriving Repr

namespace Node

def kind : Node → Kind
  | mk k _ _ _ => k

/-- The role of the node in its parent. -/
def field : Node → Option Field
  | mk _ f _ _ => f

/-- The bytes the node covers. -/
def span : Node → Span
  | mk _ _ s _ => s

def children : Node → List Node
  | mk _ _ _ cs => cs

/-- A node without children. -/
def leaf (k : Kind) (start stop : Nat) : Node := mk k none ⟨start, stop⟩ []

/-- The node in role `f`, unless it already has a role or is a comment. -/
def inField (f : Field) : Node → Node
  | mk k none s cs => mk k (if k.isExtra then none else some f) s cs
  | n => n

/-- The children that are not keywords or punctuation. -/
def namedChildren (n : Node) : List Node := n.children.filter fun c => c.kind.isNamed

/-- The named children other than comments. -/
def significant (n : Node) : List Node :=
  n.namedChildren.filter fun c => c.kind ≠ .comment

/-- The first child in role `f`. -/
def child? (n : Node) (f : Field) : Option Node :=
  n.children.find? fun c => c.field = some f

/-- The keyword or mark `text` is one of the children. -/
def hasToken (n : Node) (text : String) : Bool :=
  n.children.any fun c => c.kind = .token text

/-- A child of kind `k` is present. -/
def hasChild (n : Node) (k : Kind) : Bool :=
  n.children.any fun c => c.kind = k

/-- Arrow, function and generator expressions. -/
def isFunctionExpression (n : Node) : Bool :=
  match n.kind with
  | .arrowFunction | .functionExpression | .generatorFunction => true
  | _ => false

end Node

end SpanWeave.Syntax
