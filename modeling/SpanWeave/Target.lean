import SpanWeave.Text.Basic
import SpanWeave.Syntax.Node

namespace SpanWeave

/-- The form in which a function is written. -/
inductive Shape where
  | functionDeclaration
  | exportedFunctionDeclaration
  | defaultExportedFunctionDeclaration
  | constFunction
  | instanceMethod
  | staticMethod
  | objectMethod
  | constructorMethod
  | overloadSignature
  deriving DecidableEq, Repr

namespace Shape

/-- The name under which a form is reported. -/
def label : Shape → String
  | functionDeclaration => "FunctionDeclaration"
  | exportedFunctionDeclaration => "ExportedFunctionDeclaration"
  | defaultExportedFunctionDeclaration => "DefaultExportedFunctionDeclaration"
  | constFunction => "ConstArrowOrFunctionExpression"
  | instanceMethod => "ClassInstanceMethod"
  | staticMethod => "ClassStaticMethod"
  | objectMethod => "ObjectLiteralMethod"
  | constructorMethod => "ConstructorMethod"
  | overloadSignature => "OverloadSignature"

def all : List Shape :=
  [functionDeclaration, exportedFunctionDeclaration, defaultExportedFunctionDeclaration,
   constFunction, instanceMethod, staticMethod, objectMethod, constructorMethod,
   overloadSignature]

/-- The function is a member of a class or an object literal. Overload signatures are not
counted, wherever they stand. -/
def isMember : Shape → Bool
  | instanceMethod | staticMethod | objectMethod | constructorMethod => true
  | _ => false

/-- The function is declared by a statement of its own. -/
def isDeclaration : Shape → Bool
  | functionDeclaration | exportedFunctionDeclaration | defaultExportedFunctionDeclaration => true
  | _ => false

end Shape

/-- How a function leaves its module. -/
inductive Export where
  | none
  | named
  | default
  deriving DecidableEq, Repr

/-- The name under which an export is reported. -/
def Export.label : Export → String
  | .none => "none"
  | .named => "named"
  | .default => "default"

/-- A function found in a file. -/
structure Target where
  shape : Shape
  /-- The declared name, the name of the constant or the key of the member. -/
  name : Option Text
  /-- The name of the class or object around a member. -/
  enclosing : Option Text
  exported : Export
  isAsync : Bool
  isGenerator : Bool
  /-- The function implements overload signatures, so only its body may change. -/
  overloaded : Bool
  params : Text
  body : Text
  text : Text
  /-- The bytes that are replaced when the function is wrapped. -/
  span : Syntax.Span
  /-- The line in which the function begins. -/
  line : Nat
  /-- The indentation of that line. -/
  indent : Text
  deriving DecidableEq, Repr

/-- The name by which a function is known: that of a member is qualified by the name around it,
and without one the member has none. -/
def Target.identifier? (t : Target) : Option Text :=
  if t.shape.isMember then
    match t.enclosing, t.name with
    | some owner, some name => some (owner ++ '.' :: name)
    | _, _ => none
  else t.name

/-- Why a function is left alone. -/
inductive SkipReason where
  | constructor
  | anonymousDefaultExport
  | nameMatch
  | alreadyWrapped
  | overloadSignature
  | generator
  deriving DecidableEq, Repr

namespace SkipReason

/-- The name under which a reason is reported. -/
def label : SkipReason → String
  | constructor => "constructor"
  | anonymousDefaultExport => "anonymousDefaultExport"
  | nameMatch => "nameMatch"
  | alreadyWrapped => "alreadyWrapped"
  | overloadSignature => "overloadSignature"
  | generator => "generator"

def all : List SkipReason :=
  [constructor, anonymousDefaultExport, nameMatch, alreadyWrapped, overloadSignature, generator]

end SkipReason

/-- A function that is left alone. -/
structure SkipRecord where
  shape : Shape
  identifier : Option Text
  line : Nat
  reason : SkipReason
  deriving DecidableEq, Repr

/-- The record of a function left alone for a reason. -/
def Target.skip (t : Target) (reason : SkipReason) : SkipRecord :=
  ⟨t.shape, t.identifier?, t.line, reason⟩

end SpanWeave
