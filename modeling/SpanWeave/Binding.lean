import SpanWeave.Document

/-!
Where a file already binds the entry point at its top level.
-/

namespace SpanWeave

open Syntax

/-- A top-level binding of the entry point. -/
structure EntryBinding where
  /-- The module it comes from, where that is known. -/
  module? : Option Text
  line : Nat
  deriving DecidableEq, Repr

namespace Binding

/-- The module in `require('module')`. -/
def requireSource? (d : Document) (n : Node) : Option Text :=
  if n.kind = .callExpression then
    match n.child? .function, n.child? .arguments with
    | some callee, some args =>
        if d.textOf callee = "require".toList then
          args.significant.head?.bind d.stringValue?
        else none
    | _, _ => none
  else none

/-- An import specifier binds the entry point as a value. -/
def specifierBinds (d : Document) (entry : Text) (spec : Node) : Bool :=
  spec.kind = .importSpecifier && !spec.hasToken "type" &&
    ((spec.child? .localName).or (spec.child? .name)).any fun n => d.textOf n = entry

/-- A part of an import clause binds the entry point: a default import or a listed name. -/
def partBinds (d : Document) (entry : Text) (part : Node) : Bool :=
  match part.kind with
  | .identifier => d.textOf part = entry
  | .namedImports => part.significant.any (specifierBinds d entry)
  | _ => false

/-- The module an import statement binds the entry point from; the inner value is none when
the module is not known, the outer one when nothing is bound. Type imports bind nothing. -/
def importBinds (d : Document) (entry : Text) (stmt : Node) : Option (Option Text) :=
  if stmt.hasToken "type" then none
  else
    match stmt.significant.find? fun n => n.kind = .importClause with
    | some clause =>
        if clause.significant.any (partBinds d entry) then
          some ((stmt.child? .source).bind d.stringValue?)
        else none
    | none => none

/-- A property of an object pattern binds the entry point. -/
def propertyBinds (d : Document) (entry : Text) (p : Node) : Bool :=
  match p.kind with
  | .shorthandPropertyIdentifierPattern => d.textOf p = entry
  | .pairPattern => (p.child? .value).any fun v => d.textOf v = entry
  | _ => false

/-- A variable binds the entry point, by its name or by a property of its pattern. -/
def declaratorBinds (d : Document) (entry : Text) (v : Node) : Bool :=
  v.kind = .variableDeclarator &&
    match v.child? .name with
    | some b =>
        (b.kind = .identifier && d.textOf b = entry) ||
          (b.kind = .objectPattern && b.significant.any (propertyBinds d entry))
    | none => false

/-- The module of the first variable that binds the entry point. -/
def declarationBinds (d : Document) (entry : Text) (stmt : Node) : Option (Option Text) :=
  (stmt.significant.find? (declaratorBinds d entry)).map fun v =>
    (v.child? .value).bind (requireSource? d)

/-- The module a statement other than an export binds the entry point from. -/
def declaredBinds (d : Document) (entry : Text) (stmt : Node) : Option (Option Text) :=
  match stmt.kind with
  | .importStatement => importBinds d entry stmt
  | .lexicalDeclaration | .variableDeclaration => declarationBinds d entry stmt
  | .functionDeclaration | .generatorFunctionDeclaration | .classDeclaration
  | .abstractClassDeclaration =>
      if d.fieldText? stmt .name = some entry then some none else none
  | _ => none

/-- The module a top-level statement binds the entry point from. -/
def statementBinds (d : Document) (entry : Text) (stmt : Node) : Option (Option Text) :=
  if stmt.kind = .exportStatement then
    (stmt.child? .declaration).bind (declaredBinds d entry)
  else declaredBinds d entry stmt

/-- The first top-level binding of the entry point. -/
def find? (d : Document) (entry : Text) : Option EntryBinding :=
  d.root.significant.findSome? fun stmt =>
    (statementBinds d entry stmt).map fun m => ⟨m, d.lineOf stmt.span.start⟩

end Binding

end SpanWeave
