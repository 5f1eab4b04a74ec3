import SpanWeave.Document
import SpanWeave.Target

/-!
The survey of a file: every function that could be wrapped is visited once, first the top
level by position and then the members of each class and object literal found there, and
each visited function is either a candidate or skipped for one reason.
-/

namespace SpanWeave

open Syntax

/-- A visited function. -/
structure Visit where
  target : Target
  /-- The function already is the last argument of a call of the entry point. -/
  wrapped : Bool
  /-- The body block of a declaration, and whether it already has the traced form. -/
  block : Option (Span × Bool)

/-- A class body or an object literal whose members are visited. -/
structure Container where
  name : Option Text
  body : Node
  isClass : Bool

/-- What a survey reads: the file, and the name of the entry point. -/
structure Survey where
  doc : Document
  entry : Text

namespace Survey

/-- The function in `entry(…, function)`. -/
def wrappedFunction? (s : Survey) (n : Node) : Option Node :=
  if n.kind = .callExpression then
    match n.child? .function, n.child? .arguments with
    | some callee, some args =>
        if callee.kind = .identifier && s.doc.textOf callee = s.entry then
          args.significant.getLast?.filter Node.isFunctionExpression
        else none
    | _, _ => none
  else none

/-- The block holds nothing but `return entry(…, function)();`. -/
def blockIsWrapped (s : Survey) (block : Node) : Bool :=
  match block.significant with
  | [stmt] =>
      stmt.kind = .returnStatement &&
        match stmt.significant.head? with
        | some call =>
            call.kind = .callExpression &&
              ((call.child? .function).bind s.wrappedFunction?).isSome
        | none => false
  | _ => false

/-- The parameters as written; a bare parameter of an arrow function has no parentheses. -/
def params (s : Survey) (f : Node) : Text :=
  ((s.doc.fieldText? f .parameters).or (s.doc.fieldText? f .parameter)).getD []

def isGenerator (f : Node) : Bool :=
  f.kind = .generatorFunction || f.kind = .generatorFunctionDeclaration || f.hasToken "*"

/-- A function node with the name, form and span under which it is visited. -/
def target (s : Survey) (shape : Shape) (name : Option Text) (exported : Export) (f : Node)
    (span : Span) : Target :=
  { shape, name, enclosing := none, exported
    isAsync := f.hasToken "async"
    isGenerator := isGenerator f
    overloaded := false
    params := s.params f
    body := (s.doc.fieldText? f .body).getD []
    text := s.doc.textOf f
    span
    line := s.doc.lineOf f.span.start
    indent := s.doc.indentAt span.start }

/-- A declared function, or the function value of a default export. -/
def visitFunction (s : Survey) (f : Node) (exported : Export) (span : Span) : Visit :=
  let shape := match exported with
    | .none => Shape.functionDeclaration
    | .named => Shape.exportedFunctionDeclaration
    | .default => Shape.defaultExportedFunctionDeclaration
  { target := s.target shape (s.doc.fieldText? f .name) exported f span
    wrapped := false
    block := ((f.child? .body).filter fun b => b.kind = .statementBlock).map fun b =>
      (b.span, s.blockIsWrapped b) }

/-- A function bound to a constant; `span` covers the whole initial value. -/
def visitConst (s : Survey) (name : Text) (f : Node) (span : Span) (exported : Export)
    (wrapped : Bool) : Visit :=
  { target := s.target .constFunction (some name) exported f span, wrapped, block := none }

/-- A signature without a body. -/
def visitSignature (s : Survey) (sig : Node) (enclosing : Option Text) (exported : Export) :
    Visit :=
  { target :=
      { s.target .overloadSignature (s.doc.fieldText? sig .name) exported sig sig.span with
        enclosing, isGenerator := false, body := [] }
    wrapped := false
    block := none }

/-- The members of a class are known under the name of the constant it is bound to, or else
under its own. -/
def classContainer (s : Survey) (c : Node) (binding : Option Text) : Container :=
  { name := binding.or (s.doc.fieldText? c .name)
    body := (c.child? .body).getD c
    isClass := true }

/-- What a variable of a constant declaration contributes. -/
def visitDeclarator (s : Survey) (exported : Export) (d : Node) :
    List Visit × List Container :=
  if d.kind = .variableDeclarator then
    match d.child? .name, d.child? .value with
    | some binding, some value =>
        let name := s.doc.textOf binding
        if binding.kind ≠ .identifier then ([], [])
        else if value.isFunctionExpression then
          ([s.visitConst name value value.span exported false], [])
        else
          match s.wrappedFunction? value with
          | some inner => ([s.visitConst name inner value.span exported true], [])
          | none =>
              if value.kind = .classExpression then ([], [s.classContainer value (some name)])
              else if value.kind = .object then ([], [⟨some name, value, false⟩])
              else ([], [])
    | _, _ => ([], [])
  else ([], [])

/-- Two contributions one after the other. -/
def both (a b : List Visit × List Container) : List Visit × List Container :=
  (a.1 ++ b.1, a.2 ++ b.2)

/-- What a list of nodes contributes, each by `visit`. -/
def visitAll (visit : Node → List Visit × List Container) (ns : List Node) :
    List Visit × List Container :=
  ns.foldr (fun n rest => both (visit n) rest) ([], [])

/-- What a declaration contributes; `whole` is the span of a declared function. -/
def visitDeclaration (s : Survey) (exported : Export) (whole : Node → Span) (d : Node) :
    List Visit × List Container :=
  match d.kind with
  | .functionDeclaration | .generatorFunctionDeclaration =>
      ([s.visitFunction d exported (whole d)], [])
  | .functionSignature => ([s.visitSignature d none exported], [])
  | .lexicalDeclaration =>
      if d.hasToken "const" then visitAll (s.visitDeclarator exported) d.significant
      else ([], [])
  | .classDeclaration | .abstractClassDeclaration => ([], [s.classContainer d none])
  | _ => ([], [])

/-- What an export statement contributes. A default export is replaced as a whole statement; a
named one keeps its keyword in front of what replaces the declaration. -/
def visitExport (s : Survey) (stmt : Node) : List Visit × List Container :=
  let isDefault := stmt.hasToken "default"
  match stmt.child? .declaration with
  | some d =>
      s.visitDeclaration (if isDefault then .default else .named)
        (fun f => if isDefault then stmt.span else f.span) d
  | none =>
      if isDefault then
        match stmt.child? .value with
        | some value =>
            if value.isFunctionExpression then
              ([s.visitFunction value .default stmt.span], [])
            else if value.kind = .classExpression then ([], [s.classContainer value none])
            else if value.kind = .object then ([], [⟨none, value, false⟩])
            else ([], [])
        | none => ([], [])
      else ([], [])

/-- What a top-level statement contributes. -/
def visitStatement (s : Survey) (stmt : Node) : List Visit × List Container :=
  if stmt.kind = .exportStatement then s.visitExport stmt
  else s.visitDeclaration .none Node.span stmt

/-- The key of a member as written: quotes and brackets are taken off. -/
def memberName? (s : Survey) (member : Node) : Option Text :=
  let key? := (member.child? .name).bind fun key =>
    if key.kind = .computedPropertyName then key.significant.head? else some key
  key?.map fun key => (s.doc.stringValue? key).getD (s.doc.textOf key)

/-- A method of a container. Only its body block is replaced. -/
def visitMethod (s : Survey) (c : Container) (member : Node) : Visit :=
  let name := s.memberName? member
  let shape :=
    if !c.isClass then Shape.objectMethod
    else if name = some "constructor".toList then Shape.constructorMethod
    else if member.hasToken "static" then Shape.staticMethod
    else Shape.instanceMethod
  let block := member.child? .body
  { target :=
      { s.target shape name .none member ((block.map Node.span).getD member.span) with
        enclosing := c.name
        isGenerator := member.hasToken "*"
        indent := s.doc.indentAt member.span.start }
    wrapped := block.any s.blockIsWrapped
    block := none }

/-- What a member of a container contributes. Accessors are properties, not methods. -/
def visitMember (s : Survey) (c : Container) (member : Node) : List Visit :=
  match member.kind with
  | .methodDefinition =>
      if member.hasToken "get" || member.hasToken "set" then [] else [s.visitMethod c member]
  | .methodSignature => if c.isClass then [s.visitSignature member c.name .none] else []
  | _ => []

/-- The functions among the members of a container. -/
def visitMembers (s : Survey) (c : Container) : List Visit :=
  c.body.significant.flatMap (s.visitMember c)

/-- Names that have a signature outside every named class. -/
def signatureNames (visits : List Visit) : List Text :=
  visits.filterMap fun v =>
    if v.target.shape = .overloadSignature && v.target.enclosing = none then v.target.name
    else none

/-- A declaration that implements signatures stays a declaration: its edit moves to the body. -/
def retarget (names : List Text) (v : Visit) : Visit :=
  if v.target.shape.isDeclaration && v.target.name.any names.contains then
    match v.block with
    | some (span, wrapped) =>
        { v with target := { v.target with overloaded := true, span }, wrapped }
    | none => v
  else v

/-- All visited functions in order. -/
def visits (s : Survey) : List Visit :=
  let (tops, containers) := visitAll s.visitStatement s.doc.root.significant
  let found := tops ++ containers.flatMap s.visitMembers
  found.map (retarget (signatureNames found))

/-- The reason for which a visited function is left alone; a candidate has none. The skip
predicate sees the identifier, and for members also the bare name. -/
def skipReason? (skip : Text → Bool) (entry : Text) (v : Visit) : Option SkipReason :=
  let t := v.target
  if t.shape = .constructorMethod then some .constructor
  else if t.shape = .overloadSignature then some .overloadSignature
  else
    match t.identifier? with
    | none => some .anonymousDefaultExport
    | some identifier =>
        if skip identifier || (t.shape.isMember && t.name.any skip) ||
            (!t.shape.isMember && identifier = entry) then
          some .nameMatch
        else if v.wrapped then some .alreadyWrapped
        else if t.isGenerator && (t.shape.isMember || t.overloaded) then some .generator
        else none

end Survey

/-- The outcome of a survey: what is wrapped and what is left alone, both in visiting order. -/
structure Classification where
  candidates : List Target
  skipped : List SkipRecord
  deriving DecidableEq, Repr

/-- Surveys a file. -/
def classify (doc : Document) (skip : Text → Bool) (entry : Text) : Classification :=
  let visits := (Survey.mk doc entry).visits
  let reason := Survey.skipReason? skip entry
  { candidates := visits.filterMap fun v =>
      match reason v with
      | some _ => none
      | none => some v.target
    skipped := visits.filterMap fun v => (reason v).map v.target.skip }

end SpanWeave
