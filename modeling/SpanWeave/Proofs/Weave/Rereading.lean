import Mathlib.Data.List.Forall2
import SpanWeave.Proofs.Survey.Origin

/-!
The tree of a woven file. It is the tree of the source in which the node edited for each wrapped
function has become the evident tree of its replacement: a call of the entry point on a function,
a constant that holds such a call, or a block that returns one. Both files are compared by kinds,
roles and texts; where the nodes stand does not matter. All tests can be run on parsed files.
-/

namespace SpanWeave

open Syntax

/-- A file, the file that is woven from it, and what decides which functions are wrapped. -/
structure Rereading where
  before : Document
  after : Document
  skip : Text → Bool
  entry : Text

namespace Rereading

variable (r : Rereading)

def first : Survey := ⟨r.before, r.entry⟩

/-- The survey of the woven file. -/
def second : Survey := ⟨r.after, r.entry⟩

/-- The names with overload signatures in the source. -/
def names : List Text := Survey.signatureNames r.first.found

/-- The reason for which a function found in a file is left alone. -/
def reason? (v : Visit) : Option SkipReason :=
  Survey.skipReason? r.skip r.entry (Survey.retarget r.names v)

/-- The function is wrapped. -/
def isWrapped (v : Visit) : Bool := (r.reason? v).isNone

/-- The function implements signatures, so that its body is replaced. -/
def isOverloaded (v : Visit) : Bool := (Survey.retarget r.names v).target.overloaded

mutual

/-- The node reads as before, and so do its children. -/
def alike (r : Rereading) : Node → Node → Bool
  | .mk k f s cs, .mk k' f' s' cs' =>
      decide (k = k' ∧ f = f' ∧
        r.before.textOf (.mk k f s cs) = r.after.textOf (.mk k' f' s' cs')) && alikeAll r cs cs'

/-- The nodes read as before one by one. -/
def alikeAll (r : Rereading) : List Node → List Node → Bool
  | [], [] => true
  | c :: cs, c' :: cs' => alike r c c' && alikeAll r cs cs'
  | _, _ => false

end

/-- The nodes of two lists correspond one by one. -/
def inStep (R : Node → Node → Bool) : List Node → List Node → Bool
  | [], [] => true
  | c :: cs, c' :: cs' => R c c' && inStep R cs cs'
  | _, _ => false

/-- The first node in role `f` corresponds to another by `R`, and all others read as before. -/
def swapped (f : Field) (R : Node → Node → Bool) : List Node → List Node → Bool
  | c :: cs, c' :: cs' =>
      if c.field = some f then decide (c'.field = some f) && R c c' && inStep r.alike cs cs'
      else r.alike c c' && swapped f R cs cs'
  | _, _ => false

/-- The node is of the same kind and in the same role. -/
def sameLabel (n n' : Node) : Bool := decide (n.kind = n'.kind ∧ n.field = n'.field)

/-- The node reads as before but for its child in role `f`, which corresponds to another by `R`. -/
def exchanged (f : Field) (R : Node → Node → Bool) (n n' : Node) : Bool :=
  sameLabel n n' && r.swapped f R n.children n'.children

/-- A call of the entry point on a string and a function. -/
def isTracedCall (n : Node) : Bool :=
  decide (n.kind = .callExpression) &&
    ((n.child? .function).any fun callee =>
      decide (callee.kind = .identifier ∧ r.after.textOf callee = r.entry)) &&
    (n.child? .arguments).any fun args =>
      match args.significant with
      | [literal, f] => decide (literal.kind = .string) && f.isFunctionExpression
      | _ => false

/-- A constant of the given name that holds a call of the entry point. -/
def isTracedConst (name : Option Text) (n : Node) : Bool :=
  decide (n.kind = .lexicalDeclaration) && n.hasToken "const" &&
    match n.significant with
    | [d] =>
        decide (d.kind = .variableDeclarator) &&
          ((d.child? .name).any fun b =>
            decide (b.kind = .identifier ∧ some (r.after.textOf b) = name)) &&
          (d.child? .value).any r.isTracedCall
    | _ => false

/-- A block that returns the outcome of a call of the entry point, called in turn. -/
def isTracedBlock (n : Node) : Bool :=
  decide (n.kind = .statementBlock) &&
    match n.significant with
    | [stmt] =>
        decide (stmt.kind = .returnStatement) &&
          match stmt.significant with
          | [call] =>
              decide (call.kind = .callExpression) && (call.child? .function).any r.isTracedCall
          | _ => false
    | _ => false

/-- The default export of a name. -/
def isDefaultExport (name : Option Text) (n : Node) : Bool :=
  decide (n.kind = .exportStatement) && n.hasToken "default" && (n.child? .declaration).isNone &&
    (n.child? .value).any fun value =>
      decide (value.kind = .identifier ∧ some (r.after.textOf value) = name)

/-- The statement that brings in the entry point. -/
def isEntryImport (n : Node) : Bool :=
  decide (n.kind = .importStatement) ||
    decide (n.kind = .lexicalDeclaration) &&
      n.significant.all fun d => (d.child? .name).any fun b => decide (b.kind = .objectPattern)

/-- A function in a place of its own. -/
def functionReread (v : Visit) (f f' : Node) : Bool :=
  if !r.isWrapped v then r.alike f f'
  else if r.isOverloaded v then r.exchanged .body (fun _ b => r.isTracedBlock b) f f'
  else r.isTracedConst v.target.name f' && decide (f'.field = f.field)

/-- A member of a container. -/
def memberReread (c : Container) (m m' : Node) : Bool :=
  if (r.first.visitMember c m).any r.isWrapped then
    r.exchanged .body (fun _ b => r.isTracedBlock b) m m'
  else r.alike m m'

/-- A node with the members of a container. -/
def membersReread (c : Container) (n n' : Node) : Bool :=
  sameLabel n n' && inStep (r.memberReread c) n.children n'.children

/-- A class. Without a body its members are its own children. -/
def classReread (c : Container) (n n' : Node) : Bool :=
  if (n.child? .body).isSome then r.exchanged .body (r.membersReread c) n n'
  else
    r.membersReread c n n' &&
      decide (r.before.fieldText? n .name = r.after.fieldText? n' .name)

/-- A class or an object literal. -/
def containerReread (c : Container) (n n' : Node) : Bool :=
  if c.isClass then r.classReread c n n' else r.membersReread c n n'

/-- A variable of a constant declaration. -/
def declaratorReread (exported : Export) (d d' : Node) : Bool :=
  match r.first.visitDeclarator exported d with
  | (v :: _, _) =>
      if r.isWrapped v then r.exchanged .value (fun _ value => r.isTracedCall value) d d'
      else r.alike d d'
  | ([], c :: _) => r.exchanged .value (r.containerReread c) d d'
  | ([], []) => r.alike d d'

def declarationReread (exported : Export) (whole : Node → Span) (d d' : Node) : Bool :=
  match d.kind with
  | .functionDeclaration | .generatorFunctionDeclaration =>
      r.functionReread (r.first.visitFunction d exported (whole d)) d d'
  | .lexicalDeclaration =>
      if d.hasToken "const" then
        sameLabel d d' && inStep (r.declaratorReread exported) d.children d'.children
      else r.alike d d'
  | .classDeclaration | .abstractClassDeclaration =>
      r.classReread (r.first.classContainer d none) d d'
  | _ => r.alike d d'

/-- An export statement that stays one statement. -/
def exportReread (stmt stmt' : Node) : Bool :=
  let isDefault := stmt.hasToken "default"
  match stmt.child? .declaration with
  | some _ =>
      r.exchanged .declaration
        (r.declarationReread (if isDefault then .default else .named)
          (fun f => if isDefault then stmt.span else f.span)) stmt stmt'
  | none =>
      if isDefault then
        match stmt.child? .value with
        | some value =>
            if value.isFunctionExpression then
              r.exchanged .value
                (r.functionReread (r.first.visitFunction value .default stmt.span)) stmt stmt'
            else if value.kind = .classExpression then
              r.exchanged .value (r.classReread (r.first.classContainer value none)) stmt stmt'
            else if value.kind = .object then
              r.exchanged .value (r.membersReread ⟨none, value, false⟩) stmt stmt'
            else r.alike stmt stmt'
        | none => r.alike stmt stmt'
      else r.alike stmt stmt'

/-- A top-level statement that stays one statement. -/
def statementReread (stmt stmt' : Node) : Bool :=
  if stmt.kind = .exportStatement then r.exportReread stmt stmt'
  else r.declarationReread .none Node.span stmt stmt'

/-- The function for which a whole default export is replaced. -/
def wholeExport? (stmt : Node) : Option Visit :=
  match r.first.visitStatement stmt with
  | ([v], []) =>
      if v.target.shape = .defaultExportedFunctionDeclaration && r.isWrapped v &&
        !r.isOverloaded v then some v
      else none
  | _ => none

/-- The top-level statements in order. The statement that brings in the entry point may stand
anywhere, and a default export may have become a constant and the export of its name. -/
def statementsReread : List Node → List Node → Bool
  | [], [] => true
  | _ :: _, [] => false
  | [], m :: ms => isEntryImport m && statementsReread [] ms
  | n :: ns, m :: ms =>
      (isEntryImport m && statementsReread (n :: ns) ms) ||
        match r.wholeExport? n, ms with
        | none, ms => r.statementReread n m && statementsReread ns ms
        | some _, [] => false
        | some v, m' :: ms =>
            r.isTracedConst v.target.name m && r.isDefaultExport v.target.name m' &&
              statementsReread ns ms

/-- The second file reads as the first one with every wrapped function replaced. -/
def isRewoven : Bool :=
  r.statementsReread r.before.root.significant r.after.root.significant

end Rereading

end SpanWeave
