import SpanWeave.Binding
import SpanWeave.Config
import SpanWeave.Edit

/-!
How and where the entry point is imported: after the interpreter line and the directives, and
in front of the first statement with the comments that belong to it.
-/

namespace SpanWeave

open Syntax

namespace ImportSite

/-- Some variable of a declaration starts out as `require('module')`. -/
def requires (d : Document) (stmt : Node) : Bool :=
  stmt.significant.any fun v =>
    (v.child? .value).any fun e => (Binding.requireSource? d e).isSome

/-- The style that the top-level statements show: imports and exports make a file a module;
otherwise `require` and assignments to the exports show the older style. -/
def styleOf (d : Document) : List Node → (required : Bool) → ImportStyle
  | [], required => if required then .commonJs else .esm
  | stmt :: rest, required =>
      match stmt.kind with
      | .importStatement | .exportStatement => .esm
      | .lexicalDeclaration | .variableDeclaration => styleOf d rest (required || requires d stmt)
      | .expressionStatement =>
          let text := d.textOf stmt
          styleOf d rest (required || Text.startsWith text "module.exports".toList ||
            Text.startsWith text "exports.".toList)
      | _ => styleOf d rest required

/-- The style for one file: the configured one, or the one its extension or its statements
show. -/
def resolveStyle (d : Document) (path : Text) (style : ImportStyle) : ImportStyle :=
  match style with
  | .auto =>
      let extension := Path.extension? path
      if extension = some "cjs".toList || extension = some "cts".toList then .commonJs
      else if extension = some "mjs".toList || extension = some "mts".toList then .esm
      else styleOf d d.root.significant false
  | s => s

/-- The statement that binds the entry point. -/
def statement (i : Instrumentation) (style : ImportStyle) : Text :=
  match style with
  | .commonJs =>
      "const \x7b ".toList ++ i.function ++ " \x7d = require('".toList ++ i.module ++
        "');".toList
  | _ =>
      "import \x7b ".toList ++ i.function ++ " \x7d from '".toList ++ i.module ++ "';".toList

/-- A string that stands alone as a statement. -/
def isDirective (d : Document) (n : Node) : Bool :=
  n.kind = .expressionStatement &&
    n.significant.head?.any fun e => e.kind = .string && (d.stringValue? e).isSome

/-- The node may stand in front of the import. -/
def isPreamble (d : Document) (n : Node) : Bool :=
  n.kind = .hashBangLine || n.kind = .comment || isDirective d n

/-- An import, or a declaration that requires a module. -/
def isImportLike (d : Document) (n : Node) : Bool :=
  match n.kind with
  | .importStatement => true
  | .lexicalDeclaration | .variableDeclaration => requires d n
  | _ => false

/-- The comment `c` ends on the line of `next` or on the line before. -/
def isAttached (d : Document) (c next : Node) : Bool :=
  c.kind = .comment && d.lineOf next.span.start ≤ d.lineOf c.span.stop + 1

/-- Goes from `next` back over the nodes before it, nearest first, as long as each is a comment
attached to the one behind it. -/
def anchor (d : Document) : (next : Node) → (before : List Node) → Node
  | next, [] => next
  | next, c :: before => if isAttached d c next then anchor d c before else next

/-- The offset of the import in front of `n`: the beginning of its line, unless something else
stands there. -/
def offsetBefore (d : Document) (n : Node) : Nat :=
  let lineStart := d.lineStart n.span.start
  if Text.blank (Text.slice d.source lineStart n.span.start) then lineStart else n.span.start

/-- The edit that inserts the import. A blank line divides it from a first statement that does
not import anything itself. -/
def insertion (d : Document) (stmt : Text) : Edit :=
  let newline := d.lineEnding
  let nodes := d.root.namedChildren
  let preamble := nodes.takeWhile (isPreamble d)
  match nodes.drop preamble.length with
  | first :: _ =>
      let site := offsetBefore d (anchor d first preamble.reverse)
      Edit.insert site (stmt ++ if isImportLike d first then newline else newline ++ newline)
  | [] =>
      let site := (preamble.getLast?.map fun n => n.span.stop).getD 0
      Edit.insert site ((if site = 0 then [] else newline) ++ stmt ++ newline)

end ImportSite

end SpanWeave
