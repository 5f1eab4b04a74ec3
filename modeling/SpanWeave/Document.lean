import SpanWeave.Dialect
import SpanWeave.Error
import SpanWeave.Text.Blank
import SpanWeave.Syntax.Parse

/-!
Parsed source files: the text, its dialect and its syntax tree, with the text of nodes and the
layout of lines.
-/

namespace SpanWeave

open Syntax

/-- A source file that follows the grammar of its dialect. -/
structure Document where
  source : Text
  dialect : Dialect
  root : Node

namespace Document

/-- Reads a source. No tree is given for a source with a fault. -/
def parse (source : Text) (dialect : Dialect) : Except SourceError Document :=
  match parse? dialect.hasMarkup source with
  | some root => .ok ⟨source, dialect, root⟩
  | none => .error .unparsable

/-- The source text of a node. -/
def textOf (d : Document) (n : Node) : Text := Text.slice d.source n.span.start n.span.stop

/-- The text of the child in role `f`. -/
def fieldText? (d : Document) (n : Node) (f : Field) : Option Text :=
  (n.child? f).map d.textOf

/-- An offset, or the end of the source when it lies behind that. -/
def clamp (d : Document) (offset : Nat) : Nat := min offset (Text.byteSize d.source)

/-- The number of the line an offset lies in, counted from 1. -/
def lineOf (d : Document) (offset : Nat) : Nat :=
  (Text.takeBytes d.source (d.clamp offset)).count '\n' + 1

/-- The line terminator of the source, taken from its first line break. -/
def lineEnding (d : Document) : Text :=
  if (d.source.takeWhile fun c => c != '\n').getLast? == some '\r' && d.source.contains '\n' then
    "\r\n".toList
  else "\n".toList

/-- The offset at which the line of an offset begins. -/
def lineStart (d : Document) (offset : Nat) : Nat :=
  match Text.breakAfterLast? '\n' (Text.takeBytes d.source (d.clamp offset)) with
  | some (before, _) => Text.byteSize before
  | none => 0

/-- The spaces and tabs at the beginning of the line an offset lies in. -/
def indentAt (d : Document) (offset : Nat) : Text :=
  (Text.dropBytes d.source (d.lineStart offset)).takeWhile fun c => c == ' ' || c == '\t'

/-- Line and indentation at an offset; none inside a character. -/
def layoutAt? (d : Document) (offset : Nat) : Option (Nat × Text) :=
  if Text.onBoundary d.source (d.clamp offset) then
    some (d.lineOf offset, d.indentAt offset)
  else none

/-- A one-line description of a file: its dialect and its size in bytes. -/
def summary (d : Document) : Text :=
  "SourceTree \x7b lang: ".toList ++ d.dialect.fullName.toList ++ ", len: ".toList ++
    Text.ofNat (Text.byteSize d.source) ++ ", .. \x7d".toList

/-- The contents of a string without its quotes; a template counts when it has no
substitutions. -/
def stringValue? (d : Document) (n : Node) : Option Text :=
  let plain := match n.kind with
    | .string => true
    | .templateString => !n.hasChild .templateSubstitution
    | _ => false
  let text := d.textOf n
  if plain && 2 ≤ text.length then some (text.drop 1).dropLast else none

end Document

end SpanWeave
