import SpanWeave.Batch
import SpanWeave.Report.Json

namespace SpanWeave

open Report (Json)

/-- Everything one run did, in the order of its arguments. -/
structure Report where
  files : List FileOutcome := []
  directories : List (Text × BatchStats) := []
  errors : List (Text × RunError) := []

namespace Report

def errorCount (r : Report) : Nat :=
  r.directories.foldl (fun n d => n + d.2.errors.length) r.errors.length

def ofSpan (s : Syntax.Span) : Json := .record [("start", .number s.start), ("end", .number s.stop)]

def targetFields (t : Target) : List (String × Json) :=
  [("kind", .word t.shape.label),
   ("name", .optional .string t.name),
   ("enclosing", .optional .string t.enclosing),
   ("export", .word t.exported.label),
   ("is_async", .bool t.isAsync),
   ("is_generator", .bool t.isGenerator),
   ("overloaded", .bool t.overloaded),
   ("params", .string t.params),
   ("body", .string t.body),
   ("text", .string t.text),
   ("span", ofSpan t.span),
   ("line", .number t.line)]

/-- A function left alone. -/
def ofSkip (s : SkipRecord) : Json :=
  .record [
    ("kind", .word s.shape.label),
    ("identifier", .optional .string s.identifier),
    ("line", .number s.line),
    ("reason", .word s.reason.label)]

def ofWrapped (w : Wrapped) : Json :=
  .record [
    ("node", .record (targetFields w.target)),
    ("spanName", .string w.spanName),
    ("replacement", .string w.replacement)]

/-- What is told of a source in short. -/
def summaryFields (w : Woven) : List (String × Json) :=
  [("changed", .bool w.changed),
   ("wrappedCount", .number w.wrappedCount),
   ("skipped", .list ofSkip w.skipped),
   ("modified", .string w.modified)]

def wovenFields (w : Woven) : List (String × Json) :=
  summaryFields w ++ [("wrapped", .list ofWrapped w.wrapped)]

def ofFile (f : FileOutcome) : Json :=
  .record [
    ("path", .string f.path),
    ("result", .record (wovenFields f.woven)),
    ("diff", .string f.diff),
    ("written", .bool f.written)]

/-- The counts of a batch. Diffs are told only when there are any. -/
def ofStats (s : BatchStats) : Json :=
  .record ([
    ("files_scanned", .number s.scanned),
    ("files_changed", .number s.changed),
    ("wrapped", .number s.wrapped),
    ("skipped", .number s.skipped),
    ("errors", .object (s.errors.map fun e => (e.1, .string e.2.message))),
    ("modified_files", .list .string s.modified)] ++
    if s.diffs = [] then []
    else [("diffs", Json.object (s.diffs.map fun d => (d.1, .string d.2)))])

def toJson (r : Report) : Json :=
  .record [
    ("files", .list ofFile r.files),
    ("directories", .list (fun d => .record [("root", .string d.1), ("stats", ofStats d.2)])
      r.directories),
    ("errors", .list (fun e => .record [("path", .string e.1), ("error", .string e.2.message)])
      r.errors)]

/-- How changes are told, and whether diffs are shown. -/
structure Style where
  wrote : Bool
  diffs : Bool

def Style.verb (s : Style) : Text := (if s.wrote then "wrote" else "would change").toList

/-- The line for a function left alone. -/
def skipLine (s : SkipRecord) : Text :=
  "  skip ".toList ++ s.identifier.getD "<anonymous>".toList ++ " (line ".toList ++
    Text.ofNat s.line ++ "): ".toList ++ s.reason.label.toList ++ ['\n']

def fileLines (s : Style) (f : FileOutcome) : Text :=
  let left := Text.ofNat f.woven.skipped.length ++ " skipped\n".toList
  let first :=
    if f.woven.changed then
      s.verb ++ ' ' :: f.path ++ ": ".toList ++ Text.ofNat f.woven.wrappedCount ++
        " wrapped, ".toList ++ left
    else "unchanged ".toList ++ f.path ++ ": ".toList ++ left
  first ++ f.woven.skipped.flatMap skipLine ++ if s.diffs then f.diff else []

def directoryLines (s : Style) (root : Text) (b : BatchStats) : Text :=
  root ++ ": ".toList ++ Text.ofNat b.scanned ++ " files scanned, ".toList ++
    Text.ofNat b.changed ++ ' ' :: s.verb ++ ", ".toList ++ Text.ofNat b.wrapped ++
    " wrapped, ".toList ++ Text.ofNat b.skipped ++ " skipped, ".toList ++
    Text.ofNat b.errors.length ++ " errors\n".toList ++
    b.modified.flatMap fun path =>
      "  ".toList ++ path ++ '\n' :: ((b.diffs.find? fun d => d.1 = path).map Prod.snd).getD []

def toText (s : Style) (r : Report) : Text :=
  r.files.flatMap (fileLines s) ++ r.directories.flatMap fun d => directoryLines s d.1 d.2

def errorLine (e : Text × RunError) : Text :=
  "error ".toList ++ e.1 ++ ": ".toList ++ e.2.message

/-- The lines for all failures: those in directories first, indented. -/
def errorLines (r : Report) : List Text :=
  (r.directories.flatMap fun d => d.2.errors.map fun e => "  ".toList ++ errorLine e) ++
    r.errors.map errorLine

end Report

end SpanWeave
