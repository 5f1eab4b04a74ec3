import SpanWeave.Survey
import SpanWeave.SpanName
import SpanWeave.Wrapper
import SpanWeave.ImportSite
import SpanWeave.Skip

/-!
Weaving spans into a source: the functions that qualify are wrapped, and the entry point is
imported unless the file binds it already. All changes are made in one pass.
-/

namespace SpanWeave

/-- A function together with what replaces it. -/
structure Wrapped where
  target : Target
  spanName : Text
  /-- The text put in for the span of the function. -/
  replacement : Text
  deriving DecidableEq, Repr

def Wrapped.edit (w : Wrapped) : Edit := ⟨w.target.span.start, w.target.span.stop, w.replacement⟩

/-- What weaving does to one source. -/
structure Woven where
  changed : Bool
  /-- The functions left alone, in visiting order. -/
  skipped : List SkipRecord
  modified : Text
  /-- The wrapped functions, in visiting order. -/
  wrapped : List Wrapped
  deriving DecidableEq, Repr

namespace Woven

/-- Number of wrapped functions. -/
def wrappedCount (w : Woven) : Nat := w.wrapped.length

/-- The names of the spans around the wrapped functions. -/
def spanNames (w : Woven) : List Text := w.wrapped.map Wrapped.spanName

/-- The functions left alone for a reason. -/
def skippedFor (w : Woven) (reason : SkipReason) : List SkipRecord :=
  w.skipped.filter fun s => s.reason = reason

/-- The outcome for a source in which nothing is wrapped. -/
def unchanged (source : Text) (skipped : List SkipRecord) : Woven :=
  { changed := false, skipped, modified := source, wrapped := [] }

end Woven

/-- Files larger than this number of bytes are refused unless another limit is set. -/
def defaultMaxFileSize : Nat := 1048576

/-- A checked configuration, ready to be applied to sources. -/
structure Weaver where
  config : Config
  skip : SkipList
  maxFileSize : Nat := defaultMaxFileSize

namespace Weaver

/-- Checks a configuration: the entry point and its module first, then the skip patterns. -/
def ofConfig (config : Config) : Except RunError Weaver := do
  config.validate
  let skip ← SkipList.ofWritten config.skip
  return { config, skip }

def entry (w : Weaver) : Text := w.config.instrumentation.function

/-- Wraps one function of a file. -/
def wrap (w : Weaver) (path newline : Text) (target : Target) : Wrapped :=
  let spanName := SpanName.resolve (target.identifier?.getD []) path w.config.namePattern
  { target, spanName, replacement := Wrapper.replacement target spanName w.entry newline }

/-- The change that imports the entry point; none when the file binds it already. -/
def importEdit? (w : Weaver) (doc : Document) (path : Text) : Option Edit :=
  match Binding.find? doc w.entry with
  | some _ => none
  | none =>
      let i := w.config.instrumentation
      let style := ImportSite.resolveStyle doc path i.importStyle
      some (ImportSite.insertion doc (ImportSite.statement i style))

/-- All changes made to a file in which `wrapped` are wrapped. -/
def edits (w : Weaver) (doc : Document) (path : Text) (wrapped : List Wrapped) : List Edit :=
  wrapped.map Wrapped.edit ++ (w.importEdit? doc path).toList

/-- Weaves spans into a parsed file. -/
def weaveDocument (w : Weaver) (doc : Document) (path : Text) : Except RunError Woven :=
  let found := classify doc w.skip.isMatch w.entry
  if found.candidates = [] then .ok (Woven.unchanged doc.source found.skipped)
  else
    let wrapped := found.candidates.map (w.wrap path doc.lineEnding)
    match Edit.applyAll doc.source (w.edits doc path wrapped) with
    | .ok modified =>
        .ok { changed := modified ≠ doc.source, skipped := found.skipped, modified, wrapped }
    | .error e => .error (.ofSource e)

/-- Weaves spans into a source; the path tells the dialect. -/
def weave (w : Weaver) (source path : Text) : Except RunError Woven :=
  match Dialect.ofPath? path with
  | none => .error (.unsupported path)
  | some dialect =>
      match Document.parse source dialect with
      | .ok doc => w.weaveDocument doc path
      | .error e => .error (.ofSource e)

end Weaver

end SpanWeave
