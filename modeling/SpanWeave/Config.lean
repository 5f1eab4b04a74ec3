import SpanWeave.Error
import SpanWeave.Dialect
import SpanWeave.Text.Letter
import SpanWeave.Text.Shown

namespace SpanWeave

/-- How the entry point is brought into a file. -/
inductive ImportStyle where
  /-- Chosen for each file. -/
  | auto
  | esm
  | commonJs
  deriving DecidableEq, Repr

namespace ImportStyle

/-- The name under which a style is reported and configured. -/
def label : ImportStyle → String
  | auto => "auto"
  | esm => "esm"
  | commonJs => "commonjs"

def all : List ImportStyle := [auto, esm, commonJs]

def ofLabel? (name : Text) : Option ImportStyle := all.find? fun s => s.label.toList = name

/-- The names, in lower case, by which a style can be asked for. -/
def names : ImportStyle → List String
  | auto => ["auto"]
  | esm => ["esm", "module", "import"]
  | commonJs => ["commonjs", "cjs", "require"]

/-- The style asked for by a name in any letter case. -/
def ofName (name : Text) : Except RunError ImportStyle :=
  match all.find? fun s => s.names.any fun n => n.toList = Dialect.lower name with
  | some s => .ok s
  | none => .error (.badStyle name)

end ImportStyle

/-- The call that functions are wrapped in, and where it comes from. -/
structure Instrumentation where
  /-- The name of the entry point. -/
  function : Text := "traceCall".toList
  module : Text := "autotel".toList
  importStyle : ImportStyle := .auto
  deriving DecidableEq, Repr

/-- The configuration of a run. -/
structure Config where
  skip : List Text := []
  namePattern : Option Text := none
  instrumentation : Instrumentation := {}
  deriving DecidableEq, Repr

/-- A word that can name the entry point. -/
def isIdentifier (name : Text) : Bool :=
  match name with
  | [] => false
  | c :: s =>
      (Text.isAlphabetic c || c = '_' || c = '$') &&
        s.all fun d => Text.isAlphanumeric d || d = '_' || d = '$'

/-- A module path that can stand in single quotes as it is. -/
def isModulePath (path : Text) : Bool :=
  path ≠ [] && !path.any fun c => c = '\x27' || c = '\n' || c = '\r' || c = '\\'

/-- Refuses an entry point or a module that could not be written out. -/
def Config.validate (c : Config) : Except RunError Unit :=
  if !isIdentifier c.instrumentation.function then
    .error (.badFunction c.instrumentation.function)
  else if !isModulePath c.instrumentation.module then
    .error (.badModule (Text.shown c.instrumentation.module))
  else .ok ()

end SpanWeave
