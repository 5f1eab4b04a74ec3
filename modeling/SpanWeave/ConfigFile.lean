import SpanWeave.Config
import SpanWeave.Toml.Document

namespace SpanWeave.ConfigFile

open Toml

/-- The value of a setting: `default` when it is left out, and nothing when it has no value of
the right type. -/
def setting (es : Entries) (key : String) (type : Value → Option α) (default : α) : Option α :=
  match find? es key.toList with
  | some v => type v
  | none => some default

def text? : Value → Option Text
  | .string s => some s
  | _ => none

def texts? : Value → Option (List Text)
  | .list items => items.mapM text?
  | _ => none

def isEmpty : Value → Bool
  | .table _ [] | .list [] => true
  | _ => false

/-- An import style: its name, or a table with an empty table of that name. In braces it must be
the only entry. -/
def style? : Value → Option ImportStyle
  | .string s => ImportStyle.ofLabel? s
  | .table origin ((name, v) :: more) =>
      if isEmpty v && (origin ≠ .inline || more.isEmpty) then ImportStyle.ofLabel? name else none
  | _ => none

def place (items : List Value) (i : Nat) (type : Value → Option α) (default : α) : Option α :=
  match items[i]? with
  | some v => type v
  | none => some default

/-- The settings of the entry point: a table, or a list with the settings in order. -/
def instrumentation? (v : Value) : Option Instrumentation :=
  let d : Instrumentation := {}
  match v with
  | .table _ es => do
      let function ← setting es "function" text? d.function
      let module ← setting es "module" text? d.module
      let importStyle ← setting es "import_style" style? d.importStyle
      return { function, module, importStyle }
  | .list items => do
      let function ← place items 0 text? d.function
      let module ← place items 1 text? d.module
      let importStyle ← place items 2 style? d.importStyle
      return { function, module, importStyle }
  | _ => none

/-- The configuration that a document holds. -/
def ofEntries? (es : Entries) : Option Config := do
  let skip ← setting es "skip" texts? []
  let namePattern ← setting es "name_pattern" (fun v => (text? v).map some) none
  let instrumentation ← setting es "instrumentation" instrumentation? {}
  return { skip, namePattern, instrumentation }

def parse (source : Text) : Except RunError Config :=
  match (Toml.read? source).bind ofEntries? with
  | some c => .ok c
  | none => .error .badDocument

end SpanWeave.ConfigFile
