import SpanWeave.Toml.Value
import SpanWeave.Toml.Lexeme

/-!
Reading a configuration document: values, and the lines that put them into tables.
-/

namespace SpanWeave.Toml

def comment : Reader Unit := do
  literal "#"
  discard (takeWhile isPrintable)

/-- Skips blank space, comments and line ends between the values of a list. -/
def gap : Nat → Reader Unit
  | 0 => failure
  | fuel + 1 => do
      spaces
      match (← rest).head? with
      | some '#' =>
          comment
          newline
          gap fuel
      | some '\n' | some '\r' =>
          newline
          gap fuel
      | _ => return

/-- Lists and tables are not nested deeper than this. -/
def maxDepth : Nat := 79

/-- The values of a list behind its bracket, each read by `value`. -/
def items (value : Reader Value) : Nat → Reader (List Value)
  | 0 => failure
  | fuel + 1 => do
      gap (fuel + 1)
      if ← taken "]" then return []
      let v ← value
      gap (fuel + 1)
      if ← taken "," then return v :: (← items value fuel)
      literal "]"
      return [v]

/-- The entries of a table behind its brace. -/
def inlineEntries (value : Reader Value) : Nat → Table → Reader Table
  | 0, _ => failure
  | fuel + 1, t => do
      let (path, k) ← key
      literal "="
      spaces
      let v ← value
      spaces
      match addPair path k v t with
      | none => failure
      | some t =>
          if ← taken "," then inlineEntries value fuel t
          else
            literal "\x7d"
            return t

/-- A string, a number, a truth value or a date. -/
def simpleValue : Reader Value := do
  match (← rest).head? with
  | some '\x22' | some '\x27' => return .string (← string)
  | _ =>
      if (← taken "true") || (← taken "false") then return .scalar
      number
      return .scalar

/-- A value, with at most `depth` lists and tables inside one another. -/
def value : (depth : Nat) → Reader Value
  | 0 => simpleValue
  | depth + 1 => do
      if ← taken "[" then
        return .list (← items (value depth) ((← rest).length + 1))
      else if ← taken "\x7b" then
        spaces
        if ← taken "\x7d" then return .table .inline []
        let t ← inlineEntries (value depth) ((← rest).length + 1) ⟨.inline, []⟩
        return .table .inline t.entries
      else simpleValue

/-- A document while it is read: all its tables, and the path of the one that lines add to. -/
structure Draft where
  root : Table
  current : List Text

/-- The end of a line, with a comment in front of it or not. -/
def lineEnd : Reader Unit := do
  spaces
  if (← rest).head? = some '#' then comment
  if (← rest) ≠ [] then newline

def headerLine (d : Draft) : Reader Draft := do
  let row ← taken "[["
  if !row then literal "["
  let (path, k) ← key
  literal (if row then "]]" else "]")
  lineEnd
  match (if row then openRow else openTable) path k d.root with
  | some root => return ⟨root, path ++ [k]⟩
  | none => failure

def pairLine (d : Draft) : Reader Draft := do
  let (path, k) ← key
  literal "="
  spaces
  let v ← value maxDepth
  lineEnd
  match descend false (addPair path k v) d.current d.root with
  | some root => return { d with root }
  | none => failure

def lines : Nat → Draft → Reader Draft
  | 0, _ => failure
  | fuel + 1, d => do
      spaces
      match (← rest).head? with
      | none => return d
      | some '#' | some '\n' | some '\r' =>
          lineEnd
          lines fuel d
      | some '[' => lines fuel (← headerLine d)
      | some _ => lines fuel (← pairLine d)

/-- The entries of a document. A mark of byte order in front of it does not count. -/
def read? (source : Text) : Option Entries :=
  let source := (Text.afterLead? ['\ufeff'] source).getD source
  ((lines (source.length + 1) ⟨⟨.header, []⟩, []⟩).run source).map fun (d, _) => d.root.entries

end SpanWeave.Toml
