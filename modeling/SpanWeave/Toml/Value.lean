import SpanWeave.Text.Basic

namespace SpanWeave.Toml

/-- How a table came about. -/
inductive Origin where
  /-- Written in braces, and closed by them. -/
  | inline
  /-- Named by a header of its own. -/
  | header
  /-- Passed on the way to a header. -/
  | implied
  /-- Made by a key with dots. -/
  | dotted
  deriving DecidableEq, Repr

/-- A value of a document. -/
inductive Value where
  | string (s : Text)
  /-- A number, a truth value or a date. No setting is one of these. -/
  | scalar
  | list (items : List Value)
  | table (origin : Origin) (entries : List (Text × Value))
  /-- Tables that are listed one by one under the same header. -/
  | rows (tables : List (List (Text × Value)))

/-- The entries of a table, in the order in which they were made. -/
abbrev Entries := List (Text × Value)

def find? (es : Entries) (key : Text) : Option Value :=
  (es.find? fun e => e.1 = key).map Prod.snd

/-- The entries with a value for a key, in its old place if it has one. -/
def put (es : Entries) (key : Text) (v : Value) : Entries :=
  match es with
  | [] => [(key, v)]
  | e :: rest => if e.1 = key then (key, v) :: rest else e :: put rest key v

/-- A table under construction. -/
structure Table where
  origin : Origin
  entries : Entries

/-- Changes the table at the end of a path, and makes the tables on the way. Nothing is added to
values and closed tables, and by keys with dots (`dotted`) nothing to a table with a header. -/
def descend (dotted : Bool) (change : Table → Option Table) :
    (path : List Text) → Table → Option Table
  | [], t => change t
  | key :: path, t =>
      match find? t.entries key with
      | none => do
          let made ← descend dotted change path ⟨if dotted then .dotted else .implied, []⟩
          return { t with entries := put t.entries key (.table made.origin made.entries) }
      | some (.table origin entries) =>
          if origin = .inline || (dotted && origin = .header) then none
          else do
            let inner ← descend dotted change path ⟨origin, entries⟩
            return { t with entries := put t.entries key (.table inner.origin inner.entries) }
      | some (.rows tables) =>
          match tables.getLast? with
          | none => none
          | some last => do
              let inner ← descend dotted change path ⟨.header, last⟩
              return { t with
                entries := put t.entries key (.rows (tables.dropLast ++ [inner.entries])) }
      | some _ => none

/-- Adds a value under a key with dots. A key may be given once, and tables made by dots are not
mixed with others. -/
def addPair (path : List Text) (key : Text) (v : Value) : Table → Option Table :=
  descend true (fun t =>
    if (t.origin = .dotted) = (path = []) || (find? t.entries key).isSome then none
    else some { t with entries := put t.entries key v }) path

/-- Opens the table named by a header. -/
def openTable (path : List Text) (key : Text) : Table → Option Table :=
  descend false (fun t =>
    match find? t.entries key with
    | none => some { t with entries := put t.entries key (.table .header []) }
    | some (.table .implied inner) =>
        some { t with entries := put t.entries key (.table .header inner) }
    | some _ => none) path

/-- Opens one more of the tables listed under a header. -/
def openRow (path : List Text) (key : Text) : Table → Option Table :=
  descend false (fun t =>
    match find? t.entries key with
    | none => some { t with entries := put t.entries key (.rows [[]]) }
    | some (.rows tables) => some { t with entries := put t.entries key (.rows (tables ++ [[]])) }
    | some _ => none) path

end SpanWeave.Toml
