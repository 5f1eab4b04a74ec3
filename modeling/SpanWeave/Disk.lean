import SpanWeave.Error
import SpanWeave.Text.Utf8

/-!
The files that a run sees, as a value. Paths are followed step by step from the working
directory, and a step out of something that is no directory fails.
-/

namespace SpanWeave

/-- Something with a name: a file with its contents, or a directory. -/
inductive Entry where
  | file (bytes : Bytes)
  | directory
  deriving DecidableEq, Repr

/-- Where something stands: the names that lead to it from the top. -/
abbrev Location := List Text

/-- Files and directories, and the working directory. None of them is a link, and all can be read
and written. -/
structure Disk where
  entries : List (Location × Entry)
  here : Location

namespace Disk

/-- What stands at a location. The top is a directory. -/
def find? (d : Disk) (l : Location) : Option Entry :=
  if l = [] then some .directory else (d.entries.find? fun e => e.1 = l).map Prod.snd

/-- Follows the pieces of a path from a location. -/
def follow (d : Disk) : Location → List Text → Except FileTrouble Location
  | l, [] => .ok l
  | l, piece :: rest =>
      match d.find? l with
      | none => .error .missing
      | some (.file _) => .error .notDirectory
      | some .directory =>
          if piece = [] || piece = ['.'] then d.follow l rest
          else if piece = "..".toList then d.follow l.dropLast rest
          else d.follow (l ++ [piece]) rest

/-- What a path leads to, and where that stands. -/
def locate (d : Disk) (path : Text) : Except FileTrouble (Location × Entry) :=
  if path = [] then .error .missing
  else
    match d.follow (if path.head? = some '/' then [] else d.here) (Text.splitAt '/' path) with
    | .error t => .error t
    | .ok l =>
        match d.find? l with
        | some e => .ok (l, e)
        | none => .error .missing

def isDirectory (d : Disk) (path : Text) : Bool :=
  match d.locate path with
  | .ok (_, .directory) => true
  | _ => false

def isFile (d : Disk) (path : Text) : Bool :=
  match d.locate path with
  | .ok (_, .file _) => true
  | _ => false

/-- The contents of the file at a path. -/
def read (d : Disk) (path : Text) : Except FileTrouble Bytes :=
  match d.locate path with
  | .ok (_, .file bytes) => .ok bytes
  | .ok (_, .directory) => .error .directory
  | .error t => .error t

/-- The disk with something at a location, in place of what stood there. -/
def place (d : Disk) (l : Location) (e : Entry) : Disk :=
  { d with entries := (l, e) :: d.entries.filter fun old => old.1 ≠ l }

/-- The disk with directories at all locations on the way to `l`. -/
def makeParents (d : Disk) (l : Location) : Disk :=
  (List.range l.length).foldl (fun d n =>
    if (d.find? (l.take n)).isSome then d else d.place (l.take n) .directory) d

/-- The disk with something at a location and directories on the way. -/
def add (d : Disk) (l : Location) (e : Entry) : Disk := (d.makeParents l).place l e

/-- Writes a file that stands at a path already. -/
def overwrite (d : Disk) (path : Text) (bytes : Bytes) : Disk :=
  match d.locate path with
  | .ok (l, _) => d.place l (.file bytes)
  | .error _ => d

/-- What stands in a directory, under its name. -/
def listing (d : Disk) (l : Location) : List (Text × Entry) :=
  d.entries.filterMap fun (m, e) =>
    match m.getLast? with
    | some name => if m.dropLast = l then some (name, e) else none
    | none => none

end Disk

end SpanWeave
