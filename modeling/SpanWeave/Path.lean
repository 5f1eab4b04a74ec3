import SpanWeave.Text.Basic

namespace SpanWeave.Path

/-- The steps of a path: its pieces between slashes, without empty pieces and single dots. -/
def steps (path : Text) : List Text :=
  (Text.splitAt '/' path).filter fun s => s ≠ [] && s ≠ ['.']

/-- The name of the file a path leads to. A path that is empty, or ends with a step upwards,
has none. -/
def fileName? (path : Text) : Option Text :=
  match (steps path).getLast? with
  | some name => if name = "..".toList then none else some name
  | none => none

/-- A file name split at its last dot; there is no split when that dot comes first or is
missing. -/
def splitName? (name : Text) : Option (Text × Text) :=
  match Text.breakAfterLast? '.' name with
  | some (stem, extension) => if stem.dropLast = [] then none else some (stem.dropLast, extension)
  | none => none

/-- What follows the last dot of the file name. -/
def extension? (path : Text) : Option Text :=
  (fileName? path).bind fun name => (splitName? name).map Prod.snd

/-- The file name without its last extension. -/
def stem? (path : Text) : Option Text :=
  (fileName? path).map fun name => ((splitName? name).map Prod.fst).getD name

/-- The names of the directories a path passes through. -/
def directories (path : Text) : List Text :=
  (steps path).dropLast.filter fun s => s ≠ "..".toList

/-- The entry `name` of the directory at `path`. -/
def join (path name : Text) : Text :=
  if path = [] then name
  else if path.getLast? = some '/' then path ++ name
  else path ++ '/' :: name

end SpanWeave.Path
