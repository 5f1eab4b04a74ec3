import SpanWeave.Ignore.Glob
import SpanWeave.Text.Blank

/-!
Rules by which a walk leaves things out, as they are listed in the files of a directory. The
last rule that matches decides.
-/

namespace SpanWeave.Ignore

/-- A rule for the things whose path, from the directory of the rule on, matches a glob. -/
structure Rule where
  glob : Glob
  /-- The rule keeps what it matches, and otherwise leaves it out. -/
  keeps : Bool
  /-- The rule is about directories only. -/
  directoriesOnly : Bool

/-- A text without its trailing white space. -/
def trimEnd (s : Text) : Text := (Text.trimStart s.reverse).reverse

/-- A line without the white space behind it, unless that is escaped. -/
def trimLine (line : Text) : Text :=
  if Text.endsWith line ['\\', ' '] then line else trimEnd line

/-- The marks in front of a rule: whether it keeps, whether it is bound to its directory, and
what follows the marks. A backslash takes its meaning from the first mark. -/
def readMarks (line : Text) : Bool × Bool × Text :=
  match line with
  | '\\' :: '!' :: s => (false, false, '!' :: s)
  | '\\' :: '#' :: s => (false, false, '#' :: s)
  | '!' :: '/' :: s => (true, true, s)
  | '!' :: s => (true, false, s)
  | '/' :: s => (false, true, s)
  | s => (false, false, s)

/-- A rule without the slash at its end, and whether it had one. -/
def readSlash (s : Text) : Bool × Text :=
  if s.getLast? = some '/' then
    let body := s.dropLast
    (true, if body.getLast? = some '\\' then body.dropLast else body)
  else (false, s)

/-- A rule without a slash is about names in all directories below. -/
def floating (bound : Bool) (s : Text) : Text :=
  if bound || s.contains '/' || s = "**".toList then s else "**/".toList ++ s

/-- Everything below a directory is not the directory itself. -/
def strictlyBelow (s : Text) : Text :=
  if Text.endsWith s "/**".toList then s ++ "/*".toList else s

/-- The rule of a line; blank lines, comments and lines without meaning have none. -/
def readLine? (line : Text) : Option Rule :=
  if line.head? = some '#' then none
  else
    let line := trimLine line
    if line = [] then none
    else
      let (keeps, bound, s) := readMarks line
      let (directoriesOnly, s) := readSlash s
      (Glob.read? (strictlyBelow (floating bound s))).map fun glob =>
        { glob, keeps, directoriesOnly }

/-- The lines of a file, up to the first that is no text. -/
def textLines : List Bytes → List Text
  | [] => []
  | line :: rest =>
      match Text.decodeStrict? line with
      | some s => Text.dropReturn s :: textLines rest
      | none => []

/-- A file divided at its line ends. -/
def byteLines : Bytes → List Bytes
  | [] => [[]]
  | b :: bs =>
      match byteLines bs with
      | [] => [[b]]
      | line :: rest => if b = 10 then [] :: line :: rest else (b :: line) :: rest

/-- The rules that a file lists. A mark of byte order in front of the first line does not
count. -/
def readRules (bytes : Bytes) : List Rule :=
  match textLines (byteLines bytes) with
  | [] => []
  | first :: rest => ((first.dropWhile fun c => c = '\ufeff') :: rest).filterMap readLine?

/-- What a list of rules says of a path: leave it out, keep it, or nothing. -/
def verdict (rules : List Rule) (path : Text) (isDirectory : Bool) : Option Bool :=
  (rules.reverse.find? fun r =>
    (isDirectory || !r.directoriesOnly) && r.glob.isMatch path).map fun r => !r.keeps

end SpanWeave.Ignore
