import SpanWeave.Diff.Compact

namespace SpanWeave.Diff

/-- Neighbouring lines that are all kept, or all replaced: `oldSize` lines of the old text by
`newSize` lines of the new one. -/
structure Segment where
  kept : Bool
  old : Nat
  oldSize : Nat
  new : Nat
  newSize : Nat
  deriving DecidableEq, Repr

def Segment.ofPiece (p : Piece) : Segment :=
  match p.change with
  | .keep => ⟨true, p.old, p.size, p.new, p.size⟩
  | .delete => ⟨false, p.old, p.size, p.new, 0⟩
  | .insert => ⟨false, p.old, 0, p.new, p.size⟩

/-- A piece that follows a segment of its kind becomes part of it. The place of the lines taken
out, and that of the lines put in, is the first one recorded. -/
def Segment.join? (s : Segment) (p : Piece) : Option Segment :=
  match s.kept, p.change with
  | true, .keep => some { s with oldSize := s.oldSize + p.size, newSize := s.newSize + p.size }
  | false, .delete =>
      some { s with old := if s.oldSize = 0 then p.old else s.old, oldSize := s.oldSize + p.size }
  | false, .insert =>
      some { s with new := if s.newSize = 0 then p.new else s.new, newSize := s.newSize + p.size }
  | _, _ => none

/-- The segments of a script behind those already built, which are listed last first. -/
def segmentsFrom : List Segment → List Piece → List Segment
  | built, [] => built.reverse
  | [], p :: ps => segmentsFrom [.ofPiece p] ps
  | s :: built, p :: ps =>
      match s.join? p with
      | some joined => segmentsFrom (joined :: built) ps
      | none => segmentsFrom (.ofPiece p :: s :: built) ps

/-- Number of kept lines shown around a change. -/
def context : Nat := 3

/-- The last `n` lines of kept lines. -/
def Segment.lastLines (s : Segment) (n : Nat) : Segment :=
  let cut := s.oldSize - n
  { s with old := s.old + cut, oldSize := s.oldSize - cut, new := s.new + cut
           newSize := s.newSize - cut }

/-- The first `n` lines of kept lines. -/
def Segment.firstLines (s : Segment) (n : Nat) : Segment :=
  { s with oldSize := min s.oldSize n, newSize := min s.newSize n }

/-- Cuts kept lines in front of the first change. -/
def trimFront : List Segment → List Segment
  | s :: rest => if s.kept then s.lastLines context :: rest else s :: rest
  | [] => []

/-- Cuts kept lines behind the last change. -/
def trimBack : List Segment → List Segment
  | [] => []
  | [s] => if s.kept then [s.firstLines context] else [s]
  | s :: t :: rest => s :: trimBack (t :: rest)

/-- A hunk is a list of segments that are shown together. -/
abbrev Hunk := List Segment

/-- Divides segments into hunks where many lines are kept; `pending` is the hunk under way, last
segment first. -/
def hunksFrom : (pending : Hunk) → List Segment → List Hunk
  | pending, [] =>
      match pending with
      | [] => []
      | [s] => if s.kept then [] else [[s]]
      | _ => [pending.reverse]
  | pending, s :: rest =>
      if s.kept && s.oldSize > 2 * context then
        (s.firstLines context :: pending).reverse :: hunksFrom [s.lastLines context] rest
      else hunksFrom (s :: pending) rest

def hunks (ps : List Piece) : List Hunk := hunksFrom [] (trimBack (trimFront (segmentsFrom [] ps)))

/-- A range of lines as a hunk tells it: its first line and its length, which is left out when
it is one. An empty range is told by the line in front of it. -/
def range (start stop : Nat) : Text :=
  let size := stop - start
  if size = 1 then Text.ofNat (start + 1)
  else Text.ofNat (if size = 0 then start else start + 1) ++ ',' :: Text.ofNat size

/-- The line that tells where a hunk belongs. -/
def header (first last : Segment) : Text :=
  "@@ -".toList ++ range first.old (last.old + last.oldSize) ++ " +".toList ++
    range first.new (last.new + last.newSize) ++ " @@\n".toList

/-- A line of a text with its sign. A text that does not end its last line is told so. -/
def shownLine (sign : Char) (line : Text) : Text :=
  let ended := line.getLast?.any fun c => c = '\n' || c = '\r'
  sign :: line ++ if ended then [] else "\n\\ No newline at end of file\n".toList

/-- Lines of a text from `start` on, each with its sign. -/
def shownLines (sign : Char) (text : Array Text) (start size : Nat) : Text :=
  ((text.toList.drop start).take size).flatMap (shownLine sign)

/-- The lines of a segment: kept ones once, replaced ones in front of their replacement. -/
def Segment.show (t : Texts) (s : Segment) : Text :=
  if s.kept then shownLines ' ' t.old s.old s.oldSize
  else shownLines '-' t.old s.old s.oldSize ++ shownLines '+' t.new s.new s.newSize

def Hunk.show (t : Texts) (h : Hunk) : Text :=
  match h.head?, h.getLast? with
  | some first, some last => header first last ++ List.flatMap (Segment.show t) h
  | _, _ => []

def Texts.ofTexts (old new : Text) : Texts := ⟨(linesOf old).toArray, (linesOf new).toArray⟩

/-- The hunks between two texts. -/
def hunksBetween (t : Texts) : List Hunk := hunks (compact t (script t))

/-- The unified diff between two texts; empty when they are equal. -/
def unified (old new : Text) : Text :=
  let t := Texts.ofTexts old new
  (hunksBetween t).flatMap (Hunk.show t)

/-- The unified diff between two versions of a file, which is named in front. -/
def ofFile (path old new : Text) : Text :=
  let hunks := unified old new
  if hunks = [] then []
  else
    "--- a/".toList ++ path ++ "\n+++ b/".toList ++ path ++ "\n".toList ++ hunks

end SpanWeave.Diff
