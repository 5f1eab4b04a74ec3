import SpanWeave.Diff.Script

/-!
Compacting a script. Deletions and insertions are moved towards their like and merged with it:
they change places with one another, and an insertion also moves across kept lines when the
text stays the same. A moved piece takes its recorded places along.
-/

namespace SpanWeave.Diff

namespace Piece

/-- The piece moved `n` lines up. -/
def up (p : Piece) (n : Nat) : Piece := { p with old := p.old - n, new := p.new - n }

/-- The piece moved `n` lines down. -/
def down (p : Piece) (n : Nat) : Piece := { p with old := p.old + n, new := p.new + n }

/-- The piece with `n` more lines behind it. -/
def extend (p : Piece) (n : Nat) : Piece := { p with size := p.size + n }

/-- The piece without its last `n` lines. -/
def shorten (p : Piece) (n : Nat) : Piece := { p with size := p.size - n }

end Piece

/-- A script with one piece in view; the pieces before it are listed nearest first. -/
structure View where
  before : List Piece
  current : Piece
  after : List Piece

/-- Kept lines put in front of a script: kept lines that stand there grow, and otherwise `made`
is added. -/
def keepInFront (n : Nat) (made : Piece) : List Piece → List Piece
  | p :: ps => if p.change = .keep then (p.up n).extend n :: ps else made :: p :: ps
  | [] => [made]

/-- Kept lines put behind the pieces before the view. -/
def keepBehind (n : Nat) (made : Piece) : List Piece → List Piece
  | p :: ps => if p.change = .keep then p.extend n :: ps else made :: p :: ps
  | [] => [made]

/-- Number of lines by which a piece can move up across the kept lines `kept`. -/
def Texts.roomAbove (t : Texts) (kept p : Piece) : Nat :=
  if p.change = .insert then
    t.agreeingBefore (min kept.size p.size) (kept.old + kept.size) (p.new + p.size)
  else 0

/-- Number of lines by which a piece can move down across the kept lines `kept`. -/
def Texts.roomBelow (t : Texts) (kept p : Piece) : Nat :=
  if p.change = .insert then t.agreeing (min kept.size p.size) kept.old p.new else 0

/-- Number of pieces and lines, by which a walk over them is bounded. -/
def extent (ps : List Piece) : Nat := ps.foldr (fun p n => p.size + 1 + n) 0

/-- Moves the piece in view up as far as it goes. -/
def moveUp (t : Texts) (before : List Piece) (p : Piece) (after : List Piece) : View :=
  match before with
  | [] => ⟨[], p, after⟩
  | q :: rest =>
      if q.change = .keep then
        let n := t.roomAbove q p
        if n = 0 then ⟨q :: rest, p, after⟩
        else
          let after := keepInFront n ⟨.keep, q.old + q.size - n, p.new + p.size - n, n⟩ after
          if _h : q.size ≤ n then moveUp t rest (p.up n) after
          else moveUp t (q.shorten n :: rest) (p.up n) after
      else if q.change = p.change then moveUp t rest (q.extend p.size) after
      else moveUp t rest p (q :: after)
termination_by extent before
decreasing_by
  all_goals simp only [extent, Piece.shorten, List.foldr_cons]
  all_goals omega

/-- Moves the piece in view down as far as it goes. -/
def moveDown (t : Texts) (before : List Piece) (p : Piece) (after : List Piece) : View :=
  match after with
  | [] => ⟨before, p, []⟩
  | q :: rest =>
      if q.change = .keep then
        let n := t.roomBelow q p
        if n = 0 then ⟨before, p, q :: rest⟩
        else
          let before := keepBehind n ⟨.keep, q.old, p.new, n⟩ before
          if _h : q.size ≤ n then moveDown t before (p.down n) rest
          else moveDown t before (p.down n) ((q.down n).shorten n :: rest)
      else if q.change = p.change then moveDown t before (p.extend q.size) rest
      else moveDown t (q :: before) p rest
termination_by extent after
decreasing_by
  all_goals simp only [extent, Piece.shorten, Piece.down, List.foldr_cons]
  all_goals omega

/-- Moves every piece with the given change, from the first to the last, up and then down. -/
def settle (t : Texts) (change : Change) : (fuel : Nat) → (before after : List Piece) →
    List Piece
  | 0, before, after => before.reverse ++ after
  | _ + 1, before, [] => before.reverse
  | fuel + 1, before, p :: after =>
      if p.change = change then
        let high := moveUp t before p after
        let low := moveDown t high.before high.current high.after
        settle t change fuel (low.current :: low.before) low.after
      else settle t change fuel (p :: before) after

/-- Number of steps that are enough to settle a script. -/
def settleFuel (ps : List Piece) : Nat := (ps.length + 2) * (ps.length + 2)

/-- Compacts a script: first its deletions, then its insertions. -/
def compact (t : Texts) (ps : List Piece) : List Piece :=
  let ps := settle t .delete (settleFuel ps) [] ps
  settle t .insert (settleFuel ps) [] ps

end SpanWeave.Diff
