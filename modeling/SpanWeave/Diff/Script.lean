import SpanWeave.Text.Basic

/-!
Edit scripts between two lists of lines. The script is found by dividing at a point that a
shortest script passes: paths are followed from both ends at once, a round per change, until
two of them meet.
-/

namespace SpanWeave.Diff

/-- The lines of a text with their ends. A line ends at a line feed, at a carriage return, or at
both in this order. -/
def linesOf : Text → List Text
  | [] => []
  | '\r' :: '\n' :: s => ['\r', '\n'] :: linesOf s
  | c :: s =>
      if c = '\n' || c = '\r' then [c] :: linesOf s
      else
        match linesOf s with
        | [] => [[c]]
        | line :: rest => (c :: line) :: rest

theorem flatten_linesOf (s : Text) : (linesOf s).flatten = s := by
  fun_induction linesOf s with
  | case1 => rfl
  | case2 s ih => simp [ih]
  | case3 c s _ _ ih => simp [ih]
  | case4 c s _ _ h ih => simp_all
  | case5 c s _ _ line rest h ih => simp_all

/-- What a piece of a script does with its lines. -/
inductive Change where
  | keep
  | delete
  | insert
  deriving DecidableEq, Repr

/-- A piece of a script: `size` lines with one fate, and the places in both texts at which they
were found. A deletion takes lines of the old text, an insertion lines of the new one. -/
structure Piece where
  change : Change
  old : Nat
  new : Nat
  size : Nat
  deriving DecidableEq, Repr

/-- The two texts compared. -/
structure Texts where
  old : Array Text
  new : Array Text

/-- Number of lines, at most `limit`, that agree from `i` in the old and `j` in the new text
on. -/
def Texts.agreeing (t : Texts) : (limit : Nat) → (i j : Nat) → Nat
  | 0, _, _ => 0
  | limit + 1, i, j =>
      if t.old[i]? = t.new[j]? then t.agreeing limit (i + 1) (j + 1) + 1 else 0

/-- Number of lines, at most `limit`, that agree in front of `i` in the old and `j` in the new
text. -/
def Texts.agreeingBefore (t : Texts) : (limit : Nat) → (i j : Nat) → Nat
  | limit + 1, i + 1, j + 1 =>
      if t.old[i]? = t.new[j]? then t.agreeingBefore limit i j + 1 else 0
  | _, _, _ => 0

/-- A range of lines in each text. -/
structure Window where
  oldStart : Nat
  oldStop : Nat
  newStart : Nat
  newStop : Nat

namespace Window

def oldSize (w : Window) : Nat := w.oldStop - w.oldStart

def newSize (w : Window) : Nat := w.newStop - w.newStart

/-- The ranges without their first `n` lines. -/
def dropFirst (w : Window) (n : Nat) : Window :=
  { w with oldStart := w.oldStart + n, newStart := w.newStart + n }

/-- The ranges without their last `n` lines. -/
def dropLast (w : Window) (n : Nat) : Window :=
  { w with oldStop := w.oldStop - n, newStop := w.newStop - n }

end Window

/-- How far the paths on each diagonal have come, in old lines; the diagonal of a place is the
number of old lines passed less the number of new ones. -/
structure Frontier where
  center : Nat
  reach : Array Nat

namespace Frontier

/-- Nothing is reached yet on diagonals of at most `size`. -/
def start (size : Nat) : Frontier := ⟨size + 1, Array.replicate (2 * size + 3) 0⟩

def reachOn (f : Frontier) (diagonal : Int) : Nat :=
  f.reach.getD (diagonal + f.center).toNat 0

/-- Sets the reach on a diagonal. -/
def record (f : Frontier) (diagonal : Int) (x : Nat) : Frontier :=
  { f with reach := f.reach.setIfInBounds (diagonal + f.center).toNat x }

/-- Where a path with `d` changes enters a diagonal: from the neighbour that has come further,
by an insertion from above or a deletion from below. -/
def enter (f : Frontier) (d : Nat) (diagonal : Int) : Nat :=
  if diagonal = -d || (diagonal ≠ d && f.reachOn (diagonal - 1) < f.reachOn (diagonal + 1)) then
    f.reachOn (diagonal + 1)
  else f.reachOn (diagonal - 1) + 1

end Frontier

/-- The diagonals that paths with `d` changes end on, from the highest down. -/
def diagonals (d : Nat) : List Int := (List.range (d + 1)).map fun (i : Nat) => (d : Int) - 2 * i

/-- A search for the point at which to divide. -/
structure Search where
  texts : Texts
  window : Window

namespace Search

/-- The diagonal of the far end. -/
def delta (s : Search) : Int := s.window.oldSize - s.window.newSize

/-- Follows paths from the near end over the given diagonals. The search is over when a path
meets one from the far end; that is looked for here when the number of changes is odd. -/
def forward (s : Search) (d : Nat) (back : Frontier) :
    List Int → Frontier → Frontier ⊕ (Nat × Nat)
  | [], f => .inl f
  | k :: ks, f =>
      let x := f.enter d k
      let y := ((x : Int) - k).toNat
      let n := s.window.oldSize
      let m := s.window.newSize
      let reach := x + s.texts.agreeing (min (n - x) (m - y)) (s.window.oldStart + x)
        (s.window.newStart + y)
      if s.delta % 2 ≠ 0 && (k - s.delta).natAbs + 1 ≤ d &&
          n ≤ reach + back.reachOn (s.delta - k) then
        .inr (s.window.oldStart + x, s.window.newStart + y)
      else s.forward d back ks (f.record k reach)

/-- Follows paths from the far end over the given diagonals. The search is over when a path
meets one from the near end; that is looked for here when the number of changes is even. -/
def backward (s : Search) (d : Nat) (front : Frontier) :
    List Int → Frontier → Frontier ⊕ (Nat × Nat)
  | [], f => .inl f
  | k :: ks, f =>
      let x := f.enter d k
      let y := ((x : Int) - k).toNat
      let n := s.window.oldSize
      let m := s.window.newSize
      let more := s.texts.agreeingBefore (min (n - x) (m - y)) (s.window.oldStop - x)
        (s.window.newStop - y)
      if s.delta % 2 = 0 && (k - s.delta).natAbs ≤ d &&
          n ≤ x + more + front.reachOn (s.delta - k) then
        .inr (s.window.oldStop - (x + more), s.window.newStop - (y + more))
      else s.backward d front ks (f.record k (x + more))

/-- Searches with `d` changes from either end, and with one more in each round after that. -/
def rounds (s : Search) : (fuel : Nat) → (d : Nat) → (front back : Frontier) →
    Option (Nat × Nat)
  | 0, _, _, _ => none
  | fuel + 1, d, front, back =>
      match s.forward d back (diagonals d) front with
      | .inr found => some found
      | .inl front =>
          match s.backward d front (diagonals d) back with
          | .inr found => some found
          | .inl back => s.rounds fuel (d + 1) front back

/-- A point that a shortest script passes. -/
def divide? (s : Search) : Option (Nat × Nat) :=
  let most := (s.window.oldSize + s.window.newSize + 1) / 2 + 1
  s.rounds most 0 (.start most) (.start most)

end Search

def piece (change : Change) (old new size : Nat) : List Piece :=
  if size = 0 then [] else [⟨change, old, new, size⟩]

/-- The script for a window. Lines that agree at its ends are kept, and what is left is divided
until only deletions or only insertions remain. -/
def scriptFor (t : Texts) : (fuel : Nat) → Window → List Piece
  | fuel, w =>
      let lead := t.agreeing (min w.oldSize w.newSize) w.oldStart w.newStart
      let v := w.dropFirst lead
      let tail := t.agreeingBefore (min v.oldSize v.newSize) v.oldStop v.newStop
      let u := v.dropLast tail
      let all := piece .delete u.oldStart u.newStart u.oldSize ++
        piece .insert u.oldStart u.newStart u.newSize
      let middle :=
        if u.oldSize = 0 || u.newSize = 0 then all
        else
          match fuel, Search.divide? ⟨t, u⟩ with
          | fuel + 1, some (x, y) =>
              scriptFor t fuel { u with oldStop := x, newStop := y } ++
                scriptFor t fuel { u with oldStart := x, newStart := y }
          | _, _ => all
      piece .keep w.oldStart w.newStart lead ++ middle ++
        piece .keep u.oldStop u.newStop tail

/-- The script that turns the old text into the new one. -/
def script (t : Texts) : List Piece :=
  scriptFor t (t.old.size + t.new.size + 1) ⟨0, t.old.size, 0, t.new.size⟩

end SpanWeave.Diff
