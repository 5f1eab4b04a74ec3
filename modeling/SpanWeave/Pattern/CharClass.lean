import SpanWeave.Text.Fold
import SpanWeave.Text.Runs

namespace SpanWeave.Pattern

/-- A class of characters. -/
inductive CharClass where
  | empty
  | range (first last : Char)
  | runs (rs : List Text.Run)
  | union (a b : CharClass)
  | inter (a b : CharClass)
  | diff (a b : CharClass)
  | symmDiff (a b : CharClass)
  | compl (a : CharClass)
  /-- The characters that are in the class in one letter case or another. -/
  | anyCase (a : CharClass)
  /-- The same for the letters of the basic Latin block alone. -/
  | anyLatinCase (a : CharClass)

namespace CharClass

/-- The characters that are the same as `c` but for case. -/
def variants (c : Char) : List Char :=
  let f := Text.foldCode c.toNat
  c :: Char.ofNat f :: Text.foldRuns.filterMap fun r =>
    let n := ((f : Int) - r.2.2.2).toNat
    if r.1 ≤ n && n ≤ r.2.1 && (n - r.1) % r.2.2.1 == 0 then some (Char.ofNat n) else none

/-- The character belongs to the class. -/
def holds : CharClass → Char → Bool
  | empty, _ => false
  | range a b, c => a ≤ c && c ≤ b
  | runs rs, c => Text.inRuns rs c
  | union a b, c => a.holds c || b.holds c
  | inter a b, c => a.holds c && b.holds c
  | diff a b, c => a.holds c && !b.holds c
  | symmDiff a b, c => a.holds c != b.holds c
  | compl a, c => !a.holds c
  | anyCase a, c => (variants c).any a.holds
  | anyLatinCase a, c => a.holds c || a.holds c.toLower || a.holds c.toUpper

def single (c : Char) : CharClass := range c c

/-- The characters of at least one of some classes. -/
def anyOf (cs : List CharClass) : CharClass := cs.foldr union empty

def ofRanges (rs : List (Char × Char)) : CharClass := anyOf (rs.map fun r => range r.1 r.2)

def ofTables (ts : List (List Text.Run)) : CharClass := anyOf (ts.map runs)

/-- Code points from the first to the second number. -/
abbrev Range := Nat × Nat

def lastCode : Nat := 0x10FFFF

/-- Ranges in ascending order, with those that touch `current` made part of it. -/
def joinFrom (current : Range) : List Range → List Range
  | [] => [current]
  | r :: rs =>
      if r.1 ≤ current.2 + 1 then joinFrom (current.1, max current.2 r.2) rs
      else current :: joinFrom r rs

/-- The same code points by ranges in ascending order that do not touch. -/
def joined (rs : List Range) : List Range :=
  match rs.mergeSort fun a b => a.1 ≤ b.1 with
  | [] => []
  | r :: rest => joinFrom r rest

/-- The code points from `start` on that are in none of some ascending ranges. -/
def gaps (start : Nat) : List Range → List Range
  | [] => if start ≤ lastCode then [(start, lastCode)] else []
  | r :: rs =>
      if start < r.1 then (start, r.1 - 1) :: gaps (r.2 + 1) rs else gaps (r.2 + 1) rs

def runRanges (r : Text.Run) : List Range :=
  if r.2.2 ≤ 1 then [(r.1, r.2.1)]
  else (List.range ((r.2.1 - r.1) / r.2.2 + 1)).map fun k => (r.1 + k * r.2.2, r.1 + k * r.2.2)

/-- The code point lies in one of the ranges. -/
def inRanges (rs : List Range) (n : Nat) : Bool := rs.any fun r => r.1 ≤ n && n ≤ r.2

/-- The code points that are in both of two lists of ranges. -/
def common (a b : List Range) : List Range := gaps 0 (joined (gaps 0 a ++ gaps 0 b))

/-- The code points that fold to others, each with the one it folds to. -/
def folds : List (Nat × Nat) :=
  Text.foldRuns.flatMap fun r =>
    (runRanges (r.1, r.2.1, r.2.2.1)).flatMap fun s =>
      (List.range (s.2 - s.1 + 1)).map fun k => (s.1 + k, (((s.1 + k : Nat) : Int) + r.2.2.2).toNat)

/-- Ranges with all code points that differ from one of theirs by case alone. -/
def foldRanges (rs : List Range) : List Range :=
  let one := fun (n : Nat) => (n, n)
  let folded := joined
    (rs ++ folds.filterMap fun f => if inRanges rs f.1 then some (one f.2) else none)
  joined
    (folded ++ folds.filterMap fun f => if inRanges folded f.2 then some (one f.1) else none)

/-- Ranges with the letters of the basic Latin block in both cases. -/
def foldLatinRanges (rs : List Range) : List Range :=
  let other := fun (n : Nat) =>
    if inRanges rs (n + 65) then [(n + 97, n + 97)] else []
  let another := fun (n : Nat) =>
    if inRanges rs (n + 97) then [(n + 65, n + 65)] else []
  joined (rs ++ (List.range 26).flatMap other ++ (List.range 26).flatMap another)

/-- The code points of a class, by ranges in ascending order that do not touch. -/
def ranges : CharClass → List Range
  | empty => []
  | range a b => if a ≤ b then [(a.toNat, b.toNat)] else []
  | runs rs => joined (rs.flatMap runRanges)
  | union a b => joined (a.ranges ++ b.ranges)
  | inter a b => common a.ranges b.ranges
  | diff a b => common a.ranges (gaps 0 b.ranges)
  | symmDiff a b =>
      joined (common a.ranges (gaps 0 b.ranges) ++ common b.ranges (gaps 0 a.ranges))
  | compl a => gaps 0 a.ranges
  | anyCase a => foldRanges a.ranges
  | anyLatinCase a => foldLatinRanges a.ranges

end CharClass

/-- Classes of the basic Latin block by their names between colons. -/
def asciiClass? (name : Text) : Option CharClass :=
  let r := CharClass.ofRanges
  match String.ofList name with
  | "alnum" => some (r [('0', '9'), ('A', 'Z'), ('a', 'z')])
  | "alpha" => some (r [('A', 'Z'), ('a', 'z')])
  | "ascii" => some (r [('\x00', '\x7f')])
  | "blank" => some (r [('\t', '\t'), (' ', ' ')])
  | "cntrl" => some (r [('\x00', '\x1f'), ('\x7f', '\x7f')])
  | "digit" => some (r [('0', '9')])
  | "graph" => some (r [('!', '~')])
  | "lower" => some (r [('a', 'z')])
  | "print" => some (r [(' ', '~')])
  | "punct" => some (r [('!', '/'), (':', '@'), ('[', '\x60'), ('\x7b', '~')])
  | "space" => some (r [('\t', '\r'), (' ', ' ')])
  | "upper" => some (r [('A', 'Z')])
  | "word" => some (r [('0', '9'), ('A', 'Z'), ('a', 'z'), ('_', '_')])
  | "xdigit" => some (r [('0', '9'), ('A', 'F'), ('a', 'f')])
  | _ => none

end SpanWeave.Pattern
