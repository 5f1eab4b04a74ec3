import SpanWeave.Pattern.CharClass
import SpanWeave.Text.Letter

/-!
Patterns and where they match. `ends` gives the places at which a match that begins at a place
can end, so a search asks whether there is any.
-/

namespace SpanWeave

/-- A condition on a place in a text. Those on words may count the basic Latin block alone
(`latin`), and those on lines may take a carriage return for a line end too (`returns`). -/
inductive Pattern.Anchor where
  | textStart
  | textEnd
  | lineStart (returns : Bool)
  | lineEnd (returns : Bool)
  | wordBoundary (latin : Bool)
  | noWordBoundary (latin : Bool)
  | wordStart (latin : Bool)
  | wordEnd (latin : Bool)
  | wordStartHalf (latin : Bool)
  | wordEndHalf (latin : Bool)
  deriving DecidableEq, Repr

/-- A pattern. -/
inductive Pattern where
  | empty
  | one (c : Pattern.CharClass)
  | anchor (a : Pattern.Anchor)
  | cat (p q : Pattern)
  | alt (p q : Pattern)
  /-- A part in parentheses, whose place in the text may be kept. -/
  | group (kept : Bool) (p : Pattern)
  /-- At least `least` times, and at most `most` times if that is given. -/
  | times (p : Pattern) (least : Nat) (most : Option Nat)

namespace Pattern

/-- The character at place `i` is one of a word. -/
def wordAtPlace (latin : Bool) (s : Array Char) (i : Nat) : Bool :=
  s[i]?.any fun c => if latin then c.isAlphanum || c == '_' else Text.isWordCharacter c

/-- The character in front of place `i` is one of a word. -/
def wordBefore (latin : Bool) (s : Array Char) (i : Nat) : Bool :=
  i ≠ 0 && wordAtPlace latin s (i - 1)

/-- The character in front of place `i` is `c`. -/
def standsBefore (s : Array Char) (i : Nat) (c : Char) : Bool :=
  i ≠ 0 && s[i - 1]? = some c

/-- The condition holds at place `i`. No line begins or ends between a carriage return and the
line feed behind it when both end lines. -/
def Anchor.holds (s : Array Char) (i : Nat) : Anchor → Bool
  | textStart => i = 0
  | textEnd => i = s.size
  | lineStart returns =>
      i = 0 || standsBefore s i '\n' ||
        returns && standsBefore s i '\r' && s[i]? ≠ some '\n'
  | lineEnd returns =>
      i = s.size || returns && s[i]? = some '\r' ||
        s[i]? = some '\n' && !(returns && standsBefore s i '\r')
  | wordBoundary latin => wordBefore latin s i != wordAtPlace latin s i
  | noWordBoundary latin => wordBefore latin s i == wordAtPlace latin s i
  | wordStart latin => !wordBefore latin s i && wordAtPlace latin s i
  | wordEnd latin => wordBefore latin s i && !wordAtPlace latin s i
  | wordStartHalf latin => !wordBefore latin s i
  | wordEndHalf latin => !wordAtPlace latin s i

/-- The places reached by one more step from each of some places, without repetition. -/
def stepAll (step : Nat → List Nat) (places : List Nat) : List Nat :=
  (places.flatMap step).eraseDups

/-- The places reached by exactly `n` steps. A step that leads back to the same places ends it. -/
def stepExactly (step : Nat → List Nat) : Nat → List Nat → List Nat
  | 0, places => places
  | n + 1, places =>
      let next := stepAll step places
      if next = places then places else stepExactly step n next

/-- The places reached by at most `n` steps. -/
def stepUpTo (step : Nat → List Nat) : Nat → List Nat → List Nat
  | 0, places => places
  | n + 1, places =>
      let next := (places ++ stepAll step places).eraseDups
      if next.length = places.length then places else stepUpTo step n next

/-- The places at which a match that begins at place `i` can end. -/
def ends (s : Array Char) : Pattern → Nat → List Nat
  | empty, i => [i]
  | one c, i => if s[i]?.any c.holds then [i + 1] else []
  | anchor a, i => if a.holds s i then [i] else []
  | cat p q, i => stepAll (ends s q) (ends s p i)
  | alt p q, i => (ends s p i ++ ends s q i).eraseDups
  | group _ p, i => ends s p i
  | times p least most, i =>
      let first := stepExactly (ends s p) least [i]
      match most with
      | some m => stepUpTo (ends s p) (m - least) first
      | none => stepUpTo (ends s p) (s.size + 1) first

/-- The pattern matches somewhere in the text. -/
def isFoundIn (p : Pattern) (text : Text) : Bool :=
  let s := text.toArray
  (List.range (s.size + 1)).any fun i => !(ends s p i).isEmpty

end Pattern

end SpanWeave
