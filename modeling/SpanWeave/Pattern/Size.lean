import Std.Data.HashSet
import SpanWeave.Pattern.Basic

namespace SpanWeave.Pattern

/-- The bytes of a machine that reads forward and of one that reads backward. -/
structure Size where
  forward : Nat
  backward : Nat

namespace Size

/-- The same size in both directions. -/
def both (n : Nat) : Size := ⟨n, n⟩

instance : Add Size := ⟨fun a b => ⟨a.forward + b.forward, a.backward + b.backward⟩⟩

/-- `n` copies. -/
def copies (n : Nat) (a : Size) : Size := ⟨n * a.forward, n * a.backward⟩

end Size

/-- Bytes from the first to the second number. -/
abbrev ByteRange := Nat × Nat

/-- The encodings of numbers from `low` to `high` with `more` bytes behind the first, where
`lead` is added to the first byte. Each is a row of byte ranges that stands for all choices. -/
def encodings : (more : Nat) → (lead low high : Nat) → List (List ByteRange)
  | 0, lead, low, high => [[(lead + low, lead + high)]]
  | more + 1, lead, low, high =>
      let unit := 64 * (List.replicate more 64).foldl (· * ·) 1
      let first := low / unit
      let last := high / unit
      let under := fun (byte bottom top : Nat) =>
        (encodings more 0x80 bottom top).map ((lead + byte, lead + byte) :: ·)
      if first = last then under first (low % unit) (high % unit)
      else
        let ragged := low % unit ≠ 0
        let cut := high % unit ≠ unit - 1
        let start := if ragged then first + 1 else first
        let stop := if cut then last else last + 1
        (if ragged then under first (low % unit) (unit - 1) else []) ++
          (if start < stop then
            [(lead + start, lead + stop - 1) :: List.replicate (more + 1) (0x80, 0xBF)] else []) ++
          (if cut then under last 0 (high % unit) else [])

/-- The encodings of a range of code points. -/
def rangeEncodings (r : CharClass.Range) : List (List ByteRange) :=
  [(0, 0x7F, 0, 0), (0x80, 0x7FF, 1, 0xC0), (0x800, 0xD7FF, 2, 0xE0), (0xE000, 0xFFFF, 2, 0xE0),
    (0x10000, 0x10FFFF, 3, 0xF0)].flatMap fun (least, most, more, lead) =>
      let low := max least r.1
      let high := min most r.2
      if low ≤ high then encodings more lead low high else []

/-- The rows grouped by their first byte ranges, with what follows these. -/
def branchesOf (rows : List (List ByteRange)) : List (ByteRange × List (List ByteRange)) :=
  rows.foldr (fun row groups =>
    match row, groups with
    | [], _ => groups
    | b :: rest, [] => [(b, [rest])]
    | b :: rest, g :: gs => if g.1 = b then (b, rest :: g.2) :: gs else (b, [rest]) :: g :: gs) []

/-- The rows that are left at each inner place of the tree of some rows, down to a depth. -/
def innerRows : (depth : Nat) → List (List ByteRange) → List (List (List ByteRange))
  | 0, _ => []
  | depth + 1, rows =>
      let rows := rows.filter fun row => !row.isEmpty
      if rows.isEmpty then []
      else rows :: (branchesOf rows).flatMap fun b => innerRows depth b.2

/-- The bytes of a state, and of one way on from a state. -/
def stateBytes : Nat := 32

/-- The size of a class of characters. -/
def classSize (rs : List CharClass.Range) : Size :=
  match rs with
  | [(first, last)] =>
      if first = last then .both (stateBytes * ((rangeEncodings (first, last)).flatMap id).length)
      else spread rs
  | _ => spread rs
where
  /-- The size of a class of more than one character. -/
  spread (rs : List CharClass.Range) : Size :=
    if rs.all fun r => r.2 < 128 then .both (2 * stateBytes + 8 * rs.length)
    else
      let rows := rs.flatMap rangeEncodings
      let inner := innerRows 4 rows
      let kinds := (Std.HashSet.ofList inner).toList
      let ways := fun (rows : List (List ByteRange)) => (branchesOf rows).length
      { forward := kinds.foldl (fun n k => n + stateBytes + 8 * ways k) stateBytes
        backward := inner.foldl (fun n k => n + stateBytes * ways k)
          (2 * stateBytes + 4 * rows.length) }

/-- The pattern can match nothing but the empty text. -/
def onlyEmpty : Pattern → Bool
  | empty | anchor _ => true
  | one _ => false
  | cat p q | alt p q => p.onlyEmpty && q.onlyEmpty
  | group _ p => p.onlyEmpty
  | times p _ most => p.onlyEmpty || most = some 0

/-- The pattern can match the empty text. -/
def mayBeEmpty : Pattern → Bool
  | empty | anchor _ => true
  | one _ => false
  | cat p q => p.mayBeEmpty && q.mayBeEmpty
  | alt p q => p.mayBeEmpty || q.mayBeEmpty
  | group _ p => p.mayBeEmpty
  | times p least _ => p.mayBeEmpty || least = 0

/-- The class that a choice between single characters amounts to. -/
def asClass? : Pattern → Option CharClass
  | one c => some c
  | alt p q => do return .union (← p.asClass?) (← q.asClass?)
  | group kept p => if kept then none else p.asClass?
  | _ => none

/-- The size of a pattern. A choice takes a state and two ways on. -/
def size : Pattern → Size
  | empty => .both 0
  | anchor _ => .both stateBytes
  | one c => classSize c.ranges
  | cat p q => p.size + q.size
  | alt p q =>
      match (alt p q).asClass? with
      | some c => classSize c.ranges
      | none => p.size + q.size + .both (2 * stateBytes + 8)
  | group kept p => if kept then p.size + ⟨2 * stateBytes, 0⟩ else p.size
  | times p least most =>
      let part := p.size
      let choice : Size := .both (stateBytes + 8)
      let least := if p.onlyEmpty then min least 1 else least
      let most := if p.onlyEmpty then some (min (most.getD 1) 1) else most
      match most with
      | some most =>
          if least = most then part.copies least
          else part.copies least + (part + choice).copies (most - least) + .both stateBytes
      | none =>
          if least = 0 && p.mayBeEmpty then part + choice + choice + .both stateBytes
          else part.copies (max 1 least) + choice

/-- The bytes that a machine takes beside those of its pattern. -/
def frameBytes : Nat := 208

/-- Machines larger than this are refused. -/
def maxBytes : Nat := 10485760

/-- How deep the parts of a pattern may be nested. -/
def maxDepth : Nat := 250

/-- How deep the parts of a pattern are nested. A row of parts is one level, however long it is,
and so is a row of alternatives. -/
def depth : Pattern → Nat
  | empty | anchor _ | one _ => 0
  | cat p q => max (p.depth + 1) (match q with | cat _ _ => q.depth | _ => q.depth + 1)
  | alt p q => max (p.depth + 1) (match q with | alt _ _ => q.depth | _ => q.depth + 1)
  | group _ p | times p _ _ => p.depth + 1

/-- The pattern is small enough to be used. -/
def fits (p : Pattern) : Bool :=
  let size := p.size
  p.depth ≤ maxDepth && size.forward + frameBytes ≤ maxBytes &&
    size.backward + frameBytes ≤ maxBytes

end SpanWeave.Pattern
