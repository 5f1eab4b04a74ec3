import SpanWeave.Text.Basic

namespace SpanWeave

/-- The contents of a file. -/
abbrev Bytes := List UInt8

namespace Text

/-- The UTF-8 form of a text. -/
def encode (s : Text) : Bytes := s.flatMap String.utf8EncodeChar

@[simp] theorem encode_nil : encode [] = [] := rfl

@[simp] theorem encode_append (s t : Text) : encode (s ++ t) = encode s ++ encode t := by
  simp [encode]

/-- What a first byte announces: the number of bytes that follow it, and the bounds of the next
one. Bytes that begin no character announce nothing. -/
def lead? (b : UInt8) : Option (Nat × UInt8 × UInt8) :=
  if b < 0x80 then some (0, 0, 0)
  else if b < 0xC2 then none
  else if b < 0xE0 then some (1, 0x80, 0xBF)
  else if b = 0xE0 then some (2, 0xA0, 0xBF)
  else if b = 0xED then some (2, 0x80, 0x9F)
  else if b < 0xF0 then some (2, 0x80, 0xBF)
  else if b = 0xF0 then some (3, 0x90, 0xBF)
  else if b < 0xF4 then some (3, 0x80, 0xBF)
  else if b = 0xF4 then some (3, 0x80, 0x8F)
  else none

/-- Number of bytes, at most `owed`, that continue a character; the next one has the bounds
`low` and `high`. -/
def following : (owed : Nat) → (low high : UInt8) → Bytes → Nat
  | owed + 1, low, high, b :: bs =>
      if low ≤ b && b ≤ high then following owed 0x80 0xBF bs + 1 else 0
  | _, _, _, _ => 0

/-- The character that a first byte and the `n` bytes behind it stand for. -/
def assemble (n : Nat) (b : UInt8) (bs : Bytes) : Char :=
  let head := if n = 0 then b.toNat else b.toNat % Nat.pow 2 (6 - n)
  Char.ofNat ((bs.take n).foldl (fun v c => v * 64 + c.toNat % 64) head)

/-- What stands for bytes that are no character. -/
def replacement : Char := '\ufffd'

/-- What a first byte and those behind it stand for, and how many bytes behind it are used up.
There is no character when the bytes are not of its form. -/
def decodeOne (b : UInt8) (bs : Bytes) : Option Char × Nat :=
  match lead? b with
  | none => (none, 0)
  | some (owed, low, high) =>
      let n := following owed low high bs
      (if n = owed then some (assemble n b bs) else none, n)

/-- Decodes bytes behind `skip` used ones. The text decoded so far is given backwards. -/
def decodeFrom : (skip : Nat) → (done : Text) → Bytes → Text
  | _, done, [] => done.reverse
  | skip + 1, done, _ :: bs => decodeFrom skip done bs
  | 0, done, b :: bs =>
      let (c, n) := decodeOne b bs
      decodeFrom n (c.getD replacement :: done) bs

/-- Decodes bytes, with replacements. -/
def decode (bs : Bytes) : Text := decodeFrom 0 [] bs

/-- Decodes bytes behind `skip` used ones, and refuses what is no character. -/
def decodeStrictFrom : (skip : Nat) → (done : Text) → Bytes → Option Text
  | _, done, [] => some done.reverse
  | skip + 1, done, _ :: bs => decodeStrictFrom skip done bs
  | 0, done, b :: bs =>
      match decodeOne b bs with
      | (some c, n) => decodeStrictFrom n (c :: done) bs
      | (none, _) => none

/-- Decodes bytes that are the form of a text. -/
def decodeStrict? (bs : Bytes) : Option Text := decodeStrictFrom 0 [] bs

end Text

end SpanWeave
