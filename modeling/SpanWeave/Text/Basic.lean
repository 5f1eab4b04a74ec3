/-!
Text as a list of characters whose positions are counted in bytes of its UTF-8 form.
The main operation is `cut?`, which splits a text at a byte offset and refuses an offset
that falls inside a character.
-/

namespace SpanWeave

/-- A text is the list of its characters. -/
abbrev Text := List Char

namespace Text

/-- Number of bytes of the UTF-8 form. -/
def byteSize : Text → Nat
  | [] => 0
  | c :: s => c.utf8Size + byteSize s

@[simp] theorem byteSize_nil : byteSize [] = 0 := rfl

@[simp] theorem byteSize_cons (c : Char) (s : Text) :
    byteSize (c :: s) = c.utf8Size + byteSize s := rfl

@[simp] theorem byteSize_append (s t : Text) :
    byteSize (s ++ t) = byteSize s + byteSize t := by
  induction s with
  | nil => simp
  | cons c s ih => simp [ih, Nat.add_assoc]

/-- Splits a text after `n` bytes. There is no result when `n` lies beyond the end or
inside a character. -/
def cut? : Text → Nat → Option (Text × Text)
  | s, 0 => some ([], s)
  | [], _ + 1 => none
  | c :: s, n + 1 =>
      if c.utf8Size ≤ n + 1 then
        match cut? s (n + 1 - c.utf8Size) with
        | some (a, b) => some (c :: a, b)
        | none => none
      else none

@[simp] theorem cut?_zero (s : Text) : cut? s 0 = some ([], s) := by
  cases s <;> rfl

theorem cut?_byteSize_append (a b : Text) : cut? (a ++ b) (byteSize a) = some (a, b) := by
  induction a with
  | nil => simp
  | cons c a ih =>
      have hc : 0 < c.utf8Size := Char.utf8Size_pos c
      obtain ⟨n, hn⟩ : ∃ n, c.utf8Size + byteSize a = n + 1 :=
        ⟨c.utf8Size + byteSize a - 1, by omega⟩
      have hle : c.utf8Size ≤ n + 1 := by omega
      have hsub : n + 1 - c.utf8Size = byteSize a := by omega
      simp [hn, cut?, hle, hsub, ih]

theorem eq_append_of_cut? {s : Text} {n : Nat} {a b : Text} (h : cut? s n = some (a, b)) :
    s = a ++ b ∧ byteSize a = n := by
  induction s generalizing n a b with
  | nil =>
      cases n with
      | zero => simp_all
      | succ n => simp [cut?] at h
  | cons c s ih =>
      cases n with
      | zero => simp_all
      | succ n =>
          simp only [cut?] at h
          split at h
          · rename_i hle
            split at h
            · rename_i a' b' heq
              simp only [Option.some.injEq, Prod.mk.injEq] at h
              obtain ⟨rfl, rfl⟩ := h
              have := ih heq
              refine ⟨by simp [this.1], ?_⟩
              simp only [byteSize_cons]
              omega
            · simp at h
          · simp at h

theorem cut?_eq_some_iff {s : Text} {n : Nat} {a b : Text} :
    cut? s n = some (a, b) ↔ s = a ++ b ∧ byteSize a = n :=
  ⟨eq_append_of_cut?, by rintro ⟨rfl, rfl⟩; exact cut?_byteSize_append a b⟩

/-- Offset `n` lies between two characters or at an end of `s`. -/
def onBoundary (s : Text) (n : Nat) : Bool := (cut? s n).isSome

/-- The first `n` bytes of `s`; empty when `n` is no boundary. -/
def takeBytes (s : Text) (n : Nat) : Text :=
  match cut? s n with
  | some (a, _) => a
  | none => []

/-- What follows the first `n` bytes of `s`; empty when `n` is no boundary. -/
def dropBytes (s : Text) (n : Nat) : Text :=
  match cut? s n with
  | some (_, b) => b
  | none => []

/-- The bytes from `start` up to `stop`. -/
def slice (s : Text) (start stop : Nat) : Text :=
  takeBytes (dropBytes s start) (stop - start)

/-- What is left of `s` after a leading `lead`. -/
def afterLead? : Text → Text → Option Text
  | [], s => some s
  | _ :: _, [] => none
  | c :: lead, d :: s => if c = d then afterLead? lead s else none

theorem afterLead?_eq_some_iff {lead s rest : Text} :
    afterLead? lead s = some rest ↔ s = lead ++ rest := by
  induction lead generalizing s with
  | nil => simp [afterLead?, eq_comm]
  | cons c lead ih =>
      cases s with
      | nil => simp [afterLead?]
      | cons d s =>
          by_cases h : c = d
          · simp [afterLead?, h, ih]
          · simp [afterLead?, h, Ne.symm h]

/-- `s` begins with `lead`. -/
def startsWith (s lead : Text) : Bool := (afterLead? lead s).isSome

/-- `s` ends with `tail`. -/
def endsWith (s tail : Text) : Bool := startsWith s.reverse tail.reverse

/-- The maximal pieces of `s` that hold no `sep`; one more than there are separators. -/
def splitAt (sep : Char) : Text → List Text
  | [] => [[]]
  | c :: s =>
      if c = sep then [] :: splitAt sep s
      else
        match splitAt sep s with
        | [] => [[c]]
        | p :: ps => (c :: p) :: ps

/-- The pieces written after one another with `sep` between them. -/
def joinWith (sep : Text) : List Text → Text
  | [] => []
  | [s] => s
  | s :: t :: rest => s ++ sep ++ joinWith sep (t :: rest)

/-- Where the last `c` of `s` stands: the part up to and with it, and the part after it. -/
def breakAfterLast? (c : Char) : Text → Option (Text × Text)
  | [] => none
  | d :: s =>
      match breakAfterLast? c s with
      | some (a, b) => some (d :: a, b)
      | none => if d = c then some ([d], s) else none

def ofNat (n : Nat) : Text := (Nat.toDigits 10 n)

end Text

end SpanWeave
