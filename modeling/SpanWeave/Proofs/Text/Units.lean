import SpanWeave.Text.Basic

namespace SpanWeave.Text

/-- The units of a code point: one, or two surrogates. -/
def unitsOf (n : Nat) : List UInt16 :=
  if n < 0x10000 then [UInt16.ofNat n]
  else
    [UInt16.ofNat (0xD800 + (n - 0x10000) / 0x400), UInt16.ofNat (0xDC00 + (n - 0x10000) % 0x400)]

def units (s : Text) : List UInt16 := s.flatMap fun c => unitsOf c.toNat

/-- The first surrogate of a pair. -/
def isHigh (u : UInt16) : Bool := 0xD800 ≤ u.toNat && u.toNat < 0xDC00

/-- The second surrogate of a pair. -/
def isLow (u : UInt16) : Bool := 0xDC00 ≤ u.toNat && u.toNat < 0xE000

/-- The character that a pair of surrogates stands for. -/
def ofPair (u v : UInt16) : Char :=
  Char.ofNat (0x10000 + (u.toNat - 0xD800) * 0x400 + (v.toNat - 0xDC00))

/-- The text that units stand for, where `high` waits for its second surrogate. There is none when
a surrogate stands outside a pair. -/
def ofUnitsFrom? : (high : Option UInt16) → List UInt16 → Option Text
  | none, [] => some []
  | some _, [] => none
  | none, u :: us =>
      if isHigh u then ofUnitsFrom? (some u) us
      else if isLow u then none
      else (ofUnitsFrom? none us).map (Char.ofNat u.toNat :: ·)
  | some u, v :: us => if isLow v then (ofUnitsFrom? none us).map (ofPair u v :: ·) else none

def ofUnits? (us : List UInt16) : Option Text := ofUnitsFrom? none us

theorem toNat_ofNat_of_lt {n : Nat} (h : n < 0x10000) : (UInt16.ofNat n).toNat = n := by
  rw [UInt16.toNat_ofNat']
  omega

theorem ofUnits?_unitsOf_append (c : Char) (us : List UInt16) :
    ofUnits? (unitsOf c.toNat ++ us) = (ofUnits? us).map (c :: ·) := by
  have hvalid : c.toNat < 0xD800 ∨ 0xDFFF < c.toNat ∧ c.toNat < 0x110000 := c.valid
  by_cases hplane : c.toNat < 0x10000
  · -- a character of one unit is no surrogate
    have hunit := toNat_ofNat_of_lt hplane
    have hhigh : isHigh (UInt16.ofNat c.toNat) = false := by
      rw [isHigh, hunit, Bool.and_eq_false_iff, decide_eq_false_iff_not, decide_eq_false_iff_not]
      omega
    have hlow : isLow (UInt16.ofNat c.toNat) = false := by
      rw [isLow, hunit, Bool.and_eq_false_iff, decide_eq_false_iff_not, decide_eq_false_iff_not]
      omega
    rw [unitsOf, if_pos hplane, List.singleton_append, ofUnits?, ofUnitsFrom?, hhigh, hlow, hunit,
      Char.ofNat_toNat]
    rfl
  · generalize hcode : c.toNat - 0x10000 = n
    have hbound : n < 0x100000 := by omega
    have hfirst : (UInt16.ofNat (0xD800 + n / 0x400)).toNat = 0xD800 + n / 0x400 :=
      toNat_ofNat_of_lt (by omega)
    have hsecond : (UInt16.ofNat (0xDC00 + n % 0x400)).toNat = 0xDC00 + n % 0x400 :=
      toNat_ofNat_of_lt (by omega)
    have hhigh : isHigh (UInt16.ofNat (0xD800 + n / 0x400)) = true := by
      rw [isHigh, hfirst, Bool.and_eq_true, decide_eq_true_iff, decide_eq_true_iff]
      omega
    have hlow : isLow (UInt16.ofNat (0xDC00 + n % 0x400)) = true := by
      rw [isLow, hsecond, Bool.and_eq_true, decide_eq_true_iff, decide_eq_true_iff]
      omega
    have hpair : ofPair (UInt16.ofNat (0xD800 + n / 0x400)) (UInt16.ofNat (0xDC00 + n % 0x400)) =
        c := by
      have hsum : 0x10000 + (0xD800 + n / 0x400 - 0xD800) * 0x400 +
          (0xDC00 + n % 0x400 - 0xDC00) = c.toNat := by omega
      rw [ofPair, hfirst, hsecond, hsum, Char.ofNat_toNat]
    rw [unitsOf, if_neg hplane, hcode, List.cons_append, List.singleton_append, ofUnits?,
      ofUnitsFrom?, if_pos hhigh, ofUnitsFrom?, if_pos hlow, hpair]
    rfl

theorem ofUnits?_units (s : Text) : ofUnits? (units s) = some s := by
  induction s with
  | nil => rfl
  | cons c s ih =>
      rw [units, List.flatMap_cons, ofUnits?_unitsOf_append]
      exact congrArg (Option.map (c :: ·)) ih

end SpanWeave.Text
