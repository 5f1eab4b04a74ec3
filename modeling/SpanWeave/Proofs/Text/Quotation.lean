import SpanWeave.Proofs.Text.Units
import SpanWeave.Syntax.Literal
import SpanWeave.Text.Literal

/-!
Reading a string literal in single quotes, by the lexical grammar of the language: a backslash
begins an escape, a line feed or a carriage return breaks the literal off, and every other
character stands for itself. What is quoted is read back, whatever follows it.
-/

namespace SpanWeave.Text.Literal

open Syntax

/-- The number that digits to a base stand for. -/
def numeral (base : Nat) (digits : Text) : Nat :=
  digits.foldl (fun n d =>
    base * n + if d.isDigit then d.toNat - '0'.toNat else d.toLower.toNat - 'a'.toNat + 10) 0

/-- What a letter stands for behind a backslash. All but a few characters stand for themselves. -/
def named (c : Char) : Char :=
  match c with
  | 'b' => '\x08'
  | 't' => '\t'
  | 'n' => '\n'
  | 'v' => '\x0b'
  | 'f' => '\x0c'
  | 'r' => '\r'
  | c => c

/-- The unit that `n` hexadecimal digits stand for, and the length of the escape. -/
def hexEscape? (n : Nat) (s : Text) : Option (List UInt16 × Nat) :=
  if runLength isHexDigit (s.take n) = n then
    some ([UInt16.ofNat (numeral 16 (s.take n))], n + 1)
  else none

/-- The code point that hexadecimal digits stand for up to a closing brace. -/
def codeEscape? (s : Text) : Option (List UInt16 × Nat) :=
  let n := runLength isHexDigit s
  let code := numeral 16 (s.take n)
  if 0 < n && (s.drop n).head? = some '\x7d' && code < 0x110000 then some (unitsOf code, n + 3)
  else none

/-- An escape that begins with the digit `d`. Only a zero that no digit follows is one in strict
code; elsewhere octal digits stand for a unit below 256, and other digits for themselves. -/
def digitEscape? (strict : Bool) (d : Char) (s : Text) : Option (List UInt16 × Nat) :=
  if d = '0' && !s.head?.any Char.isDigit then some ([0], 1)
  else if strict then none
  else if isOctalDigit d then
    let n := runLength isOctalDigit ((d :: s).take (if d ≤ '3' then 3 else 2))
    some ([UInt16.ofNat (numeral 8 ((d :: s).take n))], n)
  else some (unitsOf d.toNat, 1)

/-- The units that an escape stands for, and its length without the backslash. The end of a line
stands for nothing. -/
def escapeUnits? (strict : Bool) : Text → Option (List UInt16 × Nat)
  | [] => none
  | c :: s =>
      if isLineEnd c then some ([], if c = '\r' && s.head? = some '\n' then 2 else 1)
      else if c = 'x' then hexEscape? 2 s
      else if c = 'u' then
        if s.head? = some '\x7b' then codeEscape? (s.drop 1) else hexEscape? 4 s
      else if c.isDigit then digitEscape? strict c s
      else some (unitsOf (named c).toNat, 1)

/-- Reads a literal behind its opening mark, once `skip` characters of an escape are passed: the
units it stands for, and what follows its closing mark. -/
def unitsTail? (strict : Bool) : (skip : Nat) → Text → Option (List UInt16 × Text)
  | _, [] => none
  | skip + 1, _ :: s => unitsTail? strict skip s
  | 0, c :: s =>
      if c = '\x27' then some ([], s)
      else if c = '\\' then
        match escapeUnits? strict s with
        | some (us, n) => (unitsTail? strict n s).map fun (vs, t) => (us ++ vs, t)
        | none => none
      else if c = '\n' || c = '\r' then none
      else (unitsTail? strict 0 s).map fun (vs, t) => (unitsOf c.toNat ++ vs, t)

/-- Reads the literal at the head of a text: the text it stands for, and what follows it. -/
def read? (strict : Bool) (s : Text) : Option (Text × Text) := do
  let rest ← afterLead? ['\x27'] s
  let (us, t) ← unitsTail? strict 0 rest
  return (← ofUnits? us, t)

/-- A text between quotation marks as it is. -/
def bare (s : Text) : Text := '\x27' :: (s ++ ['\x27'])

/-- In strict code and elsewhere, and whatever follows, a scanner that begins with `literal` reads
this literal and no more, as the text `value`; and to the grammar it is one string. -/
structure StandsFor (literal value : Text) : Prop where
  read_eq : ∀ strict t, read? strict (literal ++ t) = some (value, t)
  length_eq : ∀ t, stringTailLength? '\x27' 0 ((literal ++ t).drop 1) 1 = some literal.length

/-- A character that needs no escape. -/
def IsPlain (c : Char) : Prop := c ≠ '\x27' ∧ c ≠ '\\' ∧ c ≠ '\n' ∧ c ≠ '\r'

/-- Inside a literal, `a` is written for the character `c`, and nothing in it ends the literal. -/
structure Spells (a : Text) (c : Char) : Prop where
  units_eq : ∀ strict s, unitsTail? strict 0 (a ++ s) =
    (unitsTail? strict 0 s).map fun (us, t) => (unitsOf c.toNat ++ us, t)
  length_eq : ∀ s n,
    stringTailLength? '\x27' 0 (a ++ s) n = stringTailLength? '\x27' 0 s (n + a.length)

theorem spells_of_isPlain {c : Char} (hc : IsPlain c) : Spells [c] c := by
  obtain ⟨hquote, hbackslash, hfeed, hreturn⟩ := hc
  constructor
  · intro strict s
    simp [unitsTail?, hquote, hbackslash, hfeed, hreturn]
  · intro s n
    simp [stringTailLength?, hquote, hbackslash, hfeed, hreturn]

theorem spells_of_named {a c : Char}
    (ha : ∀ strict s, escapeUnits? strict (a :: s) = some (unitsOf c.toNat, 1))
    (hlength : ∀ s, escapeLength? ('\\' :: a :: s) = some 2) : Spells ['\\', a] c := by
  constructor
  · intro strict s
    simp [unitsTail?, ha]
  · intro s n
    simp [stringTailLength?, hlength]

theorem isSeparator_iff {c : Char} : isSeparator c = true ↔ c = '\u2028' ∨ c = '\u2029' := by
  simp only [isSeparator, Bool.or_eq_true, beq_iff_eq, ← Char.toNat_inj]
  rfl

/-- The characters that a quoted text holds escapes for. -/
def specials : List Char := ['\\', '\x27', '\n', '\r', '\u2028', '\u2029']

theorem of_notMem_specials {c : Char} (h : c ∉ specials) :
    IsPlain c ∧ isLineEnd c = false ∧ escape c = [c] := by
  simp only [specials, List.mem_cons, List.not_mem_nil, or_false, not_or] at h
  obtain ⟨hbackslash, hquote, hfeed, hreturn, hline, hparagraph⟩ := h
  have hseparator : isSeparator c = false := by
    rw [Bool.eq_false_iff, ne_eq, isSeparator_iff, not_or]
    exact ⟨hline, hparagraph⟩
  refine ⟨⟨hquote, hbackslash, hfeed, hreturn⟩, ?_, ?_⟩
  · simp [isLineEnd, hfeed, hreturn, hseparator]
  · simp [escape, hbackslash, hquote, hfeed, hreturn, hline, hparagraph]

theorem spells_escape (c : Char) : Spells (escape c) c := by
  by_cases hc : c ∈ specials
  · simp only [specials, List.mem_cons, List.not_mem_nil, or_false] at hc
    rcases hc with rfl | rfl | rfl | rfl | rfl | rfl
    · exact spells_of_named (fun _ _ => rfl) fun _ => rfl
    · exact spells_of_named (fun _ _ => rfl) fun _ => rfl
    · exact spells_of_named (fun _ _ => rfl) fun _ => rfl
    · exact spells_of_named (fun _ _ => rfl) fun _ => rfl
    · exact ⟨fun _ _ => rfl, fun _ _ => rfl⟩
    · exact ⟨fun _ _ => rfl, fun _ _ => rfl⟩
  · obtain ⟨hplain, -, heq⟩ := of_notMem_specials hc
    rw [heq]
    exact spells_of_isPlain hplain

theorem isLineEnd_of_mem_escape {c d : Char} (h : d ∈ escape c) : isLineEnd d = false := by
  by_cases hc : c ∈ specials
  · have hall : specials.all (fun c => (escape c).all fun d => !isLineEnd d) = true := by decide
    simpa using List.all_eq_true.mp (List.all_eq_true.mp hall c hc) d h
  · obtain ⟨-, hend, heq⟩ := of_notMem_specials hc
    rw [heq, List.mem_singleton] at h
    rw [h, hend]

section

variable {spell : Char → Text} {s : Text} (h : ∀ c ∈ s, Spells (spell c) c)
include h

theorem unitsTail?_of_spells (strict : Bool) (t : Text) :
    unitsTail? strict 0 (s.flatMap spell ++ '\x27' :: t) = some (units s, t) := by
  induction s with
  | nil => rfl
  | cons c s ih =>
      have hs : ∀ d ∈ s, Spells (spell d) d := fun d hd => h d (List.mem_cons_of_mem c hd)
      rw [List.flatMap_cons, List.append_assoc, (h c (by simp)).units_eq, ih hs]
      rfl

theorem stringTailLength?_of_spells (t : Text) (n : Nat) :
    stringTailLength? '\x27' 0 (s.flatMap spell ++ '\x27' :: t) n =
      some (n + (s.flatMap spell).length + 1) := by
  induction s generalizing n with
  | nil => rfl
  | cons c s ih =>
      have hs : ∀ d ∈ s, Spells (spell d) d := fun d hd => h d (List.mem_cons_of_mem c hd)
      rw [List.flatMap_cons, List.append_assoc, (h c (by simp)).length_eq, ih hs,
        List.length_append, Nat.add_assoc n]

/-- A text spelled character by character between quotation marks is read back. -/
theorem standsFor_of_spells : StandsFor ('\x27' :: (s.flatMap spell ++ ['\x27'])) s := by
  constructor
  · intro strict t
    have hunits := unitsTail?_of_spells h strict t
    simp [read?, afterLead?, hunits, ofUnits?_units]
  · intro t
    have hlength := stringTailLength?_of_spells h t 1
    simp only [List.cons_append, List.append_assoc, List.nil_append, List.drop_succ_cons,
      List.drop_zero, hlength, List.length_cons, List.length_append, List.length_nil]
    congr 1
    omega

end

theorem standsFor_quote (s : Text) : StandsFor (quote s) s :=
  standsFor_of_spells fun c _ => spells_escape c

theorem standsFor_bare {s : Text} (h : ∀ c ∈ s, IsPlain c) : StandsFor (bare s) s := by
  have hspells : ∀ c ∈ s, Spells [c] c := fun c hc => spells_of_isPlain (h c hc)
  simpa [bare] using standsFor_of_spells hspells

theorem quote_injective : Function.Injective quote := by
  intro s s' heq
  have hread := (standsFor_quote s).read_eq true []
  rw [heq, (standsFor_quote s').read_eq true []] at hread
  cases hread
  rfl

theorem isLineEnd_of_mem_quote {s : Text} {c : Char} (h : c ∈ quote s) : isLineEnd c = false := by
  simp only [quote, List.mem_cons, List.mem_append, List.mem_flatMap, List.not_mem_nil,
    or_false] at h
  rcases h with rfl | ⟨d, -, hc⟩ | rfl
  · decide
  · exact isLineEnd_of_mem_escape hc
  · decide

end SpanWeave.Text.Literal
