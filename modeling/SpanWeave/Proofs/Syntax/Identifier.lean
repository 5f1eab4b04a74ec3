import SpanWeave.Proofs.Config
import SpanWeave.Proofs.Syntax.Word

namespace SpanWeave.Syntax

open Text

/-- The tables of letters and numbers. -/
def alphanumericRuns : List (List Run) :=
  [Category.uppercaseLetters, Category.lowercaseLetters, Category.titlecaseLetters,
    Category.modifierLetters, Category.otherLetters, Category.letterNumbers,
    Property.otherAlphabetic, Category.decimalDigits, Category.otherNumbers]

theorem isAlphanumeric_eq_any {c : Char} (h : 128 ≤ c.toNat) :
    isAlphanumeric c = alphanumericRuns.any (inRuns · c) := by
  have hcode : ¬ c.toNat < 128 := Nat.not_lt.mpr h
  simp only [isAlphanumeric, isAlphabetic, isNumeric, hcode, if_false, isLetter, alphanumericRuns,
    List.any_cons, List.any_nil, Bool.or_false]
  grind

/-- The stretches, from code to code, where the white space outside of ASCII lies. -/
def blankGaps : List (Nat × Nat) :=
  [(0xA0, 0xA0), (0x1680, 0x1680), (0x2000, 0x2060), (0x3000, 0x3000), (0xFEFF, 0xFEFF)]

theorem code_of_isSpace {c : Char} (h : isSpace c = true) :
    c.toNat < 0x21 ∨ ∃ g ∈ blankGaps, g.1 ≤ c.toNat ∧ c.toNat ≤ g.2 := by
  simp only [isSpace, isBlank, Bool.or_eq_true, Bool.and_eq_true, decide_eq_true_eq, beq_iff_eq,
    bne_iff_ne, ne_eq] at h
  simp only [blankGaps, List.mem_cons, List.not_mem_nil, or_false, exists_eq_or_imp,
    exists_eq_left]
  omega

theorem not_holds_of_avoids {r : Run} {g : Nat × Nat} {n : Nat}
    (h : (r.2.1 < g.1 || g.2 < r.1) = true) (hn : g.1 ≤ n ∧ n ≤ g.2) : r.holds n = false := by
  simp only [Bool.or_eq_true, decide_eq_true_eq] at h
  simp only [Run.holds, Bool.and_eq_false_iff, decide_eq_false_iff_not]
  omega

theorem isNameCharacter_of_blankGap {c : Char} {g : Nat × Nat} (hg : g ∈ blankGaps)
    (hn : g.1 ≤ c.toNat ∧ c.toNat ≤ g.2) : isNameCharacter c = false := by
  have havoids : (blankGaps.all fun g => alphanumericRuns.all fun runs =>
      runs.all fun r => r.2.1 < g.1 || g.2 < r.1) = true := by decide +kernel
  have hbeyond : ∀ g ∈ blankGaps, 128 ≤ g.1 := by decide
  have hcode : 128 ≤ c.toNat := Nat.le_trans (hbeyond g hg) hn.1
  have hne : ∀ a : Char, a.toNat < 128 → c ≠ a := by
    rintro a ha rfl
    omega
  have halphanumeric : isAlphanumeric c = false := by
    rw [isAlphanumeric_eq_any hcode]
    simp only [List.any_eq_false, inRuns, Bool.not_eq_true]
    intro runs hruns r hr
    have hgap := List.all_eq_true.mp (List.all_eq_true.mp havoids g hg) runs hruns
    exact not_holds_of_avoids (List.all_eq_true.mp hgap r hr) hn
  simp [isNameCharacter, halphanumeric, hne '_' (by decide), hne '$' (by decide)]

theorem isNameCharacter_of_lt {c : Char} (h : c.toNat < 0x21) : isNameCharacter c = false := by
  have hcodes : ∀ n ∈ List.range 0x21, isNameCharacter (Char.ofNat n) = false := by decide
  rw [← Char.ofNat_toNat c]
  exact hcodes _ (List.mem_range.mpr h)

theorem isNameCharacter_of_isSpace {c : Char} (h : isSpace c = true) :
    isNameCharacter c = false := by
  obtain hlow | ⟨g, hg, hn⟩ := code_of_isSpace h
  · exact isNameCharacter_of_lt hlow
  · exact isNameCharacter_of_blankGap hg hn

/-- What names are made of ends no word. -/
theorem isMark_of_isNameCharacter {c : Char} (h : isNameCharacter c = true) : isMark c = false := by
  have hsigns : ":;\x60\"'@#.,|^&<=>+-*/\\%?!~()[]\x7b\x7d".toList.any isNameCharacter = false := by
    decide
  cases hmark : isMark c
  · rfl
  simp only [isMark, Bool.or_eq_true, decide_eq_true_eq, List.contains_iff_mem] at hmark
  rcases hmark with (hcode | hspace) | hsign
  · rw [isNameCharacter_of_lt (by omega)] at h
    contradiction
  · rw [isNameCharacter_of_isSpace hspace] at h
    contradiction
  · exact absurd h (List.any_eq_false.mp hsigns c hsign)

theorem beginsName_of_isDigit {c : Char} (h : c.isDigit = true) :
    (isAlphabetic c || c = '_' || c = '$') = false := by
  have hcodes : ∀ n ∈ List.range' 48 10,
      (isAlphabetic (Char.ofNat n) || Char.ofNat n = '_' || Char.ofNat n = '$') = false := by
    decide
  have hcode : c.toNat ∈ List.range' 48 10 := by
    simp only [Char.isDigit, ge_iff_le, Bool.and_eq_true, decide_eq_true_eq,
      UInt32.le_iff_toNat_le] at h
    exact List.mem_range'_1.mpr ⟨h.1, Nat.lt_succ_of_le h.2⟩
  rw [← Char.ofNat_toNat c]
  exact hcodes _ hcode

theorem spelled_of_isIdentifier {w : Text} (h : isIdentifier w = true) : Spelled w where
  ne_nil := by
    rintro rfl
    simp [isIdentifier] at h
  unmarked a ha := isMark_of_isNameCharacter (isNameCharacter_of_mem h ha)
  head_isDigit := by
    cases w with
    | nil => simp
    | cons a w =>
        have hfirst := (Bool.and_eq_true_iff.mp h).1
        simp only [List.head?_cons, Option.mem_def, Option.some.injEq, forall_eq']
        cases hdigit : a.isDigit
        · rfl
        rw [beginsName_of_isDigit hdigit] at hfirst
        contradiction

end SpanWeave.Syntax
