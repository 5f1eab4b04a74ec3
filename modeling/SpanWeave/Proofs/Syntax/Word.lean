import SpanWeave.Proofs.Syntax.Reading

namespace SpanWeave.Syntax

open Text

/-- A text without marks that begins with no digit: a word as the grammar spells it. -/
structure Spelled (w : Text) : Prop where
  ne_nil : w ≠ []
  unmarked : ∀ a ∈ w, isMark a = false
  head_isDigit : ∀ a ∈ w.head?, a.isDigit = false

theorem wordTailLength_append {w r : Text} (hw : ∀ a ∈ w, isMark a = false) :
    wordTailLength 0 (w ++ '(' :: r) = w.length := by
  induction w with
  | nil => simp [wordTailLength, show isMark '(' = true by decide]
  | cons b w ih =>
      have hb := hw b (by simp)
      have hback : b ≠ '\\' := by
        rintro rfl
        exact absurd hb (by decide)
      simp [wordTailLength, hb, hback, ih fun a ha => hw a (by simp [ha]), Nat.add_comm]

section

variable {w r : Text} {o : Nat} {f : Bool} (hw : Spelled w)

include hw

theorem wordLength_append : wordLength (w ++ '(' :: r) = w.length := by
  cases w with
  | nil => exact absurd rfl hw.ne_nil
  | cons a w =>
      have hdigit := hw.head_isDigit a rfl
      rw [← wordTailLength_append (r := r) hw.unmarked]
      simp [wordLength, hdigit]

theorem wordAt_append : wordAt (w ++ '(' :: r) = w := by
  rw [wordAt, wordLength_append hw, List.take_left]

theorem head_append {a : Char} {t : Text} (heq : w ++ '(' :: r = a :: t) :
    isMark a = false ∧ a.isDigit = false := by
  obtain ⟨b, s, rfl⟩ := List.exists_cons_of_ne_nil hw.ne_nil
  obtain ⟨rfl, -⟩ := List.cons.inj heq
  exact ⟨hw.unmarked b (by simp), hw.head_isDigit b rfl⟩

theorem head?_append_ne {a : Char} (ha : isMark a = true) : (w ++ '(' :: r).head? ≠ some a := by
  obtain ⟨b, s, rfl⟩ := List.exists_cons_of_ne_nil hw.ne_nil
  intro heq
  obtain rfl : b = a := by simpa using heq
  rw [hw.unmarked b (by simp)] at ha
  contradiction

theorem opensGap_of_spelled {a : Char} (ha : a ∈ w) : opensGap a = false := by
  have hmark := hw.unmarked a ha
  have hsigns : "/<-".toList.all isMark = true := by decide
  simp only [opensGap, Bool.or_eq_false_iff, List.contains_eq_mem, decide_eq_false_iff_not]
  constructor
  · simp only [isMark, Bool.or_eq_false_iff] at hmark
    exact hmark.1.2
  · intro hsign
    rw [List.all_eq_true.mp hsigns a hsign] at hmark
    contradiction

theorem trivia_append : Cursor.trivia ⟨w ++ r, o, f⟩ = ([], ⟨w ++ r, o, f⟩) := by
  obtain ⟨a, s, rfl⟩ := List.exists_cons_of_ne_nil hw.ne_nil
  exact Cursor.trivia_cons (opensGap_of_spelled hw (by simp))

theorem ahead_append : Cursor.ahead ⟨w ++ r, o, f⟩ = w ++ r := by
  rw [Cursor.ahead, trivia_append hw]

theorem lexeme_append (k : Kind) :
    lexeme k w.length ⟨w ++ r, o, f⟩ =
      some ([.leaf k o (o + byteSize w)], ⟨r, o + byteSize w, opensPlace k⟩) := by
  simp [lexeme, trivia_append hw, advance_append]

theorem word_append (k : Kind) (but : List String) :
    word k but ⟨w ++ '(' :: r, o, f⟩ =
      if String.ofList w ∈ but then none
      else some ([.leaf k o (o + byteSize w)], ⟨'(' :: r, o + byteSize w, opensPlace k⟩) := by
  have hpos : 0 < w.length := List.length_pos_iff.mpr hw.ne_nil
  by_cases hbut : String.ofList w ∈ but <;>
    simp [word, ahead_append hw, wordLength_append hw, lexeme_append hw, hpos, hbut]

end

theorem wordStands_append {v : String} {w r : Text} (hv : v.toList.any isMark = false)
    (hw : ∀ a ∈ w, isMark a = false) :
    wordStands v (w ++ '(' :: r) = decide (v.toList = w) := by
  replace hv : ∀ a ∈ v.toList, isMark a = false := by simpa using hv
  unfold wordStands
  generalize v.toList = l at hv
  induction l generalizing w with
  | nil =>
      cases w with
      | nil => simp [afterLead?, show isMark '(' = true by decide]
      | cons a w => simp [afterLead?, hw a (by simp)]
  | cons b l ih =>
      cases w with
      | nil =>
          have hne : b ≠ '(' := by
            rintro rfl
            exact absurd (hv '(' (by simp)) (by decide)
          simp [afterLead?, hne]
      | cons a w =>
          have ih' := ih (fun a ha => hw a (List.mem_cons_of_mem _ ha))
            fun a ha => hv a (List.mem_cons_of_mem _ ha)
          by_cases hab : b = a
          · simpa [afterLead?, hab] using ih'
          · simp [afterLead?, hab]

theorem keyword_append {v : String} {w r : Text} {o : Nat} {f : Bool} (hw : Spelled w)
    (hv : v.toList.any isMark = false) :
    keyword v ⟨w ++ '(' :: r, o, f⟩ =
      if String.ofList w = v then
        some ([.leaf (.token v) o (o + byteSize w)],
          ⟨'(' :: r, o + byteSize w, opensPlace (.token v)⟩)
      else none := by
  have hiff : v.toList = w ↔ String.ofList w = v :=
    ⟨fun h => h ▸ String.ofList_toList, fun h => h ▸ String.toList_ofList⟩
  by_cases heq : String.ofList w = v
  · have hlength : v.length = w.length := by
      rw [← heq, String.length_ofList]
    simp [keyword, ahead_append hw, wordStands_append hv hw.unmarked, hiff.mpr heq, heq, hlength,
      lexeme_append hw]
  · simp [keyword, ahead_append hw, wordStands_append hv hw.unmarked, hiff, heq]

end SpanWeave.Syntax
