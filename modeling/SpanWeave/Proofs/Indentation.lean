import SpanWeave.Proofs.Text.LineBreak

namespace SpanWeave

open Text

namespace Text

variable {sep : Char} {s : Text}

theorem splitAt_of_notMem (h : sep ∉ s) : splitAt sep s = [s] := by
  induction s with
  | nil => rfl
  | cons c s ih =>
      have hc : c ≠ sep := fun hc => h (by simp [hc])
      have hs : sep ∉ s := fun hs => h (List.mem_cons_of_mem c hs)
      simp [splitAt, hc, ih hs]

theorem notMem_of_mem_splitAt {p : Text} (hp : p ∈ splitAt sep s) : sep ∉ p := by
  intro hmem
  exact (mem_of_mem_splitAt hp hmem).2 rfl

theorem splitAt_joinWith {ps : List Text} (hne : ps ≠ []) (hps : ∀ p ∈ ps, sep ∉ p) :
    splitAt sep (joinWith [sep] ps) = ps := by
  induction ps with
  | nil => exact absurd rfl hne
  | cons p ps ih =>
      have hp : splitAt sep p = [p] := splitAt_of_notMem (hps p (by simp))
      cases ps with
      | nil => exact hp
      | cons q ps =>
          have hrest : splitAt sep (joinWith [sep] (q :: ps)) = q :: ps := by
            apply ih (by simp)
            intro r hr
            exact hps r (List.mem_cons_of_mem p hr)
          rw [joinWith, List.append_assoc, List.singleton_append, splitAt_append, hp, hrest]
          rfl

theorem lines_of_splitAt {ended : List Text} {last : Text} (h : splitAt '\n' s = ended ++ [last]) :
    lines s = ended.map dropReturn ++ if last = [] then [] else [last] := by
  simp [lines, h]

end Text

namespace Wrapper

variable {step : Text}

/-- Every line but the first behind one step, blank lines apart. -/
def shiftRest (step : Text) : List Text → List Text
  | [] => []
  | first :: rest => first :: rest.map (shift step)

/-- A line without the step in front of it. There is none when a line that is not blank begins
otherwise. -/
def unshift? (step line : Text) : Option Text :=
  if blank line then some line else afterLead? step line

/-- Every line but the first moved back to the left by `step`. -/
def unindent? (step s : Text) : Option Text :=
  match splitAt '\n' s with
  | [] => some []
  | first :: rest => (rest.mapM (unshift? step)).map fun ls => joinWith ['\n'] (first :: ls)

/-- The lines `moved` are the lines `ls`, each but the first and the blank ones behind one step. -/
structure StepBefore (step : Text) (ls moved : List Text) : Prop where
  length_eq : moved.length = ls.length
  line_eq : ∀ i line, ls[i]? = some line →
    moved[i]? = some (if i = 0 ∨ blank line = true then line else step ++ line)

theorem shift_of_blank {line : Text} (h : blank line = true) : shift step line = line := by
  simp [shift, h]

theorem shift_of_not_blank {line : Text} (h : blank line = false) :
    shift step line = step ++ line := by
  simp [shift, h]

theorem blank_append (s t : Text) : blank (s ++ t) = (blank s && blank t) := List.all_append

theorem unshift?_shift (step line : Text) : unshift? step (shift step line) = some line := by
  cases h : blank line with
  | true => rw [shift_of_blank h, unshift?, if_pos h]
  | false =>
      rw [shift_of_not_blank h, unshift?, if_neg (by simp [blank_append, h])]
      exact afterLead?_eq_some_iff.mpr rfl

theorem shift_eq_nil_iff {line : Text} : shift step line = [] ↔ line = [] := by
  cases h : blank line with
  | true => rw [shift_of_blank h]
  | false =>
      have hline : line ≠ [] := by
        rintro rfl
        cases h
      simp [shift_of_not_blank h, hline]

theorem blank_dropReturn (line : Text) : blank (dropReturn line) = blank line := by
  rw [dropReturn]
  split
  · rename_i hlast
    obtain ⟨body, rfl⟩ := List.getLast?_eq_some_iff.mp hlast
    have hreturn : blank ['\r'] = true := by decide
    rw [List.dropLast_concat, blank_append, hreturn, Bool.and_true]
  · rfl

theorem dropReturn_shift (step line : Text) :
    dropReturn (shift step line) = shift step (dropReturn line) := by
  cases h : blank line with
  | true => rw [shift_of_blank h, shift_of_blank (by rw [blank_dropReturn, h])]
  | false =>
      have hline : line ≠ [] := by
        rintro rfl
        cases h
      have hlast : (step ++ line).getLast? = line.getLast? := by
        obtain ⟨c, hc⟩ : ∃ c, line.getLast? = some c := ⟨_, List.getLast?_eq_some_getLast hline⟩
        rw [List.getLast?_append, hc, Option.some_or]
      rw [shift_of_not_blank h, shift_of_not_blank (by rw [blank_dropReturn, h])]
      simp only [dropReturn, hlast, List.dropLast_append_of_ne_nil hline]
      split <;> rfl

theorem stepBefore_shiftRest (step : Text) (ls : List Text) :
    StepBefore step ls (shiftRest step ls) := by
  constructor
  · cases ls <;> simp [shiftRest]
  · intro i line hline
    cases ls with
    | nil => simp at hline
    | cons first rest =>
        cases i with
        | zero => simpa [shiftRest] using hline
        | succ i =>
            rw [List.getElem?_cons_succ] at hline
            simp [shiftRest, hline, shift]

section

variable (hstep : '\n' ∉ step)
include hstep

theorem newline_notMem_shift {line : Text} (hline : '\n' ∉ line) : '\n' ∉ shift step line := by
  rw [shift]
  split
  · exact hline
  · simp [hstep, hline]

theorem splitAt_reindent (body : Text) :
    splitAt '\n' (reindent body step) = shiftRest step (splitAt '\n' body) := by
  have hpieces : ∀ p ∈ splitAt '\n' body, '\n' ∉ p := fun p => notMem_of_mem_splitAt
  obtain ⟨first, rest, hsplit⟩ := exists_splitAt_eq '\n' body
  rw [hsplit] at hpieces
  rw [reindent, hsplit]
  apply splitAt_joinWith (by simp)
  intro p hp
  rcases List.mem_cons.mp hp with rfl | hp
  · exact hpieces p (by simp)
  · obtain ⟨line, hline, rfl⟩ := List.mem_map.mp hp
    exact newline_notMem_shift hstep (hpieces line (List.mem_cons_of_mem first hline))

theorem lines_reindent (body : Text) :
    lines (reindent body step) = shiftRest step (lines body) := by
  have hmoved := splitAt_reindent hstep body
  obtain ⟨first, rest, hsplit⟩ := exists_splitAt_eq '\n' body
  rw [hsplit, shiftRest] at hmoved
  rcases List.eq_nil_or_concat rest with rfl | ⟨middle, last, rfl⟩
  · -- a body of one line is not moved
    rw [@lines_of_splitAt _ [] first hmoved, @lines_of_splitAt _ [] first hsplit]
    split <;> rfl
  · rw [List.map_concat, List.concat_eq_append, ← List.cons_append] at hmoved
    rw [List.concat_eq_append, ← List.cons_append] at hsplit
    rw [lines_of_splitAt hmoved, lines_of_splitAt hsplit, List.map_cons, List.map_cons,
      List.cons_append, List.cons_append, shiftRest, List.map_append, List.map_map, List.map_map]
    simp only [shift_eq_nil_iff, Function.comp_def, dropReturn_shift]
    split <;> rfl

theorem unindent?_reindent (body : Text) : unindent? step (reindent body step) = some body := by
  have hmoved := splitAt_reindent hstep body
  obtain ⟨first, rest, hsplit⟩ := exists_splitAt_eq '\n' body
  rw [hsplit, shiftRest] at hmoved
  have hback : (rest.map (shift step)).mapM (unshift? step) = some rest := by
    clear hsplit hmoved
    induction rest with
    | nil => rfl
    | cons line rest ih => simp [unshift?_shift, ih]
  rw [unindent?, hmoved]
  simp only [hback, Option.map_some, ← hsplit, joinWith_splitAt]

end

/-- The step of a body is white space within a line. Moving a body to the right by a step within a
line keeps the lines, whichever way they are read, down to the carriage returns that end them, and
is undone by taking the step off again. -/
theorem reindent_reversible :
    (∀ body indent, indentStep body indent ≠ [] ∧ blank (indentStep body indent) = true ∧
      '\n' ∉ indentStep body indent) ∧
    ∀ step, '\n' ∉ step →
      (∀ body, unindent? step (reindent body step) = some body ∧
        StepBefore step (splitAt '\n' body) (splitAt '\n' (reindent body step)) ∧
        StepBefore step (lines body) (lines (reindent body step))) ∧
      Function.Injective fun body => reindent body step := by
  constructor
  · intro body indent
    refine ⟨indentStep_ne_nil body indent, blank_indentStep body indent, ?_⟩
    intro hmem
    rcases mem_of_mem_indentStep hmem with hspace | ⟨-, hne⟩
    · cases hspace
    · exact hne rfl
  · intro step hstep
    constructor
    · intro body
      refine ⟨unindent?_reindent hstep body, ?_, ?_⟩
      · rw [splitAt_reindent hstep]
        apply stepBefore_shiftRest
      · rw [lines_reindent hstep]
        apply stepBefore_shiftRest
    · intro body body' heq
      apply Option.some.inj
      rw [← unindent?_reindent hstep body, ← unindent?_reindent hstep body']
      exact congrArg (unindent? step) heq

/-- Lines that end in both ways, lone carriage returns, blanks of several kinds, and a line that
is not indented. -/
def mixedBody : Text := "\x7b\r\n\t \u3000x;\r\n\u00a0\r\n\ny\r\rz\n\t\x7d\r".toList

theorem reindent_reversible_mixedBody :
    indentStep mixedBody ['\t'] = [' ', '\u3000'] ∧ '\n' ∉ [' ', '\u3000'] ∧
      reindent mixedBody [' ', '\u3000'] ≠ mixedBody ∧
      unindent? [' ', '\u3000'] (reindent mixedBody [' ', '\u3000']) = some mixedBody ∧
      StepBefore [' ', '\u3000'] (lines mixedBody)
        (lines (reindent mixedBody [' ', '\u3000'])) := by
  have hstep : '\n' ∉ [' ', '\u3000'] := by decide
  obtain ⟨hback, -, hlines⟩ := (reindent_reversible.2 [' ', '\u3000'] hstep).1 mixedBody
  exact ⟨by decide, hstep, by decide, hback, hlines⟩

end Wrapper

end SpanWeave
