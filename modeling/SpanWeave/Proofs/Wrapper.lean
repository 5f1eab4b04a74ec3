import SpanWeave.Wrapper

namespace SpanWeave

namespace Text

/-- The characters of a text that are not white space. -/
def ink (s : Text) : Text := s.filter fun c => !isBlank c

@[simp] theorem ink_append (s t : Text) : ink (s ++ t) = ink s ++ ink t :=
  List.filter_append ..

theorem ink_of_blank {s : Text} (h : blank s = true) : ink s = [] := by
  refine List.filter_eq_nil_iff.mpr ?_
  intro c hc
  simp [List.all_eq_true.mp h c hc]

theorem blank_of_ink_eq_nil {s : Text} (h : ink s = []) : blank s = true := by
  refine List.all_eq_true.mpr ?_
  intro c hc
  simpa using List.filter_eq_nil_iff.mp h c hc

theorem splitAt_ne_nil (sep : Char) (s : Text) : splitAt sep s ≠ [] := by
  cases s with
  | nil => simp [splitAt]
  | cons c s =>
      simp only [splitAt]
      split
      · simp
      · split <;> simp

theorem exists_splitAt_eq (sep : Char) (s : Text) : ∃ p ps, splitAt sep s = p :: ps :=
  List.exists_cons_of_ne_nil (splitAt_ne_nil sep s)

theorem splitAt_eq_cons {sep : Char} {s p : Text} {ps : List Text} (h : splitAt sep s = p :: ps) :
    p = s.takeWhile (· != sep) := by
  induction s generalizing p ps with
  | nil =>
      simp only [splitAt, List.cons.injEq] at h
      exact h.1.symm
  | cons c s ih =>
      obtain ⟨q, qs, hq⟩ := exists_splitAt_eq sep s
      simp only [splitAt, hq] at h
      split at h
      · rename_i hc
        obtain ⟨rfl, -⟩ := List.cons.inj h
        simp [hc]
      · rename_i hc
        obtain ⟨rfl, -⟩ := List.cons.inj h
        rw [ih hq, List.takeWhile_cons_of_pos (by simpa using hc)]

theorem splitAt_append (sep : Char) (s t : Text) :
    splitAt sep (s ++ sep :: t) = splitAt sep s ++ splitAt sep t := by
  induction s with
  | nil => simp [splitAt]
  | cons c s ih =>
      obtain ⟨p, ps, hps⟩ := exists_splitAt_eq sep s
      by_cases hc : c = sep
      · simp [splitAt, hc, ih]
      · simp [splitAt, hc, ih, hps]

theorem joinWith_splitAt (sep : Char) (s : Text) : joinWith [sep] (splitAt sep s) = s := by
  induction s with
  | nil => rfl
  | cons c s ih =>
      obtain ⟨p, ps, hps⟩ := exists_splitAt_eq sep s
      rw [hps] at ih
      by_cases hc : c = sep
      · simp [splitAt, hc, hps, joinWith, ih]
      · simp only [splitAt, hc, hps, ↓reduceIte]
        cases ps with
        | nil => simpa [joinWith] using ih
        | cons q ps => simpa [joinWith] using ih

theorem blank_leadingBlank (s : Text) : blank (leadingBlank s) = true := List.all_takeWhile

end Text

open Text

namespace Target

/-- Only the body of the function is replaced. -/
def keepsHead (t : Target) : Bool := t.overloaded || t.shape.isMember

/-- The part of the source that the replacement of a function holds. -/
def kept (t : Target) : Text := if t.keepsHead then t.body else t.text

end Target

namespace Wrapper

theorem indentStep_cases (body indent : Text) :
    indentStep body indent = defaultStep ∨
      ∃ line, indentStep body indent = leadingBlank line ∧ leadingBlank line ≠ [] := by
  simp only [indentStep]
  cases hfind : ((lines body).drop 1).findSome? (extraIndent? indent) with
  | none => exact Or.inl rfl
  | some step =>
      obtain ⟨line, -, hline⟩ := List.exists_of_findSome?_eq_some hfind
      simp only [extraIndent?] at hline
      split at hline
      · simp at hline
      · split at hline
        · split at hline
          · simp at hline
          · rename_i rest _ hextra
            obtain rfl := Option.some.inj hline
            exact Or.inr ⟨rest, rfl, hextra⟩
        · simp at hline

theorem blank_indentStep (body indent : Text) : blank (indentStep body indent) = true := by
  rcases indentStep_cases body indent with h | ⟨line, h, -⟩
  · rw [h]
    rfl
  · rw [h]
    exact blank_leadingBlank line

theorem indentStep_ne_nil (body indent : Text) : indentStep body indent ≠ [] := by
  rcases indentStep_cases body indent with h | ⟨line, h, hne⟩
  · rw [h]
    decide
  · rw [h]
    exact hne

@[simp] theorem reindent_nil (step : Text) : reindent [] step = [] := rfl

theorem reindent_cons {c : Char} (hc : c ≠ '\n') (s step : Text) :
    reindent (c :: s) step = c :: reindent s step := by
  obtain ⟨line, rest, hsplit⟩ := exists_splitAt_eq '\n' s
  simp only [reindent, splitAt, hc, hsplit, ↓reduceIte]
  cases rest <;> rfl

theorem reindent_newline (s step : Text) :
    reindent ('\n' :: s) step =
      '\n' :: ((if blank (s.takeWhile (· != '\n')) then [] else step) ++ reindent s step) := by
  obtain ⟨line, rest, hsplit⟩ := exists_splitAt_eq '\n' s
  rw [← splitAt_eq_cons hsplit]
  simp only [reindent, splitAt, hsplit, ↓reduceIte, List.map_cons, shift]
  split
  · cases rest <;> rfl
  · cases rest <;> simp [joinWith]

theorem exists_reindent_newline {step : Text} (hstep : blank step = true) (s : Text) :
    ∃ gap, blank gap = true ∧ reindent ('\n' :: s) step = '\n' :: (gap ++ reindent s step) := by
  refine ⟨_, ?_, reindent_newline s step⟩
  split
  · rfl
  · exact hstep

/-- Moving a text to the right moves its parts. The first part gains white space at the most, and
nothing while it stays in one line; the second part is moved as if it stood alone. -/
theorem exists_reindent_append {step : Text} (hstep : blank step = true) (a b : Text) :
    ∃ a', reindent (a ++ b) step = a' ++ reindent b step ∧ ink a' = ink a ∧
      ('\n' ∉ a → a' = a) := by
  induction a with
  | nil => exact ⟨[], rfl, rfl, fun _ => rfl⟩
  | cons c a ih =>
      obtain ⟨a', heq, hink, hline⟩ := ih
      by_cases hc : c = '\n'
      · subst hc
        obtain ⟨gap, hgap, hnewline⟩ := exists_reindent_newline hstep (a ++ b)
        refine ⟨'\n' :: (gap ++ a'), ?_, ?_, fun h => absurd (by simp) h⟩
        · rw [List.cons_append, hnewline, heq]
          simp
        · have hcons (s : Text) : ink ('\n' :: s) = ink s := rfl
          rw [hcons, hcons, ink_append, ink_of_blank hgap, hink, List.nil_append]
      · refine ⟨c :: a', ?_, ?_, ?_⟩
        · rw [List.cons_append, reindent_cons hc, heq, List.cons_append]
        · have hcons (s : Text) : ink (c :: s) = ink [c] ++ ink s := ink_append [c] s
          rw [hcons a', hcons a, hink]
        · intro h
          rw [hline fun hmem => h (List.mem_cons_of_mem c hmem)]

theorem ink_reindent {step : Text} (hstep : blank step = true) (body : Text) :
    ink (reindent body step) = ink body := by
  obtain ⟨body', heq, hink, -⟩ := exists_reindent_append hstep body []
  rw [List.append_nil, reindent_nil, List.append_nil] at heq
  rw [heq, hink]

theorem reindent_step_nil (s : Text) : reindent s [] = s := by
  have hshift : shift [] = id := by
    funext line
    simp [shift]
  obtain ⟨line, rest, hsplit⟩ := exists_splitAt_eq '\n' s
  rw [reindent, hsplit]
  simp only [hshift, List.map_id, ← hsplit, joinWith_splitAt]

/-- The kept part as it stands in the replacement. A body is moved to the right unless it holds a
template. -/
def emitted (t : Target) : Text :=
  if t.keepsHead && !t.body.contains '\x60' then reindent t.body (indentStep t.body t.indent)
  else t.kept

/-- What a replacement puts in front of the kept part. -/
def lead (t : Target) (spanName entry newline : Text) : Text :=
  let literal := Literal.quote spanName
  if t.keepsHead then
    "\x7b".toList ++ newline ++ t.indent ++ indentStep t.body t.indent ++ "return ".toList ++
      entry ++ "(".toList ++ literal ++ ", ".toList ++
      (if t.isAsync then "async ".toList else []) ++ "() => ".toList
  else
    (if t.shape = .constFunction then [] else "const ".toList ++ t.name.getD [] ++ " = ".toList) ++
      entry ++ "(".toList ++ literal ++ ", ".toList

/-- What a replacement puts behind the kept part. -/
def trail (t : Target) (newline : Text) : Text :=
  if t.keepsHead then ")();".toList ++ newline ++ t.indent ++ "\x7d".toList
  else if t.shape = .constFunction then ")".toList
  else ");".toList

theorem exists_emitted_eq_reindent (t : Target) :
    ∃ step, blank step = true ∧ emitted t = reindent t.kept step := by
  simp only [emitted]
  split
  · rename_i h
    have hhead : t.keepsHead = true := (Bool.and_eq_true_iff.mp h).1
    refine ⟨indentStep t.body t.indent, blank_indentStep _ _, ?_⟩
    rw [Target.kept, hhead]
    rfl
  · exact ⟨[], rfl, (reindent_step_nil _).symm⟩

theorem ink_emitted (t : Target) : ink (emitted t) = ink t.kept := by
  obtain ⟨step, hstep, heq⟩ := exists_emitted_eq_reindent t
  rw [heq, ink_reindent hstep]

theorem wrapBody_eq {t : Target} (h : t.keepsHead = true) (spanName entry newline : Text) :
    wrapBody t (Literal.quote spanName) entry newline =
      lead t spanName entry newline ++ emitted t ++ trail t newline := by
  have hkept : t.kept = t.body := by rw [Target.kept, if_pos h]
  have hemitted : emitted t =
      if t.body.contains '\x60' then t.body
      else reindent t.body (indentStep t.body t.indent) := by
    rw [emitted, h, hkept]
    cases t.body.contains '\x60' <;> rfl
  unfold wrapBody lead trail
  simp only [h, ↓reduceIte, hemitted]
  simp only [List.append_assoc]

/-- A replacement is the kept part between lead and trail, unless it also puts in an export
statement or the function is of a form that is not wrapped. -/
theorem replacement_eq {t : Target} (hconstructor : t.shape ≠ .constructorMethod)
    (hsignature : t.shape ≠ .overloadSignature)
    (hdefault : t.shape = .defaultExportedFunctionDeclaration → t.overloaded = true)
    (spanName entry newline : Text) :
    replacement t spanName entry newline =
      lead t spanName entry newline ++ emitted t ++ trail t newline := by
  by_cases hover : t.overloaded = true
  · have hhead : t.keepsHead = true := by simp [Target.keepsHead, hover]
    rw [← wrapBody_eq hhead]
    simp [replacement, hover]
  · have hhead : t.keepsHead = t.shape.isMember := by simp [Target.keepsHead, hover]
    have hemitted (hnone : t.keepsHead = false) : emitted t = t.text := by
      simp [emitted, Target.kept, hnone]
    have hclose : ")".toList ++ ";".toList = ");".toList := by decide
    cases hshape : t.shape with
    | functionDeclaration | exportedFunctionDeclaration =>
        have hnone : t.keepsHead = false := by simp [hhead, hshape, Shape.isMember]
        unfold replacement lead trail wrapDeclaration wrapCall
        simp only [hover, hshape, hnone, hemitted, ↓reduceIte, Bool.false_eq_true, reduceCtorEq]
        simp only [List.append_assoc, hclose]
    | constFunction =>
        have hnone : t.keepsHead = false := by simp [hhead, hshape, Shape.isMember]
        unfold replacement lead trail wrapCall
        simp only [hover, hshape, hnone, hemitted, ↓reduceIte, Bool.false_eq_true]
        simp only [List.append_assoc, List.nil_append]
    | defaultExportedFunctionDeclaration => exact absurd (hdefault hshape) hover
    | instanceMethod | staticMethod | objectMethod =>
        rw [← wrapBody_eq (by simp [hhead, hshape, Shape.isMember])]
        simp [replacement, hover, hshape]
    | constructorMethod => exact absurd hshape hconstructor
    | overloadSignature => exact absurd hshape hsignature

theorem exists_replacement_eq {t : Target} (hconstructor : t.shape ≠ .constructorMethod)
    (hsignature : t.shape ≠ .overloadSignature) (spanName entry newline : Text) :
    ∃ rest, replacement t spanName entry newline =
      lead t spanName entry newline ++ (emitted t ++ ')' :: rest) := by
  have htrail : ∃ rest, trail t newline = ')' :: rest := by
    simp only [trail]
    split
    · exact ⟨_, rfl⟩
    · split <;> exact ⟨_, rfl⟩
  obtain ⟨rest, hrest⟩ := htrail
  by_cases hdefault : t.shape = .defaultExportedFunctionDeclaration → t.overloaded = true
  · refine ⟨rest, ?_⟩
    rw [replacement_eq hconstructor hsignature hdefault, hrest, List.append_assoc]
  · rw [Classical.not_imp] at hdefault
    obtain ⟨hshape, hover⟩ := hdefault
    have hnone : t.keepsHead = false := by simp [Target.keepsHead, hover, hshape, Shape.isMember]
    have hemitted : emitted t = t.text := by simp [emitted, Target.kept, hnone]
    unfold replacement lead wrapDeclaration wrapCall
    simp only [hover, hshape, hnone, hemitted, ↓reduceIte, Bool.false_eq_true, reduceCtorEq,
      List.append_assoc]
    exact ⟨_, rfl⟩

end Wrapper

end SpanWeave
