import SpanWeave.Proofs.Diff.Hunks

namespace SpanWeave.Diff

/-- The text is one line of a text. -/
def IsLine (l : Text) : Prop := linesOf l = [l]

def IsEnded (l : Text) : Prop := (l.getLast?.any fun c => c = '\n' || c = '\r') = true

instance (l : Text) : Decidable (IsEnded l) := inferInstanceAs (Decidable (_ = true))

theorem linesOf_cons {c : Char} (hc : c ≠ '\n' ∧ c ≠ '\r') {s l : Text} {rest : List Text}
    (h : linesOf s = l :: rest) : linesOf (c :: s) = (c :: l) :: rest := by
  rw [linesOf.eq_3 c s (by rintro _ rfl; exact absurd rfl hc.2)]
  simp [hc, h]

theorem isLine_singleton (c : Char) : IsLine [c] := by
  rw [IsLine, linesOf.eq_3 c [] (by simp)]
  split <;> rfl

theorem IsLine.cons {c : Char} {l : Text} (hc : c ≠ '\n' ∧ c ≠ '\r') (h : IsLine l) :
    IsLine (c :: l) := linesOf_cons hc h

theorem isLine_of_mem_linesOf {s l : Text} (h : l ∈ linesOf s) : IsLine l := by
  fun_induction linesOf s generalizing l with
  | case1 => simp at h
  | case2 s ih =>
      rcases List.mem_cons.mp h with rfl | h
      · rfl
      · exact ih h
  | case3 c s _ _ ih =>
      rcases List.mem_cons.mp h with rfl | h
      · exact isLine_singleton c
      · exact ih h
  | case4 c s _ _ hnil ih =>
      obtain rfl := List.mem_singleton.mp h
      exact isLine_singleton c
  | case5 c s _ hc line rest hcons ih =>
      rw [hcons] at ih
      rcases List.mem_cons.mp h with rfl | h
      · exact IsLine.cons (by simpa using hc) (ih List.mem_cons_self)
      · exact ih (List.mem_cons_of_mem _ h)

theorem IsLine.ne_nil {l : Text} (h : IsLine l) : l ≠ [] := by
  rintro rfl
  simp [IsLine, linesOf] at h

theorem IsLine.cases {l : Text} (h : IsLine l) :
    l = ['\r', '\n'] ∨ (∃ c, l = [c]) ∨
      ∃ c l', (c ≠ '\n' ∧ c ≠ '\r') ∧ IsLine l' ∧ l = c :: l' := by
  have hl := h
  rw [IsLine] at hl
  fun_cases linesOf l with
  | case1 => exact absurd rfl h.ne_nil
  | case2 s =>
      rw [linesOf, List.cons.injEq] at hl
      exact .inl hl.1.symm
  | case3 c s hcrlf hc =>
      rw [linesOf.eq_3 c s hcrlf, if_pos hc, List.cons.injEq] at hl
      exact .inr (.inl ⟨c, hl.1.symm⟩)
  | case4 c s hcrlf hc hnil =>
      have hs := flatten_linesOf s
      rw [hnil] at hs
      obtain rfl := hs
      exact .inr (.inl ⟨c, rfl⟩)
  | case5 c s hcrlf hc line rest hcons =>
      rw [linesOf.eq_3 c s hcrlf, if_neg hc, hcons] at hl
      simp only [List.cons.injEq, true_and] at hl
      obtain ⟨rfl, rfl⟩ := hl
      exact .inr (.inr ⟨c, line, by simpa using hc, hcons, rfl⟩)

theorem isEnded_cons {c : Char} {l : Text} (h : l ≠ []) : IsEnded (c :: l) ↔ IsEnded l := by
  rw [IsEnded, IsEnded, List.getLast?_cons_of_ne_nil h]

/-- A line is read off the front of a text unless its end goes on. -/
theorem linesOf_append {l rest : Text} (h : IsLine l) (hended : IsEnded l)
    (hrest : rest.head? ≠ some '\n') : linesOf (l ++ rest) = l :: linesOf rest := by
  induction l with
  | nil => exact absurd rfl h.ne_nil
  | cons c l ih =>
      obtain hcrlf | ⟨_, hone⟩ | ⟨_, _, hc, hl, hcons⟩ := h.cases
      · rw [hcrlf]
        rfl
      · obtain ⟨rfl, rfl⟩ := List.cons.inj hone
        rw [List.singleton_append, linesOf.eq_3 c rest, if_pos (by simpa [IsEnded] using hended)]
        rintro s rfl rfl
        exact hrest rfl
      · obtain ⟨rfl, rfl⟩ := List.cons.inj hcons
        exact linesOf_cons hc (ih hl ((isEnded_cons hl.ne_nil).mp hended))

theorem linesOf_append_newline {l rest : Text} (h : IsLine l) (hended : ¬ IsEnded l) :
    linesOf (l ++ '\n' :: rest) = (l ++ ['\n']) :: linesOf rest := by
  induction l with
  | nil => exact absurd rfl h.ne_nil
  | cons c l ih =>
      obtain hcrlf | ⟨_, hone⟩ | ⟨_, _, hc, hl, hcons⟩ := h.cases
      · rw [hcrlf] at hended
        exact absurd rfl hended
      · obtain ⟨rfl, rfl⟩ := List.cons.inj hone
        have hnewline : linesOf ('\n' :: rest) = ['\n'] :: linesOf rest := by
          rw [linesOf.eq_3 _ _ (by simp)]
          rfl
        exact linesOf_cons (by simpa [IsEnded] using hended) hnewline
      · obtain ⟨rfl, rfl⟩ := List.cons.inj hcons
        exact linesOf_cons hc (ih hl (mt (isEnded_cons hl.ne_nil).mpr hended))

/-- A number is read as far as its digits go. -/
def readNat? (s : Text) : Option (Nat × Text) :=
  let digits := s.takeWhile Char.isDigit
  if digits = [] then none
  else some (Nat.ofDigitChars 10 digits 0, s.dropWhile Char.isDigit)

/-- A range of lines, told by its first line and its length; the line in front of it tells where
an empty one belongs. -/
def readRange? (s : Text) : Option (Range × Text) := do
  let (first, s) ← readNat? s
  match s with
  | ',' :: s =>
      let (size, s) ← readNat? s
      return (⟨if size = 0 then first else first - 1, size⟩, s)
  | _ => return (⟨first - 1, 1⟩, s)

def readHeader? (s : Text) : Option (Range × Range) := do
  let s ← Text.afterLead? "@@ -".toList s
  let (old, s) ← readRange? s
  let s ← Text.afterLead? " +".toList s
  let (new, s) ← readRange? s
  if s = " @@\n".toList then some (old, new) else none

/-- What is read of a diff from some line on: whether the line in front has no end, the lines of
the hunk under way, and the hunks behind it. -/
structure Reading where
  unended : Bool
  lines : List (Change × Text)
  hunks : List Told
  deriving DecidableEq

/-- The line that tells that the line in front has no end. -/
def unendedMark : Text := "\\ No newline at end of file\n".toList

/-- What a sign tells about its line. -/
def changeOf? : Char → Option Change
  | ' ' => some .keep
  | '-' => some .delete
  | '+' => some .insert
  | _ => none

/-- Reads a line in front of what has been read. -/
def readLine (line : Text) (r : Reading) : Option Reading :=
  match line with
  | [] => none
  | sign :: text =>
      match changeOf? sign with
      | some change =>
          some ⟨false, (change, if r.unended then text.dropLast else text) :: r.lines, r.hunks⟩
      | none =>
          if r.unended then none
          else if line = unendedMark then some { r with unended := true }
          else (readHeader? line).map fun (old, new) => ⟨false, [], ⟨old, new, r.lines⟩ :: r.hunks⟩

def readLines (lines : List Text) : Option Reading := lines.foldrM readLine ⟨false, [], []⟩

/-- The hunks that a diff tells. -/
def read? (diff : Text) : Option (List Told) :=
  match readLines (linesOf diff) with
  | some ⟨false, [], hs⟩ => some hs
  | _ => none

theorem readNat?_ofNat (n : Nat) {c : Char} (hc : c.isDigit = false) (rest : Text) :
    readNat? (Text.ofNat n ++ c :: rest) = some (n, c :: rest) := by
  have hdigits : ∀ d ∈ Text.ofNat n, d.isDigit = true := fun d hd =>
    Nat.isDigit_of_mem_toDigits (by decide) (by decide) hd
  have hvalue : Nat.ofDigitChars 10 (Text.ofNat n) 0 = n :=
    Nat.ofDigitChars_toDigits (by decide) (by decide)
  have hne : Text.ofNat n ≠ [] := Nat.toDigits_ne_nil
  rw [readNat?, List.takeWhile_append_of_pos hdigits, List.dropWhile_append_of_pos hdigits,
    List.takeWhile_cons_of_neg (by simp [hc]), List.dropWhile_cons_of_neg (by simp [hc]),
    List.append_nil, if_neg hne, hvalue]

theorem readRange?_range (start stop : Nat) {s : Text} (hs : s.head? = some ' ') :
    readRange? (range start stop ++ s) = some (⟨start, stop - start⟩, s) := by
  obtain ⟨rest, rfl⟩ := List.head?_eq_some_iff.mp hs
  dsimp only [range]
  split
  · rename_i hone
    simp [readRange?, readNat?_ofNat (start + 1) (c := ' ') (by decide), hone]
  · rw [List.append_assoc, List.cons_append, readRange?,
      readNat?_ofNat _ (c := ',') (by decide)]
    simp only [Option.bind_eq_bind, Option.bind_some, Option.pure_def,
      readNat?_ofNat (stop - start) (c := ' ') (by decide), Option.some.injEq, Prod.mk.injEq,
      Range.mk.injEq, and_true]
    split <;> rfl

theorem readHeader?_header (first last : Segment) :
    readHeader? (header first last) =
      some (⟨first.old, last.old + last.oldSize - first.old⟩,
        ⟨first.new, last.new + last.newSize - first.new⟩) := by
  have hlead (lead rest : Text) : Text.afterLead? lead (lead ++ rest) = some rest :=
    Text.afterLead?_eq_some_iff.mpr rfl
  have hold (rest : Text) : (" +".toList ++ rest).head? = some ' ' := rfl
  have hnew : " @@\n".toList.head? = some ' ' := rfl
  unfold readHeader? header
  -- the texts between the ranges matter only by their first characters
  generalize " +".toList = plus at hold ⊢
  generalize " @@\n".toList = tail at hnew ⊢
  generalize "@@ -".toList = lead
  simp only [List.append_assoc, hlead, readRange?_range _ _ (hold _), readRange?_range _ _ hnew,
    Option.bind_eq_bind, Option.bind_some, if_true]

theorem isDigit_or_eq_comma_of_mem_range {start stop : Nat} {c : Char} (h : c ∈ range start stop) :
    c.isDigit = true ∨ c = ',' := by
  have hdigits (n : Nat) (hc : c ∈ Text.ofNat n) : c.isDigit = true :=
    Nat.isDigit_of_mem_toDigits (by decide) (by decide) hc
  dsimp only [range] at h
  split at h
  · exact .inl (hdigits _ h)
  · rcases List.mem_append.mp h with h | h
    · exact .inl (hdigits _ h)
    · exact (List.mem_cons.mp h).symm.imp_left (hdigits _)

theorem isLine_append_newline {s : Text} (h : ∀ c ∈ s, c ≠ '\n' ∧ c ≠ '\r') :
    IsLine (s ++ ['\n']) := by
  induction s with
  | nil => exact isLine_singleton '\n'
  | cons c s ih =>
      rw [List.forall_mem_cons] at h
      exact (ih h.2).cons h.1

theorem exists_header_eq (first last : Segment) :
    ∃ s, (∀ c ∈ s, c ≠ '\n' ∧ c ≠ '\r') ∧ header first last = '@' :: s ++ ['\n'] := by
  have hrange {start stop : Nat} {c : Char} (hc : c ∈ range start stop) :
      c ≠ '\n' ∧ c ≠ '\r' := by
    constructor
    all_goals
      rintro rfl
      simpa using isDigit_or_eq_comma_of_mem_range hc
  have hlit {s : Text} (hs : '\n' ∉ s ∧ '\r' ∉ s) {c : Char} (hc : c ∈ s) :
      c ≠ '\n' ∧ c ≠ '\r' := by
    constructor
    · rintro rfl
      exact hs.1 hc
    · rintro rfl
      exact hs.2 hc
  refine ⟨"@ -".toList ++ range first.old (last.old + last.oldSize) ++ " +".toList ++
    range first.new (last.new + last.newSize) ++ " @@".toList, ?_, by unfold header; simp⟩
  simp only [List.mem_append]
  rintro c ((((hc | hc) | hc) | hc) | hc)
  · exact hlit (by decide) hc
  · exact hrange hc
  · exact hlit (by decide) hc
  · exact hrange hc
  · exact hlit (by decide) hc

namespace Change

def sign : Change → Char
  | .keep => ' '
  | .delete => '-'
  | .insert => '+'

end Change

theorem shownLine_eq (sign : Char) (l : Text) :
    shownLine sign l = sign :: l ++ if IsEnded l then [] else '\n' :: unendedMark := rfl

theorem isLine_unendedMark : IsLine unendedMark := rfl

theorem readLine_sign (c : Change) (text : Text) (r : Reading) :
    readLine (c.sign :: text) r =
      some ⟨false, (c, if r.unended then text.dropLast else text) :: r.lines, r.hunks⟩ := by
  have hsign : changeOf? c.sign = some c := by cases c <;> rfl
  simp only [readLine, hsign]

theorem readLine_header (first last : Segment) (lines : List (Change × Text)) (hs : List Told) :
    readLine (header first last) ⟨false, lines, hs⟩ =
      some ⟨false, [], ⟨⟨first.old, last.old + last.oldSize - first.old⟩,
        ⟨first.new, last.new + last.newSize - first.new⟩, lines⟩ :: hs⟩ := by
  obtain ⟨s, -, hheader⟩ := exists_header_eq first last
  have hmark : header first last ≠ unendedMark := by
    intro h
    rw [hheader] at h
    exact absurd (Option.some.inj (congrArg List.head? h : some '@' = some '\\')) (by decide)
  have hread := readHeader?_header first last
  rw [hheader, List.cons_append] at hmark hread ⊢
  have hsign : changeOf? '@' = none := rfl
  simp only [readLine, hsign, if_neg hmark, hread, Option.map_some, Bool.false_eq_true, if_false]

/-- The text tells the lines of a hunk under way and the hunks behind it. -/
structure Reads (text : Text) (lines : List (Change × Text)) (hs : List Told) : Prop where
  head : text.head? ≠ some '\n'
  read : readLines (linesOf text) = some ⟨false, lines, hs⟩

namespace Reads

variable {text : Text} {lines : List (Change × Text)} {hs : List Told} {t : Texts}

theorem nil : Reads [] [] [] := ⟨by simp, rfl⟩

theorem line (h : Reads text lines hs) {l : Text} (hl : IsLine l) (c : Change) :
    Reads (shownLine c.sign l ++ text) ((c, l) :: lines) hs := by
  have hsign : c.sign ≠ '\n' ∧ c.sign ≠ '\r' := by cases c <;> decide
  have hended := isEnded_cons (c := c.sign) hl.ne_nil
  refine ⟨fun h => hsign.1 (Option.some.inj h), ?_⟩
  by_cases hl' : IsEnded l
  · have hshown : shownLine c.sign l = c.sign :: l := by
      rw [shownLine_eq, if_pos hl', List.append_nil]
    rw [hshown, linesOf_append (hl.cons hsign) (hended.mpr hl') h.head, readLines,
      List.foldrM_cons, ← readLines, h.read]
    exact readLine_sign c l _
  · have hshown : shownLine c.sign l ++ text = c.sign :: l ++ '\n' :: (unendedMark ++ text) := by
      rw [shownLine_eq, if_neg hl', List.append_assoc]
      rfl
    rw [hshown, linesOf_append_newline (hl.cons hsign) (mt hended.mp hl'),
      linesOf_append isLine_unendedMark (by decide) h.head, readLines, List.foldrM_cons,
      List.foldrM_cons, ← readLines, h.read]
    have hmark : readLine unendedMark ⟨false, lines, hs⟩ = some ⟨true, lines, hs⟩ := rfl
    simp only [Option.bind_eq_bind, Option.bind_some, hmark, List.cons_append, readLine_sign,
      if_true, List.dropLast_concat]

theorem shownLines (h : Reads text lines hs) {side : Array Text}
    (hside : ∀ l ∈ side.toList, IsLine l) (c : Change) (start size : Nat) :
    Reads (Diff.shownLines c.sign side start size ++ text)
      ((Range.cut ⟨start, size⟩ side.toList).map (fun l => (c, l)) ++ lines) hs := by
  have hcut : ∀ l ∈ Range.cut ⟨start, size⟩ side.toList, IsLine l := fun l hl =>
    hside l (List.mem_of_mem_drop (List.mem_of_mem_take hl))
  rw [Diff.shownLines, ← Range.cut.eq_1 ⟨start, size⟩]
  generalize Range.cut ⟨start, size⟩ side.toList = cut at hcut ⊢
  induction cut with
  | nil => exact h
  | cons l cut ih =>
      rw [List.forall_mem_cons] at hcut
      rw [List.flatMap_cons, List.append_assoc]
      exact (ih hcut.2).line hcut.1 c

variable (hold : ∀ l ∈ t.old.toList, IsLine l) (hnew : ∀ l ∈ t.new.toList, IsLine l)
include hold hnew

theorem segment (h : Reads text lines hs) (s : Segment) :
    Reads (s.show t ++ text) (s.lines t ++ lines) hs := by
  rw [Segment.show, Segment.lines]
  split
  · exact h.shownLines hold .keep s.old s.oldSize
  · rw [List.append_assoc, List.append_assoc]
    exact (h.shownLines hnew .insert s.new s.newSize).shownLines hold .delete s.old s.oldSize

theorem segments (h : Reads text lines hs) (segs : List Segment) :
    Reads (segs.flatMap (Segment.show t) ++ text) (segs.flatMap (Segment.lines t) ++ lines) hs := by
  induction segs with
  | nil => exact h
  | cons s segs ih =>
      rw [List.flatMap_cons, List.flatMap_cons, List.append_assoc, List.append_assoc]
      exact ih.segment hold hnew s

theorem hunk (h : Reads text [] hs) {g : Hunk} (hne : g ≠ []) :
    Reads (Hunk.show t g ++ text) [] (Hunk.told t g :: hs) := by
  obtain ⟨first, hfirst⟩ := Option.isSome_iff_exists.mp (List.isSome_head?.mpr hne)
  obtain ⟨last, hlast⟩ := Option.isSome_iff_exists.mp (List.getLast?_isSome.mpr hne)
  have hbody := h.segments hold hnew g
  rw [List.append_nil] at hbody
  obtain ⟨s, hchars, hheader⟩ := exists_header_eq first last
  have hline : IsLine (header first last) := by
    rw [hheader]
    refine isLine_append_newline ?_
    simpa using hchars
  have hended : IsEnded (header first last) := by
    rw [hheader, IsEnded, List.getLast?_concat]
    rfl
  rw [Hunk.show, Hunk.told, hfirst, hlast]
  simp only [List.append_assoc]
  refine ⟨by simp [hheader], ?_⟩
  rw [linesOf_append hline hended hbody.head, readLines, List.foldrM_cons,
    ← readLines, hbody.read]
  exact readLine_header first last _ hs

theorem hunks {gs : List Hunk} (hne : ∀ g ∈ gs, g ≠ []) :
    Reads (gs.flatMap (Hunk.show t)) [] (gs.map (Hunk.told t)) := by
  induction gs with
  | nil => exact nil
  | cons g gs ih =>
      rw [List.forall_mem_cons] at hne
      exact (ih hne.2).hunk hold hnew hne.1

end Reads

theorem ne_nil_of_mem_hunksFrom {pending : Hunk} {rest : List Segment} {h : Hunk}
    (hmem : h ∈ hunksFrom pending rest) : h ≠ [] := by
  fun_induction hunksFrom pending rest with
  | case1 => simp at hmem
  | case2 s hkept => simp at hmem
  | case3 s hkept =>
      obtain rfl := List.mem_singleton.mp hmem
      simp
  | case4 pending hnil hone =>
      obtain rfl := List.mem_singleton.mp hmem
      simpa using hnil
  | case5 pending s rest hs ih =>
      rcases List.mem_cons.mp hmem with rfl | hmem
      · simp
      · exact ih hmem
  | case6 pending s rest hs ih => exact ih hmem

theorem read?_unified (old new : Text) :
    read? (unified old new) =
      some ((hunksBetween (.ofTexts old new)).map (Hunk.told (.ofTexts old new))) := by
  have hreads : Reads (unified old new) []
      ((hunksBetween (.ofTexts old new)).map (Hunk.told (.ofTexts old new))) := by
    refine Reads.hunks ?_ ?_ fun g hg => ne_nil_of_mem_hunksFrom hg
    · exact fun l hl => isLine_of_mem_linesOf hl
    · exact fun l hl => isLine_of_mem_linesOf hl
  rw [read?, hreads.read]

end SpanWeave.Diff
