import SpanWeave.Syntax.Parse

namespace SpanWeave.Syntax

section

variable {α β : Type} (c : Cursor)

@[simp] theorem bind_apply (r : Rule α) (f : α → Rule β) :
    (r >>= f) c = (r c).bind fun p => f p.1 p.2 := rfl

@[simp] theorem map_apply (r : Rule α) (f : α → β) :
    (f <$> r) c = (r c).map fun p => (f p.1, p.2) := by
  change (r c).bind _ = _
  cases r c <;> rfl

@[simp] theorem pure_apply (a : α) : (pure a : Rule α) c = some (a, c) := rfl

@[simp] theorem failure_apply : (failure : Rule α) c = none := rfl

@[simp] theorem get_apply : (get : Rule Cursor) c = some (c, c) := rfl

@[simp] theorem modify_apply (f : Cursor → Cursor) :
    (modify f : Rule Unit) c = some ((), f c) := rfl

@[simp] theorem ahead_apply : ahead c = some (c.ahead, c) := rfl

@[simp] theorem require_apply (b : Bool) : require b c = if b then some ((), c) else none := by
  cases b <;> rfl

@[simp] theorem keywordAhead_apply (w : String) :
    keywordAhead w c = some (wordStands w c.ahead, c) := rfl

@[simp] theorem markAhead_apply (s : String) :
    markAhead s c = some (Text.startsWith c.ahead s.toList, c) := rfl

theorem seq_nil : seq [] c = some ([], c) := rfl

end

theorem afterLead?_cons_of_head? {lead s : Text} {a : Char}
    (h : lead.head?.any (· != a) = true) : Text.afterLead? lead (a :: s) = none := by
  cases lead with
  | nil => simp at h
  | cons b lead =>
      have hne : b ≠ a := by simpa using h
      simp [Text.afterLead?, hne]

section

variable {c d e : Cursor} {r : Rule Forest} {rs : List (Rule Forest)} {ns ms : Forest}

theorem seq_cons (h : r c = some (ns, d)) (hs : seq rs d = some (ms, e)) :
    seq (r :: rs) c = some (ns ++ ms, e) := by
  simp [seq, h, hs]

theorem seq_eq_none (h : r c = none) : seq (r :: rs) c = none := by
  simp [seq, h]

theorem seq_cons_eq_none (h : r c = some (ns, d)) (hs : seq rs d = none) :
    seq (r :: rs) c = none := by
  simp [seq, h, hs]

theorem oneOf_cons (h : r c = some (ns, d)) : oneOf (r :: rs) c = some (ns, d) := by
  simp [oneOf, h]

theorem oneOf_cons_of_none (h : r c = none) : oneOf (r :: rs) c = oneOf rs c := by
  simp [oneOf, h]

theorem oneOf_singleton : oneOf [r] c = r c := by
  cases h : r c <;> simp [oneOf, h]

theorem oneOf_eq_none (h : ∀ r ∈ rs, r c = none) : oneOf rs c = none := by
  induction rs with
  | nil => rfl
  | cons r rs ih =>
      rw [oneOf_cons_of_none (h r (by simp))]
      exact ih fun r' hr' => h r' (List.mem_cons_of_mem _ hr')

theorem optionally_of_none (h : r c = none) : optionally r c = some ([], c) := by
  simp [optionally, oneOf, h]

theorem optionally_of_some (h : r c = some (ns, d)) : optionally r c = some (ns, d) :=
  oneOf_cons h

theorem node_of_some {k : Kind} (h : r c = some (ns, d)) : node k r c = some (gather k ns, d) := by
  simp [node, h]

theorem node_of_none {k : Kind} (h : r c = none) : node k r c = none := by
  simp [node, h]

theorem role_of_some {f : Field} (h : r c = some (ns, d)) :
    role f r c = some (ns.map (Node.inField f), d) := by
  simp [role, h]

theorem role_of_none {f : Field} (h : r c = none) : role f r c = none := by
  simp [role, h]

theorem thenFresh_of_some {fresh : Bool} (h : r c = some (ns, d)) :
    thenFresh fresh r c = some (ns, ⟨d.rest, d.offset, fresh⟩) := by
  simp [thenFresh, h]

theorem thenFresh_of_none {fresh : Bool} (h : r c = none) : thenFresh fresh r c = none := by
  simp [thenFresh, h]

theorem bind_require_of_none (h : r c = none) (b : Bool) :
    (do require b; r) c = none := by
  cases b <;> simp [h]

theorem mark_of_not_startsWith {sign : String} (h : Text.startsWith c.ahead sign.toList = false) :
    mark sign c = none := by
  simp [mark, h]

theorem keyword_of_not_wordStands {w : String} (h : wordStands w c.ahead = false) :
    keyword w c = none := by
  simp [keyword, h]

theorem word_of_wordLength {k : Kind} {but : List String} (h : wordLength c.ahead = 0) :
    word k but c = none := by
  simp [word, h]

theorem wouldRead_of_none (h : r c = none) : wouldRead r c = some (false, c) := by
  simp [wouldRead, h]

theorem repeated_of_none (h : r c = none) (fuel : Nat) : repeated r fuel c = some ([], c) := by
  cases fuel <;> simp [repeated, h]

theorem many_of_none (h : r c = none) : many r c = some ([], c) := repeated_of_none h _

theorem many_once (h : r c = some (ns, d)) (hlt : c.offset < d.offset) (hd : r d = none) :
    many r c = some (ns, d) := by
  simp [many, repeated, h, Nat.not_le.mpr hlt, repeated_of_none hd]

end

theorem exists_halted (stop : Option Place) (c : Cursor) : ∃ b, halted stop c = some (b, c) := by
  cases stop with
  | none => exact ⟨false, rfl⟩
  | some p => exact ⟨(missingSemicolon p c).isSome, rfl⟩

theorem unlessHalted_of_none {r : Rule Forest} {c : Cursor} (h : r c = none) (stop : Option Place) :
    unlessHalted stop r c = none := by
  obtain ⟨b, hb⟩ := exists_halted stop c
  cases b <;> simp [unlessHalted, hb, h]

/-- White space, or a character with which a comment may begin. -/
def opensGap (a : Char) : Bool := isSpace a || "/<-".toList.contains a

section

variable {a : Char} {s : Text} {o : Nat} {f : Bool}

theorem commentAt?_cons (h : opensGap a = false) (html : Bool) :
    commentAt? html (a :: s) = none := by
  simp only [opensGap, Bool.or_eq_false_iff, List.contains_eq_mem, decide_eq_false_iff_not] at h
  obtain ⟨-, hsign⟩ := h
  have hcomment : commentLength? (a :: s) = none := by
    unfold commentLength?
    split <;> simp_all
  have hhtml : htmlCommentLength? (a :: s) = none := by
    unfold htmlCommentLength?
    split <;> simp_all
  simp [commentAt?, hcomment, hhtml]

theorem isSpace_of_opensGap (h : opensGap a = false) : isSpace a = false :=
  (Bool.or_eq_false_iff.mp h).1

theorem Cursor.trivia_cons (h : opensGap a = false) :
    Cursor.trivia ⟨a :: s, o, f⟩ = ([], ⟨a :: s, o, f⟩) := by
  simp [Cursor.trivia, skipTrivia, isSpace_of_opensGap h, commentAt?_cons h]

@[simp] theorem Cursor.trivia_space :
    Cursor.trivia ⟨' ' :: s, o, f⟩ = Cursor.trivia ⟨s, o + 1, f⟩ := rfl

theorem Cursor.ahead_cons (h : opensGap a = false) : Cursor.ahead ⟨a :: s, o, f⟩ = a :: s := by
  rw [Cursor.ahead, Cursor.trivia_cons h]

@[simp] theorem Cursor.ahead_space : Cursor.ahead ⟨' ' :: s, o, f⟩ = Cursor.ahead ⟨s, o + 1, f⟩ :=
  rfl

theorem advance_append {w r : Text} :
    Cursor.advance w.length ⟨w ++ r, o, f⟩ = ⟨r, o + Text.byteSize w, f⟩ := by
  induction w generalizing o with
  | nil => rfl
  | cons a w ih => simp [Cursor.advance, ih, Nat.add_assoc]

theorem mark_of_afterLead? {sign : String} {t : Text} (h : opensGap a = false)
    (hsign : Text.afterLead? sign.toList (a :: s) = some t) :
    mark sign ⟨a :: s, o, f⟩ =
      some ([.leaf (.token sign) o (o + Text.byteSize sign.toList)],
        ⟨t, o + Text.byteSize sign.toList, opensPlace (.token sign)⟩) := by
  have hadvance : Cursor.advance sign.length ⟨a :: s, o, f⟩ =
      ⟨t, o + Text.byteSize sign.toList, f⟩ := by
    rw [← String.length_toList, Text.afterLead?_eq_some_iff.mp hsign]
    exact advance_append
  simp [mark, lexeme, Cursor.ahead_cons h, Cursor.trivia_cons h, Text.startsWith, hsign, hadvance]

theorem utf8Size_of_lt {a : Char} (h : a.toNat < 128) : a.utf8Size = 1 := by
  have hval : a.val ≤ 127 := UInt32.le_iff_toNat_le.mpr (Nat.le_of_lt_succ h)
  simp [Char.utf8Size, hval]

theorem mark_of_toList {sign : String} {fresh : Bool} (hsign : sign.toList = [a])
    (h : opensGap a = false) (hlt : a.toNat < 128) (hfresh : opensPlace (.token sign) = fresh) :
    mark sign ⟨a :: s, o, f⟩ = some ([.leaf (.token sign) o (o + 1)], ⟨s, o + 1, fresh⟩) := by
  have hlead : Text.afterLead? sign.toList (a :: s) = some s := by simp [hsign, Text.afterLead?]
  rw [mark_of_afterLead? h hlead, hsign, hfresh]
  simp [utf8Size_of_lt hlt]

@[simp] theorem mark_space {sign : String} :
    mark sign ⟨' ' :: s, o, f⟩ = mark sign ⟨s, o + 1, f⟩ := by
  cases hstarts : Text.startsWith (Cursor.ahead ⟨s, o + 1, f⟩) sign.toList <;>
    simp [mark, lexeme, hstarts]

theorem missingSemicolon_nil (p : Place) :
    missingSemicolon p ⟨[], o, f⟩ = some ([], ⟨[], o, true⟩) := rfl

theorem missingSemicolon_cons (h : opensGap a = false) (hbrace : a ≠ '\x7d') (p : Place) :
    missingSemicolon p ⟨a :: s, o, f⟩ = none := by
  have hspace := isSpace_of_opensGap h
  have hline : a ≠ '\n' := by
    rintro rfl
    exact absurd h (by decide)
  have hblank : Text.isAsciiBlank a = false := by
    simp only [isSpace, Text.isBlank, Text.isAsciiBlank, Bool.or_eq_false_iff] at hspace ⊢
    grind
  have hcomment : commentLength? (a :: s) = none := by
    have := commentAt?_cons (s := s) h false
    unfold commentAt? at this
    split at this <;> simp_all
  apply thenFresh_of_none
  simp [autoSemicolon?, endsHere, hbrace, hline, hblank, runLength, hspace, Cursor.advance,
    hcomment]

theorem halted_cons (h : opensGap a = false) (hbrace : a ≠ '\x7d') (stop : Option Place) :
    halted stop ⟨a :: s, o, f⟩ = some (false, ⟨a :: s, o, f⟩) := by
  cases stop with
  | none => rfl
  | some p => exact wouldRead_of_none (missingSemicolon_cons h hbrace p)

end

end SpanWeave.Syntax
