import SpanWeave.Diff.Unified
import SpanWeave.Proofs.Diff.Compact
import SpanWeave.Proofs.Diff.Patch

namespace SpanWeave.Diff

namespace Segment

/-- The place behind a segment that stands at a place. -/
def past (s : Segment) (a : Place) : Place := (a.1 + s.oldSize, a.2 + s.newSize)

/-- The lines of the segment are found at a place. -/
structure Stands (t : Texts) (a : Place) (s : Segment) : Prop where
  pos : 0 < s.oldSize + s.newSize
  old_eq : 0 < s.oldSize → s.old = a.1
  new_eq : 0 < s.newSize → s.new = a.2
  kept : s.kept = true → s.newSize = s.oldSize ∧ t.Agree a s.oldSize

variable {t : Texts} {a : Place} {s s' : Segment} {p : Piece}

theorem stands_ofPiece (h : p.Stands t a) :
    (ofPiece p).Stands t a ∧ (ofPiece p).past a = p.past a := by
  obtain ⟨c, old, new, size⟩ := p
  cases c with
  | keep =>
      obtain ⟨hsize, rfl, rfl, hagree⟩ := Piece.stands_keep_iff.mp h
      exact ⟨⟨Nat.add_pos_left hsize _, fun _ => rfl, fun _ => rfl, fun _ => ⟨rfl, hagree⟩⟩, rfl⟩
  | delete =>
      obtain ⟨hsize, rfl⟩ := Piece.stands_delete_iff.mp h
      exact ⟨⟨hsize, fun _ => rfl, by simp [ofPiece], by simp [ofPiece]⟩, rfl⟩
  | insert =>
      obtain ⟨hsize, rfl⟩ := Piece.stands_insert_iff.mp h
      refine ⟨⟨?_, by simp [ofPiece], fun _ => rfl, by simp [ofPiece]⟩, rfl⟩
      simpa [ofPiece] using hsize

theorem stands_join? (hs : s.Stands t a) (hp : p.Stands t (s.past a)) (h : s.join? p = some s') :
    s'.Stands t a ∧ s'.past a = p.past (s.past a) := by
  obtain ⟨c, old, new, size⟩ := p
  have hpos := hs.pos
  simp only [join?] at h
  cases hkept : s.kept with
  | true =>
      obtain ⟨hsame, hagree⟩ := hs.kept hkept
      cases c with
      | keep =>
          rw [hkept] at h
          obtain rfl := Option.some.inj h
          obtain ⟨hsize, -, -, hagree'⟩ := Piece.stands_keep_iff.mp hp
          rw [past, hsame] at hagree'
          refine ⟨⟨by dsimp only; omega, ?_, ?_, ?_⟩, ?_⟩
          · exact fun _ => hs.old_eq (by omega)
          · exact fun _ => hs.new_eq (by omega)
          · exact fun _ => ⟨by rw [hsame], hagree.append hagree'⟩
          · simp [past, Nat.add_assoc]
      | delete => simp [hkept] at h
      | insert => simp [hkept] at h
  | false =>
      cases c with
      | keep => simp [hkept] at h
      | delete =>
          rw [hkept] at h
          obtain rfl := Option.some.inj h
          obtain ⟨hsize, rfl⟩ := Piece.stands_delete_iff.mp hp
          refine ⟨⟨by dsimp only; omega, ?_, hs.new_eq, by simp⟩, ?_⟩
          · intro _
            dsimp only
            split
            · simp [past, *]
            · exact hs.old_eq (by omega)
          · simp [past, Nat.add_assoc]
      | insert =>
          rw [hkept] at h
          obtain rfl := Option.some.inj h
          obtain ⟨hsize, rfl⟩ := Piece.stands_insert_iff.mp hp
          refine ⟨⟨by dsimp only; omega, hs.old_eq, ?_, by simp⟩, ?_⟩
          · intro _
            dsimp only
            split
            · simp [past, *]
            · exact hs.new_eq (by omega)
          · simp [past, Nat.add_assoc]

end Segment

abbrev Covers (t : Texts) : Place → List Segment → Place → Prop :=
  Follows (Segment.Stands t) Segment.past

variable {t : Texts} {a b c : Place}

theorem covers_segmentsFrom {built : List Segment} {ps : List Piece}
    (hbuilt : Covers t a built.reverse b) (hps : Leads t b ps c) :
    Covers t a (segmentsFrom built ps) c := by
  fun_induction segmentsFrom built ps generalizing b with
  | case1 built =>
      obtain rfl := hps
      exact hbuilt
  | case2 p ps ih =>
      obtain rfl := hbuilt
      obtain ⟨hstands, hpast⟩ := Segment.stands_ofPiece hps.1
      exact ih ⟨hstands, hpast⟩ hps.2
  | case3 s built p ps joined hjoin ih =>
      rw [List.reverse_cons] at hbuilt
      obtain ⟨d, hfront, hs, rfl⟩ := follows_append.mp hbuilt
      obtain ⟨hstands, hpast⟩ := Segment.stands_join? hs hps.1 hjoin
      refine ih ?_ hps.2
      rw [List.reverse_cons]
      exact hfront.append ⟨hstands, hpast⟩
  | case4 s built p ps hjoin ih =>
      obtain ⟨hstands, hpast⟩ := Segment.stands_ofPiece hps.1
      refine ih ?_ hps.2
      rw [List.reverse_cons]
      exact hbuilt.append ⟨hstands, hpast⟩

theorem Texts.Agree.take_eq {n : Nat} (h : t.Agree a n) :
    (t.old.toList.drop a.1).take n = (t.new.toList.drop a.2).take n := by
  refine List.ext_getElem? fun k => ?_
  simp only [List.getElem?_take, List.getElem?_drop, Array.getElem?_toList]
  split
  · exact h k ‹_›
  · rfl

namespace Segment

/-- The segment stands at a place and knows it. -/
structure Exact (t : Texts) (a : Place) (s : Segment) : Prop where
  stands : s.Stands t a
  old_eq : s.old = a.1
  new_eq : s.new = a.2

/-- The lines of a segment with their fates. -/
def lines (t : Texts) (s : Segment) : List (Change × Text) :=
  if s.kept then (Range.cut ⟨s.old, s.oldSize⟩ t.old.toList).map fun l => (.keep, l)
  else
    ((Range.cut ⟨s.old, s.oldSize⟩ t.old.toList).map fun l => (.delete, l)) ++
      (Range.cut ⟨s.new, s.newSize⟩ t.new.toList).map fun l => (.insert, l)

variable {s : Segment}

theorem oldsOf_lines (t : Texts) (s : Segment) :
    oldsOf (s.lines t) = Range.cut ⟨s.old, s.oldSize⟩ t.old.toList := by
  rw [lines]
  split <;> simp [oldsOf, List.filterMap_map]

theorem newsOf_lines (h : s.Exact t a) :
    newsOf (s.lines t) = Range.cut ⟨s.new, s.newSize⟩ t.new.toList := by
  rw [lines]
  split
  · rename_i hkept
    obtain ⟨hsame, hagree⟩ := h.stands.kept hkept
    have hsame : Range.cut ⟨s.old, s.oldSize⟩ t.old.toList =
        Range.cut ⟨s.new, s.newSize⟩ t.new.toList := by
      rw [Range.cut, Range.cut, h.old_eq, h.new_eq, hsame, hagree.take_eq]
    simp [newsOf, List.filterMap_map, hsame]
  · simp [newsOf, List.filterMap_map]

variable (h : s.Exact t a) (hkept : s.kept = true)
include h hkept

theorem Exact.firstLines {n : Nat} (hn : 0 < n) :
    (s.firstLines n).Exact t a ∧
      (s.firstLines n).past a = (a.1 + min s.oldSize n, a.2 + min s.oldSize n) := by
  obtain ⟨hsame, hagree⟩ := h.stands.kept hkept
  have hpos := h.stands.pos
  simp only [Segment.firstLines, past, hsame]
  refine ⟨⟨⟨?_, fun _ => h.old_eq, fun _ => h.new_eq, fun _ => ⟨rfl, ?_⟩⟩, h.old_eq, h.new_eq⟩,
    trivial⟩
  · dsimp only
    omega
  · exact hagree.take (Nat.min_le_left _ _)

theorem Exact.lastLines {n : Nat} (hn : 0 < n) :
    (s.lastLines n).Exact t (a.1 + (s.oldSize - n), a.2 + (s.oldSize - n)) ∧
      (s.lastLines n).past (a.1 + (s.oldSize - n), a.2 + (s.oldSize - n)) = s.past a := by
  obtain ⟨hsame, hagree⟩ := h.stands.kept hkept
  have hpos := h.stands.pos
  have hold := h.old_eq
  have hnew := h.new_eq
  simp only [Segment.lastLines, past, hsame]
  refine ⟨⟨⟨?_, ?_, ?_, fun _ => ⟨rfl, ?_⟩⟩, ?_, ?_⟩, ?_⟩
  · dsimp only
    omega
  · intro _
    dsimp only
    omega
  · intro _
    dsimp only
    omega
  · refine Texts.Agree.drop ?_
    rwa [Nat.add_sub_cancel' (Nat.sub_le _ _)]
  · dsimp only
    omega
  · dsimp only
    omega
  · simp only [Prod.mk.injEq]
    omega

end Segment

/-- The segments lead from one place to another and know their own. -/
abbrev Traces (t : Texts) : Place → List Segment → Place → Prop :=
  Follows (Segment.Exact t) Segment.past

theorem Traces.le {h : List Segment} (hh : Traces t a h b) : a.1 ≤ b.1 ∧ a.2 ≤ b.2 := by
  induction h generalizing a with
  | nil =>
      obtain rfl := hh
      exact ⟨Nat.le_refl _, Nat.le_refl _⟩
  | cons s h ih =>
      have := ih hh.2
      simp only [Segment.past] at this
      omega

theorem cut_append (lines : List Text) {i m k : Nat} :
    Range.cut ⟨i, m⟩ lines ++ Range.cut ⟨i + m, k⟩ lines = Range.cut ⟨i, m + k⟩ lines := by
  simp only [Range.cut]
  rw [List.take_add, List.drop_drop]

theorem Traces.lines_eq {h : List Segment} (hh : Traces t a h b) :
    oldsOf (h.flatMap (Segment.lines t)) = Range.cut ⟨a.1, b.1 - a.1⟩ t.old.toList ∧
      newsOf (h.flatMap (Segment.lines t)) = Range.cut ⟨a.2, b.2 - a.2⟩ t.new.toList := by
  induction h generalizing a with
  | nil =>
      obtain rfl := hh
      simp [oldsOf, newsOf, Range.cut]
  | cons s h ih =>
      obtain ⟨hs, hrest⟩ := hh
      obtain ⟨hold, hnew⟩ := ih hrest
      have hle := Traces.le hrest
      simp only [Segment.past] at hle hold hnew
      rw [List.flatMap_cons, oldsOf, newsOf, List.filterMap_append, List.filterMap_append,
        ← oldsOf, ← oldsOf, ← newsOf, ← newsOf, hold, hnew, Segment.oldsOf_lines,
        Segment.newsOf_lines hs, hs.old_eq, hs.new_eq, cut_append, cut_append]
      have holdSize : s.oldSize + (b.1 - (a.1 + s.oldSize)) = b.1 - a.1 := by omega
      have hnewSize : s.newSize + (b.2 - (a.2 + s.newSize)) = b.2 - a.2 := by omega
      rw [holdSize, hnewSize]
      exact ⟨rfl, rfl⟩

/-- A hunk as its text tells it. -/
def Hunk.told (t : Texts) (h : Hunk) : Told :=
  match h.head?, h.getLast? with
  | some first, some last =>
      ⟨⟨first.old, last.old + last.oldSize - first.old⟩,
        ⟨first.new, last.new + last.newSize - first.new⟩, h.flatMap (Segment.lines t)⟩
  | _, _ => ⟨⟨0, 0⟩, ⟨0, 0⟩, []⟩

theorem Traces.first_eq {h : List Segment} {s : Segment} (hh : Traces t a (s :: h) b) :
    s.old = a.1 ∧ s.new = a.2 := ⟨hh.1.old_eq, hh.1.new_eq⟩

theorem Traces.last_eq {h : List Segment} {s : Segment} (hh : Traces t a (h ++ [s]) b) :
    s.old + s.oldSize = b.1 ∧ s.new + s.newSize = b.2 := by
  obtain ⟨c, -, hs, rfl⟩ := follows_append.mp hh
  rw [hs.old_eq, hs.new_eq]
  exact ⟨rfl, rfl⟩

theorem Traces.told_eq {h : List Segment} (hh : Traces t a h b) (hne : h ≠ []) :
    Hunk.told t h =
      ⟨⟨a.1, b.1 - a.1⟩, ⟨a.2, b.2 - a.2⟩, h.flatMap (Segment.lines t)⟩ := by
  obtain ⟨first, rest, hfirst⟩ := List.exists_cons_of_ne_nil hne
  obtain ⟨front, last, hlast⟩ : ∃ front last, h = front ++ [last] :=
    ⟨_, _, (List.dropLast_append_getLast hne).symm⟩
  have hhead : h.head? = some first := by rw [hfirst]; rfl
  have hgetLast : h.getLast? = some last := by rw [hlast]; simp
  obtain ⟨ho, hn⟩ := Traces.first_eq (hfirst ▸ hh)
  obtain ⟨ho', hn'⟩ := Traces.last_eq (hlast ▸ hh)
  simp only [Hunk.told, hhead, hgetLast, ho, hn, ho', hn']

theorem Traces.agrees {h : List Segment} (hh : Traces t a h b) (hne : h ≠ [])
    (hold : b.1 ≤ t.old.size) (hnew : b.2 ≤ t.new.size) :
    (Hunk.told t h).Agrees t.old.toList t.new.toList := by
  have hle := Traces.le hh
  obtain ⟨holds, hnews⟩ := Traces.lines_eq hh
  rw [Traces.told_eq hh hne]
  refine ⟨?_, ?_, holds.symm, hnews.symm⟩
  · rw [holds]
    simp only [Range.cut, List.length_take, List.length_drop, Array.length_toList]
    omega
  · rw [hnews]
    simp only [Range.cut, List.length_take, List.length_drop, Array.length_toList]
    omega

theorem drop_eq_of_gap {old new : List Text} {i j gap : Nat}
    (hgap : (old.drop i).take gap = (new.drop j).take gap)
    (h : old.drop (i + gap) = new.drop (j + gap)) : old.drop i = new.drop j := by
  rw [← List.take_append_drop gap (old.drop i), ← List.take_append_drop gap (new.drop j),
    List.drop_drop, List.drop_drop, hgap, h]

section
variable {gap : Nat} (hgap : t.Agree a gap)
include hgap

theorem Traces.bridges {h : List Segment} {hs : List Told}
    (hh : Traces t (a.1 + gap, a.2 + gap) h b) (hne : h ≠ []) (hold : b.1 ≤ t.old.size)
    (hnew : b.2 ≤ t.new.size) (hrest : Bridges t.old.toList t.new.toList b hs) :
    Bridges t.old.toList t.new.toList a (Hunk.told t h :: hs) := by
  have hle := Traces.le hh
  have htold := Traces.told_eq hh hne
  refine .hunk gap hgap.take_eq ?_ ?_ (Traces.agrees hh hne hold hnew) ?_
  · rw [htold]
  · rw [htold]
  · rw [htold]
    simp only [Range.stop]
    rwa [Nat.add_sub_cancel' hle.1, Nat.add_sub_cancel' hle.2]

/-- Hunks made of segments that know their places bridge the texts. -/
theorem bridges_hunksFrom {pending rest : List Segment} {d e : Place}
    (hpending : Traces t (a.1 + gap, a.2 + gap) pending.reverse d)
    (hrest : Traces t d rest e) (hold : e.1 ≤ t.old.size) (hnew : e.2 ≤ t.new.size)
    (hend : t.old.toList.drop e.1 = t.new.toList.drop e.2) :
    Bridges t.old.toList t.new.toList a ((hunksFrom pending rest).map (Hunk.told t)) := by
  fun_induction hunksFrom pending rest generalizing a d gap with
  | case1 =>
      obtain rfl := hpending
      obtain rfl := hrest
      exact .done (drop_eq_of_gap hgap.take_eq hend)
  | case2 s hkept =>
      -- kept lines with no change behind them
      obtain ⟨hs, rfl⟩ := hpending
      obtain rfl := hrest
      obtain ⟨hsame, hagree⟩ := hs.stands.kept hkept
      refine .done (drop_eq_of_gap (hgap.append hagree).take_eq ?_)
      simp only [Segment.past, hsame, Nat.add_assoc] at hend
      exact hend
  | case3 s hkept =>
      obtain rfl := hrest
      exact Traces.bridges hgap hpending (by simp) hold hnew (.done hend)
  | case4 pending hnil hone =>
      obtain rfl := hrest
      refine Traces.bridges hgap hpending ?_ hold hnew (.done hend)
      simpa using hnil
  | case5 pending s rest hs ih =>
      simp only [Bool.and_eq_true, decide_eq_true_eq] at hs
      obtain ⟨hkept, hlong⟩ := hs
      obtain ⟨hexact, hrest⟩ := hrest
      obtain ⟨hsame, hagree⟩ := hexact.stands.kept hkept
      obtain ⟨hfirst, hpast⟩ := hexact.firstLines hkept (n := context) (by decide)
      obtain ⟨hlast, hpast'⟩ := hexact.lastLines hkept (n := context) (by decide)
      have hcontext : min s.oldSize context = context := by omega
      rw [hcontext] at hpast
      have hle := Traces.le hrest
      simp only [Segment.past, hsame] at hle
      refine Traces.bridges hgap (b := (d.1 + context, d.2 + context)) ?_ (by simp) ?_ ?_ ?_
      · rw [List.reverse_cons]
        exact hpending.append ⟨hfirst, hpast⟩
      · dsimp only
        omega
      · dsimp only
        omega
      · have hparts : context + (s.oldSize - 2 * context) ≤ s.oldSize := by omega
        refine ih (hagree.take hparts).drop ?_ hrest
        have hplace : s.oldSize - context = context + (s.oldSize - 2 * context) := by omega
        rw [hplace, ← Nat.add_assoc, ← Nat.add_assoc] at hlast hpast'
        exact ⟨hlast, hpast'⟩
  | case6 pending s rest hs ih =>
      refine ih hgap ?_ hrest.2
      rw [List.reverse_cons]
      exact hpending.append ⟨hrest.1, rfl⟩

end

end SpanWeave.Diff
