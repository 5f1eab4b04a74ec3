import SpanWeave.Proofs.Diff.Hunks

namespace SpanWeave.Diff

variable {t : Texts} {a b : Place}

/-- The same lines, recorded at other places where it does not matter. -/
structure Restated (s s' : Segment) : Prop where
  kept_eq : s'.kept = s.kept
  oldSize_eq : s'.oldSize = s.oldSize
  newSize_eq : s'.newSize = s.newSize
  old_eq : 0 < s.oldSize → s'.old = s.old
  new_eq : 0 < s.newSize → s'.new = s.new
  start_eq : s.old = s'.old ∨ s.new = s'.new
  eq_of_kept : s.kept = true → s' = s

namespace Restated

variable {s s' : Segment}

theorem refl (s : Segment) : Restated s s :=
  ⟨rfl, rfl, rfl, fun _ => rfl, fun _ => rfl, .inl rfl, fun _ => rfl⟩

theorem lines_eq (h : Restated s s') : s'.lines t = s.lines t := by
  have hold : Range.cut ⟨s'.old, s'.oldSize⟩ t.old.toList =
      Range.cut ⟨s.old, s.oldSize⟩ t.old.toList := by
    rcases Nat.eq_zero_or_pos s.oldSize with hzero | hpos
    · simp [Range.cut, h.oldSize_eq, hzero]
    · rw [h.oldSize_eq, h.old_eq hpos]
  have hnew : Range.cut ⟨s'.new, s'.newSize⟩ t.new.toList =
      Range.cut ⟨s.new, s.newSize⟩ t.new.toList := by
    rcases Nat.eq_zero_or_pos s.newSize with hzero | hpos
    · simp [Range.cut, h.newSize_eq, hzero]
    · rw [h.newSize_eq, h.new_eq hpos]
  rw [Segment.lines, Segment.lines, h.kept_eq, hold, hnew]

end Restated

/-- The segments with their places put right, from a place on. -/
def repair : Place → List Segment → List Segment
  | _, [] => []
  | a, s :: segs => { s with old := a.1, new := a.2 } :: repair (s.past a) segs

theorem traces_repair {segs : List Segment} (h : Covers t a segs b) :
    Traces t a (repair a segs) b := by
  induction segs generalizing a with
  | nil => exact h
  | cons s segs ih =>
      exact ⟨⟨⟨h.1.pos, fun _ => rfl, fun _ => rfl, h.1.kept⟩, rfl, rfl⟩, ih h.2⟩

theorem restated_repair {segs : List Segment} (h : Covers t a segs b) :
    List.Forall₂ Restated segs (repair a segs) := by
  induction segs generalizing a with
  | nil => exact .nil
  | cons s segs ih =>
      obtain ⟨hs, hrest⟩ := h
      have hpos := hs.pos
      refine .cons ⟨rfl, rfl, rfl, ?_, ?_, ?_, ?_⟩ (ih hrest)
      · exact fun hpos => (hs.old_eq hpos).symm
      · exact fun hpos => (hs.new_eq hpos).symm
      · rcases Nat.eq_zero_or_pos s.oldSize with hzero | hpos'
        · exact .inr (hs.new_eq (by omega))
        · exact .inl (hs.old_eq hpos')
      · intro hkept
        obtain ⟨hsame, -⟩ := hs.kept hkept
        rw [← hs.old_eq (by omega), ← hs.new_eq (by omega)]

/-- The first segment is recorded at a place. -/
def StartsAt (a : Place) (segs : List Segment) : Prop :=
  segs.head?.map (fun s => (s.old, s.new)) = some a

/-- The last segment is recorded in front of a place. -/
def EndsAt (b : Place) (segs : List Segment) : Prop :=
  segs.getLast?.map (fun s => (s.old + s.oldSize, s.new + s.newSize)) = some b

theorem startsAt_append {segs : List Segment} (hne : segs ≠ []) (rest : List Segment) :
    StartsAt a (segs ++ rest) ↔ StartsAt a segs := by
  cases segs with
  | nil => exact absurd rfl hne
  | cons s segs => rfl

theorem endsAt_append {rest : List Segment} (hne : rest ≠ []) (segs : List Segment) :
    EndsAt b (segs ++ rest) ↔ EndsAt b rest := by
  rw [EndsAt, EndsAt, List.getLast?_append_of_ne_nil _ hne]

theorem Segment.Exact.startsAt {s : Segment} (h : s.Exact t a) : StartsAt a [s] := by
  simp [StartsAt, h.old_eq, h.new_eq]

theorem Segment.Exact.endsAt {s : Segment} (h : s.Exact t a) : EndsAt (s.past a) [s] := by
  simp [EndsAt, h.old_eq, h.new_eq, Segment.past]

/-- Segments from a place on begin at the start of both texts, or with kept lines. -/
def Anchored (a : Place) (segs : List Segment) : Prop :=
  a = (0, 0) ∨ ∃ s ∈ segs.head?, s.kept = true

theorem Anchored.lt {h : List Segment} (hanchored : Anchored a h) (hh : Traces t a h b) :
    (a.1 = 0 ∨ a.1 < b.1) ∧ (a.2 = 0 ∨ a.2 < b.2) := by
  rcases hanchored with rfl | ⟨s, hhead, hkept⟩
  · simp
  cases h with
  | nil => simp at hhead
  | cons s' rest =>
      obtain rfl := Option.some.inj hhead
      have hle := Traces.le hh.2
      obtain ⟨hsame, -⟩ := hh.1.stands.kept hkept
      have hpos := hh.1.stands.pos
      simp only [Segment.past] at hle
      omega

theorem flatMap_lines_eq {h h' : Hunk} (hh : List.Forall₂ Restated h h') :
    h'.flatMap (Segment.lines t) = h.flatMap (Segment.lines t) := by
  induction hh with
  | nil => rfl
  | cons hs _ ih => rw [List.flatMap_cons, List.flatMap_cons, hs.lines_eq, ih]

theorem told_eq_iff {h h' : Hunk} (hh : List.Forall₂ Restated h h') (hne : h ≠ [])
    (htraces : Traces t a h' b) (hanchored : Anchored a h') :
    Hunk.told t h = Hunk.told t h' ↔ StartsAt a h ∧ EndsAt b h := by
  have hne' : h' ≠ [] := by
    rintro rfl
    exact hne (List.forall₂_nil_right_iff.mp hh)
  obtain ⟨first, hfirst⟩ := Option.isSome_iff_exists.mp (List.isSome_head?.mpr hne)
  obtain ⟨last, hlast⟩ := Option.isSome_iff_exists.mp (List.getLast?_isSome.mpr hne)
  have hle := Traces.le htraces
  have hlt := hanchored.lt htraces
  rw [Traces.told_eq htraces hne', flatMap_lines_eq hh]
  simp only [Hunk.told, StartsAt, EndsAt, hfirst, hlast, Option.map_some, Option.some.injEq,
    Told.mk.injEq, Range.mk.injEq, and_true]
  obtain ⟨a₁, a₂⟩ := a
  obtain ⟨b₁, b₂⟩ := b
  simp only [Prod.mk.injEq]
  dsimp only at hle hlt
  omega

theorem hunksFrom_nil {pending : List Segment} (hne : pending ≠ [])
    (hchanged : ∀ s, pending = [s] → s.kept = false) :
    hunksFrom pending [] = [pending.reverse] := by
  match pending, hne, hchanged with
  | [s], _, hchanged => simp [hunksFrom, hchanged s rfl]
  | s :: s' :: rest, _, _ => rfl

theorem Anchored.firstLines {pending rest : List Segment} {s : Segment} (hkept : s.kept = true)
    (h : Anchored a (pending.reverse ++ s :: rest)) {n : Nat} :
    Anchored a (s.firstLines n :: pending).reverse := by
  refine h.imp_right ?_
  rw [List.reverse_cons]
  cases pending.reverse with
  | nil => exact fun _ => ⟨_, rfl, hkept⟩
  | cons _ _ => exact id

theorem told_last_iff {pending pending' : List Segment}
    (hpending : List.Forall₂ Restated pending pending') (hne : pending ≠ [])
    (hchanged : ∀ s, pending = [s] → s.kept = false) (htraces : Traces t a pending'.reverse b)
    (hanchored : Anchored a pending'.reverse) :
    [Hunk.told t pending.reverse] = (hunksFrom pending' []).map (Hunk.told t) ↔
      StartsAt a pending.reverse ∧ EndsAt b pending.reverse := by
  have hne' : pending' ≠ [] := by
    rintro rfl
    exact hne (List.forall₂_nil_right_iff.mp hpending)
  have hchanged' : ∀ s', pending' = [s'] → s'.kept = false := by
    rintro s' rfl
    obtain ⟨s, rest, hs, hrest, rfl⟩ := List.forall₂_cons_right_iff.mp hpending
    obtain rfl := List.forall₂_nil_right_iff.mp hrest
    rw [hs.kept_eq]
    exact hchanged s rfl
  rw [hunksFrom_nil hne' hchanged', List.map_singleton, List.singleton_inj]
  exact told_eq_iff (List.forall₂_reverse_iff.mpr hpending) (by simpa using hne) htraces hanchored

/-- All headers are right when the first and the last segment are recorded where they are. -/
theorem told_hunksFrom_iff {pending rest pending' rest' : List Segment} {d e : Place}
    (hpending : List.Forall₂ Restated pending pending') (hrest : List.Forall₂ Restated rest rest')
    (hne : pending ++ rest ≠ []) (htraces : Traces t a pending'.reverse d)
    (htraces' : Traces t d rest' e) (hanchored : Anchored a (pending'.reverse ++ rest')) :
    (hunksFrom pending rest).map (Hunk.told t) = (hunksFrom pending' rest').map (Hunk.told t) ↔
      StartsAt a (pending.reverse ++ rest) ∧ EndsAt e (pending.reverse ++ rest) := by
  -- every division falls into kept lines, which are in place, so that only the two ends count
  fun_induction hunksFrom pending rest generalizing pending' rest' a d with
  | case1 => exact absurd rfl hne
  | case2 s hkept =>
      obtain ⟨s', _, hs, hnil, rfl⟩ := List.forall₂_cons_left_iff.mp hpending
      obtain rfl := List.forall₂_nil_left_iff.mp hnil
      obtain rfl := List.forall₂_nil_left_iff.mp hrest
      obtain rfl := hs.eq_of_kept hkept
      obtain rfl := htraces'
      obtain ⟨hexact, rfl⟩ := htraces
      simpa [hunksFrom, hkept] using ⟨hexact.startsAt, hexact.endsAt⟩
  | case3 s hkept =>
      obtain rfl := List.forall₂_nil_left_iff.mp hrest
      obtain rfl := htraces'
      rw [List.append_nil] at hanchored ⊢
      refine told_last_iff hpending (by simp) ?_ htraces hanchored
      rintro s' hs'
      obtain rfl := List.singleton_inj.mp hs'
      simpa using hkept
  | case4 pending hnil hone =>
      obtain rfl := List.forall₂_nil_left_iff.mp hrest
      obtain rfl := htraces'
      rw [List.append_nil] at hanchored ⊢
      refine told_last_iff hpending hnil ?_ htraces hanchored
      exact fun s hs => absurd hs (hone s)
  | case5 pending s rest hs ih =>
      obtain ⟨s', rest', hs', hrest', rfl⟩ := List.forall₂_cons_left_iff.mp hrest
      have hkept : s.kept = true := by
        simp only [Bool.and_eq_true] at hs
        exact hs.1
      obtain rfl := (hs'.eq_of_kept hkept).symm
      obtain ⟨hexact, htraces'⟩ := htraces'
      obtain ⟨hfirst, -⟩ := hexact.firstLines hkept (n := context) (by decide)
      obtain ⟨hlast, hpast⟩ := hexact.lastLines hkept (n := context) (by decide)
      have hhunk : Traces t a (s.firstLines context :: pending').reverse
          ((s.firstLines context).past d) := by
        rw [List.reverse_cons]
        exact htraces.append ⟨hfirst, rfl⟩
      have hfront := told_eq_iff (h := (s.firstLines context :: pending).reverse)
        (List.forall₂_reverse_iff.mpr (.cons (.refl _) hpending)) (by simp) hhunk
        (hanchored.firstLines hkept)
      have hback := ih (.cons (.refl _) .nil) hrest' (by simp) ⟨hlast, hpast⟩ htraces'
        (.inr ⟨_, rfl, hkept⟩)
      rw [hunksFrom, if_pos hs, List.map_cons, List.map_cons, List.cons.injEq, hfront, hback]
      have hfirstEnd : EndsAt ((s.firstLines context).past d)
          (s.firstLines context :: pending).reverse := by
        rw [List.reverse_cons]
        exact (endsAt_append (by simp) _).mpr hfirst.endsAt
      have hlastStart : StartsAt (d.1 + (s.oldSize - context), d.2 + (s.oldSize - context))
          ([s.lastLines context].reverse ++ rest) :=
        (startsAt_append (by simp) rest).mpr hlast.startsAt
      have hstart : StartsAt a (s.firstLines context :: pending).reverse ↔
          StartsAt a (pending.reverse ++ s :: rest) := by
        rw [List.reverse_cons]
        cases pending.reverse <;> rfl
      have hend : EndsAt e ([s.lastLines context].reverse ++ rest) ↔
          EndsAt e (pending.reverse ++ s :: rest) := by
        cases rest with
        | nil =>
            obtain rfl := List.forall₂_nil_left_iff.mp hrest'
            obtain rfl := htraces'
            have hlastEnd := hlast.endsAt
            rw [hpast] at hlastEnd
            exact iff_of_true hlastEnd ((endsAt_append (by simp) _).mpr hexact.endsAt)
        | cons r rest =>
            rw [List.append_cons pending.reverse s (r :: rest), endsAt_append (by simp),
              endsAt_append (by simp)]
      rw [hstart, hend]
      constructor
      · rintro ⟨⟨hs, -⟩, -, he⟩
        exact ⟨hs, he⟩
      · rintro ⟨hs, he⟩
        exact ⟨⟨hs, hfirstEnd⟩, hlastStart, he⟩
  | case6 pending s rest hs ih =>
      obtain ⟨s', rest', hs', hrest', rfl⟩ := List.forall₂_cons_left_iff.mp hrest
      have hnot : ¬ (s'.kept && decide (s'.oldSize > 2 * context)) = true := by
        rwa [hs'.kept_eq, hs'.oldSize_eq]
      have htraces'' : Traces t a (s' :: pending').reverse (s'.past d) := by
        rw [List.reverse_cons]
        exact htraces.append ⟨htraces'.1, rfl⟩
      have hmoved := ih (.cons hs' hpending) hrest' (by simp) htraces'' htraces'.2
        (by simpa using hanchored)
      rw [hunksFrom, if_neg hnot, hmoved]
      simp

theorem restated_hunksFrom {pending rest pending' rest' : List Segment}
    (hpending : List.Forall₂ Restated pending pending')
    (hrest : List.Forall₂ Restated rest rest') :
    List.Forall₂ (List.Forall₂ Restated) (hunksFrom pending rest) (hunksFrom pending' rest') := by
  induction hrest generalizing pending pending' with
  | nil =>
      match hpending with
      | .nil => exact .nil
      | .cons hs .nil =>
          rw [hunksFrom, hunksFrom, hs.kept_eq]
          split
          · exact .nil
          · exact .cons (.cons hs .nil) .nil
      | .cons hs (.cons hs₂ hrest) =>
          exact .cons (List.forall₂_reverse_iff.mpr (.cons hs (.cons hs₂ hrest))) .nil
  | @cons s s' rest rest' hs hrest ih =>
      rw [hunksFrom, hunksFrom, hs.kept_eq, hs.oldSize_eq]
      split
      · rename_i hlong
        simp only [Bool.and_eq_true] at hlong
        obtain rfl := hs.eq_of_kept hlong.1
        exact .cons (List.forall₂_reverse_iff.mpr (.cons (.refl _) hpending))
          (ih (.cons (.refl _) .nil))
      · exact ih (.cons hs hpending)

theorem trimFront_ne_nil {segs : List Segment} (hne : segs ≠ []) : trimFront segs ≠ [] := by
  fun_cases trimFront segs <;> simp_all

theorem trimBack_ne_nil {segs : List Segment} (hne : segs ≠ []) : trimBack segs ≠ [] := by
  fun_cases trimBack segs <;> simp_all

section
variable {segs segs' : List Segment} (hsegs : List.Forall₂ Restated segs segs')
include hsegs

theorem trimFront_spec (h : Traces t (0, 0) segs' b) :
    ∃ gap, t.Agree (0, 0) gap ∧ Traces t (gap, gap) (trimFront segs') b ∧
      List.Forall₂ Restated (trimFront segs) (trimFront segs') ∧
      Anchored (gap, gap) (trimFront segs') ∧
      (StartsAt (gap, gap) (trimFront segs) ↔ StartsAt (0, 0) segs) ∧
      (EndsAt b (trimFront segs) ↔ EndsAt b segs) := by
  cases hsegs with
  | nil => exact ⟨0, by intro k hk; omega, h, .nil, .inl rfl, Iff.rfl, Iff.rfl⟩
  | @cons s s' rest rest' hs hrest =>
      by_cases hkept : s.kept = true
      · obtain rfl := (hs.eq_of_kept hkept).symm
        obtain ⟨hexact, htraces⟩ := h
        obtain ⟨hlast, hpast⟩ := hexact.lastLines hkept (n := context) (by decide)
        simp only [Nat.zero_add] at hlast hpast
        simp only [trimFront, hkept, ↓reduceIte]
        refine ⟨s.oldSize - context, ?_, ⟨hlast, ?_⟩, .cons (.refl _) hrest,
          .inr ⟨_, rfl, hkept⟩, ?_, ?_⟩
        · exact (hexact.stands.kept hkept).2.take (Nat.sub_le _ _)
        · rwa [hpast]
        · exact iff_of_true ((startsAt_append (by simp) rest).mpr hlast.startsAt)
            ((startsAt_append (by simp) rest).mpr hexact.startsAt)
        · cases hrest with
          | nil =>
              obtain rfl := htraces
              have hlastEnd := hlast.endsAt
              rw [hpast] at hlastEnd
              exact iff_of_true hlastEnd hexact.endsAt
          | cons _ _ => rfl
      · have hkept' : ¬ s'.kept = true := by rwa [hs.kept_eq]
        simp only [trimFront, hkept, hkept']
        exact ⟨0, by intro k hk; omega, h, .cons hs hrest, .inl rfl, Iff.rfl, Iff.rfl⟩

theorem trimBack_spec (h : Traces t a segs' b)
    (hend : t.old.toList.drop b.1 = t.new.toList.drop b.2) :
    ∃ c, Traces t a (trimBack segs') c ∧ c.1 ≤ b.1 ∧ c.2 ≤ b.2 ∧
      t.old.toList.drop c.1 = t.new.toList.drop c.2 ∧
      List.Forall₂ Restated (trimBack segs) (trimBack segs') ∧
      (Anchored a segs' → Anchored a (trimBack segs')) ∧
      (StartsAt a (trimBack segs) ↔ StartsAt a segs) ∧
      (EndsAt c (trimBack segs) ↔ EndsAt b segs) := by
  fun_induction trimBack segs generalizing segs' a with
  | case1 =>
      obtain rfl := List.forall₂_nil_left_iff.mp hsegs
      exact ⟨b, h, Nat.le_refl _, Nat.le_refl _, hend, .nil, id, Iff.rfl, Iff.rfl⟩
  | case2 s hkept =>
      obtain ⟨s', _, hs, hnil, rfl⟩ := List.forall₂_cons_left_iff.mp hsegs
      obtain rfl := List.forall₂_nil_left_iff.mp hnil
      obtain rfl := hs.eq_of_kept hkept
      obtain ⟨hexact, rfl⟩ := h
      obtain ⟨hsame, hagree⟩ := hexact.stands.kept hkept
      obtain ⟨hfirst, hpast⟩ := hexact.firstLines hkept (n := context) (by decide)
      have hmin : min s'.oldSize context ≤ s'.oldSize := Nat.min_le_left _ _
      simp only [trimBack, hkept, ↓reduceIte]
      refine ⟨_, ⟨hfirst, hpast⟩, ?_, ?_, ?_, .cons (.refl _) .nil, ?_, ?_, ?_⟩
      · exact Nat.add_le_add_left hmin _
      · rw [Segment.past, hsame]
        exact Nat.add_le_add_left hmin _
      · -- the lines cut away are kept ones
        rw [← Nat.add_sub_cancel' hmin] at hagree
        refine drop_eq_of_gap hagree.drop.take_eq ?_
        rw [Segment.past, hsame] at hend
        simpa only [Nat.add_assoc, Nat.add_sub_cancel' hmin] using hend
      · exact Or.imp_right fun _ => ⟨_, rfl, hkept⟩
      · exact iff_of_true hfirst.startsAt hexact.startsAt
      · exact iff_of_true (hpast ▸ hfirst.endsAt) hexact.endsAt
  | case3 s hkept =>
      obtain ⟨s', _, hs, hnil, rfl⟩ := List.forall₂_cons_left_iff.mp hsegs
      obtain rfl := List.forall₂_nil_left_iff.mp hnil
      have hkept' : ¬ s'.kept = true := by rwa [hs.kept_eq]
      rw [trimBack, if_neg hkept']
      exact ⟨b, h, Nat.le_refl _, Nat.le_refl _, hend, hsegs, id, Iff.rfl, Iff.rfl⟩
  | case4 s s₂ rest ih =>
      obtain ⟨s', _, hs, hrest, rfl⟩ := List.forall₂_cons_left_iff.mp hsegs
      obtain ⟨s₂', rest', hs₂, hrest₂, rfl⟩ := List.forall₂_cons_left_iff.mp hrest
      obtain ⟨c, htraces, hold, hnew, hdrop, hforall, -, -, hends⟩ := ih hrest h.2
      refine ⟨c, ⟨h.1, htraces⟩, hold, hnew, hdrop, .cons hs hforall, id, Iff.rfl, ?_⟩
      have htrimmed := endsAt_append (b := c) (trimBack_ne_nil (List.cons_ne_nil s₂ rest)) [s]
      have hwhole := endsAt_append (b := b) (List.cons_ne_nil s₂ rest) [s]
      exact htrimmed.trans (hends.trans hwhole.symm)

end

def hunksOf (segs : List Segment) : List Hunk := hunksFrom [] (trimBack (trimFront segs))

theorem drop_size_eq (t : Texts) : t.old.toList.drop t.old.size = t.new.toList.drop t.new.size := by
  rw [List.drop_of_length_le (by simp), List.drop_of_length_le (by simp)]

theorem bridges_hunksOf {segs : List Segment} (h : Traces t (0, 0) segs (t.old.size, t.new.size)) :
    Bridges t.old.toList t.new.toList (0, 0) ((hunksOf segs).map (Hunk.told t)) := by
  have hrefl (segs : List Segment) : List.Forall₂ Restated segs segs :=
    List.forall₂_same.mpr fun s _ => .refl s
  obtain ⟨gap, hgap, hfront, -⟩ := trimFront_spec (hrefl segs) h
  obtain ⟨c, hback, hold, hnew, hdrop, -⟩ := trimBack_spec (hrefl _) hfront (drop_size_eq t)
  have hnil : Traces t (0 + gap, 0 + gap) [].reverse (gap, gap) := by simp [Follows]
  exact bridges_hunksFrom hgap hnil hback hold hnew hdrop

section
variable {segs : List Segment} (h : Covers t (0, 0) segs (t.old.size, t.new.size))
include h

theorem restated_hunksOf :
    List.Forall₂ (List.Forall₂ Restated) (hunksOf segs) (hunksOf (repair (0, 0) segs)) := by
  obtain ⟨gap, -, hfront, hrestated, -⟩ := trimFront_spec (restated_repair h) (traces_repair h)
  obtain ⟨c, -, -, -, -, hrestated, -⟩ := trimBack_spec hrestated hfront (drop_size_eq t)
  exact restated_hunksFrom .nil hrestated

theorem told_hunksOf_iff (hne : segs ≠ []) :
    (hunksOf segs).map (Hunk.told t) = (hunksOf (repair (0, 0) segs)).map (Hunk.told t) ↔
      StartsAt (0, 0) segs ∧ EndsAt (t.old.size, t.new.size) segs := by
  obtain ⟨gap, -, hfront, hrestated, hanchored, hstart, hend⟩ :=
    trimFront_spec (restated_repair h) (traces_repair h)
  obtain ⟨c, hback, -, -, -, hrestated, hanchored', hstart', hend'⟩ :=
    trimBack_spec hrestated hfront (drop_size_eq t)
  have hne' : trimBack (trimFront segs) ≠ [] := trimBack_ne_nil (trimFront_ne_nil hne)
  rw [hunksOf, hunksOf, told_hunksFrom_iff .nil hrestated hne' rfl hback (hanchored' hanchored)]
  exact and_congr (hstart'.trans hstart) (hend'.trans hend)

end

end SpanWeave.Diff
