import SpanWeave.Proofs.Diff.Search

namespace SpanWeave.Diff

/-- Numbers of lines of the old and the new text. -/
abbrev Place := Nat × Nat

namespace Texts

/-- The next `n` lines of both texts are the same. -/
def Agree (t : Texts) (a : Place) (n : Nat) : Prop :=
  ∀ k < n, t.old[a.1 + k]? = t.new[a.2 + k]?

variable {t : Texts} {a : Place} {m n : Nat}

theorem Agree.take (h : t.Agree a n) (hmn : m ≤ n) : t.Agree a m := by
  intro k hk
  exact h k (by omega)

theorem Agree.drop (h : t.Agree a (m + n)) : t.Agree (a.1 + m, a.2 + m) n := by
  intro k hk
  have := h (m + k) (by omega)
  simpa only [Nat.add_assoc] using this

theorem Agree.append (hm : t.Agree a m) (hn : t.Agree (a.1 + m, a.2 + m) n) :
    t.Agree a (m + n) := by
  intro k hk
  by_cases hkm : k < m
  · exact hm k hkm
  · have := hn (k - m) (by omega)
    rwa [Nat.add_assoc, Nat.add_assoc, Nat.add_sub_cancel' (Nat.not_lt.mp hkm)] at this

theorem agree_agreeing (t : Texts) (limit i j : Nat) :
    t.Agree (i, j) (t.agreeing limit i j) := by
  fun_induction Texts.agreeing t limit i j with
  | case1 =>
      intro k hk
      omega
  | case2 limit i j h ih =>
      rw [Nat.add_comm]
      refine Agree.append ?_ ih
      intro k hk
      obtain rfl : k = 0 := by omega
      exact h
  | case3 =>
      intro k hk
      omega

theorem agree_agreeingBefore (t : Texts) (limit i j : Nat) :
    t.Agree (i - t.agreeingBefore limit i j, j - t.agreeingBefore limit i j)
      (t.agreeingBefore limit i j) := by
  fun_induction Texts.agreeingBefore t limit i j with
  | case1 limit i j h ih =>
      have hle := t.agreeingBefore_le limit i j
      simp only [Nat.succ_eq_add_one, Nat.add_sub_add_right]
      refine Agree.append ih ?_
      intro k hk
      obtain rfl : k = 0 := by omega
      simp only [Nat.add_zero]
      rwa [Nat.sub_add_cancel hle.2.1, Nat.sub_add_cancel hle.2.2]
  | case2 =>
      intro k hk
      omega
  | case3 =>
      intro k hk
      omega

end Texts

namespace Piece

def oldLines (p : Piece) : Nat := if p.change = .insert then 0 else p.size

def newLines (p : Piece) : Nat := if p.change = .delete then 0 else p.size

/-- The place behind a piece that stands at a place. -/
def past (p : Piece) (a : Place) : Place := (a.1 + p.oldLines, a.2 + p.newLines)

/-- The lines of the piece are found at a place. -/
structure Stands (t : Texts) (a : Place) (p : Piece) : Prop where
  size_pos : 0 < p.size
  old_eq : p.change ≠ .insert → p.old = a.1
  new_eq : p.change ≠ .delete → p.new = a.2
  agree : p.change = .keep → t.Agree a p.size

section
variable {t : Texts} {a : Place} {old new size : Nat}

@[simp] theorem stands_keep_iff :
    Stands t a ⟨.keep, old, new, size⟩ ↔
      0 < size ∧ old = a.1 ∧ new = a.2 ∧ t.Agree a size :=
  ⟨fun h => ⟨h.size_pos, h.old_eq (by simp), h.new_eq (by simp), h.agree rfl⟩,
    fun h => ⟨h.1, fun _ => h.2.1, fun _ => h.2.2.1, fun _ => h.2.2.2⟩⟩

@[simp] theorem stands_delete_iff :
    Stands t a ⟨.delete, old, new, size⟩ ↔ 0 < size ∧ old = a.1 :=
  ⟨fun h => ⟨h.size_pos, h.old_eq (by simp)⟩, fun h => ⟨h.1, fun _ => h.2, by simp, by simp⟩⟩

@[simp] theorem stands_insert_iff :
    Stands t a ⟨.insert, old, new, size⟩ ↔ 0 < size ∧ new = a.2 :=
  ⟨fun h => ⟨h.size_pos, h.new_eq (by simp)⟩, fun h => ⟨h.1, by simp, fun _ => h.2, by simp⟩⟩

@[simp] theorem past_keep : past ⟨.keep, old, new, size⟩ a = (a.1 + size, a.2 + size) := rfl

@[simp] theorem past_delete : past ⟨.delete, old, new, size⟩ a = (a.1 + size, a.2) := rfl

@[simp] theorem past_insert : past ⟨.insert, old, new, size⟩ a = (a.1, a.2 + size) := rfl

end

end Piece

/-- Parts of a comparison follow one another from one place to another: each `stands` where it
is met, and leads to the place `past` it. -/
def Follows {α : Type} (stands : Place → α → Prop) (past : α → Place → Place) :
    Place → List α → Place → Prop
  | a, [], b => a = b
  | a, x :: xs, b => stands a x ∧ Follows stands past (past x a) xs b

section
variable {α : Type} {stands : Place → α → Prop} {past : α → Place → Place} {a b c : Place}
  {xs ys : List α}

theorem follows_append :
    Follows stands past a (xs ++ ys) c ↔
      ∃ b, Follows stands past a xs b ∧ Follows stands past b ys c := by
  induction xs generalizing a with
  | nil => simp [Follows]
  | cons x xs ih => simp [Follows, ih, and_assoc]

theorem Follows.append (hxs : Follows stands past a xs b) (hys : Follows stands past b ys c) :
    Follows stands past a (xs ++ ys) c :=
  follows_append.mpr ⟨b, hxs, hys⟩

end

/-- The pieces of a script lead from one place to another. -/
abbrev Leads (t : Texts) : Place → List Piece → Place → Prop :=
  Follows (Piece.Stands t) Piece.past

variable {t : Texts} {a : Place} {ps : List Piece}

theorem leads_piece {change : Change} {old new size : Nat}
    (hstands : size ≠ 0 → Piece.Stands t a ⟨change, old, new, size⟩) :
    Leads t a (piece change old new size) (Piece.past ⟨change, old, new, size⟩ a) := by
  rw [piece]
  split
  · rename_i hsize
    subst hsize
    simp [Follows, Piece.past, Piece.oldLines, Piece.newLines]
  · rename_i hsize
    exact ⟨hstands hsize, rfl⟩

theorem leads_keep {i j n : Nat} (h : t.Agree (i, j) n) :
    Leads t (i, j) (piece .keep i j n) (i + n, j + n) :=
  leads_piece fun hn => Piece.stands_keep_iff.mpr ⟨Nat.pos_of_ne_zero hn, rfl, rfl, h⟩

theorem leads_delete (i j new n : Nat) :
    Leads t (i, j) (piece .delete i new n) (i + n, j) :=
  leads_piece fun hn => Piece.stands_delete_iff.mpr ⟨Nat.pos_of_ne_zero hn, rfl⟩

theorem leads_insert (i j old n : Nat) :
    Leads t (i, j) (piece .insert old j n) (i, j + n) :=
  leads_piece fun hn => Piece.stands_insert_iff.mpr ⟨Nat.pos_of_ne_zero hn, rfl⟩

namespace Window

/-- Number of lines that agree at the start of a window. -/
def lead (t : Texts) (w : Window) : Nat :=
  t.agreeing (min w.oldSize w.newSize) w.oldStart w.newStart

/-- Number of lines that agree at the end of a window. -/
def tail (t : Texts) (w : Window) : Nat :=
  t.agreeingBefore (min w.oldSize w.newSize) w.oldStop w.newStop

/-- The window without the lines that agree at its ends. -/
def core (t : Texts) (w : Window) : Window :=
  (w.dropFirst (w.lead t)).dropLast ((w.dropFirst (w.lead t)).tail t)

variable {w : Window} (hproper : w.Proper)
include hproper

theorem Proper.dropFirst (t : Texts) : (w.dropFirst (w.lead t)).Proper := by
  have hold := hproper.old_le
  have hnew := hproper.new_le
  have hlead := t.agreeing_le (min w.oldSize w.newSize) w.oldStart w.newStart
  simp only [Window.oldSize, Window.newSize] at hlead
  constructor <;> simp only [Window.dropFirst, lead, Window.oldSize, Window.newSize] <;> omega

theorem Proper.dropLast (t : Texts) : (w.dropLast (w.tail t)).Proper := by
  have hold := hproper.old_le
  have hnew := hproper.new_le
  have htail := (t.agreeingBefore_le (min w.oldSize w.newSize) w.oldStop w.newStop).1
  simp only [Window.oldSize, Window.newSize] at htail
  constructor <;> simp only [Window.dropLast, tail, Window.oldSize, Window.newSize] <;> omega

theorem Proper.core (t : Texts) : (w.core t).Proper := (hproper.dropFirst t).dropLast t

end Window

/-- The script for what is left of a window when the lines that agree at its ends are kept. -/
def middle (t : Texts) (fuel : Nat) (u : Window) : List Piece :=
  if u.oldSize = 0 || u.newSize = 0 then
    piece .delete u.oldStart u.newStart u.oldSize ++ piece .insert u.oldStart u.newStart u.newSize
  else
    match fuel, Search.divide? ⟨t, u⟩ with
    | fuel + 1, some (x, y) =>
        scriptFor t fuel { u with oldStop := x, newStop := y } ++
          scriptFor t fuel { u with oldStart := x, newStart := y }
    | _, _ =>
        piece .delete u.oldStart u.newStart u.oldSize ++
          piece .insert u.oldStart u.newStart u.newSize

theorem scriptFor_eq (t : Texts) (fuel : Nat) (w : Window) :
    scriptFor t fuel w =
      piece .keep w.oldStart w.newStart (w.lead t) ++ middle t fuel (w.core t) ++
        piece .keep (w.core t).oldStop (w.core t).newStop ((w.dropFirst (w.lead t)).tail t) := by
  unfold scriptFor
  rfl

theorem leads_replacement {u : Window} (hproper : u.Proper) :
    Leads t (u.oldStart, u.newStart)
      (piece .delete u.oldStart u.newStart u.oldSize ++
        piece .insert u.oldStart u.newStart u.newSize) (u.oldStop, u.newStop) := by
  have h := (leads_delete (t := t) u.oldStart u.newStart u.newStart u.oldSize).append
    (leads_insert _ u.newStart u.oldStart u.newSize)
  simp only [Window.oldSize, Window.newSize] at h ⊢
  rwa [Nat.add_sub_cancel' hproper.old_le, Nat.add_sub_cancel' hproper.new_le] at h

theorem leads_of_core {w : Window} (hproper : w.Proper)
    (h : Leads t ((w.core t).oldStart, (w.core t).newStart) ps
      ((w.core t).oldStop, (w.core t).newStop)) :
    Leads t (w.oldStart, w.newStart)
      (piece .keep w.oldStart w.newStart (w.lead t) ++ ps ++
        piece .keep (w.core t).oldStop (w.core t).newStop ((w.dropFirst (w.lead t)).tail t))
      (w.oldStop, w.newStop) := by
  have hlead := leads_keep (t.agree_agreeing (min w.oldSize w.newSize) w.oldStart w.newStart)
  have hfirst := hproper.dropFirst t
  have htail := leads_keep (t.agree_agreeingBefore
    (min (w.dropFirst (w.lead t)).oldSize (w.dropFirst (w.lead t)).newSize) w.oldStop w.newStop)
  have hbound := t.agreeingBefore_le
    (min (w.dropFirst (w.lead t)).oldSize (w.dropFirst (w.lead t)).newSize) w.oldStop w.newStop
  rw [Nat.sub_add_cancel hbound.2.1, Nat.sub_add_cancel hbound.2.2] at htail
  exact (hlead.append h).append htail

/-- The script for a window leads from its one end to the other. -/
theorem leads_scriptFor (t : Texts) (fuel : Nat) {w : Window} (hproper : w.Proper) :
    Leads t (w.oldStart, w.newStart) (scriptFor t fuel w) (w.oldStop, w.newStop) := by
  induction fuel generalizing w with
  | zero =>
      rw [scriptFor_eq]
      refine leads_of_core hproper ?_
      unfold middle
      split <;> exact leads_replacement (hproper.core t)
  | succ fuel ih =>
      rw [scriptFor_eq]
      refine leads_of_core hproper ?_
      have hcore := hproper.core t
      unfold middle
      split
      · exact leads_replacement hcore
      split
      · rename_i _ x y hfuel hdivide
        obtain rfl := Nat.succ.inj hfuel
        have hholds := Search.holds_of_divide? hcore hdivide
        have hfront : ({ w.core t with oldStop := x, newStop := y } : Window).Proper :=
          ⟨hholds.oldStart_le, hholds.newStart_le⟩
        have hback : ({ w.core t with oldStart := x, newStart := y } : Window).Proper :=
          ⟨hholds.le_oldStop, hholds.le_newStop⟩
        exact (ih hfront).append (ih hback)
      · exact leads_replacement hcore

theorem leads_script (t : Texts) : Leads t (0, 0) (script t) (t.old.size, t.new.size) := by
  have hproper : (⟨0, t.old.size, 0, t.new.size⟩ : Window).Proper :=
    ⟨Nat.zero_le _, Nat.zero_le _⟩
  exact leads_scriptFor t _ hproper

end SpanWeave.Diff
