import Mathlib.Data.List.Forall2
import SpanWeave.Proofs.Diff.Script

namespace SpanWeave.Diff

/-- Some lines of a text: the place of the first, and their number. -/
structure Range where
  start : Nat
  size : Nat
  deriving DecidableEq, Repr

namespace Range

def stop (r : Range) : Nat := r.start + r.size

def cut (r : Range) (lines : List Text) : List Text := (lines.drop r.start).take r.size

end Range

/-- A hunk as a diff tells it: a header, and lines with their fates. -/
structure Told where
  old : Range
  new : Range
  lines : List (Change × Text)
  deriving DecidableEq, Repr

namespace Change

/-- The change that undoes a change. -/
def reverse : Change → Change
  | .keep => .keep
  | .delete => .insert
  | .insert => .delete

end Change

/-- The lines that are there before the change. -/
def oldsOf (lines : List (Change × Text)) : List Text :=
  lines.filterMap fun x => if x.1 = .insert then none else some x.2

/-- The lines that are there after the change. -/
def newsOf (lines : List (Change × Text)) : List Text :=
  lines.filterMap fun x => if x.1 = .delete then none else some x.2

namespace Told

/-- The hunk that undoes a hunk. -/
def reverse (h : Told) : Told := ⟨h.new, h.old, h.lines.map fun x => (x.1.reverse, x.2)⟩

/-- The header tells the number of lines that follow it, and where both texts have them. -/
structure Agrees (h : Told) (old new : List Text) : Prop where
  old_size : h.old.size = (oldsOf h.lines).length
  new_size : h.new.size = (newsOf h.lines).length
  old_cut : h.old.cut old = oldsOf h.lines
  new_cut : h.new.cut new = newsOf h.lines

theorem oldsOf_reverse (h : Told) : oldsOf h.reverse.lines = newsOf h.lines := by
  simp only [oldsOf, newsOf, reverse, List.filterMap_map]
  refine List.filterMap_congr fun x _ => ?_
  obtain ⟨c, l⟩ := x
  cases c <;> rfl

theorem newsOf_reverse (h : Told) : newsOf h.reverse.lines = oldsOf h.lines := by
  simp only [oldsOf, newsOf, reverse, List.filterMap_map]
  refine List.filterMap_congr fun x _ => ?_
  obtain ⟨c, l⟩ := x
  cases c <;> rfl

theorem Agrees.reverse {h : Told} {old new : List Text} (hagrees : h.Agrees old new) :
    h.reverse.Agrees new old := by
  refine ⟨?_, ?_, ?_, ?_⟩
  · rw [oldsOf_reverse]
    exact hagrees.new_size
  · rw [newsOf_reverse]
    exact hagrees.old_size
  · rw [oldsOf_reverse]
    exact hagrees.new_cut
  · rw [newsOf_reverse]
    exact hagrees.old_cut

theorem reverse_reverse (h : Told) : h.reverse.reverse = h := by
  have hchange : ∀ x : Change × Text, (x.1.reverse.reverse, x.2) = x := by
    rintro ⟨c, l⟩
    cases c <;> rfl
  simp [reverse, Function.comp_def, hchange]

/-- The hunks have the same lines, which begin at the same place in one of the texts. -/
structure Near (h p : Told) : Prop where
  lines_eq : h.lines = p.lines
  start_eq : h.old.start = p.old.start ∨ h.new.start = p.new.start

theorem Near.reverse {h p : Told} (hnear : h.Near p) : h.reverse.Near p.reverse := by
  refine ⟨?_, hnear.start_eq.symm⟩
  rw [Told.reverse, Told.reverse, hnear.lines_eq]

theorem map_lines_eq {hs ps : List Told} (h : List.Forall₂ Near hs ps) :
    hs.map lines = ps.map lines := by
  induction h with
  | nil => rfl
  | cons hnear _ ih => rw [List.map_cons, List.map_cons, hnear.lines_eq, ih]

end Told

/-- Applies hunks to a text of which the first `done` lines have become `made` lines. -/
def patchFrom (lines : List Text) : (done made : Nat) → List Told → Option (List Text)
  | done, _, [] => some (lines.drop done)
  | done, made, h :: hs =>
      if done ≤ h.old.start ∧ h.new.start = made + (h.old.start - done) ∧
          h.old.size = (oldsOf h.lines).length ∧ h.new.size = (newsOf h.lines).length ∧
          h.old.cut lines = oldsOf h.lines then
        (patchFrom lines h.old.stop h.new.stop hs).map fun rest =>
          (lines.drop done).take (h.old.start - done) ++ newsOf h.lines ++ rest
      else none

def patch (lines : List Text) (hs : List Told) : Option (List Text) := patchFrom lines 0 0 hs

/-- The hunks turn one text into another, in both directions. -/
structure Faithful (old new : List Text) (hs : List Told) : Prop where
  ordered : hs.Pairwise fun h h' => h.old.stop ≤ h'.old.start ∧ h.new.stop ≤ h'.new.start
  agrees : ∀ h ∈ hs, h.Agrees old new
  patched : patch old hs = some new
  unpatched : patch new (hs.map Told.reverse) = some old

/-- From a place on, hunks tell all that differs between the texts. -/
inductive Bridges (old new : List Text) : Place → List Told → Prop
  | done {a : Place} (h : old.drop a.1 = new.drop a.2) : Bridges old new a []
  | hunk {a : Place} {h : Told} {hs : List Told} (gap : Nat)
      (hgap : (old.drop a.1).take gap = (new.drop a.2).take gap)
      (hold : h.old.start = a.1 + gap) (hnew : h.new.start = a.2 + gap) (hagrees : h.Agrees old new)
      (hrest : Bridges old new (h.old.stop, h.new.stop) hs) : Bridges old new a (h :: hs)

namespace Bridges

variable {old new : List Text} {a : Place} {hs : List Told}

theorem reverse (h : Bridges old new a hs) :
    Bridges new old (a.2, a.1) (hs.map Told.reverse) := by
  induction h with
  | done h => exact .done h.symm
  | hunk gap hgap hold hnew hagrees _ ih => exact .hunk gap hgap.symm hnew hold hagrees.reverse ih

theorem start_le (h : Bridges old new a hs) :
    ∀ g ∈ hs, a.1 ≤ g.old.start ∧ a.2 ≤ g.new.start := by
  induction h with
  | done h => simp
  | @hunk a g hs gap hgap hold hnew hagrees hrest ih =>
      intro g' hg'
      rcases List.mem_cons.mp hg' with rfl | hg'
      · omega
      · have := ih g' hg'
        simp only [Range.stop] at this
        omega

theorem ordered (h : Bridges old new a hs) :
    hs.Pairwise fun h h' => h.old.stop ≤ h'.old.start ∧ h.new.stop ≤ h'.new.start := by
  induction h with
  | done h => exact .nil
  | hunk gap hgap hold hnew hagrees hrest ih => exact .cons (hrest.start_le) ih

theorem agrees (h : Bridges old new a hs) : ∀ g ∈ hs, g.Agrees old new := by
  induction h with
  | done h => simp
  | hunk gap hgap hold hnew hagrees hrest ih => simpa using ⟨hagrees, ih⟩

theorem patchFrom_eq (h : Bridges old new a hs) :
    patchFrom old a.1 a.2 hs = some (new.drop a.2) := by
  induction h with
  | done h => rw [patchFrom, h]
  | @hunk a g hs gap hgap hold hnew hagrees hrest ih =>
      have hgap' : g.old.start - a.1 = gap := by omega
      have hstop : new.drop g.new.stop = ((new.drop a.2).drop gap).drop g.new.size := by
        rw [List.drop_drop, List.drop_drop, Range.stop, hnew, Nat.add_assoc]
      have hcut : newsOf g.lines = ((new.drop a.2).drop gap).take g.new.size := by
        rw [← hagrees.new_cut, Range.cut, hnew, List.drop_drop]
      rw [patchFrom, if_pos ⟨by omega, by omega, hagrees.old_size, hagrees.new_size,
        hagrees.old_cut⟩, ih, hgap', hgap, Option.map_some]
      simp only
      rw [hstop, hcut, List.append_assoc, List.take_append_drop, List.take_append_drop]

theorem faithful (h : Bridges old new (0, 0) hs) : Faithful old new hs :=
  ⟨h.ordered, h.agrees, h.patchFrom_eq, h.reverse.patchFrom_eq⟩

theorem eq_of_patchFrom {ps : List Told} (h : Bridges old new a ps)
    (hnear : List.Forall₂ Told.Near hs ps) (hpatch : patchFrom old a.1 a.2 hs ≠ none) :
    hs = ps := by
  induction h generalizing hs with
  | done h => exact List.forall₂_nil_right_iff.mp hnear
  | @hunk a p ps gap hgap hold hnew hagrees hrest ih =>
      obtain ⟨g, hs, hg, hnears, rfl⟩ := List.forall₂_cons_right_iff.mp hnear
      rw [patchFrom] at hpatch
      split at hpatch
      · rename_i hguard
        obtain ⟨hle, hstart, holdSize, hnewSize, -⟩ := hguard
        rw [hg.lines_eq, ← hagrees.old_size] at holdSize
        rw [hg.lines_eq, ← hagrees.new_size] at hnewSize
        -- the start that is right puts the other one right
        have hstarts : g.old.start = p.old.start ∧ g.new.start = p.new.start := by
          have := hg.start_eq
          omega
        have heq : g = p := by
          obtain ⟨⟨_, _⟩, ⟨_, _⟩, _⟩ := g
          obtain ⟨⟨_, _⟩, ⟨_, _⟩, _⟩ := p
          simp only [Told.mk.injEq, Range.mk.injEq]
          exact ⟨⟨hstarts.1, holdSize⟩, ⟨hstarts.2, hnewSize⟩, hg.lines_eq⟩
        subst heq
        refine congrArg (g :: ·) (ih hnears fun hnone => hpatch ?_)
        rw [hnone, Option.map_none]
      · exact absurd rfl hpatch

/-- Hunks near those that bridge two texts are refused unless they are the same, whichever of
the texts they are applied to. -/
theorem patch_ne_none_iff {ps : List Told} (h : Bridges old new (0, 0) ps)
    (hnear : List.Forall₂ Told.Near hs ps) :
    (patch old hs ≠ none ↔ hs = ps) ∧ (patch new (hs.map Told.reverse) ≠ none ↔ hs = ps) := by
  constructor
  · constructor
    · exact h.eq_of_patchFrom hnear
    · rintro rfl
      rw [h.faithful.patched]
      exact Option.some_ne_none _
  · constructor
    · intro hpatch
      have hnear' : List.Forall₂ Told.Near (hs.map Told.reverse) (ps.map Told.reverse) := by
        rw [List.forall₂_map_left_iff, List.forall₂_map_right_iff]
        exact hnear.imp fun _ _ => Told.Near.reverse
      have hinj : Function.Injective Told.reverse :=
        Function.Involutive.injective Told.reverse_reverse
      exact hinj.list_map (h.reverse.eq_of_patchFrom hnear' hpatch)
    · rintro rfl
      rw [h.faithful.unpatched]
      exact Option.some_ne_none _

end Bridges

end SpanWeave.Diff
