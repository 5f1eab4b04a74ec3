import SpanWeave.Proofs.Diff.Header
import SpanWeave.Proofs.Diff.Reader
import SpanWeave.Proofs.SourceFile

/-!
Unified diffs as patches. The lines of a diff are never wrong: there are headers for them with
which they turn either text into the other. The headers shown are these unless the script begins
or ends with a change that is recorded at a wrong place, and then the diff is refused.
-/

namespace SpanWeave.Diff

/-- The segments of the script between two texts. -/
def segmentsBetween (t : Texts) : List Segment := segmentsFrom [] (compact t (script t))

theorem hunksBetween_eq (t : Texts) : hunksBetween t = hunksOf (segmentsBetween t) := rfl

theorem covers_segmentsBetween (t : Texts) :
    Covers t (0, 0) (segmentsBetween t) (t.old.size, t.new.size) :=
  covers_segmentsFrom rfl (leads_compact_script t)

/-- The hunks between two texts with their headers put right. -/
def placed (t : Texts) : List Told :=
  (hunksOf (repair (0, 0) (segmentsBetween t))).map (Hunk.told t)

theorem bridges_placed (t : Texts) : Bridges t.old.toList t.new.toList (0, 0) (placed t) :=
  bridges_hunksOf (traces_repair (covers_segmentsBetween t))

theorem told_lines (t : Texts) (h : Hunk) :
    (Hunk.told t h).lines = h.flatMap (Segment.lines t) := by
  cases h with
  | nil => rfl
  | cons s h =>
      rw [Hunk.told, List.head?_cons, List.getLast?_cons]

theorem near_told {t : Texts} {h h' : Hunk} (hh : List.Forall₂ Restated h h') :
    (Hunk.told t h).Near (Hunk.told t h') := by
  refine ⟨?_, ?_⟩
  · rw [told_lines, told_lines, flatMap_lines_eq hh]
  · cases hh with
    | nil => exact .inl rfl
    | cons hs hrest =>
        rw [Hunk.told, Hunk.told, List.head?_cons, List.head?_cons, List.getLast?_cons,
          List.getLast?_cons]
        exact hs.start_eq

theorem near_placed (t : Texts) :
    List.Forall₂ Told.Near ((hunksBetween t).map (Hunk.told t)) (placed t) := by
  rw [placed, List.forall₂_map_left_iff, List.forall₂_map_right_iff]
  exact (restated_hunksOf (covers_segmentsBetween t)).imp fun _ _ => near_told

theorem agreeing_self (lines : Array Text) (limit i : Nat) :
    Texts.agreeing ⟨lines, lines⟩ limit i i = limit := by
  induction limit generalizing i with
  | zero => rfl
  | succ limit ih => simp [Texts.agreeing, ih]

theorem script_self (lines : Array Text) :
    script ⟨lines, lines⟩ = piece .keep 0 0 lines.size := by
  have hlead : Window.lead ⟨lines, lines⟩ ⟨0, lines.size, 0, lines.size⟩ = lines.size := by
    simp [Window.lead, Window.oldSize, Window.newSize, agreeing_self]
  rw [script, scriptFor_eq]
  dsimp only
  simp [hlead, Window.core, Window.tail, Window.dropFirst, Window.dropLast, Window.oldSize,
    Window.newSize, Texts.agreeingBefore, middle, piece]

theorem hunks_keep (old new n : Nat) : hunks [⟨.keep, old, new, n⟩] = [] := by
  let s : Segment := ((⟨true, old, n, new, n⟩ : Segment).lastLines context).firstLines context
  have htrim : trimBack (trimFront (segmentsFrom [] [⟨.keep, old, new, n⟩])) = [s] := rfl
  have hshort : s.oldSize ≤ context := Nat.min_le_right _ _
  rw [hunks, htrim, hunksFrom, if_neg]
  · rfl
  · simp only [Bool.and_eq_true, decide_eq_true_eq]
    omega

theorem hunksBetween_self (lines : Array Text) : hunksBetween ⟨lines, lines⟩ = [] := by
  rw [hunksBetween, script_self, piece]
  split
  · rfl
  · have hcompact : compact ⟨lines, lines⟩ [⟨.keep, 0, 0, lines.size⟩] =
        [⟨.keep, 0, 0, lines.size⟩] := rfl
    rw [hcompact, hunks_keep]

theorem unified_eq_nil_iff {old new : Text} : unified old new = [] ↔ old = new := by
  constructor
  · -- without hunks there is nothing to bridge
    intro h
    have hread := read?_unified old new
    rw [h] at hread
    have hnil := List.map_eq_nil_iff.mp (Option.some.inj (hread.symm.trans rfl : some _ = some []))
    have hnear := near_placed (.ofTexts old new)
    rw [hnil] at hnear
    have hbridges := bridges_placed (.ofTexts old new)
    rw [List.forall₂_nil_left_iff.mp hnear] at hbridges
    cases hbridges with
    | done hsame =>
        rw [← flatten_linesOf old, ← flatten_linesOf new]
        exact congrArg List.flatten hsame
  · rintro rfl
    rw [unified, Texts.ofTexts, hunksBetween_self]
    rfl

/-- The first and the last change are recorded where the texts begin and end. -/
def Aligned (t : Texts) : Prop :=
  StartsAt (0, 0) (segmentsBetween t) ∧ EndsAt (t.old.size, t.new.size) (segmentsBetween t)

theorem told_eq_placed_iff {old new : Text} (hne : old ≠ new) :
    (hunksBetween (.ofTexts old new)).map (Hunk.told (.ofTexts old new)) =
      placed (.ofTexts old new) ↔ Aligned (.ofTexts old new) := by
  have hsegments : segmentsBetween (.ofTexts old new) ≠ [] := by
    intro hnil
    refine hne (unified_eq_nil_iff.mp ?_)
    rw [unified, hunksBetween_eq, hnil]
    rfl
  exact told_hunksOf_iff (covers_segmentsBetween _) hsegments

theorem ofFile_eq_nil_iff {path old new : Text} : ofFile path old new = [] ↔ old = new := by
  rw [ofFile]
  split
  · exact iff_of_true rfl (unified_eq_nil_iff.mp ‹_›)
  · exact iff_of_false (by simp) (mt unified_eq_nil_iff.mpr ‹_›)

theorem patch_of_unified (old new path : Text) :
    (unified old new = [] ↔ old = new) ∧ (ofFile path old new = [] ↔ old = new) ∧
      (old ≠ new → ofFile path old new =
        "--- a/".toList ++ path ++ "\n+++ b/".toList ++ path ++ "\n".toList ++ unified old new) ∧
      (∃ shown placed : List Told, read? (unified old new) = some shown ∧
        Faithful (linesOf old) (linesOf new) placed ∧
        shown.map Told.lines = placed.map Told.lines ∧
        (patch (linesOf old) shown ≠ none ↔ shown = placed) ∧
        (patch (linesOf new) (shown.map Told.reverse) ≠ none ↔ shown = placed) ∧
        (old ≠ new → (shown = placed ↔ Aligned (.ofTexts old new)))) ∧
      ∀ (w : Weaver) (dryRun : Bool) (d d' : Disk) (outcome : FileOutcome),
        w.weaveFile dryRun d path = (.ok outcome, d') →
          ∃ l bytes, d.locate path = .ok (l, .file bytes) ∧
            outcome.diff = ofFile path (Text.decode bytes) outcome.woven.modified := by
  refine ⟨unified_eq_nil_iff, ofFile_eq_nil_iff, ?_, ?_, ?_⟩
  · intro hne
    rw [ofFile, if_neg (mt unified_eq_nil_iff.mp hne)]
  · have hbridges := bridges_placed (.ofTexts old new)
    have hnear := near_placed (.ofTexts old new)
    obtain ⟨hpatch, hunpatch⟩ := hbridges.patch_ne_none_iff hnear
    exact ⟨_, _, read?_unified old new, hbridges.faithful, Told.map_lines_eq hnear, hpatch,
      hunpatch, told_eq_placed_iff⟩
  · intro w dryRun d d' outcome h
    obtain ⟨l, bytes, hlocate, -, -, hdiff, -⟩ := Weaver.of_weaveFile_eq_ok h
    exact ⟨l, bytes, hlocate, hdiff⟩

example : (read? (unified "a\nb".toList "a\nc\r\n".toList)).bind (patch (linesOf "a\nb".toList)) =
    some (linesOf "a\nc\r\n".toList) := by decide +kernel

/-- A deletion and an insertion that have changed places are recorded where they stood before. -/
theorem diff_of_shiftedLine_refused :
    (read? (unified "a\nb\n".toList "b\nb\n".toList)).map
      (fun shown => (patch (linesOf "a\nb\n".toList) shown,
        patch (linesOf "b\nb\n".toList) (shown.map Told.reverse))) = some (none, none) := by
  decide +kernel

end SpanWeave.Diff
