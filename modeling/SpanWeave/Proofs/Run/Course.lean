import SpanWeave.Proofs.Batch.Schedule

namespace SpanWeave

/-- Things are dealt with one after another, each in the state that the one before it left. -/
inductive InTurn (deal : σ → α → β → σ → Prop) : σ → List α → List β → σ → Prop where
  | nil (s : σ) : InTurn deal s [] [] s
  | cons {s s₁ s₂ : σ} {a : α} {b : β} {as : List α} {bs : List β} (head : deal s a b s₁)
      (tail : InTurn deal s₁ as bs s₂) : InTurn deal s (a :: as) (b :: bs) s₂

theorem InTurn.append {deal : σ → α → β → σ → Prop} {s s₁ s₂ : σ} {as as' : List α}
    {bs bs' : List β} (h : InTurn deal s as bs s₁) (h' : InTurn deal s₁ as' bs' s₂) :
    InTurn deal s (as ++ as') (bs ++ bs') s₂ := by
  induction h with
  | nil => exact h'
  | cons head _ ih => exact .cons head (ih h')

namespace Disk

variable {d d' : Disk}

/-- Every path leads to the same place on both disks. -/
def SamePlaces (d d' : Disk) : Prop := d'.here = d.here ∧ ∀ path, d'.placeOf? path = d.placeOf? path

theorem SamePlaces.refl (d : Disk) : SamePlaces d d := ⟨rfl, fun _ => rfl⟩

theorem samePlaces_overwrite {path : Text} {l : Location} {old : Bytes}
    (h : d.locate path = .ok (l, .file old)) (bytes : Bytes) :
    SamePlaces d (d.overwrite path bytes) := by
  refine ⟨by rw [overwrite_eq h]; rfl, ?_⟩
  intro q
  rw [placeOf?, placeOf?, locate_overwrite h]
  cases d.locate q <;> rfl

end Disk

open BatchStats

/-- The last of some outcomes that changed the file at a place. -/
def lastChange? (d : Disk) (xs : List Entered) (l : Location) : Option FileOutcome :=
  ((altered xs).filter fun f => d.placeOf? f.path = some l).getLast?

theorem lastChange?_append (d : Disk) (xs ys : List Entered) (l : Location) :
    lastChange? d (xs ++ ys) l = (lastChange? d ys l).or (lastChange? d xs l) := by
  simp [lastChange?, altered, successes]

theorem lastChange?_congr {d d' : Disk} (h : d.SamePlaces d') (xs : List Entered) (l : Location) :
    lastChange? d' xs l = lastChange? d xs l := by
  simp only [lastChange?, h.2]

/-- The disk is changed by some outcomes, and by nothing else: a place holds the woven text of the
last one that changed the file there, or what it held before. -/
def Disk.ChangedBy (d : Disk) (xs : List Entered) (d' : Disk) : Prop :=
  d'.here = d.here ∧ ∀ l, d'.find? l =
    match lastChange? d xs l with
    | some f => some (.file (Text.encode f.woven.modified))
    | none => d.find? l

namespace Weaver

variable {w : Weaver} {d d' : Disk}

/-- A file is woven, and this is the outcome. -/
def Weaves (w : Weaver) (dryRun : Bool) (d : Disk) (path : Text) (x : Entered) (d' : Disk) : Prop :=
  x.1 = path ∧ w.weaveFile dryRun d path = (x.2, d')

theorem exists_inTurn_processFiles (w : Weaver) (c : BatchConfig) (s : BatchStats) (d : Disk)
    (paths : List Text) :
    ∃ xs, InTurn (w.Weaves c.dryRun) d paths xs (w.processFiles c s d paths).2 ∧
      (w.processFiles c s d paths).1 = xs.foldl (enter c) s := by
  induction paths generalizing s d with
  | nil => exact ⟨[], .nil d, rfl⟩
  | cons p paths ih =>
      obtain ⟨xs, hturn, hstats⟩ :=
        ih (s.add c p (w.weaveFile c.dryRun d p).1) (w.weaveFile c.dryRun d p).2
      exact ⟨(p, (w.weaveFile c.dryRun d p).1) :: xs, .cons ⟨rfl, rfl⟩ hturn, hstats⟩

theorem Weaves.samePlaces {dryRun : Bool} {path : Text} {x : Entered}
    (h : w.Weaves dryRun d path x d') : d.SamePlaces d' := by
  have hdisk : (w.weaveFile dryRun d path).2 = d' := by rw [h.2]
  rw [← hdisk, snd_weaveFile]
  split
  · rename_i bytes hbytes
    obtain ⟨-, o, hpreview, -⟩ := rewrite?_eq_some_iff.mp hbytes
    obtain ⟨l, old, hlocate⟩ := exists_locate_of_previewFile hpreview
    exact Disk.samePlaces_overwrite hlocate bytes
  · exact .refl d

theorem Weaves.eq_of_dryRun {path : Text} {x : Entered} (h : w.Weaves true d path x d') :
    d' = d := by
  have hdisk := snd_weaveFile_of_dryRun w d path
  rwa [h.2] at hdisk

theorem Weaves.changedBy {path : Text} {x : Entered} (h : w.Weaves false d path x d') :
    d.ChangedBy [x] d' := by
  refine ⟨h.samePlaces.1, ?_⟩
  obtain ⟨path, r⟩ := x
  obtain ⟨rfl, hrun⟩ := h
  intro l
  cases r with
  | error e =>
      obtain rfl := eq_of_weaveFile_eq_error hrun
      simp [lastChange?, altered, successes, Except.toOption]
  | ok f =>
      obtain ⟨m, bytes, hlocate, hpath, -, -, hwritten, rfl⟩ := of_weaveFile_eq_ok hrun
      have hplace : d.placeOf? f.path = some m := by
        rw [hpath, Disk.placeOf?, hlocate]
        rfl
      cases hchanged : f.woven.changed with
      | false => simp [lastChange?, altered, successes, Except.toOption, hwritten, hchanged]
      | true =>
          simp only [hwritten, hchanged, Bool.not_false, Bool.and_self, ↓reduceIte,
            Disk.find?_overwrite hlocate]
          by_cases hl : l = m
          · simp [lastChange?, altered, successes, Except.toOption, hchanged, hplace, hl]
          · simp [lastChange?, altered, successes, Except.toOption, hchanged, hplace, hl,
              Ne.symm hl]

theorem eq_of_inTurn_of_dryRun {paths : List Text} {xs : List Entered}
    (h : InTurn (w.Weaves true) d paths xs d') : d' = d := by
  induction h with
  | nil s => rfl
  | cons head _ ih => rw [ih, head.eq_of_dryRun]

/-- Files woven one after another leave at each place what the last change there has left. -/
theorem changedBy_of_inTurn {paths : List Text} {xs : List Entered}
    (h : InTurn (w.Weaves false) d paths xs d') : d.ChangedBy xs d' := by
  induction h with
  | nil s => exact ⟨rfl, fun _ => rfl⟩
  | cons head _ ih =>
      rename_i d d₁ d₂ path x paths xs _
      refine ⟨ih.1.trans head.samePlaces.1, ?_⟩
      intro l
      have hlast : lastChange? d (x :: xs) l = (lastChange? d xs l).or (lastChange? d [x] l) :=
        lastChange?_append d [x] xs l
      rw [ih.2 l, lastChange?_congr head.samePlaces, head.changedBy.2 l, hlast]
      cases lastChange? d xs l <;> rfl

end Weaver

end SpanWeave
