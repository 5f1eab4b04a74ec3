import SpanWeave.Disk

namespace SpanWeave.Disk

/-- The place from which the steps of a path are taken. -/
def origin (d : Disk) (path : Text) : Location := if path.head? = some '/' then [] else d.here

theorem locate_eq (d : Disk) (path : Text) :
    d.locate path =
      if path = [] then .error .missing
      else
        match d.follow (d.origin path) (Text.splitAt '/' path) with
        | .error t => .error t
        | .ok l =>
            match d.find? l with
            | some e => .ok (l, e)
            | none => .error .missing := rfl

theorem locate_eq_ok_iff {d : Disk} {path : Text} {l : Location} {e : Entry} :
    d.locate path = .ok (l, e) ↔
      path ≠ [] ∧ d.follow (d.origin path) (Text.splitAt '/' path) = .ok l ∧
        d.find? l = some e := by
  rw [locate_eq]
  by_cases hpath : path = []
  · simp [hpath]
  simp only [hpath, ↓reduceIte, ne_eq, not_false_eq_true, true_and]
  cases d.follow (d.origin path) (Text.splitAt '/' path) with
  | error t => simp
  | ok m =>
      cases hfind : d.find? m with
      | none =>
          simp only [hfind, reduceCtorEq, Except.ok.injEq, false_iff, not_and]
          rintro rfl
          simp [hfind]
      | some f =>
          simp only [hfind, Except.ok.injEq, Prod.mk.injEq]
          constructor
          · rintro ⟨rfl, rfl⟩
            exact ⟨rfl, hfind⟩
          · rintro ⟨rfl, h⟩
            exact ⟨rfl, Option.some.inj (hfind.symm.trans h)⟩

theorem ne_nil_of_locate {d : Disk} {path : Text} {l : Location} {bytes : Bytes}
    (h : d.locate path = .ok (l, .file bytes)) : l ≠ [] := by
  rintro rfl
  have hfind := (locate_eq_ok_iff.mp h).2.2
  simp [find?] at hfind

theorem find?_place {d : Disk} {l : Location} (hl : l ≠ []) (e : Entry) (m : Location) :
    (d.place l e).find? m = if m = l then some e else d.find? m := by
  simp only [find?, place, List.find?_cons, List.find?_filter]
  by_cases hm : m = []
  · subst hm
    simp [Ne.symm hl]
  by_cases hml : m = l
  · subst hml
    simp [hm]
  · have hlm : l ≠ m := Ne.symm hml
    simp only [hm, hml, hlm, decide_false, ↓reduceIte]
    congr 2
    funext x
    by_cases hx : x.1 = m <;> simp [hx, hml]

section
variable {d : Disk} {path : Text} {l : Location} {old : Bytes}
  (h : d.locate path = .ok (l, .file old)) (bytes : Bytes)
include h

theorem overwrite_eq : d.overwrite path bytes = d.place l (.file bytes) := by
  simp only [overwrite, h]

theorem find?_overwrite (m : Location) :
    (d.overwrite path bytes).find? m = if m = l then some (.file bytes) else d.find? m := by
  rw [overwrite_eq h, find?_place (ne_nil_of_locate h)]

theorem follow_overwrite (m : Location) (pieces : List Text) :
    (d.overwrite path bytes).follow m pieces = d.follow m pieces := by
  induction pieces generalizing m with
  | nil => rfl
  | cons piece rest ih =>
      have hold := (locate_eq_ok_iff.mp h).2.2
      simp only [follow, find?_overwrite h, ih]
      by_cases hm : m = l
      · subst hm
        simp [hold]
      · simp [hm]

/-- A path leads where it led before a file was overwritten, and to the new contents if that is
the place of the file. -/
theorem locate_overwrite (q : Text) :
    (d.overwrite path bytes).locate q =
      (d.locate q).map fun (m, e) => (m, if m = l then .file bytes else e) := by
  have hold := (locate_eq_ok_iff.mp h).2.2
  have horigin : (d.overwrite path bytes).origin q = d.origin q := by
    rw [overwrite_eq h]
    rfl
  rw [locate_eq, locate_eq, horigin, follow_overwrite h]
  split
  · rfl
  cases d.follow (d.origin q) (Text.splitAt '/' q) with
  | error t => rfl
  | ok m =>
      simp only [find?_overwrite h]
      by_cases hm : m = l
      · subst hm
        simp [hold, Except.map]
      · simp only [hm, ↓reduceIte]
        cases d.find? m <;> simp [Except.map, hm]

theorem locate_overwrite_self :
    (d.overwrite path bytes).locate path = .ok (l, .file bytes) := by
  rw [locate_overwrite h, h]
  simp [Except.map]

end

/-- The paths differ and lead to different places. -/
def LeadApart (d : Disk) (p q : Text) : Prop :=
  p ≠ q ∧ ∀ l e f, d.locate p = .ok (l, e) → d.locate q ≠ .ok (l, f)

theorem LeadApart.symm {d : Disk} {p q : Text} (h : d.LeadApart p q) : d.LeadApart q p :=
  ⟨Ne.symm h.1, fun l e f hq hp => h.2 l f e hp hq⟩

theorem LeadApart.locate_overwrite {d : Disk} {p q : Text} (hapart : d.LeadApart p q)
    {l : Location} {old : Bytes} (h : d.locate p = .ok (l, .file old)) (bytes : Bytes) :
    (d.overwrite p bytes).locate q = d.locate q := by
  rw [Disk.locate_overwrite h]
  cases hq : d.locate q with
  | error t => rfl
  | ok found =>
      obtain ⟨m, e⟩ := found
      have hm : m ≠ l := by
        rintro rfl
        exact hapart.2 m _ e h hq
      simp [Except.map, hm]

theorem read_eq_ok_iff {d : Disk} {path : Text} {bytes : Bytes} :
    d.read path = .ok bytes ↔ ∃ l, d.locate path = .ok (l, .file bytes) := by
  simp only [read]
  split <;> simp_all

end SpanWeave.Disk
