import Mathlib.Data.List.Forall2
import SpanWeave.Survey

namespace SpanWeave.Survey

open Syntax

theorem retarget_cases (names : List Text) (v : Visit) :
    retarget names v = v ∨
      ∃ span wrapped, v.block = some (span, wrapped) ∧
        retarget names v =
          { v with target := { v.target with overloaded := true, span }, wrapped } := by
  simp only [retarget]
  split
  · split
    · rename_i span wrapped hblock
      exact Or.inr ⟨span, wrapped, hblock, rfl⟩
    · exact Or.inl rfl
  · exact Or.inl rfl

theorem target_retarget (names : List Text) (v : Visit) :
    (retarget names v).target.shape = v.target.shape ∧
      (retarget names v).target.name = v.target.name ∧
      (retarget names v).target.enclosing = v.target.enclosing := by
  simp only [retarget]
  split
  · split <;> exact ⟨rfl, rfl, rfl⟩
  · exact ⟨rfl, rfl, rfl⟩

theorem of_skipReason?_eq_none {skip : Text → Bool} {entry : Text} {v : Visit}
    (h : skipReason? skip entry v = none) :
    v.target.shape ≠ .constructorMethod ∧ v.target.shape ≠ .overloadSignature ∧
      v.wrapped = false := by
  simp only [skipReason?] at h
  split at h
  · simp at h
  · split at h
    · simp at h
    · split at h
      · simp at h
      · split at h
        · simp at h
        · split at h
          · simp at h
          · rename_i hconstructor hsignature _ _ _ _ hwrapped
            exact ⟨hconstructor, hsignature, by simpa using hwrapped⟩

theorem exists_identifier_of_skipReason?_eq_none {skip : Text → Bool} {entry : Text} {v : Visit}
    (h : skipReason? skip entry v = none) :
    ∃ name, v.target.identifier? = some name ∧
      (v.target.shape.isMember = false → name ≠ entry) := by
  simp only [skipReason?] at h
  split at h
  · simp at h
  · split at h
    · simp at h
    · split at h
      · simp at h
      · rename_i name hname
        refine ⟨name, hname, ?_⟩
        rintro hmember rfl
        simp [hmember] at h

/-- The name of an overload signature outside every named class. -/
def signatureName? (v : Visit) : Option Text :=
  if v.target.shape = .overloadSignature && v.target.enclosing = none then v.target.name else none

theorem signatureNames_eq (visits : List Visit) :
    signatureNames visits = visits.filterMap signatureName? := rfl

/-- Visits that agree in all that decides whether a function is left alone. -/
structure Same (v v' : Visit) : Prop where
  shape : v.target.shape = v'.target.shape
  name : v.target.name = v'.target.name
  enclosing : v.target.enclosing = v'.target.enclosing
  isGenerator : v.target.isGenerator = v'.target.isGenerator
  overloaded : v.target.overloaded = v'.target.overloaded
  wrapped : v.wrapped = v'.wrapped
  block : v.block.map Prod.snd = v'.block.map Prod.snd

theorem Same.identifier? {v v' : Visit} (h : Same v v') :
    v.target.identifier? = v'.target.identifier? := by
  simp only [Target.identifier?, h.shape, h.name, h.enclosing]

theorem Same.signatureName? {v v' : Visit} (h : Same v v') :
    signatureName? v = signatureName? v' := by
  simp only [Survey.signatureName?, h.shape, h.enclosing, h.name]

theorem Same.retarget {v v' : Visit} (h : Same v v') (names : List Text) :
    Same (retarget names v) (retarget names v') := by
  have hcond : (v.target.shape.isDeclaration && v.target.name.any names.contains) =
      (v'.target.shape.isDeclaration && v'.target.name.any names.contains) := by
    rw [h.shape, h.name]
  have hblock := h.block
  simp only [Survey.retarget]
  rw [hcond]
  split
  · cases hb : v.block with
    | none =>
        cases hb' : v'.block with
        | none => exact h
        | some b' => simp [hb, hb'] at hblock
    | some b =>
        cases hb' : v'.block with
        | none => simp [hb, hb'] at hblock
        | some b' =>
            have hwrapped : b.2 = b'.2 := by simpa [hb, hb'] using hblock
            exact ⟨h.shape, h.name, h.enclosing, h.isGenerator, rfl, hwrapped,
              by simpa using hwrapped⟩
  · exact h

theorem Same.skipReason? {v v' : Visit} (h : Same v v') (skip : Text → Bool) (entry : Text) :
    skipReason? skip entry v = skipReason? skip entry v' := by
  simp only [Survey.skipReason?, h.identifier?, h.shape, h.name, h.isGenerator, h.overloaded,
    h.wrapped]

/-- A function under the identifier of a candidate that is wrapped is left alone for that. -/
theorem skipReason?_eq_alreadyWrapped {skip : Text → Bool} {entry : Text} {v v' : Visit}
    (h : skipReason? skip entry v = none)
    (hmember : v'.target.shape.isMember = v.target.shape.isMember)
    (hname : v'.target.name = v.target.name)
    (henclosing : v'.target.enclosing = v.target.enclosing)
    (hconstructor : v'.target.shape ≠ .constructorMethod)
    (hsignature : v'.target.shape ≠ .overloadSignature) (hwrapped : v'.wrapped = true) :
    skipReason? skip entry v' = some .alreadyWrapped := by
  have hidentifier : v'.target.identifier? = v.target.identifier? := by
    simp only [Target.identifier?, hmember, hname, henclosing]
  simp only [skipReason?] at h
  split at h
  · simp at h
  · split at h
    · simp at h
    · split at h
      · simp at h
      · rename_i identifier hsome
        split at h
        · simp at h
        · rename_i hmatch
          simp only [skipReason?, hconstructor, hsignature, hidentifier, hsome, hmember, hname,
            hmatch, hwrapped, ↓reduceIte, Bool.false_eq_true]

section related
variable {V : Visit → Visit → Prop} {C : Container → Container → Prop}

/-- Two contributions that correspond visit by visit and container by container. -/
def Related (V : Visit → Visit → Prop) (C : Container → Container → Prop)
    (p p' : List Visit × List Container) : Prop :=
  List.Forall₂ V p.1 p'.1 ∧ List.Forall₂ C p.2 p'.2

theorem related_nil : Related V C ([], []) ([], []) := ⟨.nil, .nil⟩

theorem related_visit {v v' : Visit} (h : V v v') : Related V C ([v], []) ([v'], []) :=
  ⟨.cons h .nil, .nil⟩

theorem related_container {c c' : Container} (h : C c c') : Related V C ([], [c]) ([], [c']) :=
  ⟨.nil, .cons h .nil⟩

theorem Related.both {p p' q q' : List Visit × List Container} (hp : Related V C p p')
    (hq : Related V C q q') : Related V C (Survey.both p q) (Survey.both p' q') :=
  ⟨List.rel_append hp.1 hq.1, List.rel_append hp.2 hq.2⟩

theorem related_visitAll {R : Node → Node → Prop}
    {visit visit' : Node → List Visit × List Container} {ns ns' : List Node}
    (hvisit : ∀ n n', R n n' → Related V C (visit n) (visit' n')) (h : List.Forall₂ R ns ns') :
    Related V C (visitAll visit ns) (visitAll visit' ns') := by
  induction h with
  | nil => exact related_nil
  | cons hn _ ih => exact (hvisit _ _ hn).both ih

end related

end SpanWeave.Survey
