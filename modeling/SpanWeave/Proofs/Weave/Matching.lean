import SpanWeave.Proofs.Weave.Alike

namespace SpanWeave

open Syntax

namespace Rereading

variable {r : Rereading}

/-- The function `v` of the source is found again as `v'`. -/
structure Matched (r : Rereading) (v v' : Visit) : Prop where
  signature : Survey.signatureName? v' = Survey.signatureName? v
  identifier : v'.target.identifier? = v.target.identifier?
  reason : r.reason? v' = some ((r.reason? v).getD .alreadyWrapped)

theorem isWrapped_iff {v : Visit} : r.isWrapped v = true ↔ r.reason? v = none := by
  simp [isWrapped]

theorem isWrapped_eq_false_iff {v : Visit} :
    r.isWrapped v = false ↔ ∃ reason, r.reason? v = some reason := by
  rw [isWrapped, ← Bool.not_eq_true, Option.isNone_iff_eq_none, ← Option.ne_none_iff_exists']

theorem matched_of_same {v v' : Visit} (h : Survey.Same v v') (hkept : r.isWrapped v = false) :
    Matched r v v' := by
  obtain ⟨reason, hreason⟩ := isWrapped_eq_false_iff.mp hkept
  refine ⟨h.signatureName?.symm, h.identifier?.symm, ?_⟩
  · rw [hreason, Option.getD_some, ← hreason]
    exact ((h.retarget r.names).skipReason? r.skip r.entry).symm

theorem matched_of_wrapped {v v' : Visit} (h : r.isWrapped v = true)
    (hmember : v'.target.shape.isMember = v.target.shape.isMember)
    (hname : v'.target.name = v.target.name)
    (henclosing : v'.target.enclosing = v.target.enclosing)
    (hconstructor : v'.target.shape ≠ .constructorMethod)
    (hsignature : v'.target.shape ≠ .overloadSignature)
    (hwrapped : (Survey.retarget r.names v').wrapped = true) : Matched r v v' := by
  have hnone := isWrapped_iff.mp h
  obtain ⟨hs, hn, he⟩ := Survey.target_retarget r.names v
  obtain ⟨hs', hn', he'⟩ := Survey.target_retarget r.names v'
  have hshape : v.target.shape ≠ .overloadSignature := by
    intro hv
    have := Survey.of_skipReason?_eq_none hnone
    exact this.2.1 (hs.trans hv)
  refine ⟨?_, ?_, ?_⟩
  · simp only [Survey.signatureName?, hsignature, hshape, decide_false, Bool.false_and,
      Bool.false_eq_true, ↓reduceIte]
  · simp only [Target.identifier?, hmember, hname, henclosing]
  · rw [hnone, Option.getD_none]
    refine Survey.skipReason?_eq_alreadyWrapped hnone ?_ ?_ ?_ ?_ ?_ hwrapped
    · rw [hs, hs', hmember]
    · rw [hn, hn', hname]
    · rw [he, he', henclosing]
    · rwa [hs']
    · rwa [hs']

theorem same_visitFunction {f f' : Node} (h : r.alike f f' = true) (exported : Export)
    (span span' : Span) :
    Survey.Same (r.first.visitFunction f exported span)
      (r.second.visitFunction f' exported span') :=
  (Sprinkling.level_visitFunction (sprinkled_of_alike .seen f f' h) (fieldText?_eq (alike_child? h .name))
    exported span span').same

theorem same_visitSignature {sig sig' : Node} (h : r.alike sig sig' = true)
    (enclosing : Option Text) (exported : Export) :
    Survey.Same (r.first.visitSignature sig enclosing exported)
      (r.second.visitSignature sig' enclosing exported) :=
  (Sprinkling.level_visitSignature (sprinkled_of_alike .seen sig sig' h)
    (fieldText?_eq (alike_child? h .name)) enclosing exported).same

/-- A container is known under the same name and has members of the same forms. -/
def SameContainer (c c' : Container) : Prop := c.name = c'.name ∧ c.isClass = c'.isClass

theorem same_visitMethod {c c' : Container} (hc : SameContainer c c') {m m' : Node}
    (h : r.alike m m' = true) :
    Survey.Same (r.first.visitMethod c m) (r.second.visitMethod c' m') :=
  (Sprinkling.level_visitMethod (sprinkled_of_alike .seen m m' h) (memberName?_eq (alike_child? h .name))
    hc).same

theorem exists_wrappedFunction?_of_isTracedCall {n : Node} (h : r.isTracedCall n = true) :
    n.kind = .callExpression ∧ ∃ f, r.second.wrappedFunction? n = some f := by
  simp only [isTracedCall, Bool.and_eq_true, decide_eq_true_eq, Option.any_eq_true] at h
  obtain ⟨⟨hkind, callee, hcallee, hidentifier, htext⟩, args, hargs, hmatch⟩ := h
  refine ⟨hkind, ?_⟩
  split at hmatch
  · rename_i literal f hsignificant
    have hf := (Bool.and_eq_true_iff.mp hmatch).2
    have hentry : r.second.doc.textOf callee = r.second.entry := htext
    refine ⟨f, ?_⟩
    simp only [Survey.wrappedFunction?, hkind, hcallee, hargs, hidentifier, hentry, hsignificant,
      decide_true, Bool.and_self, ↓reduceIte]
    simp [hf]
  · simp at hmatch

theorem blockIsWrapped_of_isTracedBlock {n : Node} (h : r.isTracedBlock n = true) :
    n.kind = .statementBlock ∧ r.second.blockIsWrapped n = true := by
  simp only [isTracedBlock, Bool.and_eq_true, decide_eq_true_eq] at h
  obtain ⟨hkind, h⟩ := h
  refine ⟨hkind, ?_⟩
  split at h
  · rename_i stmt hstmt
    simp only [Bool.and_eq_true, decide_eq_true_eq] at h
    obtain ⟨hreturn, h⟩ := h
    split at h
    · rename_i call hcall
      simp only [Bool.and_eq_true, decide_eq_true_eq, Option.any_eq_true] at h
      obtain ⟨hcallKind, f, hf, htraced⟩ := h
      obtain ⟨-, inner, hinner⟩ := exists_wrappedFunction?_of_isTracedCall htraced
      simp [Survey.blockIsWrapped, hstmt, hreturn, hcall, hcallKind, hf, hinner]
    · simp at h
  · simp at h

theorem retarget_of_isOverloaded {v : Visit} (hover : v.target.overloaded = false)
    (h : r.isOverloaded v = true) :
    (v.target.shape.isDeclaration && v.target.name.any r.names.contains) = true := by
  simp only [isOverloaded, Survey.retarget] at h
  split at h
  · assumption
  · rw [hover] at h
    exact absurd h Bool.false_ne_true

theorem matched_tracedFunction {f f' : Node} {exported : Export} {span : Span}
    (hwrapped : r.isWrapped (r.first.visitFunction f exported span) = true)
    (hover : r.isOverloaded (r.first.visitFunction f exported span) = true)
    (h : r.exchanged .body (fun _ b => r.isTracedBlock b) f f' = true) (span' : Span) :
    Matched r (r.first.visitFunction f exported span)
      (r.second.visitFunction f' exported span') := by
  have hname : (r.second.visitFunction f' exported span').target.name =
      (r.first.visitFunction f exported span).target.name :=
    (fieldText?_eq (exchanged_child?_of_ne h (by decide))).symm
  obtain ⟨b, b', -, hb', htraced⟩ := exchanged_child? h
  obtain ⟨hkind, hblock⟩ := blockIsWrapped_of_isTracedBlock htraced
  have hsome : (r.second.visitFunction f' exported span').block = some (b'.span, true) := by
    simp [Survey.visitFunction, hb', hkind, hblock]
  refine matched_of_wrapped hwrapped rfl hname rfl ?_ ?_ ?_
  · cases exported <;> simp [Survey.visitFunction, Survey.target]
  · cases exported <;> simp [Survey.visitFunction, Survey.target]
  · have hcond := retarget_of_isOverloaded rfl hover
    have hshape : (r.first.visitFunction f exported span).target.shape =
        (r.second.visitFunction f' exported span').target.shape := rfl
    rw [hshape, ← hname] at hcond
    simp only [Survey.retarget, hsome]
    rw [if_pos hcond]

theorem matched_tracedConst {v : Visit} (hwrapped : r.isWrapped v = true)
    (hmember : v.target.shape.isMember = false) (henclosing : v.target.enclosing = none)
    {name : Text} (hname : v.target.name = some name) (f : Node) (span : Span)
    (exported : Export) : Matched r v (r.second.visitConst name f span exported true) := by
  refine matched_of_wrapped hwrapped ?_ hname.symm henclosing.symm ?_ ?_ rfl
  · rw [hmember]
    rfl
  · simp [Survey.visitConst, Survey.target]
  · simp [Survey.visitConst, Survey.target]

theorem matched_tracedMethod {c c' : Container} (hc : SameContainer c c') {m m' : Node}
    (hwrapped : r.isWrapped (r.first.visitMethod c m) = true)
    (h : r.exchanged .body (fun _ b => r.isTracedBlock b) m m' = true) :
    Matched r (r.first.visitMethod c m) (r.second.visitMethod c' m') := by
  have hname : r.first.memberName? m = r.second.memberName? m' :=
    memberName?_eq (exchanged_child?_of_ne h (by decide))
  obtain ⟨b, b', -, hb', htraced⟩ := exchanged_child? h
  have hblock := (blockIsWrapped_of_isTracedBlock htraced).2
  have hnone := Survey.of_skipReason?_eq_none (isWrapped_iff.mp hwrapped)
  rw [(Survey.target_retarget _ _).1] at hnone
  -- the form depends on whether the member is static, but being a constructor does not
  have hmember := Survey.isMember_visitMethod r.second c' m'
  refine matched_of_wrapped hwrapped ?_ hname.symm hc.1.symm ?_ ?_ ?_
  · rw [hmember, Survey.isMember_visitMethod]
  · have hconstructor := hnone.1
    rw [Survey.visitMethod_shape] at hconstructor ⊢
    rw [hname, hc.2] at hconstructor
    split
    · simp
    · rename_i hclass
      rw [if_neg hclass] at hconstructor
      split
      · rename_i hkey
        simp [hkey] at hconstructor
      · split <;> simp
  · intro hshape
    rw [hshape] at hmember
    exact absurd hmember (by decide)
  · have hmethod : (r.second.visitMethod c' m').wrapped = true := by
      rw [Survey.visitMethod_wrapped, hb', Option.any_some, hblock]
    have hretarget : Survey.retarget r.names (r.second.visitMethod c' m') =
        r.second.visitMethod c' m' := by
      rcases Survey.retarget_cases r.names (r.second.visitMethod c' m') with
        heq | ⟨_, _, hnoblock, -⟩
      · exact heq
      · rw [Survey.visitMethod_block] at hnoblock
        exact absurd hnoblock (by simp)
    rw [hretarget, hmethod]

end Rereading

end SpanWeave
