import SpanWeave.Proofs.Weave.Matching

namespace SpanWeave

open Syntax

namespace Rereading

variable {r : Rereading}

/-- What is contributed in the source is matched, member by member for containers, by what is
contributed in the woven file. -/
def Paired (r : Rereading) (p p' : List Visit × List Container) : Prop :=
  List.Forall₂ (Matched r) p.1 p'.1 ∧
    List.Forall₂ (fun c c' =>
      List.Forall₂ (Matched r) (r.first.visitMembers c) (r.second.visitMembers c')) p.2 p'.2

theorem paired_nil (r : Rereading) : Paired r ([], []) ([], []) := Survey.related_nil

theorem paired_visit {v v' : Visit} (h : Matched r v v') : Paired r ([v], []) ([v'], []) :=
  Survey.related_visit h

theorem paired_container {c c' : Container}
    (h : List.Forall₂ (Matched r) (r.first.visitMembers c) (r.second.visitMembers c')) :
    Paired r ([], [c]) ([], [c']) :=
  Survey.related_container h

theorem Paired.both {p p' q q' : List Visit × List Container} (hp : Paired r p p')
    (hq : Paired r q q') : Paired r (Survey.both p q) (Survey.both p' q') :=
  Survey.Related.both hp hq

theorem paired_visitAll {R : Node → Node → Prop}
    {visit visit' : Node → List Visit × List Container} {ns ns' : List Node}
    (hvisit : ∀ n n', R n n' → Paired r (visit n) (visit' n')) (h : List.Forall₂ R ns ns') :
    Paired r (Survey.visitAll visit ns) (Survey.visitAll visit' ns') :=
  Survey.related_visitAll hvisit h

theorem paired_of_same {p p' : List Visit × List Container}
    (hsame : List.Forall₂ Survey.Same p.1 p'.1) (hkept : ∀ v ∈ p.1, r.isWrapped v = false)
    (hnone : p.2 = []) (hnone' : p'.2 = []) : Paired r p p' := by
  refine ⟨?_, by rw [hnone, hnone']; exact .nil⟩
  generalize p.1 = vs, p'.1 = vs' at hsame hkept
  induction hsame with
  | nil => exact .nil
  | cons hv _ ih =>
      exact .cons (matched_of_same hv (hkept _ (by simp)))
        (ih fun v hmem => hkept v (by simp [hmem]))

theorem isWrapped_visitSignature (sig : Node) (enclosing : Option Text) (exported : Export) :
    r.isWrapped (r.first.visitSignature sig enclosing exported) = false := by
  rw [← Bool.not_eq_true, isWrapped_iff]
  intro hnone
  have hshape := (Survey.of_skipReason?_eq_none hnone).2.1
  rw [(Survey.target_retarget _ _).1] at hshape
  exact hshape rfl

section members

theorem memberReread_label {c : Container} {m m' : Node} (h : r.memberReread c m m' = true) :
    m.kind = m'.kind ∧ m.field = m'.field := by
  simp only [memberReread] at h
  split at h
  · exact exchanged_kind h
  · exact ⟨alike_kind h, alike_field h⟩

theorem matched_visitMember {c c' : Container} (hc : SameContainer c c') {m m' : Node}
    (h : r.memberReread c m m' = true) :
    List.Forall₂ (Matched r) (r.first.visitMember c m) (r.second.visitMember c' m') := by
  have hkind := (memberReread_label h).1
  simp only [memberReread] at h
  by_cases hmethod : m.kind = .methodDefinition
  · have hmethod' : m'.kind = .methodDefinition := hkind ▸ hmethod
    by_cases haccessor : (m.hasToken "get" || m.hasToken "set") = true
    · have hvisit : r.first.visitMember c m = [] := by
        simp [Survey.visitMember, hmethod, haccessor]
      rw [hvisit] at h
      have halike : r.alike m m' = true := by simpa using h
      rw [alike_hasToken halike, alike_hasToken halike] at haccessor
      have hvisit' : r.second.visitMember c' m' = [] := by
        simp [Survey.visitMember, hmethod', haccessor]
      rw [hvisit, hvisit']
      exact .nil
    · have hvisit : r.first.visitMember c m = [r.first.visitMethod c m] := by
        simp [Survey.visitMember, hmethod, haccessor]
      have hvisit' (haccessor' : ¬ (m'.hasToken "get" || m'.hasToken "set") = true) :
          r.second.visitMember c' m' = [r.second.visitMethod c' m'] := by
        simp [Survey.visitMember, hmethod', haccessor']
      rw [hvisit] at h ⊢
      split at h
      · rename_i hwrapped
        have htoken : ∀ text, m'.hasToken text = true → m.hasToken text = true := by
          intro text
          refine hasToken_of_exchanged h ?_
          intro b b' htraced
          rw [(blockIsWrapped_of_isTracedBlock htraced).1]
          simp
        rw [hvisit' ?_]
        · exact .cons (matched_tracedMethod hc (by simpa using hwrapped) h) .nil
        · simp only [Bool.or_eq_true, not_or] at haccessor ⊢
          exact ⟨fun hget => haccessor.1 (htoken _ hget), fun hset => haccessor.2 (htoken _ hset)⟩
      · rename_i hkept
        rw [hvisit' (by rwa [← alike_hasToken h, ← alike_hasToken h])]
        exact .cons (matched_of_same (same_visitMethod hc h) (by simpa using hkept)) .nil
  · by_cases hsignature : m.kind = .methodSignature
    · have hsignature' : m'.kind = .methodSignature := hkind ▸ hsignature
      by_cases hclass : c.isClass = true
      · have hvisit : r.first.visitMember c m = [r.first.visitSignature m c.name .none] := by
          simp [Survey.visitMember, hsignature, hclass]
        have hvisit' : r.second.visitMember c' m' = [r.second.visitSignature m' c'.name .none] := by
          simp [Survey.visitMember, hsignature', ← hc.2, hclass]
        have hkept := isWrapped_visitSignature (r := r) m c.name .none
        rw [hvisit] at h ⊢
        have halike : r.alike m m' = true := by simpa [hkept] using h
        rw [hvisit', ← hc.1]
        exact .cons (matched_of_same (same_visitSignature halike _ _) hkept) .nil
      · have hvisit : r.first.visitMember c m = [] := by
          simp [Survey.visitMember, hsignature, hclass]
        have hvisit' : r.second.visitMember c' m' = [] := by
          simp [Survey.visitMember, hsignature', ← hc.2, hclass]
        rw [hvisit, hvisit']
        exact .nil
    · have hnone (s : Survey) (k : Container) (n : Node) (h₁ : ¬ n.kind = .methodDefinition)
          (h₂ : ¬ n.kind = .methodSignature) : s.visitMember k n = [] := by
        simp only [Survey.visitMember]
      rw [hnone _ _ _ hmethod hsignature,
        hnone _ _ _ (hkind ▸ hmethod) (hkind ▸ hsignature)]
      exact .nil

theorem matched_visitMembers {c c' : Container} (hc : SameContainer c c')
    (h : r.membersReread c c.body c'.body = true) :
    List.Forall₂ (Matched r) (r.first.visitMembers c) (r.second.visitMembers c') := by
  have hmembers := inStep_iff.mp (Bool.and_eq_true_iff.mp h).2
  have hsignificant := forall₂_significant (fun m m' hm => (memberReread_label hm).1) hmembers
  exact List.rel_flatMap hsignificant fun m m' hm => matched_visitMember hc hm

end members

section containers

theorem sameLabel_iff {n n' : Node} :
    sameLabel n n' = true ↔ n.kind = n'.kind ∧ n.field = n'.field := by
  simp [sameLabel]

theorem classReread_label {c : Container} {n n' : Node} (h : r.classReread c n n' = true) :
    n.kind = n'.kind ∧ n.field = n'.field := by
  simp only [classReread] at h
  split at h
  · exact exchanged_kind h
  · exact sameLabel_iff.mp (Bool.and_eq_true_iff.mp (Bool.and_eq_true_iff.mp h).1).1

theorem containerReread_label {c : Container} {n n' : Node}
    (h : r.containerReread c n n' = true) : n.kind = n'.kind ∧ n.field = n'.field := by
  simp only [containerReread] at h
  split at h
  · exact classReread_label h
  · exact sameLabel_iff.mp (Bool.and_eq_true_iff.mp h).1

theorem paired_class {n n' : Node} {binding : Option Text}
    (h : r.classReread (r.first.classContainer n binding) n n' = true) :
    Paired r ([], [r.first.classContainer n binding])
      ([], [r.second.classContainer n' binding]) := by
  have hcontainer (htext : r.before.fieldText? n .name = r.after.fieldText? n' .name) :
      SameContainer (r.first.classContainer n binding) (r.second.classContainer n' binding) := by
    refine ⟨?_, rfl⟩
    simp only [Survey.classContainer, first, second]
    rw [htext]
  apply paired_container
  simp only [classReread] at h
  split at h
  · obtain ⟨b, b', hb, hb', hmembers⟩ := exchanged_child? h
    refine matched_visitMembers
      (hcontainer (fieldText?_eq (exchanged_child?_of_ne h (by decide)))) ?_
    have hbody : (r.first.classContainer n binding).body = b := by
      simp [Survey.classContainer, hb]
    have hbody' : (r.second.classContainer n' binding).body = b' := by
      simp [Survey.classContainer, hb']
    rw [hbody, hbody']
    exact hmembers
  · rename_i hnone
    obtain ⟨hmembers, htext⟩ := Bool.and_eq_true_iff.mp h
    have hb : n.child? .body = none := by simpa using hnone
    -- members keep their roles, so there is no body in the woven file either
    have hroles := forall₂_find? (p := fun c => decide (c.field = some .body))
      (q := fun c => decide (c.field = some .body))
      (fun c c' hcc => by rw [(memberReread_label hcc).2])
      (inStep_iff.mp (Bool.and_eq_true_iff.mp hmembers).2)
    have hb' : n'.child? .body = none := by
      rcases option_rel_cases hroles with ⟨-, hnone'⟩ | ⟨c, _, hsome, -⟩
      · exact hnone'
      · rw [Node.child?, hsome] at hb
        simp at hb
    refine matched_visitMembers (hcontainer (of_decide_eq_true htext)) ?_
    have hbody : (r.first.classContainer n binding).body = n := by
      simp [Survey.classContainer, hb]
    have hbody' : (r.second.classContainer n' binding).body = n' := by
      simp [Survey.classContainer, hb']
    rw [hbody, hbody']
    exact hmembers

theorem paired_object {name : Option Text} {n n' : Node}
    (h : r.membersReread ⟨name, n, false⟩ n n' = true) :
    Paired r ([], [⟨name, n, false⟩]) ([], [⟨name, n', false⟩]) :=
  paired_container (matched_visitMembers ⟨rfl, rfl⟩ h)

end containers

section declarators

theorem alike_visitDeclarator {d d' : Node} (h : r.alike d d' = true) (exported : Export) :
    List.Forall₂ Survey.Same (r.first.visitDeclarator exported d).1
        (r.second.visitDeclarator exported d').1 ∧
      ((r.first.visitDeclarator exported d).2 = [] →
        (r.second.visitDeclarator exported d').2 = []) := by
  obtain ⟨hvisits, hcontainers⟩ :=
    Sprinkling.related_visitDeclarator (sprinkled_of_alike .seen d d' h) exported
  refine ⟨hvisits.imp fun _ _ hv => hv.same, ?_⟩
  intro hnone
  exact List.forall₂_nil_left_iff.mp (hnone ▸ hcontainers)

theorem declaratorReread_kind {exported : Export} {d d' : Node}
    (h : r.declaratorReread exported d d' = true) : d.kind = d'.kind := by
  simp only [declaratorReread] at h
  split at h
  · split at h
    · exact (exchanged_kind h).1
    · exact alike_kind h
  · exact (exchanged_kind h).1
  · exact alike_kind h

theorem paired_tracedDeclarator {exported : Export} {d d' : Node} {v : Visit} {vs : List Visit}
    {cs : List Container} (hvisit : r.first.visitDeclarator exported d = (v :: vs, cs))
    (hwrapped : r.isWrapped v = true)
    (h : r.exchanged .value (fun _ value => r.isTracedCall value) d d' = true) :
    Paired r (r.first.visitDeclarator exported d) (r.second.visitDeclarator exported d') := by
  rcases Survey.visitDeclarator_cases r.first exported d with
    hnil | ⟨b, value, hkind, hb, hvalue, hbinding⟩
  · simp [hnil] at hvisit
  · obtain ⟨_, value', -, hvalue', htraced⟩ := exchanged_child? h
    obtain ⟨hcall, f', hf'⟩ := exists_wrappedFunction?_of_isTracedCall htraced
    rcases option_rel_cases (exchanged_child?_of_ne h (g := .name) (by decide)) with
      ⟨hnone, -⟩ | ⟨c, b', hc, hb', hbb⟩
    · simp [hb] at hnone
    · obtain rfl : b = c := Option.some.inj (hb.symm.trans hc)
      have hfun : value'.isFunctionExpression = false := by simp [Node.isFunctionExpression, hcall]
      rw [Survey.visitDeclarator_of_value ((exchanged_kind h).1 ▸ hkind) hb' hvalue'
        (alike_kind hbb ▸ hbinding)]
      rw [Survey.visitDeclarator_of_value hkind hb hvalue hbinding] at hvisit ⊢
      have htext : r.second.doc.textOf b' = r.first.doc.textOf b := (alike_textOf hbb).symm
      rcases Survey.visitValue_cases r.first exported (r.first.doc.textOf b) value with
        ⟨f, wrapped, heq⟩ | ⟨-, heq⟩ | ⟨-, heq⟩ | heq
      · rw [heq] at hvisit ⊢
        obtain ⟨rfl, -⟩ := List.cons.inj (Prod.mk.inj hvisit).1
        simp only [Survey.visitValue, hfun, hf', Bool.false_eq_true, ↓reduceIte]
        rw [htext]
        exact paired_visit (matched_tracedConst hwrapped rfl rfl rfl f' _ exported)
      · simp [heq] at hvisit
      · simp [heq] at hvisit
      · simp [heq] at hvisit

theorem paired_containerDeclarator {exported : Export} {d d' : Node} {c : Container}
    {cs : List Container} (hvisit : r.first.visitDeclarator exported d = ([], c :: cs))
    (h : r.exchanged .value (r.containerReread c) d d' = true) :
    Paired r (r.first.visitDeclarator exported d) (r.second.visitDeclarator exported d') := by
  rcases Survey.visitDeclarator_cases r.first exported d with
    hnil | ⟨b, value, hkind, hb, hvalue, hbinding⟩
  · simp [hnil] at hvisit
  · obtain ⟨u, value', hu, hvalue', hreread⟩ := exchanged_child? h
    obtain rfl : value = u := Option.some.inj (hvalue.symm.trans hu)
    have hkinds := (containerReread_label hreread).1
    rcases option_rel_cases (exchanged_child?_of_ne h (g := .name) (by decide)) with
      ⟨hnone, -⟩ | ⟨e, b', he, hb', hbb⟩
    · simp [hb] at hnone
    · obtain rfl : b = e := Option.some.inj (hb.symm.trans he)
      rw [Survey.visitDeclarator_of_value ((exchanged_kind h).1 ▸ hkind) hb' hvalue'
        (alike_kind hbb ▸ hbinding)]
      rw [Survey.visitDeclarator_of_value hkind hb hvalue hbinding] at hvisit ⊢
      have htext : r.second.doc.textOf b' = r.first.doc.textOf b := (alike_textOf hbb).symm
      rw [htext]
      rcases Survey.visitValue_cases r.first exported (r.first.doc.textOf b) value with
        ⟨f, wrapped, heq⟩ | ⟨hclass, heq⟩ | ⟨hobject, heq⟩ | heq
      · simp [heq] at hvisit
      · rw [heq] at hvisit ⊢
        obtain ⟨rfl, -⟩ := List.cons.inj (Prod.mk.inj hvisit).2
        have hclass' : value'.kind = .classExpression := hkinds ▸ hclass
        rw [Survey.visitValue_of_container (Or.inl hclass'), if_pos hclass']
        exact paired_class hreread
      · rw [heq] at hvisit ⊢
        obtain ⟨rfl, -⟩ := List.cons.inj (Prod.mk.inj hvisit).2
        have hobject' : value'.kind = .object := hkinds ▸ hobject
        rw [Survey.visitValue_of_container (Or.inr hobject'), if_neg (by simp [hobject'])]
        exact paired_object hreread
      · simp [heq] at hvisit

theorem paired_declarator {exported : Export} {d d' : Node}
    (h : r.declaratorReread exported d d' = true) :
    Paired r (r.first.visitDeclarator exported d) (r.second.visitDeclarator exported d') := by
  simp only [declaratorReread] at h
  split at h
  · rename_i v vs cs hvisit
    split at h
    · rename_i hwrapped
      exact paired_tracedDeclarator hvisit hwrapped h
    · rename_i hkept
      obtain ⟨hsame, hcontainers⟩ := alike_visitDeclarator h exported
      have hone := Survey.visitDeclarator_eq_one hvisit
      refine paired_of_same hsame ?_ ?_ (hcontainers ?_)
      · simpa [hone] using hkept
      · rw [hone]
      · rw [hone]
  · rename_i c cs hvisit
    exact paired_containerDeclarator hvisit h
  · rename_i hvisit
    obtain ⟨hsame, hcontainers⟩ := alike_visitDeclarator h exported
    refine paired_of_same hsame ?_ ?_ (hcontainers ?_) <;> simp [hvisit]

end declarators

end Rereading

end SpanWeave
