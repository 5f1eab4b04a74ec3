import SpanWeave.Weave
import SpanWeave.Proofs.Edit.Order
import SpanWeave.Proofs.Weave.Pairing
import SpanWeave.Proofs.Weave.Conflict

/-!
Weaving a woven file changes nothing. The survey of the woven file follows that of its source
statement by statement, so every function is found again, and those that were wrapped are left
alone because they are wrapped already.
-/

namespace SpanWeave

open Syntax

namespace Rereading

variable {r : Rereading}

section declarations

theorem visitDeclaration_of_isTracedConst {name : Option Text} {n : Node}
    (h : r.isTracedConst name n = true) (exported : Export) (whole : Node → Span) :
    ∃ text f span, name = some text ∧
      r.second.visitDeclaration exported whole n =
        ([r.second.visitConst text f span exported true], []) := by
  simp only [isTracedConst, Bool.and_eq_true, decide_eq_true_eq] at h
  obtain ⟨⟨hkind, hconst⟩, hmatch⟩ := h
  split at hmatch
  · rename_i d hd
    simp only [Bool.and_eq_true, decide_eq_true_eq, Option.any_eq_true] at hmatch
    obtain ⟨⟨hdeclarator, b, hb, hbinding, hname⟩, value, hvalue, htraced⟩ := hmatch
    obtain ⟨hcall, f, hf⟩ := exists_wrappedFunction?_of_isTracedCall htraced
    have hfun : value.isFunctionExpression = false := by simp [Node.isFunctionExpression, hcall]
    have hvisit : r.second.visitDeclarator exported d =
        ([r.second.visitConst (r.after.textOf b) f value.span exported true], []) := by
      rw [Survey.visitDeclarator_of_value hdeclarator hb hvalue hbinding]
      simp only [Survey.visitValue, hfun, hf, Bool.false_eq_true, ↓reduceIte]
      rfl
    refine ⟨r.after.textOf b, f, value.span, hname.symm, ?_⟩
    simp only [Survey.visitDeclaration, hkind, hconst, hd, ↓reduceIte, Survey.visitAll,
      List.foldr_cons, List.foldr_nil, hvisit, Survey.both, List.append_nil]
  · simp at hmatch

theorem functionReread_cases {v : Visit} {f f' : Node} (h : r.functionReread v f f' = true) :
    (r.isWrapped v = false ∧ r.alike f f' = true) ∨
      (r.isWrapped v = true ∧ r.isOverloaded v = true ∧
        r.exchanged .body (fun _ b => r.isTracedBlock b) f f' = true) ∨
      (r.isWrapped v = true ∧ r.isOverloaded v = false ∧
        r.isTracedConst v.target.name f' = true) := by
  simp only [functionReread] at h
  split at h
  · rename_i hkept
    exact Or.inl ⟨by simpa using hkept, h⟩
  · rename_i hwrapped
    have hwrapped' : r.isWrapped v = true := by simpa using hwrapped
    split at h
    · rename_i hover
      exact Or.inr (Or.inl ⟨hwrapped', hover, h⟩)
    · rename_i hover
      exact Or.inr (Or.inr ⟨hwrapped', by simpa using hover, (Bool.and_eq_true_iff.mp h).1⟩)

theorem isMember_visitFunction (s : Survey) (f : Node) (exported : Export) (span : Span) :
    (s.visitFunction f exported span).target.shape.isMember = false := by
  cases exported <;> rfl

theorem matched_visitFunction {f f' : Node} {exported : Export} {span : Span}
    (h : (r.isWrapped (r.first.visitFunction f exported span) = false ∧ r.alike f f' = true) ∨
      (r.isWrapped (r.first.visitFunction f exported span) = true ∧
        r.isOverloaded (r.first.visitFunction f exported span) = true ∧
        r.exchanged .body (fun _ b => r.isTracedBlock b) f f' = true)) (span' : Span) :
    f.kind = f'.kind ∧
      Matched r (r.first.visitFunction f exported span)
        (r.second.visitFunction f' exported span') := by
  rcases h with ⟨hkept, halike⟩ | ⟨hwrapped, hover, hbody⟩
  · exact ⟨alike_kind halike, matched_of_same (same_visitFunction halike _ _ _) hkept⟩
  · exact ⟨(exchanged_kind hbody).1, matched_tracedFunction hwrapped hover hbody _⟩

theorem paired_functionDeclaration {d d' : Node} {exported : Export} {whole whole' : Node → Span}
    (hkind : d.kind = .functionDeclaration ∨ d.kind = .generatorFunctionDeclaration)
    (h : r.functionReread (r.first.visitFunction d exported (whole d)) d d' = true) :
    Paired r (r.first.visitDeclaration exported whole d)
      (r.second.visitDeclaration exported whole' d') := by
  have hvisit (s : Survey) (w : Node → Span) (n : Node)
      (hn : n.kind = .functionDeclaration ∨ n.kind = .generatorFunctionDeclaration) :
      s.visitDeclaration exported w n = ([s.visitFunction n exported (w n)], []) := by
    rcases hn with hn | hn <;> simp [Survey.visitDeclaration, hn]
  rw [hvisit _ _ _ hkind]
  rcases functionReread_cases h with hkept | hbody | ⟨hwrapped, -, hconst⟩
  · obtain ⟨hkinds, hmatched⟩ := matched_visitFunction (Or.inl hkept) (whole' d')
    rw [hvisit _ _ _ (hkinds ▸ hkind)]
    exact paired_visit hmatched
  · obtain ⟨hkinds, hmatched⟩ := matched_visitFunction (Or.inr hbody) (whole' d')
    rw [hvisit _ _ _ (hkinds ▸ hkind)]
    exact paired_visit hmatched
  · obtain ⟨text, f, span, hname, hvisit'⟩ :=
      visitDeclaration_of_isTracedConst hconst exported whole'
    rw [hvisit']
    exact paired_visit
      (matched_tracedConst hwrapped (isMember_visitFunction _ _ _ _) rfl hname f span exported)

theorem paired_constDeclaration {d d' : Node} {exported : Export} {whole whole' : Node → Span}
    (hkind : d.kind = .lexicalDeclaration) (hconst : d.hasToken "const" = true)
    (h : (sameLabel d d' && inStep (r.declaratorReread exported) d.children d'.children) = true) :
    Paired r (r.first.visitDeclaration exported whole d)
      (r.second.visitDeclaration exported whole' d') := by
  obtain ⟨hlabel, hstep⟩ := Bool.and_eq_true_iff.mp h
  have hkind' : d'.kind = .lexicalDeclaration := (sameLabel_iff.mp hlabel).1 ▸ hkind
  have hchildren := inStep_iff.mp hstep
  have hconst' : d'.hasToken "const" = true := by
    rw [← hconst]
    refine (forall₂_any ?_ hchildren).symm
    intro c c' hcc
    rw [declaratorReread_kind hcc]
  simp only [Survey.visitDeclaration, hkind, hkind', hconst, hconst', ↓reduceIte]
  exact paired_visitAll (fun _ _ hd => paired_declarator hd)
    (forall₂_significant (fun _ _ hd => declaratorReread_kind hd) hchildren)

theorem paired_classDeclaration {d d' : Node} {exported : Export} {whole whole' : Node → Span}
    (hkind : d.kind = .classDeclaration ∨ d.kind = .abstractClassDeclaration)
    (h : r.classReread (r.first.classContainer d none) d d' = true) :
    Paired r (r.first.visitDeclaration exported whole d)
      (r.second.visitDeclaration exported whole' d') := by
  have hvisit (s : Survey) (w : Node → Span) (n : Node)
      (hn : n.kind = .classDeclaration ∨ n.kind = .abstractClassDeclaration) :
      s.visitDeclaration exported w n = ([], [s.classContainer n none]) := by
    rcases hn with hn | hn <;> simp [Survey.visitDeclaration, hn]
  rw [hvisit _ _ _ hkind, hvisit _ _ _ ((classReread_label h).1 ▸ hkind)]
  exact paired_class h

theorem paired_declaration {d d' : Node} {exported : Export} {whole : Node → Span}
    (h : r.declarationReread exported whole d d' = true) (whole' : Node → Span) :
    Paired r (r.first.visitDeclaration exported whole d)
      (r.second.visitDeclaration exported whole' d') := by
  simp only [declarationReread] at h
  split at h
  · rename_i hkind
    exact paired_functionDeclaration (Or.inl hkind) h
  · rename_i hkind
    exact paired_functionDeclaration (Or.inr hkind) h
  · rename_i hkind
    split at h
    · rename_i hconst
      exact paired_constDeclaration hkind hconst h
    · rename_i hconst
      have hkind' : d'.kind = .lexicalDeclaration := alike_kind h ▸ hkind
      have hconst' : ¬ d'.hasToken "const" = true := alike_hasToken h "const" ▸ hconst
      simp only [Survey.visitDeclaration, hkind, hkind', hconst, hconst', ↓reduceIte,
        Bool.false_eq_true]
      exact paired_nil r
  · rename_i hkind
    exact paired_classDeclaration (Or.inl hkind) h
  · rename_i hkind
    exact paired_classDeclaration (Or.inr hkind) h
  · rename_i hfunction hgenerator hlexical hclass habstract
    by_cases hsignature : d.kind = .functionSignature
    · have hsignature' : d'.kind = .functionSignature := alike_kind h ▸ hsignature
      simp only [Survey.visitDeclaration, hsignature, hsignature']
      exact paired_visit (matched_of_same (same_visitSignature h none exported)
        (isWrapped_visitSignature d none exported))
    · have hnone (s : Survey) (w : Node → Span) (n : Node) (hn : d.kind = n.kind) :
          s.visitDeclaration exported w n = ([], []) := by
        rw [hn] at hfunction hgenerator hlexical hclass habstract hsignature
        simp only [Survey.visitDeclaration]
      rw [hnone _ _ _ rfl, hnone _ _ _ (alike_kind h)]
      exact paired_nil r

end declarations

section exports

theorem isTracedConst_kind {name : Option Text} {n : Node} (h : r.isTracedConst name n = true) :
    n.kind = .lexicalDeclaration := by
  simp only [isTracedConst, Bool.and_eq_true, decide_eq_true_eq] at h
  exact h.1.1

theorem declarationReread_kind {d d' : Node} {exported : Export} {whole : Node → Span}
    (h : r.declarationReread exported whole d d' = true) :
    d.kind = d'.kind ∨
      (d.kind = .functionDeclaration ∨ d.kind = .generatorFunctionDeclaration) ∧
        d'.kind = .lexicalDeclaration := by
  have hfunction (hkind : d.kind = .functionDeclaration ∨ d.kind = .generatorFunctionDeclaration)
      (hreread : r.functionReread (r.first.visitFunction d exported (whole d)) d d' = true) :
      d.kind = d'.kind ∨
        (d.kind = .functionDeclaration ∨ d.kind = .generatorFunctionDeclaration) ∧
          d'.kind = .lexicalDeclaration := by
    rcases functionReread_cases hreread with ⟨-, halike⟩ | ⟨-, -, hbody⟩ | ⟨-, -, hconst⟩
    · exact Or.inl (alike_kind halike)
    · exact Or.inl (exchanged_kind hbody).1
    · exact Or.inr ⟨hkind, isTracedConst_kind hconst⟩
  simp only [declarationReread] at h
  split at h
  · rename_i hkind
    exact hfunction (Or.inl hkind) h
  · rename_i hkind
    exact hfunction (Or.inr hkind) h
  · split at h
    · exact Or.inl (sameLabel_iff.mp (Bool.and_eq_true_iff.mp h).1).1
    · exact Or.inl (alike_kind h)
  · exact Or.inl (classReread_label h).1
  · exact Or.inl (classReread_label h).1
  · exact Or.inl (alike_kind h)

theorem token_iff_of_declarationReread {d d' : Node} {exported : Export} {whole : Node → Span}
    (h : r.declarationReread exported whole d d' = true) (text : String) :
    d.kind = .token text ↔ d'.kind = .token text := by
  rcases declarationReread_kind h with hkind | ⟨hkind | hkind, hkind'⟩
  · rw [hkind]
  · simp [hkind, hkind']
  · simp [hkind, hkind']

theorem paired_exportedDeclaration {stmt stmt' d : Node} (hd : stmt.child? .declaration = some d)
    (h : r.exchanged .declaration
      (r.declarationReread (if stmt.hasToken "default" then .default else .named)
        (fun f => if stmt.hasToken "default" then stmt.span else f.span)) stmt stmt' = true) :
    Paired r (r.first.visitExport stmt) (r.second.visitExport stmt') := by
  have htoken : stmt.hasToken "default" = stmt'.hasToken "default" :=
    exchanged_hasToken h fun _ _ hcc => token_iff_of_declarationReread hcc "default"
  obtain ⟨c, d', hc, hd', hreread⟩ := exchanged_child? h
  obtain rfl : d = c := Option.some.inj (hd.symm.trans hc)
  simp only [Survey.visitExport, hd, hd', ← htoken]
  exact paired_declaration hreread _

theorem visitExport_of_value {s : Survey} {stmt value : Node}
    (hdefault : stmt.hasToken "default" = true) (hd : stmt.child? .declaration = none)
    (hvalue : stmt.child? .value = some value) :
    s.visitExport stmt =
      if value.isFunctionExpression then ([s.visitFunction value .default stmt.span], [])
      else if value.kind = .classExpression then ([], [s.classContainer value none])
      else if value.kind = .object then ([], [⟨none, value, false⟩])
      else ([], []) := by
  simp only [Survey.visitExport, hdefault, hd, hvalue, ↓reduceIte]

theorem visitExport_of_exchanged {R : Node → Node → Bool} {stmt stmt' value : Node}
    (hdefault : stmt.hasToken "default" = true) (hd : stmt.child? .declaration = none)
    (hvalue : stmt.child? .value = some value)
    (hkind : ∀ value', R value value' = true → value.kind = value'.kind)
    (h : r.exchanged .value R stmt stmt' = true) :
    ∃ value', R value value' = true ∧
      r.second.visitExport stmt' =
        if value.isFunctionExpression then ([r.second.visitFunction value' .default stmt'.span], [])
        else if value.kind = .classExpression then ([], [r.second.classContainer value' none])
        else if value.kind = .object then ([], [⟨none, value', false⟩])
        else ([], []) := by
  obtain ⟨c, value', hc, hvalue', hR⟩ := exchanged_child? h
  obtain rfl : value = c := Option.some.inj (hvalue.symm.trans hc)
  have hdefault' : stmt'.hasToken "default" = true := by
    rw [← hdefault]
    have hsame := exchanged_imp (S := fun c c' => decide (c.kind = c'.kind)) h ?_
    · refine (exchanged_hasToken hsame ?_).symm
      intro c c' hcc
      rw [of_decide_eq_true hcc]
    · intro e e' he hRe
      obtain rfl : value = e := Option.some.inj (hvalue.symm.trans he)
      exact decide_eq_true (hkind e' hRe)
  have hd' : stmt'.child? .declaration = none := by
    rcases option_rel_cases (exchanged_child?_of_ne h (g := .declaration) (by decide)) with
      ⟨-, hnone⟩ | ⟨e, -, he, -⟩
    · exact hnone
    · simp [hd] at he
  refine ⟨value', hR, ?_⟩
  rw [visitExport_of_value hdefault' hd' hvalue', Node.isFunctionExpression,
    Node.isFunctionExpression, hkind value' hR]

theorem functionReread_of_wholeExport? {stmt value value' : Node}
    (hvisit : r.first.visitStatement stmt =
      ([r.first.visitFunction value .default stmt.span], []))
    (hwhole : r.wholeExport? stmt = none)
    (h : r.functionReread (r.first.visitFunction value .default stmt.span) value value' = true) :
    (r.isWrapped (r.first.visitFunction value .default stmt.span) = false ∧
        r.alike value value' = true) ∨
      (r.isWrapped (r.first.visitFunction value .default stmt.span) = true ∧
        r.isOverloaded (r.first.visitFunction value .default stmt.span) = true ∧
        r.exchanged .body (fun _ b => r.isTracedBlock b) value value' = true) := by
  rcases functionReread_cases h with hkept | hbody | ⟨hwrapped, hover, -⟩
  · exact Or.inl hkept
  · exact Or.inr hbody
  · have hshape : (r.first.visitFunction value .default stmt.span).target.shape =
        .defaultExportedFunctionDeclaration := rfl
    simp [wholeExport?, hvisit, hwrapped, hover, hshape] at hwhole

theorem paired_exportedFunction {stmt stmt' value : Node}
    (hstmt : stmt.kind = .exportStatement) (hwhole : r.wholeExport? stmt = none)
    (hdefault : stmt.hasToken "default" = true) (hd : stmt.child? .declaration = none)
    (hvalue : stmt.child? .value = some value) (hfun : value.isFunctionExpression = true)
    (h : r.exchanged .value (r.functionReread (r.first.visitFunction value .default stmt.span))
      stmt stmt' = true) :
    Paired r (r.first.visitExport stmt) (r.second.visitExport stmt') := by
  have hvisit : r.first.visitExport stmt =
      ([r.first.visitFunction value .default stmt.span], []) := by
    rw [visitExport_of_value hdefault hd hvalue, if_pos hfun]
  have hcases (value' : Node)
      (hreread : r.functionReread (r.first.visitFunction value .default stmt.span) value value' =
        true) :=
    functionReread_of_wholeExport? (by rw [Survey.visitStatement, if_pos hstmt, hvisit]) hwhole
      hreread
  obtain ⟨value', hreread, hvisit'⟩ := visitExport_of_exchanged hdefault hd hvalue
    (fun value' hreread => (matched_visitFunction (hcases value' hreread) stmt'.span).1) h
  rw [hvisit, hvisit', if_pos hfun]
  exact paired_visit (matched_visitFunction (hcases value' hreread) stmt'.span).2

theorem visitExport_of_alike {stmt stmt' : Node} (hd : stmt.child? .declaration = none)
    (hnone : r.first.visitExport stmt = ([], [])) (h : r.alike stmt stmt' = true) :
    r.second.visitExport stmt' = ([], []) := by
  have hd' : stmt'.child? .declaration = none := by
    rcases option_rel_cases (alike_child? h .declaration) with ⟨-, hnone'⟩ | ⟨e, -, he, -⟩
    · exact hnone'
    · simp [hd] at he
  by_cases hdefault : stmt.hasToken "default" = true
  · have hdefault' : stmt'.hasToken "default" = true := alike_hasToken h "default" ▸ hdefault
    rcases option_rel_cases (alike_child? h .value) with ⟨-, hv'⟩ | ⟨value, value', hv, hv', hvv⟩
    · simp [Survey.visitExport, hd', hv']
    · rw [visitExport_of_value hdefault hd hv, alike_isFunctionExpression hvv,
        alike_kind hvv] at hnone
      rw [visitExport_of_value hdefault' hd' hv']
      split at hnone
      · simp at hnone
      · split at hnone
        · simp at hnone
        · split at hnone
          · simp at hnone
          · simp_all
  · have hdefault' : ¬ stmt'.hasToken "default" = true := alike_hasToken h "default" ▸ hdefault
    simp [Survey.visitExport, hd', hdefault']

theorem paired_export {stmt stmt' : Node} (hstmt : stmt.kind = .exportStatement)
    (hwhole : r.wholeExport? stmt = none) (h : r.exportReread stmt stmt' = true) :
    Paired r (r.first.visitExport stmt) (r.second.visitExport stmt') := by
  have halike (hd : stmt.child? .declaration = none)
      (hnone : r.first.visitExport stmt = ([], [])) (h : r.alike stmt stmt' = true) :
      Paired r (r.first.visitExport stmt) (r.second.visitExport stmt') := by
    rw [hnone, visitExport_of_alike hd hnone h]
    exact paired_nil r
  simp only [exportReread] at h
  split at h
  · rename_i d hd
    exact paired_exportedDeclaration hd h
  · rename_i hd
    split at h
    · rename_i hdefault
      split at h
      · rename_i value hvalue
        have hvisit := visitExport_of_value (s := r.first) hdefault hd hvalue
        split at h
        · rename_i hfun
          exact paired_exportedFunction hstmt hwhole hdefault hd hvalue hfun h
        · rename_i hfun
          rw [if_neg hfun] at hvisit
          split at h
          · rename_i hclass
            obtain ⟨value', hreread, hvisit'⟩ := visitExport_of_exchanged hdefault hd hvalue
              (fun _ hreread => (classReread_label hreread).1) h
            rw [hvisit, hvisit', if_neg hfun, if_pos hclass, if_pos hclass]
            exact paired_class hreread
          · rename_i hclass
            rw [if_neg hclass] at hvisit
            split at h
            · rename_i hobject
              obtain ⟨value', hreread, hvisit'⟩ := visitExport_of_exchanged hdefault hd hvalue
                (fun _ hreread => (sameLabel_iff.mp (Bool.and_eq_true_iff.mp hreread).1).1) h
              rw [hvisit, hvisit', if_neg hfun, if_neg hclass, if_pos hobject, if_pos hobject]
              exact paired_object hreread
            · rename_i hobject
              rw [if_neg hobject] at hvisit
              exact halike hd hvisit h
      · rename_i hvalue
        exact halike hd (by simp [Survey.visitExport, hd, hvalue]) h
    · rename_i hdefault
      exact halike hd (by simp [Survey.visitExport, hd, hdefault]) h

theorem exportReread_kind {stmt stmt' : Node} (h : r.exportReread stmt stmt' = true) :
    stmt.kind = stmt'.kind := by
  simp only [exportReread] at h
  split at h
  · exact (exchanged_kind h).1
  · split at h
    · split at h
      · split at h
        · exact (exchanged_kind h).1
        · split at h
          · exact (exchanged_kind h).1
          · split at h
            · exact (exchanged_kind h).1
            · exact alike_kind h
      · exact alike_kind h
    · exact alike_kind h

end exports

section statements

theorem paired_statement {stmt stmt' : Node} (hwhole : r.wholeExport? stmt = none)
    (h : r.statementReread stmt stmt' = true) :
    Paired r (r.first.visitStatement stmt) (r.second.visitStatement stmt') := by
  simp only [statementReread] at h
  split at h
  · rename_i hstmt
    rw [Survey.visitStatement, Survey.visitStatement, if_pos hstmt,
      if_pos (exportReread_kind h ▸ hstmt)]
    exact paired_export hstmt hwhole h
  · rename_i hstmt
    have hstmt' : ¬ stmt'.kind = .exportStatement := by
      rcases declarationReread_kind h with hkind | ⟨-, hkind⟩
      · exact hkind ▸ hstmt
      · simp [hkind]
    rw [Survey.visitStatement, Survey.visitStatement, if_neg hstmt, if_neg hstmt']
    exact paired_declaration h Node.span

theorem visitStatement_of_isEntryImport {n : Node} (h : isEntryImport n = true) :
    r.second.visitStatement n = ([], []) := by
  simp only [isEntryImport, Bool.or_eq_true, Bool.and_eq_true, decide_eq_true_eq] at h
  rcases h with hkind | ⟨hkind, hall⟩
  · simp [Survey.visitStatement, Survey.visitDeclaration, hkind]
  · have hnone : ∀ d ∈ n.significant, r.second.visitDeclarator .none d = ([], []) := by
      intro d hd
      obtain ⟨b, hb, hpattern⟩ := Option.any_eq_true _ _ |>.mp (List.all_eq_true.mp hall d hd)
      rcases Survey.visitDeclarator_cases r.second .none d with hnil | ⟨c, _, -, hc, -, hbinding⟩
      · exact hnil
      · obtain rfl : b = c := Option.some.inj (hb.symm.trans hc)
        rw [of_decide_eq_true hpattern] at hbinding
        exact absurd hbinding (by decide)
    have hvisitAll (ns : List Node)
        (hns : ∀ d ∈ ns, r.second.visitDeclarator .none d = ([], [])) :
        Survey.visitAll (r.second.visitDeclarator .none) ns = ([], []) := by
      induction ns with
      | nil => rfl
      | cons d ns ih =>
          have hall : Survey.visitAll (r.second.visitDeclarator .none) (d :: ns) =
            Survey.both (r.second.visitDeclarator .none d)
              (Survey.visitAll (r.second.visitDeclarator .none) ns) := rfl
          rw [hall, hns d (by simp), ih fun e he => hns e (by simp [he])]
          rfl
    simp [Survey.visitStatement, Survey.visitDeclaration, hkind, hvisitAll _ hnone]

theorem enclosing_of_visitStatement {stmt : Node} {v : Visit}
    (h : r.first.visitStatement stmt = ([v], []))
    (hshape : v.target.shape = .defaultExportedFunctionDeclaration) :
    v.target.enclosing = none := by
  obtain ⟨located, hvisits, hfound, -⟩ := Survey.spread_statement r.first stmt
  have hmem : v ∈ located.map Prod.snd := by simp [hvisits, h]
  obtain ⟨x, hx, rfl⟩ := List.mem_map.mp hmem
  have hx' := hfound x hx
  generalize x.2 = v at hx' hshape
  cases hx' with
  | declared _ _ => rfl
  | defaultExport _ => rfl
  | signature _ _ _ => exact absurd hshape (by simp [Survey.visitSignature, Survey.target])
  | bound _ _ _ => rfl
  | boundCall _ _ _ _ => rfl
  | method c _ =>
      have hmember := Survey.isMember_visitMethod r.first c x.1
      rw [hshape] at hmember
      exact absurd hmember (by decide)

theorem visitStatement_of_isDefaultExport {name : Option Text} {n : Node}
    (h : r.isDefaultExport name n = true) : r.second.visitStatement n = ([], []) := by
  simp only [isDefaultExport, Bool.and_eq_true, decide_eq_true_eq, Option.isNone_iff_eq_none,
    Option.any_eq_true] at h
  obtain ⟨⟨⟨hkind, hdefault⟩, hd⟩, value, hvalue, hidentifier, -⟩ := h
  rw [Survey.visitStatement, if_pos hkind, visitExport_of_value hdefault hd hvalue]
  simp [Node.isFunctionExpression, hidentifier]

/-- A default export of which the whole statement is replaced is found again as the constant in
front of the export of its name. -/
theorem paired_wholeExport {stmt m m' : Node} {v : Visit} (hwhole : r.wholeExport? stmt = some v)
    (hconst : r.isTracedConst v.target.name m = true)
    (hexport : r.isDefaultExport v.target.name m' = true) :
    Paired r (r.first.visitStatement stmt)
      (Survey.both (r.second.visitStatement m) (r.second.visitStatement m')) := by
  simp only [wholeExport?] at hwhole
  split at hwhole
  · rename_i v₀ hvisit
    split at hwhole
    · rename_i hcond
      obtain rfl := Option.some.inj hwhole
      simp only [Bool.and_eq_true, decide_eq_true_eq, Bool.not_eq_true'] at hcond
      obtain ⟨⟨hshape, hwrapped⟩, -⟩ := hcond
      obtain ⟨text, f, span, hname, hvisit'⟩ :=
        visitDeclaration_of_isTracedConst hconst .none Node.span
      have hm : r.second.visitStatement m =
          ([r.second.visitConst text f span .none true], []) := by
        rw [Survey.visitStatement, if_neg (by simp [isTracedConst_kind hconst]), hvisit']
      have hmember : v₀.target.shape.isMember = false := by rw [hshape]; rfl
      rw [hvisit, hm, visitStatement_of_isDefaultExport hexport]
      exact paired_visit (matched_tracedConst hwrapped hmember
        (enclosing_of_visitStatement hvisit hshape) hname f span .none)
    · simp at hwhole
  · simp at hwhole

theorem visitAll_cons (visit : Node → List Visit × List Container) (n : Node) (ns : List Node) :
    Survey.visitAll visit (n :: ns) = Survey.both (visit n) (Survey.visitAll visit ns) := rfl

theorem both_assoc (p q t : List Visit × List Container) :
    Survey.both (Survey.both p q) t = Survey.both p (Survey.both q t) := by
  simp [Survey.both]

/-- The visits of the top-level statements match, wherever the entry point is brought in. -/
theorem paired_statements {ns ms : List Node} (h : r.statementsReread ns ms = true) :
    Paired r (Survey.visitAll r.first.visitStatement ns)
      (Survey.visitAll r.second.visitStatement ms) := by
  fun_induction statementsReread r ns ms with
  | case1 => exact paired_nil r
  | case2 => simp at h
  | case3 m ms ih =>
      obtain ⟨himport, hrest⟩ := Bool.and_eq_true_iff.mp h
      have hm := visitStatement_of_isEntryImport (r := r) himport
      rw [visitAll_cons, hm]
      exact ih hrest
  | case4 n ns m ms ihImport ih =>
      rcases Bool.or_eq_true_iff.mp h with h | h
      · obtain ⟨himport, hrest⟩ := Bool.and_eq_true_iff.mp h
        have hm := visitStatement_of_isEntryImport (r := r) himport
        rw [visitAll_cons _ m, hm]
        exact ihImport hrest
      · cases hwhole : r.wholeExport? n with
        | none =>
            simp only [hwhole] at h ih
            obtain ⟨hstmt, hrest⟩ := Bool.and_eq_true_iff.mp h
            rw [visitAll_cons, visitAll_cons]
            exact (paired_statement hwhole hstmt).both (ih hrest)
        | some v =>
            cases ms with
            | nil => simp [hwhole] at h
            | cons m' ms =>
                simp only [hwhole] at h ih
                obtain ⟨hpair, hrest⟩ := Bool.and_eq_true_iff.mp h
                obtain ⟨hconst, hexport⟩ := Bool.and_eq_true_iff.mp hpair
                rw [visitAll_cons, visitAll_cons, visitAll_cons, ← both_assoc]
                exact (paired_wholeExport hwhole hconst hexport).both (ih hrest)

end statements

theorem matched_found (h : r.isRewoven = true) :
    List.Forall₂ (Matched r) r.first.found r.second.found := by
  obtain ⟨hvisits, hcontainers⟩ := paired_statements h
  exact List.rel_append hvisits (List.rel_flatMap hcontainers fun _ _ hc => hc)

theorem signatureNames_second (h : r.isRewoven = true) :
    Survey.signatureNames r.second.found = r.names := by
  rw [names, Survey.signatureNames_eq, Survey.signatureNames_eq]
  have hfound := matched_found h
  generalize r.first.found = vs, r.second.found = vs' at hfound
  induction hfound with
  | nil => rfl
  | cons hv _ ih => rw [List.filterMap_cons, List.filterMap_cons, hv.signature, ih]

theorem reasons_second (h : r.isRewoven = true) :
    r.second.visits.map (fun v =>
      (v.target.identifier?, Survey.skipReason? r.skip r.entry v)) =
      r.first.visits.map fun v => (v.target.identifier?,
        some ((Survey.skipReason? r.skip r.entry v).getD .alreadyWrapped)) := by
  have hidentifier (v : Visit) :
      (Survey.retarget r.names v).target.identifier? = v.target.identifier? := by
    obtain ⟨hshape, hname, henclosing⟩ := Survey.target_retarget r.names v
    simp only [Target.identifier?, hshape, hname, henclosing]
  have hfound := matched_found h
  rw [Survey.visits_eq, Survey.visits_eq, signatureNames_second h, List.map_map, List.map_map]
  change _ = r.first.found.map (_ ∘ Survey.retarget r.names)
  generalize r.first.found = vs, r.second.found = vs' at hfound
  induction hfound with
  | nil => rfl
  | @cons v v' _ _ hv _ ih =>
      rw [List.map_cons, List.map_cons, ih]
      congr 1
      simp only [Function.comp_apply, hidentifier, hv.identifier]
      exact congrArg _ hv.reason

theorem skipped_of_reasons {reason? : Visit → Option SkipReason} {vs : List Visit}
    {ks : List (Option Text × SkipReason)}
    (h : vs.map (fun v => (v.target.identifier?, reason? v)) = ks.map fun k => (k.1, some k.2)) :
    (vs.filterMap fun v =>
        match reason? v with
        | some _ => none
        | none => some v.target) = [] ∧
      (vs.filterMap fun v => (reason? v).map v.target.skip).map
        (fun k => (k.identifier, k.reason)) = ks := by
  induction vs generalizing ks with
  | nil =>
      cases ks with
      | nil => exact ⟨rfl, rfl⟩
      | cons k ks => simp at h
  | cons v vs ih =>
      cases ks with
      | nil => simp at h
      | cons k ks =>
          simp only [List.map_cons, List.cons.injEq, Prod.mk.injEq] at h
          obtain ⟨⟨hidentifier, hreason⟩, hrest⟩ := h
          obtain ⟨hnone, hskipped⟩ := ih hrest
          simp [hreason, hnone, hskipped, Target.skip, hidentifier]

theorem classify_second (h : r.isRewoven = true) :
    (classify r.after r.skip r.entry).candidates = [] ∧
      (classify r.after r.skip r.entry).skipped.map (fun k => (k.identifier, k.reason)) =
        r.first.visits.map fun v => (v.target.identifier?,
          (Survey.skipReason? r.skip r.entry v).getD .alreadyWrapped) := by
  apply skipped_of_reasons
  rw [List.map_map]
  exact reasons_second h

end Rereading

/-- Weaving again changes nothing. Let the tree of a second file be that of a first one with every
wrapped function replaced. Then no function of the second file is a candidate, and it skips the
functions visited in the first one, in order and under their identifiers: those wrapped there
because they are wrapped already, all others for their old reason. If the second file is what is
woven from the first one, weaving it leaves its text as it is. -/
theorem weave_again (before after : Document) (skip : Text → Bool) (entry : Text)
    (h : (Rereading.mk before after skip entry).isRewoven = true) :
    (classify after skip entry).candidates = [] ∧
      (classify after skip entry).skipped.map (fun k => (k.identifier, k.reason)) =
        (Survey.mk before entry).visits.map (fun v => (v.target.identifier?,
          (Survey.skipReason? skip entry v).getD .alreadyWrapped)) ∧
      ∀ (w : Weaver) (source path : Text) (dialect : Dialect) (woven : Woven),
        w.skip.isMatch = skip → w.entry = entry → Dialect.ofPath? path = some dialect →
        Document.parse source dialect = .ok before → w.weave source path = .ok woven →
        Document.parse woven.modified dialect = .ok after →
          ∃ again, w.weave woven.modified path = .ok again ∧ again.changed = false ∧
            again.wrappedCount = 0 ∧ again.modified = woven.modified := by
  obtain ⟨hnone, hskipped⟩ := Rereading.classify_second h
  refine ⟨hnone, hskipped, ?_⟩
  rintro w source path dialect woven rfl rfl hdialect - - hafter
  have hsource := (Document.of_parse_eq_ok hafter).1
  have hwrapped : w.wrappedIn after path = [] := by
    rw [Weaver.wrappedIn]
    exact List.map_eq_nil_iff.mpr hnone
  have hagain := Weaver.weaveDocument_eq_unchanged hwrapped
  rw [← Weaver.weave_eq_weaveDocument hdialect hafter] at hagain
  exact ⟨_, hagain, rfl, rfl, hsource⟩

namespace Weaver

/-- A method, an overloaded function, a function, a constant and a default export, each of which is
woven in its own way. -/
def fiveShapes : Text :=
  ("class A \x7b\n  m() \x7b\x7d\n\x7d\nfunction f(): void;\nfunction f() \x7b\x7d\n" ++
    "function a() \x7b\x7d\nconst c = () => \x7b\x7d;\n" ++
    "export default function g() \x7b\x7d\n").toList

theorem weave_again_fiveShapes :
    ∃ before after woven again,
      (Rereading.mk before after plain.skip.isMatch plain.entry).isRewoven = true ∧
      plain.weave fiveShapes "a.ts".toList = .ok woven ∧ woven.wrappedCount = 5 ∧
      Document.parse woven.modified .typeScript = .ok after ∧
      (classify after plain.skip.isMatch plain.entry).candidates = [] ∧
      plain.weave woven.modified "a.ts".toList = .ok again ∧ again.changed = false ∧
      again.modified = woven.modified := by
  let importing : Edit := ⟨0, 0, "import \x7b traceCall \x7d from 'autotel';\n\n".toList⟩
  let method : Edit :=
    ⟨16, 18, "\x7b\n    return traceCall('A.m', () => \x7b\x7d)();\n  \x7d".toList⟩
  let overloaded : Edit := ⟨54, 56, "\x7b\n  return traceCall('f', () => \x7b\x7d)();\n\x7d".toList⟩
  let function : Edit := ⟨57, 72, "const a = traceCall('a', function a() \x7b\x7d);".toList⟩
  let constant : Edit := ⟨83, 91, "traceCall('c', () => \x7b\x7d)".toList⟩
  let exported : Edit :=
    ⟨93, 123, "const g = traceCall('g', function g() \x7b\x7d);\nexport default g;".toList⟩
  have horder : Edit.inOrder [overloaded, function, constant, exported, method, importing] =
      [importing, method, overloaded, function, constant, exported] :=
    Edit.inOrder_eq_of_rearranged (by decide +kernel) (by decide)
  have hdialect : Dialect.ofPath? "a.ts".toList = some .typeScript := by decide
  obtain ⟨before, woven, after, hbefore, hwoven, hafter, -, hwrapped, htest⟩ :=
    exists_woven plain fiveShapes (fun before _ after =>
      decide ((plain.wrappedIn before "a.ts".toList).length = 5) &&
        (Rereading.mk before after plain.skip.isMatch plain.entry).isRewoven)
      hdialect horder (by decide +kernel)
  obtain ⟨hlength, hrewoven⟩ := Bool.and_eq_true_iff.mp htest
  have hcount : woven.wrappedCount = 5 := by
    rw [Woven.wrappedCount, hwrapped, of_decide_eq_true hlength]
  obtain ⟨hnone, -, hagain⟩ := weave_again before after _ _ hrewoven
  obtain ⟨again, hweave, hchanged, -, htext⟩ :=
    hagain plain fiveShapes _ _ woven rfl rfl hdialect hbefore hwoven hafter
  exact ⟨before, after, woven, again, hrewoven, hwoven, hcount, hafter, hnone, hweave, hchanged,
    htext⟩

end Weaver

end SpanWeave
