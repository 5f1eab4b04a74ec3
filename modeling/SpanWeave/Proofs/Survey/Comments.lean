import SpanWeave.Proofs.Survey.Level
import SpanWeave.Proofs.Weave.Conflict

namespace SpanWeave

open Syntax

namespace Sprinkling

variable {r : Sprinkling}

section binding
variable {n n' : Node} (h : r.sprinkled .seen n n' = true)
include h

theorem requireSource?_eq : Binding.requireSource? r.before n = Binding.requireSource? r.after n' := by
  simp only [Binding.requireSource?]
  rw [← sprinkled_kind h]
  split
  · rename_i hcall
    rcases option_rel_cases (sprinkled_child? h .function) with
      ⟨hf, hf'⟩ | ⟨callee, callee', hf, hf', hcallee, hcalled⟩
    · simp only [hf, hf']
    · rcases option_rel_cases (sprinkled_child? h .arguments) with
        ⟨ha, ha'⟩ | ⟨args, args', ha, ha', hargs, hpassed⟩
      · simp only [hf, hf', ha, ha']
      · have hrequire : r.before.textOf callee = "require".toList ↔
            r.after.textOf callee' = "require".toList := by
          apply hcallee.textOf_eq_iff
          simp only [words, hcall, hcalled, ↓reduceIte]
          split <;> simp
        simp only [hf, hf', ha, ha', hrequire]
        split
        · have hseen := hargs.seen (by simp [leads, hpassed])
          refine option_bind_eq ?_ (forall₂_head? (sprinkled_significant hseen))
          intro c c' hc
          exact stringValue?_of_arguments hc hpassed
        · rfl
  · rfl

theorem specifierBinds_eq :
    Binding.specifierBinds r.before r.entry n = Binding.specifierBinds r.after r.entry n' := by
  simp only [Binding.specifierBinds, ← sprinkled_kind h, ← sprinkled_hasToken h]
  by_cases hkind : n.kind = .importSpecifier
  · congr 1
    have hname (f : Field) (hf : f = .name ∨ f = .localName) :
        Option.Rel (fun c c' => r.before.textOf c = r.entry ↔ r.after.textOf c' = r.entry)
          (n.child? f) (n'.child? f) := by
      refine option_rel_imp ?_ (sprinkled_child? h f)
      rintro c c' ⟨hcc, hrole⟩
      apply hcc.textOf_eq_iff
      rcases hf with rfl | rfl <;> simp [words, hkind, hrole]
    refine option_any_eq ?_ (option_rel_or (hname .localName (Or.inr rfl)) (hname .name (Or.inl rfl)))
    intro c c' hcc
    exact decide_eq_decide.mpr hcc
  · simp [hkind]

omit h in
theorem partBinds_eq {c c' : Node} (hcc : r.Stays .seen n c c') (hkind : n.kind = .importClause) :
    Binding.partBinds r.before r.entry c = Binding.partBinds r.after r.entry c' := by
  simp only [Binding.partBinds, ← hcc.kind]
  split
  · rename_i hidentifier
    exact decide_eq_decide.mpr (hcc.textOf_eq_iff (by simp [words, hkind, hidentifier]))
  · rename_i hnamed
    have hseen := hcc.seen (by simp [leads, hkind])
    refine forall₂_any ?_ (sprinkled_significant hseen)
    intro d d' hdd
    exact specifierBinds_eq (hdd.seen (by simp [leads, hnamed]))
  · rfl

theorem importBinds_eq (hkind : n.kind = .importStatement) :
    Binding.importBinds r.before r.entry n = Binding.importBinds r.after r.entry n' := by
  simp only [Binding.importBinds, ← sprinkled_hasToken h]
  have hclauses := forall₂_find? (p := fun n => decide (n.kind = .importClause))
    (q := fun n => decide (n.kind = .importClause)) (fun c c' hcc => by rw [Stays.kind hcc])
    (sprinkled_significant h)
  rcases option_rel_cases hclauses with ⟨hc, hc'⟩ | ⟨c, c', hc, hc', hcc⟩
  · rw [hc, hc']
  · have hclause : c.kind = .importClause := by simpa using List.find?_some hc
    have hparts : c.significant.any (Binding.partBinds r.before r.entry) =
        c'.significant.any (Binding.partBinds r.after r.entry) :=
      forall₂_any (fun _ _ hdd => partBinds_eq hdd hclause)
        (sprinkled_significant (hcc.seen (by simp [leads, hkind])))
    have hsource : (n.child? .source).bind r.before.stringValue? =
        (n'.child? .source).bind r.after.stringValue? := by
      refine option_bind_eq ?_ (sprinkled_child? h .source)
      rintro d d' ⟨hdd, hrole⟩
      exact stringValue?_of_isTaken hdd (by simp [isTaken, isString, hkind, hrole])
    rw [hc, hc']
    simp only [hparts, hsource]

omit h in
theorem propertyBinds_eq {c c' : Node} (hcc : r.Stays .seen n c c') (hkind : n.kind = .objectPattern) :
    Binding.propertyBinds r.before r.entry c = Binding.propertyBinds r.after r.entry c' := by
  simp only [Binding.propertyBinds, ← hcc.kind]
  split
  · rename_i hshort
    exact decide_eq_decide.mpr (hcc.textOf_eq_iff (by simp [words, hkind, hshort]))
  · rename_i hpair
    refine option_any_eq ?_ (sprinkled_child? (hcc.seen (by simp [leads, hkind])) .value)
    rintro v v' ⟨hvv, hvalue⟩
    exact decide_eq_decide.mpr (hvv.textOf_eq_iff (by simp [words, hpair, hvalue]))
  · rfl

theorem declaratorBinds_eq :
    Binding.declaratorBinds r.before r.entry n = Binding.declaratorBinds r.after r.entry n' := by
  simp only [Binding.declaratorBinds, ← sprinkled_kind h]
  by_cases hkind : n.kind = .variableDeclarator
  · congr 1
    rcases option_rel_cases (sprinkled_child? h .name) with
      ⟨hb, hb'⟩ | ⟨b, b', hb, hb', hbb, hrole⟩
    · rw [hb, hb']
    · rw [hb, hb']
      simp only [← hbb.kind]
      congr 1
      · by_cases hidentifier : b.kind = .identifier
        · rw [hbb.textOf (by simp [isTaken, isName, hkind, hrole, hidentifier])]
        · simp [hidentifier]
      · by_cases hpattern : b.kind = .objectPattern
        · congr 1
          have hseen := hbb.seen (by simp [leads, hrole, isAccessor, hkind])
          refine forall₂_any ?_ (sprinkled_significant hseen)
          intro d d' hdd
          exact propertyBinds_eq hdd hpattern
        · simp [hpattern]
  · simp [hkind]

theorem declarationBinds_eq
    (hkind : n.kind = .lexicalDeclaration ∨ n.kind = .variableDeclaration) :
    Binding.declarationBinds r.before r.entry n = Binding.declarationBinds r.after r.entry n' := by
  have hleads (c : Node) : leads n c = true := by
    rcases hkind with hkind | hkind <;> simp [leads, hkind]
  have hfirst := forall₂_find?
    (fun c c' hcc => declaratorBinds_eq (Stays.seen hcc (hleads c))) (sprinkled_significant h)
  refine option_map_eq ?_ hfirst
  intro d d' hdd
  refine option_bind_eq ?_ (sprinkled_child? (hdd.seen (hleads d)) .value)
  rintro v v' ⟨hvv, hrole⟩
  exact requireSource?_eq (hvv.seen (by simp [leads, hrole]))

theorem declaredBinds_eq :
    Binding.declaredBinds r.before r.entry n = Binding.declaredBinds r.after r.entry n' := by
  simp only [Binding.declaredBinds, ← sprinkled_kind h]
  split
  all_goals rename_i hkind
  · exact importBinds_eq h hkind
  · exact declarationBinds_eq h (Or.inl hkind)
  · exact declarationBinds_eq h (Or.inr hkind)
  · rw [sprinkled_name? h (by rw [hkind]; rfl)]
  · rw [sprinkled_name? h (by rw [hkind]; rfl)]
  · rw [sprinkled_name? h (by rw [hkind]; rfl)]
  · rw [sprinkled_name? h (by rw [hkind]; rfl)]
  · rfl

theorem statementBinds_eq :
    Binding.statementBinds r.before r.entry n = Binding.statementBinds r.after r.entry n' := by
  simp only [Binding.statementBinds, ← sprinkled_kind h]
  split
  · refine option_bind_eq ?_ (sprinkled_child? h .declaration)
    rintro d d' ⟨hdd, hrole⟩
    exact declaredBinds_eq (hdd.seen (by simp [leads, hrole]))
  · exact declaredBinds_eq h

end binding

theorem map_module?_find? (h : r.sprinkled .file r.before.root r.after.root = true) :
    (Binding.find? r.before r.entry).map EntryBinding.module? =
      (Binding.find? r.after r.entry).map EntryBinding.module? := by
  simp only [Binding.find?]
  have hstmts := sprinkled_significant h
  generalize r.before.root.significant = ns, r.after.root.significant = ns' at hstmts
  induction hstmts with
  | nil => rfl
  | @cons n n' ns ns' hn _ ih =>
      rw [List.findSome?_cons, List.findSome?_cons, ← statementBinds_eq hn.sprinkled]
      cases Binding.statementBinds r.before r.entry n with
      | none => exact ih
      | some _ => rfl

theorem bare_candidates (h : r.sprinkled .file r.before.root r.after.root = true) (skip : Text → Bool) :
    (classify r.before skip r.entry).candidates.map Target.bare =
      (classify r.after skip r.entry).candidates.map Target.bare := by
  have hbare (s : Survey) : ((s.outcomes skip).filterMap Survey.Outcome.candidate?).map
      Target.bare = ((s.outcomes skip).map Survey.Outcome.bare).filterMap
        Survey.Outcome.candidate? := by
    rw [List.map_filterMap, List.filterMap_map]
    congr 1
    funext o
    cases hreason : o.reason <;>
      simp [Survey.Outcome.candidate?, Survey.Outcome.bare, hreason]
  rw [candidates_classify, candidates_classify, hbare, hbare]
  exact congrArg _ (bare_outcomes h skip)

theorem bare_skipped (h : r.sprinkled .file r.before.root r.after.root = true) (skip : Text → Bool) :
    (classify r.before skip r.entry).skipped.map SkipRecord.bare =
      (classify r.after skip r.entry).skipped.map SkipRecord.bare := by
  have hbare (s : Survey) : ((s.outcomes skip).filterMap Survey.Outcome.record?).map
      SkipRecord.bare = (((s.outcomes skip).map Survey.Outcome.bare).filterMap
        Survey.Outcome.record?).map SkipRecord.bare := by
    rw [List.map_filterMap, List.map_filterMap, List.filterMap_map]
    congr 1
    funext o
    simp only [Survey.Outcome.record?, Option.map_map, Function.comp_apply,
      Survey.Outcome.bare]
    rfl
  rw [skipped_classify, skipped_classify, hbare, hbare]
  exact congrArg _ (congrArg _ (bare_outcomes h skip))

end Sprinkling

/-- Comments put into a file change nothing about which functions are found and in what order, how
they are known and why they are left alone, nor about the module that the entry point is bound
from. -/
theorem same_outcomes_of_comments (before after : Document) (entry : Text) (skip : Text → Bool)
    (h : (Sprinkling.mk before after entry).sprinkled .file before.root after.root = true) :
    ((Survey.mk before entry).outcomes skip).map Survey.Outcome.bare =
        ((Survey.mk after entry).outcomes skip).map Survey.Outcome.bare ∧
      (classify before skip entry).candidates.map Target.bare =
        (classify after skip entry).candidates.map Target.bare ∧
      (classify before skip entry).skipped.map SkipRecord.bare =
        (classify after skip entry).skipped.map SkipRecord.bare ∧
      (Binding.find? before entry).map EntryBinding.module? =
        (Binding.find? after entry).map EntryBinding.module? := by
  refine ⟨?_, ?_, ?_, ?_⟩
  · exact Sprinkling.bare_outcomes (r := ⟨before, after, entry⟩) h skip
  · exact Sprinkling.bare_candidates (r := ⟨before, after, entry⟩) h skip
  · exact Sprinkling.bare_skipped (r := ⟨before, after, entry⟩) h skip
  · exact Sprinkling.map_module?_find? (r := ⟨before, after, entry⟩) h

/-- A binding, a method that is wrapped, and one with a computed key. -/
def wrappedMember : Text :=
  ("const \x7b traceCall \x7d = require('m');\n" ++
    "class A \x7b\n  m() \x7b return traceCall('A.m', () => 1)(); \x7d\n  ['k']() \x7b\x7d\n\x7d\n").toList

/-- The same file with comments put in. -/
def wrappedMemberWithComments : Text :=
  ("const \x7b /* a */ traceCall \x7d = require(/* b */ 'm');\nclass A \x7b\n" ++
    "  m() \x7b return /* c */ traceCall('A.m', () => 1 /* d */)(); /* e */ \x7d\n" ++
    "  [/* f */ 'k']() \x7b\x7d\n\x7d\n").toList

theorem same_outcomes_of_wrappedMember :
    ∃ before after, Document.parse wrappedMember .typeScript = .ok before ∧
      Document.parse wrappedMemberWithComments .typeScript = .ok after ∧
      (classify after Weaver.plain.skip.isMatch Weaver.plain.entry).skipped.map SkipRecord.bare =
        [⟨.instanceMethod, some "A.m".toList, 0, .alreadyWrapped⟩] ∧
      (classify after Weaver.plain.skip.isMatch Weaver.plain.entry).candidates.map
        (fun t => t.bare.identifier?) = [some "A.k".toList] ∧
      (Binding.find? after Weaver.plain.entry).map EntryBinding.module? =
        some (some "m".toList) := by
  have hcheck : yields (Document.parse wrappedMember .typeScript) (fun before =>
      yields (Document.parse wrappedMemberWithComments .typeScript) fun after =>
        (Sprinkling.mk before after Weaver.plain.entry).sprinkled .file before.root after.root &&
          decide ((classify before Weaver.plain.skip.isMatch Weaver.plain.entry).skipped.map
              SkipRecord.bare = [⟨.instanceMethod, some "A.m".toList, 0, .alreadyWrapped⟩] ∧
            (classify before Weaver.plain.skip.isMatch Weaver.plain.entry).candidates.map
              (fun t => t.bare.identifier?) = [some "A.k".toList] ∧
            (Binding.find? before Weaver.plain.entry).map EntryBinding.module? =
              some (some "m".toList))) = true := by
    decide +kernel
  obtain ⟨before, hbefore, h⟩ := exists_of_yields hcheck
  obtain ⟨after, hafter, h⟩ := exists_of_yields h
  obtain ⟨hsprinkled, h⟩ := Bool.and_eq_true_iff.mp h
  obtain ⟨hskipped, hcandidates, hbinding⟩ := of_decide_eq_true h
  obtain ⟨-, hcandidates', hskipped', hbinding'⟩ :=
    same_outcomes_of_comments before after Weaver.plain.entry Weaver.plain.skip.isMatch hsprinkled
  refine ⟨before, after, hbefore, hafter, hskipped' ▸ hskipped, ?_, hbinding' ▸ hbinding⟩
  have hmap := congrArg (List.map Target.identifier?) hcandidates'
  rw [List.map_map, List.map_map] at hmap
  exact hmap.symm.trans hcandidates

end SpanWeave
