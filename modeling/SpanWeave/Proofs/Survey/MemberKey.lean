import SpanWeave.Proofs.Survey.Traversal
import SpanWeave.Proofs.Weave.Conflict

namespace SpanWeave.Survey

open Syntax

/-- The node is a string, or a template without substitutions. -/
def IsQuoted (n : Node) : Prop :=
  n.kind = .string ∨ n.kind = .templateString ∧ n.hasChild .templateSubstitution = false

/-- The text of a node without the quotes of a string. -/
inductive Unquoted (d : Document) (n : Node) : Text → Prop
  | quoted {a b : Char} {inner : Text} (hquoted : IsQuoted n)
      (htext : d.textOf n = a :: (inner ++ [b])) : Unquoted d n inner
  | plain (hplain : ¬ IsQuoted n) : Unquoted d n (d.textOf n)

/-- What the key of a member says, without the quotes of a string and the brackets of a computed
key. -/
inductive KeyOf (d : Document) (k : Node) : Text → Prop
  | computed {x : Node} {key : Text} (hkind : k.kind = .computedPropertyName)
      (hx : k.significant.head? = some x) (hkey : Unquoted d x key) : KeyOf d k key
  | direct {key : Text} (hkind : k.kind ≠ .computedPropertyName) (hkey : Unquoted d k key) :
      KeyOf d k key

/-- The outcome is what a classification tells of the function. -/
inductive Outcome.ToldBy (found : Classification) : Outcome → Prop
  | candidate {t : Target} (ht : t ∈ found.candidates) : ToldBy found ⟨t, none⟩
  | skipped {t : Target} {r : SkipReason} (hr : t.skip r ∈ found.skipped) :
      ToldBy found ⟨t, some r⟩

theorem toldBy_of_mem_outcomes {doc : Document} {entry : Text} {skip : Text → Bool} {o : Outcome}
    (h : o ∈ (Survey.mk doc entry).outcomes skip) : o.ToldBy (classify doc skip entry) := by
  obtain ⟨t, none | r⟩ := o
  · refine .candidate ?_
    rw [candidates_classify]
    exact mem_filterMap_candidate?_iff.mpr h
  · refine .skipped ?_
    rw [skipped_classify]
    exact record?_mem_filterMap h

section keys
variable {d : Document} {n k m : Node} {key : Text}

theorem stringValue?_of_quoted {a b : Char} {inner : Text} (hquoted : IsQuoted n)
    (htext : d.textOf n = a :: (inner ++ [b])) : d.stringValue? n = some inner := by
  rcases hquoted with hkind | ⟨hkind, hchild⟩
  · simp [Document.stringValue?, hkind, htext]
  · simp [Document.stringValue?, hkind, hchild, htext]

theorem stringValue?_of_not_isQuoted (hplain : ¬ IsQuoted n) : d.stringValue? n = none := by
  simp only [IsQuoted, not_or, not_and, Bool.not_eq_false] at hplain
  simp only [Document.stringValue?]
  split
  · exact absurd ‹_› hplain.1
  · simp [hplain.2 ‹_›]
  · simp

theorem Unquoted.eq (h : Unquoted d n key) : (d.stringValue? n).getD (d.textOf n) = key := by
  cases h with
  | quoted hquoted htext => rw [stringValue?_of_quoted hquoted htext, Option.getD_some]
  | plain hplain => rw [stringValue?_of_not_isQuoted hplain, Option.getD_none]

variable {s : Survey}

theorem memberName?_eq_some (hk : m.child? .name = some k) (hkey : KeyOf s.doc k key) :
    s.memberName? m = some key := by
  cases hkey with
  | computed hkind hx hkey => simp [memberName?, hk, hkind, hx, hkey.eq]
  | direct hkind hkey => simp [memberName?, hk, hkind, hkey.eq]

theorem qualified_ne_textOf {owner : Text}
    (hmark : key ≠ d.textOf k → ∀ mark ∈ (d.textOf k).head?, mark ≠ '.' ∧ mark ∉ owner) :
    owner ++ '.' :: key ≠ d.textOf k := by
  intro heq
  by_cases hkey : key = d.textOf k
  · have hlength := congrArg List.length heq
    rw [← hkey, List.length_append, List.length_cons] at hlength
    omega
  cases owner with
  | nil => exact (hmark hkey '.' (by simp [← heq])).1 rfl
  | cons c owner => exact (hmark hkey c (by simp [← heq])).2 List.mem_cons_self

end keys

section members
variable {s : Survey} {b m : Site} {c : Container} {v : Visit} {k : Node} {owner key : Text}

theorem identifier?_outcome (s : Survey) (skip : Text → Bool) (v : Visit) :
    (s.outcome skip v).target.identifier? = v.target.identifier? := by
  obtain ⟨hshape, hname, henclosing⟩ := target_retarget (signatureNames s.found) v
  simp only [outcome, Target.identifier?, hshape, hname, henclosing]

theorem identifier?_visitMethod (s : Survey) (c : Container) (m : Node)
    (howner : c.name = some owner) :
    (s.visitMethod c m).target.identifier? =
      (s.memberName? m).map fun key => owner ++ '.' :: key := by
  have henclosing : (s.visitMethod c m).target.enclosing = some owner := howner
  have hname : (s.visitMethod c m).target.name = s.memberName? m := rfl
  rw [Target.identifier?, isMember_visitMethod, henclosing, hname]
  cases s.memberName? m <;> rfl

theorem identifier?_visitSignature (s : Survey) (sig : Node) (enclosing : Option Text)
    (exported : Export) :
    (s.visitSignature sig enclosing exported).target.identifier? = s.doc.fieldText? sig .name := rfl

/-- The outcome of a member of a class, by its kind. -/
theorem identifier?_outcome_of_memberAt (skip : Text → Bool) (howner : c.name = some owner)
    (hm : MemberAt s b c m v) (hk : m.node.child? .name = some k) (hkey : KeyOf s.doc k key) :
    (m.node.kind = .methodDefinition →
      (s.outcome skip v).target.identifier? = some (owner ++ '.' :: key)) ∧
    (m.node.kind = .methodSignature →
      s.outcome skip v = ⟨v.target, some .overloadSignature⟩ ∧
        v.target.identifier? = some (s.doc.textOf k)) := by
  cases hm with
  | method hm hkind hget hset =>
      rw [identifier?_outcome, identifier?_visitMethod s c m.node howner,
        memberName?_eq_some hk hkey]
      simp [hkind]
  | signature hm hkind hclass =>
      refine ⟨by simp [hkind], fun _ => ⟨rfl, ?_⟩⟩
      rw [identifier?_visitSignature, Document.fieldText?, hk, Option.map_some]

end members

/-- What is told of the members of a class with a name, or bound to a name. It is that name, a dot
and what the key says for the methods and for no signature; a signature is told by its key as it is
written, and so never by the name of a method with the same key. -/
theorem identifier_of_member {doc : Document} {entry : Text} (skip : Text → Bool)
    {stmt b m : Site} {c : Container} {v : Visit} {k : Node} {owner key : Text}
    (hstmt : stmt ∈ (Survey.mk doc entry).statements)
    (hholds : Holds ⟨doc, entry⟩ stmt b c) (howner : c.name = some owner)
    (hm : MemberAt ⟨doc, entry⟩ b c m v) (hk : m.node.child? .name = some k)
    (hkey : KeyOf doc k key)
    (hmark : key ≠ doc.textOf k → ∀ mark ∈ (doc.textOf k).head?, mark ≠ '.' ∧ mark ∉ owner) :
    let s : Survey := ⟨doc, entry⟩
    let o := s.outcome skip v
    o ∈ s.outcomes skip ∧ o.ToldBy (classify doc skip entry) ∧
      (o.target.identifier? = some (owner ++ '.' :: key) ↔ m.node.kind = .methodDefinition) ∧
      (m.node.kind = .methodSignature →
        o.reason = some .overloadSignature ∧ o.target.identifier? = some (doc.textOf k)) ∧
      ∀ m' v' k', MemberAt s b c m' v' → m'.node.child? .name = some k' → KeyOf doc k' key →
        m.node.kind = .methodSignature → m'.node.kind = .methodDefinition →
          (s.outcome skip v').target.identifier? ≠ o.target.identifier? := by
  intro s o
  have hmember : Member s m v := ⟨b, c, ⟨stmt, hstmt, hholds⟩, hm⟩
  have hmem : o ∈ s.outcomes skip :=
    List.mem_map_of_mem (mem_found_iff.mpr (Or.inr ⟨m, hmember⟩))
  obtain ⟨hmethod, hsignature⟩ :=
    identifier?_outcome_of_memberAt (s := s) skip howner hm hk hkey
  have hwritten (hkind : m.node.kind = .methodSignature) :
      o.reason = some .overloadSignature ∧ o.target.identifier? = some (doc.textOf k) := by
    obtain ⟨ho, hidentifier⟩ := hsignature hkind
    exact ⟨congrArg Outcome.reason ho, (congrArg (·.target.identifier?) ho).trans hidentifier⟩
  have hne : some (owner ++ '.' :: key) ≠ some (doc.textOf k) := fun h =>
    qualified_ne_textOf hmark (Option.some.inj h)
  refine ⟨hmem, toldBy_of_mem_outcomes hmem, ⟨fun hqualified => ?_, hmethod⟩, hwritten, ?_⟩
  · rcases hmember.kind with hkind | hkind
    · exact hkind
    · exact absurd (hqualified.symm.trans (hwritten hkind).2) hne
  · intro m' v' k' hm' hk' hkey' hkind hkind'
    rw [(identifier?_outcome_of_memberAt skip howner hm' hk' hkey').1 hkind', (hwritten hkind).2]
    exact hne

/-- A class whose method, with a quoted key, has a signature. -/
def quotedKeys : Text := "class A \x7b\n  'm'(): void;\n  'm'() \x7b\x7d\n\x7d\n".toList

def isQuotedKey (doc : Document) (k : Node) : Bool :=
  decide (k.kind = .string ∧ doc.textOf k = "'m'".toList)

theorem keyOf_of_isQuotedKey {doc : Document} {k : Node} (h : isQuotedKey doc k = true) :
    KeyOf doc k "m".toList := by
  obtain ⟨hkind, htext⟩ := of_decide_eq_true h
  exact .direct (by simp [hkind]) (.quoted (.inl hkind) htext)

theorem identifier_of_quotedKeys :
    ∃ (doc : Document) (stmt b m m' : Site) (c : Container) (v v' : Visit),
      Document.parse quotedKeys .typeScript = .ok doc ∧
        let s : Survey := ⟨doc, Weaver.plain.entry⟩
        let told (v : Visit) := (s.outcome Weaver.plain.skip.isMatch v).target.identifier?
        stmt ∈ s.statements ∧ Holds s stmt b c ∧ c.name = some "A".toList ∧
          MemberAt s b c m v ∧ MemberAt s b c m' v' ∧
          m.node.kind = .methodSignature ∧ m'.node.kind = .methodDefinition ∧
          told v = some "'m'".toList ∧ told v' = some "A.m".toList := by
  have hcheck : yields (Document.parse quotedKeys .typeScript) (fun doc =>
      ((Survey.mk doc Weaver.plain.entry).statements[0]?).any fun stmt =>
        decide (stmt.node.kind = .classDeclaration ∧
          doc.fieldText? stmt.node .name = some "A".toList) &&
        (bodyOf stmt).children.any fun m => (bodyOf stmt).children.any fun m' =>
          decide (m.node.kind = .methodSignature ∧ m'.node.kind = .methodDefinition ∧
            m'.node.hasToken "get" = false ∧ m'.node.hasToken "set" = false) &&
          (m.node.child? .name).any (isQuotedKey doc) &&
          (m'.node.child? .name).any (isQuotedKey doc)) = true := by
    decide +kernel
  obtain ⟨doc, hdoc, h⟩ := exists_of_yields hcheck
  simp only [Option.any_eq_true, List.any_eq_true, Bool.and_eq_true, decide_eq_true_eq] at h
  obtain ⟨stmt, hfirst, ⟨hclass, hname⟩, m, hm, m', hm', ⟨⟨hkind, hkind', hget, hset⟩,
    ⟨k, hk, hkey⟩⟩, ⟨k', hk', hkey'⟩⟩ := h
  let s : Survey := ⟨doc, Weaver.plain.entry⟩
  have hstmt : stmt ∈ s.statements := List.mem_of_getElem? hfirst
  let c : Container := ⟨doc.fieldText? stmt.node .name, (bodyOf stmt).node, true⟩
  have hholds : Holds s stmt (bodyOf stmt) c :=
    .declared (.bare (by simp [hclass])) (.ofClass (.inl hclass))
  have hsignature : MemberAt s (bodyOf stmt) c m _ := .signature hm hkind rfl
  have hmethod : MemberAt s (bodyOf stmt) c m' _ := .method hm' hkind' hget hset
  have htext : doc.textOf k = "'m'".toList := (of_decide_eq_true hkey).2
  have hmark : ∀ mark ∈ (doc.textOf k).head?, mark ≠ '.' ∧ mark ∉ "A".toList := by
    rw [htext]
    simp
  have hmark' : ∀ mark ∈ (doc.textOf k').head?, mark ≠ '.' ∧ mark ∉ "A".toList := by
    rw [(of_decide_eq_true hkey').2]
    simp
  obtain ⟨-, -, -, hwritten, -⟩ := identifier_of_member Weaver.plain.skip.isMatch hstmt hholds hname
    hsignature hk (keyOf_of_isQuotedKey hkey) fun _ => hmark
  obtain ⟨-, -, hqualified, -⟩ := identifier_of_member Weaver.plain.skip.isMatch hstmt hholds hname
    hmethod hk' (keyOf_of_isQuotedKey hkey') fun _ => hmark'
  exact ⟨doc, stmt, _, m, m', c, _, _, hdoc, hstmt, hholds, hname, hsignature, hmethod, hkind,
    hkind', (hwritten hkind).2.trans (congrArg some htext), hqualified.mpr hkind'⟩

/-- The signature and the method have one key and are told by two names. -/
theorem signature_of_quotedKeys_unqualified :
    ∃ doc, Document.parse quotedKeys .typeScript = .ok doc ∧
      (∃ t ∈ (classify doc Weaver.plain.skip.isMatch Weaver.plain.entry).candidates,
        t.shape = .instanceMethod ∧ t.enclosing = some "A".toList ∧ t.line = 3 ∧
          t.identifier? = some "A.m".toList) ∧
      ∃ r ∈ (classify doc Weaver.plain.skip.isMatch Weaver.plain.entry).skipped,
        r.shape = .overloadSignature ∧ r.line = 2 ∧ r.identifier = some "'m'".toList := by
  have hcheck : yields (Document.parse quotedKeys .typeScript) (fun doc =>
      ((classify doc Weaver.plain.skip.isMatch Weaver.plain.entry).candidates.any fun t =>
        decide (t.shape = .instanceMethod ∧ t.enclosing = some "A".toList ∧ t.line = 3 ∧
          t.identifier? = some "A.m".toList)) &&
      (classify doc Weaver.plain.skip.isMatch Weaver.plain.entry).skipped.any fun r =>
        decide (r.shape = .overloadSignature ∧ r.line = 2 ∧
          r.identifier = some "'m'".toList)) = true := by
    decide +kernel
  obtain ⟨doc, hdoc, h⟩ := exists_of_yields hcheck
  simp only [Bool.and_eq_true, List.any_eq_true, decide_eq_true_eq] at h
  exact ⟨doc, hdoc, h⟩

end SpanWeave.Survey
