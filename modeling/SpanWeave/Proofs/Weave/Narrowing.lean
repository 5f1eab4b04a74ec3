import SpanWeave.Proofs.Survey.Outcome
import SpanWeave.Proofs.Weave.Conflict

namespace SpanWeave

/-- `q` holds of the name by which the function is known or, for a member, of its bare name. -/
def Target.isNamedBy (q : Text → Bool) (t : Target) : Bool :=
  t.identifier?.any q || (t.shape.isMember && t.name.any q)

theorem Target.isNamedBy_or (p q : Text → Bool) (t : Target) :
    t.isNamedBy (fun name => p name || q name) = (t.isNamedBy p || t.isNamedBy q) := by
  have hor (n? : Option Text) :
      (n?.any fun name => p name || q name) = (n?.any p || n?.any q) := by
    cases n? <;> rfl
  simp only [Target.isNamedBy, hor, Bool.and_or_distrib_left]
  rw [Bool.or_assoc, Bool.or_assoc, Bool.or_left_comm (t.identifier?.any q)]

/-- One of the patterns, each a test of names, holds of the name. -/
def matchesAny (patterns : List (Text → Bool)) (name : Text) : Bool :=
  patterns.any fun p => p name

theorem matchesAny_append (P Q : List (Text → Bool)) :
    matchesAny (P ++ Q) = fun name => matchesAny P name || matchesAny Q name := by
  funext name
  exact List.any_append

theorem isMatch_eq_matchesAny (l : SkipList) :
    l.isMatch = matchesAny (l.patterns.map Pattern.isFoundIn) := by
  funext name
  simp only [SkipList.isMatch, matchesAny, List.any_map]
  rfl

namespace Survey

/-- No rule that comes before the names has settled the outcome, and no name has. -/
def Outcome.isOpen (o : Outcome) : Bool :=
  match o.reason with
  | none | some .alreadyWrapped | some .generator => true
  | some _ => false

/-- The outcome when functions named by `q` are left alone as well. -/
def Outcome.narrow (q : Text → Bool) (o : Outcome) : Outcome :=
  if o.isOpen && o.target.isNamedBy q then { o with reason := some .nameMatch } else o

/-- The reason for which a function is left alone that no name speaks against. -/
def formReason? (v : Visit) : Option SkipReason :=
  if v.wrapped then some .alreadyWrapped
  else if v.target.isGenerator && (v.target.shape.isMember || v.target.overloaded) then
    some .generator
  else none

theorem isOpen_formReason? (v : Visit) : Outcome.isOpen ⟨v.target, formReason? v⟩ = true := by
  rw [formReason?]
  split
  · rfl
  · split <;> rfl

section
variable {v : Visit} {identifier : Text} (hconstructor : v.target.shape ≠ .constructorMethod)
  (hsignature : v.target.shape ≠ .overloadSignature)
  (hidentifier : v.target.identifier? = some identifier)
include hconstructor hsignature hidentifier

theorem skipReason?_of_identifier (skip : Text → Bool) (entry : Text) :
    skipReason? skip entry v =
      if v.target.isNamedBy skip || (!v.target.shape.isMember && identifier = entry) then
        some .nameMatch
      else formReason? v := by
  simp only [skipReason?, hconstructor, hsignature, hidentifier, ↓reduceIte, Target.isNamedBy,
    Option.any_some, formReason?]

theorem narrow_of_identifier (p q : Text → Bool) (entry : Text) :
    Outcome.narrow q ⟨v.target, skipReason? p entry v⟩ =
      ⟨v.target, skipReason? (fun name => p name || q name) entry v⟩ := by
  rw [skipReason?_of_identifier hconstructor hsignature hidentifier,
    skipReason?_of_identifier hconstructor hsignature hidentifier, Target.isNamedBy_or]
  by_cases hp : (v.target.isNamedBy p || (!v.target.shape.isMember && identifier = entry)) = true
  · have hpq : (v.target.isNamedBy p || v.target.isNamedBy q ||
        (!v.target.shape.isMember && identifier = entry)) = true := by
      rw [Bool.or_right_comm, hp, Bool.true_or]
    rw [if_pos hp, if_pos hpq]
    rfl
  · rw [if_neg hp, Bool.or_right_comm, Bool.eq_false_iff.mpr hp, Bool.false_or, Outcome.narrow,
      isOpen_formReason?, Bool.true_and]
    split <;> rfl

end

theorem narrow_outcome (s : Survey) (p q : Text → Bool) (v : Visit) :
    (s.outcome p v).narrow q = s.outcome (fun name => p name || q name) v := by
  simp only [outcome]
  generalize retarget (signatureNames s.found) v = w
  by_cases hconstructor : w.target.shape = .constructorMethod
  · simp [skipReason?, hconstructor, Outcome.narrow, Outcome.isOpen]
  by_cases hsignature : w.target.shape = .overloadSignature
  · simp [skipReason?, hsignature, Outcome.narrow, Outcome.isOpen]
  cases hidentifier : w.target.identifier? with
  | none => simp [skipReason?, hconstructor, hsignature, hidentifier, Outcome.narrow,
      Outcome.isOpen]
  | some identifier => exact narrow_of_identifier hconstructor hsignature hidentifier p q s.entry

theorem outcomes_or (s : Survey) (p q : Text → Bool) :
    s.outcomes (fun name => p name || q name) = (s.outcomes p).map (Outcome.narrow q) := by
  simp only [outcomes, List.map_map]
  apply List.map_congr_left
  intro v _
  exact (narrow_outcome s p q v).symm

theorem candidate?_narrow (q : Text → Bool) (o : Outcome) :
    (o.narrow q).candidate? = o.candidate?.filter fun t => !t.isNamedBy q := by
  rw [Outcome.narrow]
  cases hreason : o.reason with
  | none =>
      have hopen : o.isOpen = true := by rw [Outcome.isOpen, hreason]
      have hcandidate : o.candidate? = some o.target := by rw [Outcome.candidate?, hreason]
      rw [hopen, Bool.true_and, hcandidate, Option.filter_some]
      cases o.target.isNamedBy q
      · exact hcandidate
      · rfl
  | some r =>
      have hcandidate : o.candidate? = none := by rw [Outcome.candidate?, hreason]
      rw [hcandidate, Option.filter_none]
      split
      · rfl
      · exact hcandidate

theorem isOpen_of_reason {o : Outcome} {r : SkipReason} (hreason : o.reason = some r)
    (hopen : o.isOpen = true) : r = .alreadyWrapped ∨ r = .generator := by
  rw [Outcome.isOpen, hreason] at hopen
  cases r <;> simp_all

theorem record?_narrow (q : Text → Bool) (o : Outcome) {r : SkipReason} (hname : r ≠ .nameMatch)
    (hwrapped : r ≠ .alreadyWrapped) (hgenerator : r ≠ .generator) :
    ((o.narrow q).record?.filter fun k => k.reason = r) = o.record?.filter fun k => k.reason = r := by
  rw [Outcome.narrow]
  split
  · rename_i hnamed
    obtain ⟨hopen, -⟩ := Bool.and_eq_true_iff.mp hnamed
    cases hreason : o.reason with
    | none => simp [Outcome.record?, hreason, Target.skip, hname.symm, Option.filter_some]
    | some r' =>
        have hne : r' ≠ r := by
          rintro rfl
          rcases isOpen_of_reason hreason hopen with h | h
          · exact hwrapped h
          · exact hgenerator h
        simp [Outcome.record?, hreason, Target.skip, hname.symm, hne, Option.filter_some]
  · rfl

end Survey

/-- What becomes of the classification of a file when the functions named by `q` are left alone as
well as those named by `p`. -/
structure Narrowed (doc : Document) (entry : Text) (p q both : Text → Bool) : Prop where
  outcomes : (Survey.mk doc entry).outcomes both =
    ((Survey.mk doc entry).outcomes p).map (Survey.Outcome.narrow q)
  candidates : (classify doc both entry).candidates =
    (classify doc p entry).candidates.filter fun t => !t.isNamedBy q
  removed : ∀ t ∈ (classify doc p entry).candidates, t.isNamedBy q = true →
    t.skip .nameMatch ∈ (classify doc both entry).skipped
  settled : ∀ reason : SkipReason, reason ≠ .nameMatch → reason ≠ .alreadyWrapped →
    reason ≠ .generator →
      ((classify doc both entry).skipped.filter fun k => k.reason = reason) =
        (classify doc p entry).skipped.filter fun k => k.reason = reason
  wrapped : ∀ w w' : Weaver, w'.config.namePattern = w.config.namePattern →
    w'.config.instrumentation = w.config.instrumentation → ∀ path newline,
      (classify doc both entry).candidates.map (w'.wrap path newline) =
        ((classify doc p entry).candidates.map (w.wrap path newline)).filter fun x =>
          !x.target.isNamedBy q

theorem candidates_or (doc : Document) (entry : Text) (p q : Text → Bool) :
    (classify doc (fun name => p name || q name) entry).candidates =
      (classify doc p entry).candidates.filter fun t => !t.isNamedBy q := by
  rw [candidates_classify, candidates_classify, Survey.outcomes_or, List.filterMap_map,
    List.filter_filterMap]
  congr 1
  funext o
  exact Survey.candidate?_narrow q o

theorem skip_mem_skipped_or {doc : Document} {entry : Text} {p q : Text → Bool} {t : Target}
    (ht : t ∈ (classify doc p entry).candidates) (hq : t.isNamedBy q = true) :
    t.skip .nameMatch ∈ (classify doc (fun name => p name || q name) entry).skipped := by
  rw [candidates_classify] at ht
  have ho := Survey.mem_filterMap_candidate?_iff.mp ht
  rw [skipped_classify, Survey.outcomes_or]
  apply Survey.record?_mem_filterMap
  apply List.mem_map.mpr
  refine ⟨⟨t, none⟩, ho, ?_⟩
  simp [Survey.Outcome.narrow, Survey.Outcome.isOpen, hq]

theorem filter_skipped_or (doc : Document) (entry : Text) (p q : Text → Bool) {r : SkipReason}
    (hname : r ≠ .nameMatch) (hwrapped : r ≠ .alreadyWrapped) (hgenerator : r ≠ .generator) :
    ((classify doc (fun name => p name || q name) entry).skipped.filter fun k => k.reason = r) =
      (classify doc p entry).skipped.filter fun k => k.reason = r := by
  rw [skipped_classify, skipped_classify, Survey.outcomes_or, List.filterMap_map,
    List.filter_filterMap, List.filter_filterMap]
  congr 1
  funext o
  exact Survey.record?_narrow q o hname hwrapped hgenerator

theorem wrap_congr {w w' : Weaver} (hpattern : w'.config.namePattern = w.config.namePattern)
    (hentry : w'.config.instrumentation = w.config.instrumentation) (path newline : Text) :
    w'.wrap path newline = w.wrap path newline := by
  funext t
  simp only [Weaver.wrap, Weaver.entry, hpattern, hentry]

theorem narrowed_or (doc : Document) (entry : Text) (p q : Text → Bool) :
    Narrowed doc entry p q fun name => p name || q name where
  outcomes := Survey.outcomes_or _ p q
  candidates := candidates_or doc entry p q
  removed := fun _ => skip_mem_skipped_or
  settled := fun _ => filter_skipped_or doc entry p q
  wrapped := by
    intro w w' hpattern hentry path newline
    rw [candidates_or, wrap_congr hpattern hentry, List.filter_map]
    rfl

/-- Patterns behind others narrow the candidates, for tests of names of any kind; and written
patterns that can be read are such tests. -/
theorem narrowed_by_patterns (doc : Document) (entry : Text) :
    (∀ P Q : List (Text → Bool),
      Narrowed doc entry (matchesAny P) (matchesAny Q) (matchesAny (P ++ Q))) ∧
    ∀ (written more : List Text) (l m : SkipList), SkipList.ofWritten written = .ok l →
      SkipList.ofWritten more = .ok m →
        ∃ n, SkipList.ofWritten (written ++ more) = .ok n ∧
          Narrowed doc entry l.isMatch m.isMatch n.isMatch := by
  have hany (P Q : List (Text → Bool)) :
      Narrowed doc entry (matchesAny P) (matchesAny Q) (matchesAny (P ++ Q)) := by
    rw [matchesAny_append]
    exact narrowed_or doc entry (matchesAny P) (matchesAny Q)
  refine ⟨hany, ?_⟩
  intro written more l m hl hm
  refine ⟨_, SkipList.ofWritten_append hl hm, ?_⟩
  rw [isMatch_eq_matchesAny, isMatch_eq_matchesAny, isMatch_eq_matchesAny, List.map_append]
  exact hany _ _

/-- A class with a private member, and a constant behind it. -/
def privateMember : Text :=
  "class A \x7b _a() \x7b\x7d b() \x7b\x7d \x7d\nconst c = () => 1;\n".toList

theorem narrowed_privateMember :
    ∃ doc l n, Document.parse privateMember .typeScript = .ok doc ∧
      SkipList.ofWritten ["^_".toList] = .ok l ∧
      SkipList.ofWritten ["^_".toList, "^c$".toList] = .ok n ∧
      (classify doc l.isMatch Weaver.plain.entry).candidates.map Target.identifier? =
        [some "c".toList, some "A.b".toList] ∧
      (classify doc n.isMatch Weaver.plain.entry).candidates.map Target.identifier? =
        [some "A.b".toList] := by
  have hcheck : yields (Document.parse privateMember .typeScript) (fun doc =>
      yields (SkipList.ofWritten ["^_".toList]) fun l =>
        yields (SkipList.ofWritten ["^c$".toList]) fun m =>
          decide ((classify doc l.isMatch Weaver.plain.entry).candidates.map Target.identifier? =
              [some "c".toList, some "A.b".toList] ∧
            ((classify doc l.isMatch Weaver.plain.entry).candidates.filter fun t =>
                !t.isNamedBy m.isMatch).map Target.identifier? = [some "A.b".toList])) = true := by
    decide +kernel
  obtain ⟨doc, hdoc, h⟩ := exists_of_yields hcheck
  obtain ⟨l, hl, h⟩ := exists_of_yields h
  obtain ⟨m, hm, h⟩ := exists_of_yields h
  obtain ⟨hbefore, hafter⟩ := of_decide_eq_true h
  obtain ⟨n, hn, hnarrowed⟩ := (narrowed_by_patterns doc Weaver.plain.entry).2 _ _ l m hl hm
  refine ⟨doc, l, n, hdoc, hl, hn, hbefore, ?_⟩
  rw [hnarrowed.candidates]
  exact hafter

end SpanWeave
