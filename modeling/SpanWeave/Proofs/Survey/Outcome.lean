import SpanWeave.Proofs.Survey.Origin
import SpanWeave.Proofs.Survey.Reason

namespace SpanWeave

namespace Survey

/-- A visited function, and the reason for which it is left alone; a candidate has none. -/
structure Outcome where
  target : Target
  reason : Option SkipReason
  deriving DecidableEq

def Outcome.candidate? (o : Outcome) : Option Target :=
  match o.reason with
  | none => some o.target
  | some _ => none

def Outcome.record? (o : Outcome) : Option SkipRecord := o.reason.map o.target.skip

/-- The outcome for a visit, once the edits of functions that implement signatures have moved. -/
def outcome (s : Survey) (skip : Text → Bool) (v : Visit) : Outcome :=
  let moved := retarget (signatureNames s.found) v
  ⟨moved.target, skipReason? skip s.entry moved⟩

def outcomes (s : Survey) (skip : Text → Bool) : List Outcome := s.found.map (s.outcome skip)

theorem mem_filterMap_candidate?_iff {os : List Outcome} {t : Target} :
    t ∈ os.filterMap Outcome.candidate? ↔ ⟨t, none⟩ ∈ os := by
  rw [List.mem_filterMap]
  constructor
  · rintro ⟨⟨target, reason⟩, ho, ht⟩
    cases reason with
    | none =>
        obtain rfl := Option.some.inj ht
        exact ho
    | some r => simp [Outcome.candidate?] at ht
  · intro h
    exact ⟨_, h, rfl⟩

theorem record?_mem_filterMap {os : List Outcome} {t : Target} {r : SkipReason}
    (h : ⟨t, some r⟩ ∈ os) : t.skip r ∈ os.filterMap Outcome.record? :=
  List.mem_filterMap.mpr ⟨_, h, rfl⟩

end Survey

theorem candidates_classify (doc : Document) (skip : Text → Bool) (entry : Text) :
    (classify doc skip entry).candidates =
      ((Survey.mk doc entry).outcomes skip).filterMap Survey.Outcome.candidate? := by
  simp only [classify, Survey.visits_eq, Survey.outcomes, List.filterMap_map]
  congr 1
  funext v
  simp only [Function.comp_apply, Survey.outcome, Survey.Outcome.candidate?]
  split
  · rename_i h
    rw [h]
  · rename_i h
    rw [h]

theorem skipped_classify (doc : Document) (skip : Text → Bool) (entry : Text) :
    (classify doc skip entry).skipped =
      ((Survey.mk doc entry).outcomes skip).filterMap Survey.Outcome.record? := by
  simp only [classify, Survey.visits_eq, Survey.outcomes, List.filterMap_map]
  rfl

end SpanWeave
