import Mathlib.Algebra.GroupWithZero.Nat
import Mathlib.Data.Char
import Mathlib.Data.List.Induction
import Mathlib.Data.List.Lex
import Mathlib.Data.List.Sort
import SpanWeave.Batch

namespace SpanWeave.BatchStats

theorem cons_le_cons_iff {a b : Char} {s t : Text} :
    a :: s ≤ b :: t ↔ a < b ∨ a = b ∧ s ≤ t := by
  rw [le_iff_lt_or_eq, le_iff_lt_or_eq, List.cons_lt_cons_iff, List.cons.injEq]
  tauto

theorem pathLe_iff {s t : Text} : pathLe s t = true ↔ s ≤ t := by
  fun_induction pathLe s t with
  | case1 t => simpa using not_lt.mp (List.not_lt_nil t)
  | case2 a s => simp
  | case3 a s b t ih =>
      simp only [Bool.or_eq_true, Bool.and_eq_true, decide_eq_true_eq, ih, cons_le_cons_iff]
      rfl

theorem insertBy_eq_orderedInsert (key : α → Text) (a : α) (l : List α) :
    insertBy key a l = l.orderedInsert (fun x y => key x ≤ key y) a := by
  induction l with
  | nil => rfl
  | cons b l ih => simp only [insertBy, pathLe_iff, ih, List.orderedInsert_cons]

theorem insertBy_perm (key : α → Text) (a : α) (l : List α) :
    (insertBy key a l).Perm (a :: l) := by
  rw [insertBy_eq_orderedInsert]
  exact List.perm_orderedInsert _ a l

theorem pairwise_insertBy (key : α → Text) (a : α) {l : List α}
    (h : l.Pairwise fun x y => key x ≤ key y) :
    (insertBy key a l).Pairwise fun x y => key x ≤ key y := by
  rw [insertBy_eq_orderedInsert]
  have : Std.Total fun x y : α => key x ≤ key y := ⟨fun x y => le_total (key x) (key y)⟩
  have : IsTrans α fun x y => key x ≤ key y := ⟨fun _ _ _ => le_trans⟩
  exact h.orderedInsert a l

theorem insertBy_comm (key : α → Text) {a b : α} (hne : key a ≠ key b) (l : List α) :
    insertBy key a (insertBy key b l) = insertBy key b (insertBy key a l) := by
  simp only [insertBy_eq_orderedInsert]
  induction l with
  | nil => grind
  | cons x l ih => grind

/-- A file and what came of it. -/
abbrev Entered := Text × Except RunError FileOutcome

/-- Enters the outcome for one more file. -/
def enter (c : BatchConfig) (s : BatchStats) (x : Entered) : BatchStats := s.add c x.1 x.2

/-- The outcome bears the path of its file. -/
def Labelled (x : Entered) : Prop := ∀ o, x.2 = .ok o → o.path = x.1

theorem enter_comm (c : BatchConfig) (s : BatchStats) {x y : Entered} (hx : Labelled x)
    (hy : Labelled y) (hne : x.1 ≠ y.1) : (s.enter c x).enter c y = (s.enter c y).enter c x := by
  obtain ⟨p, r⟩ := x
  obtain ⟨q, t⟩ := y
  cases r with
  | error e =>
      cases t with
      | error f =>
          have hinsert := insertBy_comm Prod.fst (show (p, e).1 ≠ (q, f).1 from hne) s.errors
          simp [enter, add, hinsert]
      | ok o => simp only [enter, add]; split <;> rfl
  | ok o =>
      cases t with
      | error f => simp only [enter, add]; split <;> rfl
      | ok o' =>
          have hpaths : o.path ≠ o'.path := by
            rw [hx o rfl, hy o' rfl]
            exact hne
          have hmodified := insertBy_comm id hpaths s.modified
          have hdiffs := insertBy_comm Prod.fst
            (show (o.path, o.diff).1 ≠ (o'.path, o'.diff).1 from hpaths) s.diffs
          simp only [enter, add]
          cases o.woven.changed <;> cases o'.woven.changed <;> cases c.collectDiffs <;>
            simp [Nat.add_right_comm, hmodified, hdiffs]

/-- The outcomes of the files that did not fail. -/
def successes (xs : List Entered) : List FileOutcome := xs.filterMap fun x => x.2.toOption

def altered (xs : List Entered) : List FileOutcome := (successes xs).filter (·.woven.changed)

def failures (xs : List Entered) : List (Text × RunError) :=
  xs.filterMap fun x =>
    match x.2 with
    | .error e => some (x.1, e)
    | .ok _ => none

section
variable (xs : List Entered) (p : Text) (e : RunError) (o : FileOutcome)

@[simp] theorem successes_error : successes (xs ++ [(p, .error e)]) = successes xs := by
  simp [successes, Except.toOption]

@[simp] theorem successes_ok : successes (xs ++ [(p, .ok o)]) = successes xs ++ [o] := by
  simp [successes, Except.toOption]

@[simp] theorem altered_error : altered (xs ++ [(p, .error e)]) = altered xs := by simp [altered]

@[simp] theorem altered_ok :
    altered (xs ++ [(p, .ok o)]) = altered xs ++ if o.woven.changed then [o] else [] := by
  simp [altered, List.filter_cons]

@[simp] theorem failures_error : failures (xs ++ [(p, .error e)]) = failures xs ++ [(p, e)] := by
  simp [failures]

@[simp] theorem failures_ok : failures (xs ++ [(p, .ok o)]) = failures xs := by simp [failures]

end

theorem length_successes_add_length_failures (xs : List Entered) :
    (successes xs).length + (failures xs).length = xs.length := by
  induction xs using List.reverseRec with
  | nil => rfl
  | append_singleton xs x ih => obtain ⟨p, e | o⟩ := x <;> simp <;> omega

theorem mem_failures_iff {xs : List Entered} {p : Text} {e : RunError} :
    (p, e) ∈ failures xs ↔ (p, .error e) ∈ xs := by
  induction xs using List.reverseRec with
  | nil => simp [failures]
  | append_singleton xs x ih => obtain ⟨q, f | o⟩ := x <;> simp [ih]

theorem mem_successes_iff {xs : List Entered} {o : FileOutcome} :
    o ∈ successes xs ↔ ∃ p, (p, .ok o) ∈ xs := by
  induction xs using List.reverseRec with
  | nil => simp [successes]
  | append_singleton xs x ih => obtain ⟨q, f | o'⟩ := x <;> simp [ih, exists_or]

/-- The books tell each outcome once. -/
structure Tells (c : BatchConfig) (xs : List Entered) (s : BatchStats) : Prop where
  scanned : s.scanned = xs.length
  changed : s.changed = (altered xs).length
  wrapped : s.wrapped = ((altered xs).map fun o => o.woven.wrappedCount).sum
  skipped : s.skipped = ((successes xs).map fun o => o.woven.skipped.length).sum
  errors : s.errors.Perm (failures xs)
  modified : s.modified.Perm ((altered xs).map FileOutcome.path)
  diffs : s.diffs.Perm (if c.collectDiffs then (altered xs).map fun o => (o.path, o.diff) else [])
  errors_sorted : s.errors.Pairwise fun a b => a.1 ≤ b.1
  modified_sorted : s.modified.Pairwise (· ≤ ·)
  diffs_sorted : s.diffs.Pairwise fun a b => a.1 ≤ b.1

theorem tells_nil (c : BatchConfig) : Tells c [] {} := by
  constructor <;> simp [successes, altered, failures]

theorem insertBy_perm_concat (key : α → Text) (a : α) {l m : List α} (h : l.Perm m) :
    (insertBy key a l).Perm (m ++ [a]) :=
  (insertBy_perm key a l).trans ((h.cons a).trans (List.perm_append_singleton a m).symm)

theorem Tells.enter {c : BatchConfig} {xs : List Entered} {s : BatchStats} (h : Tells c xs s)
    (x : Entered) : Tells c (xs ++ [x]) (s.enter c x) := by
  obtain ⟨p, e | o⟩ := x
  · change Tells c _
      { s with scanned := s.scanned + 1, errors := insertBy Prod.fst (p, e) s.errors }
    exact
      { scanned := by simp [h.scanned]
        changed := by simp [h.changed]
        wrapped := by simp [h.wrapped]
        skipped := by simp [h.skipped]
        errors := by simpa using insertBy_perm_concat _ _ h.errors
        modified := by simpa using h.modified
        diffs := by simpa using h.diffs
        errors_sorted := pairwise_insertBy _ _ h.errors_sorted
        modified_sorted := h.modified_sorted
        diffs_sorted := h.diffs_sorted }
  cases hchanged : o.woven.changed with
  | false =>
      have hentered : s.enter c (p, .ok o) =
          { s with scanned := s.scanned + 1, skipped := s.skipped + o.woven.skipped.length } := by
        simp [BatchStats.enter, add, hchanged]
      rw [hentered]
      exact
        { scanned := by simp [h.scanned]
          changed := by simp [h.changed, hchanged]
          wrapped := by simp [h.wrapped, hchanged]
          skipped := by simp [h.skipped]
          errors := by simpa using h.errors
          modified := by simpa [hchanged] using h.modified
          diffs := by simpa [hchanged] using h.diffs
          errors_sorted := h.errors_sorted
          modified_sorted := h.modified_sorted
          diffs_sorted := h.diffs_sorted }
  | true =>
      have hentered : s.enter c (p, .ok o) =
          { s with
            scanned := s.scanned + 1
            skipped := s.skipped + o.woven.skipped.length
            changed := s.changed + 1
            wrapped := s.wrapped + o.woven.wrappedCount
            modified := insertBy id o.path s.modified
            diffs := if c.collectDiffs then insertBy Prod.fst (o.path, o.diff) s.diffs
              else s.diffs } := by
        simp [BatchStats.enter, add, hchanged]
      rw [hentered]
      have hdiffs := h.diffs
      exact
        { scanned := by simp [h.scanned]
          changed := by simp [h.changed, hchanged]
          wrapped := by simp [h.wrapped, hchanged]
          skipped := by simp [h.skipped]
          errors := by simpa using h.errors
          modified := by simpa [hchanged] using insertBy_perm_concat id o.path h.modified
          diffs := by
            cases hcollect : c.collectDiffs with
            | false => simpa [hcollect] using hdiffs
            | true =>
                simp only [hcollect, ↓reduceIte] at hdiffs
                simpa [hchanged] using insertBy_perm_concat Prod.fst (o.path, o.diff) hdiffs
          errors_sorted := h.errors_sorted
          modified_sorted := pairwise_insertBy id _ h.modified_sorted
          diffs_sorted := by
            dsimp only
            split
            · exact pairwise_insertBy _ _ h.diffs_sorted
            · exact h.diffs_sorted }

theorem Tells.foldl {c : BatchConfig} {xs : List Entered} {s : BatchStats} (h : Tells c xs s)
    (ys : List Entered) : Tells c (xs ++ ys) (ys.foldl (BatchStats.enter c) s) := by
  induction ys generalizing xs s with
  | nil => simpa using h
  | cons y ys ih => simpa using ih (h.enter y)

section
variable {xs : List Entered} (hlabelled : ∀ x ∈ xs, Labelled x)
include hlabelled

theorem paths_successes_sublist :
    ((successes xs).map FileOutcome.path).Sublist (xs.map Prod.fst) := by
  induction xs using List.reverseRec with
  | nil => simp [successes]
  | append_singleton xs x ih =>
      simp only [List.forall_mem_append, List.forall_mem_singleton] at hlabelled
      have hfront := ih hlabelled.1
      obtain ⟨p, e | o⟩ := x
      · simpa using hfront.trans (List.sublist_append_left _ _)
      · have hpath : o.path = p := hlabelled.2 o rfl
        simpa [hpath] using hfront

theorem paths_altered_sublist :
    ((altered xs).map FileOutcome.path).Sublist (xs.map Prod.fst) :=
  (List.filter_sublist.map _).trans (paths_successes_sublist hlabelled)

end

namespace Tells

variable {c : BatchConfig} {xs : List Entered} {s : BatchStats} (h : Tells c xs s)
include h

theorem scanned_eq :
    s.scanned =
      s.changed + ((successes xs).filter fun o => !o.woven.changed).length + s.errors.length := by
  have hsplit := List.length_eq_length_filter_add (l := successes xs) (·.woven.changed)
  have hall := length_successes_add_length_failures xs
  rw [h.scanned, h.changed, h.errors.length_eq, altered]
  omega

theorem length_modified : s.modified.length = s.changed := by
  rw [h.modified.length_eq, h.changed, List.length_map]

theorem map_fst_diffs : s.diffs.map Prod.fst = if c.collectDiffs then s.modified else [] := by
  have hdiffs := h.diffs
  split at hdiffs
  · rw [if_pos ‹_›]
    refine List.Perm.eq_of_pairwise (fun _ _ _ _ => le_antisymm) ?_ h.modified_sorted ?_
    · exact List.pairwise_map.mpr h.diffs_sorted
    · refine (hdiffs.map Prod.fst).trans (List.Perm.trans ?_ h.modified.symm)
      simp [Function.comp_def]
  · simp [List.perm_nil.mp hdiffs, *]

theorem mem_errors_iff {p : Text} {e : RunError} : (p, e) ∈ s.errors ↔ (p, .error e) ∈ xs := by
  rw [h.errors.mem_iff, mem_failures_iff]

variable (hlabelled : ∀ x ∈ xs, Labelled x)
include hlabelled

theorem mem_modified_iff {p : Text} :
    p ∈ s.modified ↔ ∃ o, (p, .ok o) ∈ xs ∧ o.woven.changed = true := by
  rw [h.modified.mem_iff]
  simp only [altered, List.mem_map, List.mem_filter, mem_successes_iff]
  constructor
  · rintro ⟨o, ⟨⟨q, hq⟩, hchanged⟩, rfl⟩
    rw [hlabelled _ hq o rfl]
    exact ⟨o, hq, hchanged⟩
  · rintro ⟨o, hp, hchanged⟩
    exact ⟨o, ⟨⟨p, hp⟩, hchanged⟩, hlabelled _ hp o rfl⟩

variable (hnodup : (xs.map Prod.fst).Nodup)
include hnodup

theorem modified_lt : s.modified.Pairwise (· < ·) := by
  have hdistinct : s.modified.Nodup :=
    h.modified.nodup_iff.mpr (hnodup.sublist (paths_altered_sublist hlabelled))
  exact (h.modified_sorted.and hdistinct).imp fun hab => lt_of_le_of_ne hab.1 hab.2

theorem notMem_errors {p : Text} (hp : p ∈ s.modified) (e : RunError) : (p, e) ∉ s.errors := by
  rw [h.mem_errors_iff]
  intro herror
  obtain ⟨o, hok, -⟩ := (h.mem_modified_iff hlabelled).mp hp
  have hsame := List.inj_on_of_nodup_map hnodup hok herror rfl
  simp at hsame

end Tells

end SpanWeave.BatchStats
