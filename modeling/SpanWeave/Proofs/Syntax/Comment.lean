import SpanWeave.Document
import SpanWeave.Proofs.Syntax.Nesting

namespace SpanWeave.Syntax

open Text

theorem exists_of_blockCommentEnd? {s : Text} {k n : Nat} (h : blockCommentEnd? s k = some n) :
    ∃ m r, s = m ++ '*' :: '/' :: r ∧ n = k + m.length + 2 := by
  fun_induction blockCommentEnd? s k with
  | case1 r k => exact ⟨[], r, rfl, by simpa using h.symm⟩
  | case2 c s k _ ih =>
      obtain ⟨m, r, rfl, rfl⟩ := ih h
      refine ⟨c :: m, r, rfl, ?_⟩
      simp only [List.length_cons]
      omega
  | case3 k => simp at h

theorem exists_blockCommentEnd?_le (m r : Text) (k : Nat) :
    ∃ n, blockCommentEnd? (m ++ '*' :: '/' :: r) k = some n ∧ n ≤ k + m.length + 2 := by
  induction m generalizing k with
  | nil => exact ⟨k + 2, rfl, Nat.le_refl _⟩
  | cons c m ih =>
      obtain ⟨n, hn, hle⟩ := ih (k + 1)
      rw [List.cons_append, blockCommentEnd?.eq_def]
      split
      · refine ⟨_, rfl, ?_⟩
        omega
      · rename_i heq
        obtain ⟨-, rfl⟩ := List.cons.inj heq
        refine ⟨n, hn, ?_⟩
        simp only [List.length_cons]
        omega
      · rename_i heq
        simp at heq

theorem commentLength?_cases {s : Text} {n : Nat} (h : commentLength? s = some n) :
    (∃ u, s = '/' :: '/' :: u ∧ n = 2 + (u.takeWhile fun c => !isLineEnd c).length) ∨
      ∃ m r, s = '/' :: '*' :: (m ++ '*' :: '/' :: r) ∧ n = m.length + 4 := by
  simp only [commentLength?] at h
  split at h
  · rename_i u
    exact Or.inl ⟨u, rfl, (Option.some.inj h).symm⟩
  · rename_i u
    obtain ⟨m, r, rfl, rfl⟩ := exists_of_blockCommentEnd? h
    exact Or.inr ⟨m, r, rfl, by omega⟩
  · simp at h

/-- A comment that stands first in `s` goes on into what follows `s`. -/
def ReadsOn (s rest : Text) : Prop := ∃ n, commentLength? (s ++ rest) = some n ∧ s.length < n

theorem not_readsOn_block (m q rest : Text) :
    ¬ ReadsOn ('/' :: '*' :: (m ++ '*' :: '/' :: q)) rest := by
  rintro ⟨n, hn, hlt⟩
  obtain ⟨k, hk, hle⟩ := exists_blockCommentEnd?_le m (q ++ rest) 2
  simp only [List.cons_append, List.append_assoc, commentLength?] at hn
  rw [hk] at hn
  obtain rfl := Option.some.inj hn
  simp only [List.length_cons, List.length_append] at hlt
  omega

section
variable {u : Text} (hu : ∀ c ∈ u, isLineEnd c = false)
include hu

theorem commentLength?_line (s : Text) :
    commentLength? ('/' :: '/' :: (u ++ s)) =
      some (2 + (u.length + (s.takeWhile fun c => !isLineEnd c).length)) := by
  have hline : ∀ c ∈ u, (!isLineEnd c) = true := by
    intro c hc
    simp [hu c hc]
  rw [commentLength?, List.takeWhile_append_of_pos hline, List.length_append]

theorem readsOn_line {c : Char} (hc : isLineEnd c = false) (rest : Text) :
    ReadsOn ('/' :: '/' :: u) (c :: rest) := by
  refine ⟨_, commentLength?_line hu (c :: rest), ?_⟩
  simp only [List.takeWhile_cons, hc, Bool.not_false, ↓reduceIte, List.length_cons]
  omega

theorem not_readsOn_line {c : Char} (hc : isLineEnd c = true) (q rest : Text) :
    ¬ ReadsOn ('/' :: '/' :: (u ++ c :: q)) rest := by
  rintro ⟨n, hn, hlt⟩
  simp only [List.cons_append, List.append_assoc] at hn
  rw [commentLength?_line hu] at hn
  obtain rfl := Option.some.inj hn
  simp only [List.takeWhile_cons, hc, Bool.not_true, Bool.false_eq_true, ↓reduceIte,
    List.length_cons, List.length_append, List.length_nil] at hlt
  omega

end

theorem of_commentLength?_line {u r : Text}
    (h : commentLength? ('/' :: '/' :: (u ++ r)) = some (u.length + 2)) :
    (∀ c ∈ u, isLineEnd c = false) ∧ ∀ c, r.head? = some c → isLineEnd c = true := by
  have hlength : ((u ++ r).takeWhile fun c => !isLineEnd c).length = u.length := by
    have := Option.some.inj h
    omega
  have hu : (u ++ r).takeWhile (fun c => !isLineEnd c) = u :=
    (List.append_inj List.takeWhile_append_dropWhile hlength).1
  have hline : ∀ c ∈ u, isLineEnd c = false := by
    intro c hc
    rw [← hu] at hc
    simpa using List.all_eq_true.mp List.all_takeWhile c hc
  refine ⟨hline, ?_⟩
  intro c hc
  cases r with
  | nil => simp at hc
  | cons d r =>
      obtain rfl := Option.some.inj hc
      cases hd : isLineEnd d with
      | true => rfl
      | false =>
          obtain ⟨n, hn, hlt⟩ := readsOn_line hline hd r
          simp only [List.cons_append] at hn
          rw [h] at hn
          obtain rfl := Option.some.inj hn
          simp only [List.length_cons] at hlt
          omega

/-- The two forms of a text that is read as a comment to its end. -/
theorem comment_cases {t rest : Text} (h : commentLength? (t ++ rest) = some t.length) :
    (∃ u, t = '/' :: '/' :: u ∧ (∀ c ∈ u, isLineEnd c = false) ∧
      ∀ c, rest.head? = some c → isLineEnd c = true) ∨
      ∃ m, t = '/' :: '*' :: (m ++ ['*', '/']) := by
  rcases commentLength?_cases h with ⟨u, hu, hlength⟩ | ⟨m, r, hm, hlength⟩
  · refine Or.inl ?_
    match t, hu, hlength with
    | [], _, hlength =>
        rw [List.length_nil] at hlength
        omega
    | [_], _, hlength =>
        rw [List.length_singleton] at hlength
        omega
    | c :: d :: t, hu, _ =>
        simp only [List.cons_append, List.cons.injEq] at hu
        obtain ⟨rfl, rfl, -⟩ := hu
        exact ⟨t, rfl, of_commentLength?_line h⟩
  · refine Or.inr ⟨m, ?_⟩
    have hsplit : t ++ rest = '/' :: '*' :: (m ++ ['*', '/']) ++ r := by simp [hm]
    exact (List.append_inj hsplit (by simp [hlength])).1

end SpanWeave.Syntax

namespace SpanWeave.Document

open Syntax Text

/-- A comment of the tree is what is read as a comment at its place. -/
def readsComment (d : Document) (n : Node) : Bool :=
  decide (n.kind = .comment →
    commentLength? (dropBytes d.source n.span.start) = some (d.textOf n).length)

/-- A comment that reaches to the end of its line. -/
def isLineComment (d : Document) (n : Node) : Bool :=
  decide (n.kind = .comment ∧ (d.textOf n).take 2 = "//".toList)

end SpanWeave.Document
