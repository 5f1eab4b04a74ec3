import SpanWeave.Syntax.Node
import SpanWeave.Proofs.Text.Offset

namespace SpanWeave.Syntax

open Text

namespace Span

/-- The range lies inside another. -/
def Inside (a b : Span) : Prop := b.start ≤ a.start ∧ a.stop ≤ b.stop

/-- The ranges have no byte in common. -/
def Apart (a b : Span) : Prop := a.stop ≤ b.start ∨ b.stop ≤ a.start

/-- The range is one of `source`, and both its ends fall between characters. -/
structure Fits (source : Text) (a : Span) : Prop where
  start_le_stop : a.start ≤ a.stop
  boundary_start : onBoundary source a.start = true
  boundary_stop : onBoundary source a.stop = true

theorem Inside.refl (a : Span) : a.Inside a := ⟨Nat.le_refl _, Nat.le_refl _⟩

theorem Inside.trans {a b c : Span} (hab : a.Inside b) (hbc : b.Inside c) : a.Inside c :=
  ⟨Nat.le_trans hbc.1 hab.1, Nat.le_trans hab.2 hbc.2⟩

theorem Apart.symm {a b : Span} (h : a.Apart b) : b.Apart a := Or.symm h

theorem Apart.mono {a b c d : Span} (h : b.Apart d) (hab : a.Inside b) (hcd : c.Inside d) :
    a.Apart c := by
  rcases h with h | h
  · exact Or.inl (Nat.le_trans hab.2 (Nat.le_trans h hcd.1))
  · exact Or.inr (Nat.le_trans hcd.2 (Nat.le_trans h hab.1))

end Span

namespace Node

mutual

/-- The node covers a range of `source`, and its children lie nested inside it. -/
def isNested (source : Text) : Node → Bool
  | mk _ _ s cs =>
      decide (s.start ≤ s.stop) && onBoundary source s.start && onBoundary source s.stop &&
        areNested source s.stop s.start cs

/-- The nodes lie nested one behind the other from `start` up to `stop`. -/
def areNested (source : Text) (stop : Nat) : (start : Nat) → List Node → Bool
  | start, [] => decide (start ≤ stop)
  | start, c :: cs =>
      decide (start ≤ c.span.start) && isNested source c && areNested source stop c.span.stop cs

end

theorem isNested_iff {source : Text} {n : Node} :
    n.isNested source = true ↔
      n.span.Fits source ∧ areNested source n.span.stop n.span.start n.children = true := by
  cases n with
  | mk k f s cs =>
      simp only [isNested, Bool.and_eq_true, decide_eq_true_eq, span, children]
      constructor
      · rintro ⟨⟨⟨hle, hstart⟩, hstop⟩, hcs⟩
        exact ⟨⟨hle, hstart, hstop⟩, hcs⟩
      · rintro ⟨⟨hle, hstart, hstop⟩, hcs⟩
        exact ⟨⟨⟨hle, hstart⟩, hstop⟩, hcs⟩

theorem areNested_cons_iff {source : Text} {start stop : Nat} {c : Node} {cs : List Node} :
    areNested source stop start (c :: cs) = true ↔
      start ≤ c.span.start ∧ c.isNested source = true ∧
        areNested source stop c.span.stop cs = true := by
  simp [areNested, and_assoc]

theorem areNested_append {source : Text} {start stop : Nat} {before after : List Node}
    {f : Node} (h : areNested source stop start (before ++ f :: after) = true) :
    areNested source f.span.start start before = true ∧
      areNested source stop f.span.stop after = true := by
  induction before generalizing start with
  | nil =>
      obtain ⟨hle, -, hafter⟩ := areNested_cons_iff.mp h
      exact ⟨decide_eq_true hle, hafter⟩
  | cons c before ih =>
      obtain ⟨hle, hc, hrest⟩ := areNested_cons_iff.mp h
      exact ⟨areNested_cons_iff.mpr ⟨hle, hc, (ih hrest).1⟩, (ih hrest).2⟩

/-- Nested siblings lie in order, each nested and between the two ends. -/
theorem areNested_iff {source : Text} {start stop : Nat} {cs : List Node} :
    areNested source stop start cs = true ↔
      start ≤ stop ∧ (∀ c ∈ cs, c.isNested source = true ∧ c.span.Inside ⟨start, stop⟩) ∧
        cs.Pairwise fun a b => a.span.stop ≤ b.span.start := by
  induction cs generalizing start with
  | nil => simp [areNested]
  | cons c cs ih =>
      rw [areNested_cons_iff, ih]
      constructor
      · rintro ⟨hstart, hc, hstop, hcs, hpair⟩
        have hfits := (isNested_iff.mp hc).1.start_le_stop
        refine ⟨by omega, ?_, List.pairwise_cons.mpr ⟨fun x hx => (hcs x hx).2.1, hpair⟩⟩
        intro x hx
        rcases List.mem_cons.mp hx with rfl | hx
        · exact ⟨hc, hstart, hstop⟩
        · obtain ⟨hnested, hinside⟩ := hcs x hx
          exact ⟨hnested, hinside.trans ⟨Nat.le_trans hstart hfits, Nat.le_refl _⟩⟩
      · rintro ⟨-, hcs, hpair⟩
        obtain ⟨hhead, htail⟩ := List.pairwise_cons.mp hpair
        obtain ⟨hc, hinside⟩ := hcs c (by simp)
        refine ⟨hinside.1, hc, hinside.2, ?_, htail⟩
        intro x hx
        obtain ⟨hnested, hx'⟩ := hcs x (by simp [hx])
        exact ⟨hnested, hhead x hx, hx'.2⟩

section
variable {source : Text} {n : Node} (h : n.isNested source = true)
include h

theorem fits_of_isNested : n.span.Fits source := (isNested_iff.mp h).1

theorem isNested_of_mem {c : Node} (hc : c ∈ n.children) :
    c.isNested source = true ∧ c.span.Inside n.span :=
  (areNested_iff.mp (isNested_iff.mp h).2).2.1 c hc

theorem pairwise_children : n.children.Pairwise fun a b => a.span.stop ≤ b.span.start :=
  (areNested_iff.mp (isNested_iff.mp h).2).2.2

theorem isNested_of_child? {f : Field} {c : Node} (hc : n.child? f = some c) :
    c.isNested source = true ∧ c.span.Inside n.span :=
  isNested_of_mem h (List.mem_of_find?_eq_some hc)

theorem pairwise_significant :
    n.significant.Pairwise fun a b => a.span.stop ≤ b.span.start :=
  ((pairwise_children h).filter _).filter _

end

theorem mem_namedChildren {n c : Node} (h : c ∈ n.namedChildren) : c ∈ n.children :=
  (List.mem_filter.mp h).1

theorem mem_significant {n c : Node} (h : c ∈ n.significant) : c ∈ n.children :=
  mem_namedChildren (List.mem_filter.mp h).1

/-- The node is one of the nodes of a tree: its root, or a node of the tree at a child. -/
inductive Under (o : Node) : (n : Node) → Prop
  | root : Under o o
  | child {c n : Node} (hc : c ∈ n.children) (ho : Under o c) : Under o n

theorem Under.trans {o m n : Node} (hom : o.Under m) (hmn : m.Under n) : o.Under n := by
  induction hmn with
  | root => exact hom
  | child hc _ ih => exact .child hc ih

theorem under_of_mem {c n : Node} (hc : c ∈ n.children) : c.Under n := .child hc .root

theorem under_of_child? {c n : Node} {f : Field} (hc : n.child? f = some c) : c.Under n :=
  under_of_mem (List.mem_of_find?_eq_some hc)

theorem under_of_mem_significant {c n : Node} (hc : c ∈ n.significant) : c.Under n :=
  under_of_mem (mem_significant hc)

theorem isNested_of_under {source : Text} {o n : Node} (h : n.isNested source = true)
    (ho : o.Under n) : o.isNested source = true ∧ o.span.Inside n.span := by
  induction ho with
  | root => exact ⟨h, Span.Inside.refl _⟩
  | child hc _ ih =>
      obtain ⟨hnested, hinside⟩ := isNested_of_mem h hc
      obtain ⟨hnode, hin⟩ := ih hnested
      exact ⟨hnode, hin.trans hinside⟩

mutual

/-- The node and all nodes below it satisfy `p`. -/
def everywhere (p : Node → Bool) : Node → Bool
  | mk k f s cs => p (mk k f s cs) && everywhereIn p cs

/-- The nodes and all nodes below them satisfy `p`. -/
def everywhereIn (p : Node → Bool) : List Node → Bool
  | [] => true
  | c :: cs => everywhere p c && everywhereIn p cs

end

theorem everywhereIn_iff {p : Node → Bool} {cs : List Node} :
    everywhereIn p cs = true ↔ ∀ c ∈ cs, c.everywhere p = true := by
  induction cs with
  | nil => simp [everywhereIn]
  | cons c cs ih => simp [everywhereIn, ih]

theorem everywhere_iff {p : Node → Bool} {n : Node} :
    n.everywhere p = true ↔ p n = true ∧ ∀ c ∈ n.children, c.everywhere p = true := by
  cases n with
  | mk k f s cs => simp [everywhere, everywhereIn_iff, children]

theorem of_everywhere {p : Node → Bool} {o n : Node} (h : n.everywhere p = true)
    (ho : o.Under n) : p o = true := by
  induction ho with
  | root => exact (everywhere_iff.mp h).1
  | child hc _ ih => exact ih ((everywhere_iff.mp h).2 _ hc)

end Node

end SpanWeave.Syntax
