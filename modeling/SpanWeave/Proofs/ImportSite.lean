import SpanWeave.ImportSite
import SpanWeave.Proofs.Survey.Origin

namespace SpanWeave

open Syntax Text

theorem Text.eq_append_of_breakAfterLast? {c : Char} {s a b : Text}
    (h : breakAfterLast? c s = some (a, b)) : s = a ++ b ∧ ∃ a', a = a' ++ [c] := by
  induction s generalizing a with
  | nil => simp [breakAfterLast?] at h
  | cons d s ih =>
      simp only [breakAfterLast?] at h
      split at h
      · rename_i a₁ b₁ hrest
        simp only [Option.some.injEq, Prod.mk.injEq] at h
        obtain ⟨rfl, rfl⟩ := h
        obtain ⟨hs, a', ha'⟩ := ih hrest
        exact ⟨by rw [hs, List.cons_append], d :: a', by rw [ha', List.cons_append]⟩
      · split at h
        · rename_i hdc
          simp only [Option.some.injEq, Prod.mk.injEq] at h
          obtain ⟨rfl, rfl⟩ := h
          exact ⟨rfl, [], by simp [hdc]⟩
        · simp at h

namespace Document

theorem clamp_of_onBoundary {d : Document} {offset : Nat}
    (h : onBoundary d.source offset = true) : d.clamp offset = offset :=
  Nat.min_eq_left (le_byteSize_of_onBoundary h)

theorem lineStart_spec {d : Document} {offset : Nat} (h : onBoundary d.source offset = true) :
    ∃ a b c, d.source = a ++ (b ++ c) ∧ byteSize a = d.lineStart offset ∧
      byteSize a + byteSize b = offset ∧ (a = [] ∨ ∃ a', a = a' ++ ['\n']) := by
  obtain ⟨before, rest, hsource, rfl⟩ := onBoundary_iff.mp h
  have htake : takeBytes d.source (d.clamp (byteSize before)) = before := by
    rw [clamp_of_onBoundary h, hsource, takeBytes_append]
  simp only [lineStart, htake]
  split
  · rename_i a b hbreak
    obtain ⟨rfl, hend⟩ := eq_append_of_breakAfterLast? hbreak
    exact ⟨a, b, rest, by rw [hsource, List.append_assoc], rfl, by simp, Or.inr hend⟩
  · exact ⟨[], before, rest, by simpa using hsource, rfl, by simp, Or.inl rfl⟩

theorem lineStart_le {d : Document} {offset : Nat} (h : onBoundary d.source offset = true) :
    d.lineStart offset ≤ offset := by
  obtain ⟨a, b, c, -, hstart, hoffset, -⟩ := lineStart_spec h
  omega

theorem onBoundary_lineStart {d : Document} {offset : Nat}
    (h : onBoundary d.source offset = true) : onBoundary d.source (d.lineStart offset) = true := by
  obtain ⟨a, b, c, hsource, hstart, -⟩ := lineStart_spec h
  exact onBoundary_iff.mpr ⟨a, b ++ c, hsource, hstart⟩

end Document

namespace ImportSite

theorem offsetBefore_le {d : Document} {n : Node} (h : n.span.Fits d.source) :
    offsetBefore d n ≤ n.span.start := by
  simp only [offsetBefore]
  split
  · exact Document.lineStart_le h.boundary_start
  · exact Nat.le_refl _

theorem onBoundary_offsetBefore {d : Document} {n : Node} (h : n.span.Fits d.source) :
    onBoundary d.source (offsetBefore d n) = true := by
  simp only [offsetBefore]
  split
  · exact Document.onBoundary_lineStart h.boundary_start
  · exact h.boundary_start

theorem anchor_spec (d : Document) (next : Node) (before : List Node) :
    ∃ run rest, next :: before = run ++ anchor d next before :: rest ∧
      ∀ prev, rest.head? = some prev → isAttached d prev (anchor d next before) = false := by
  induction before generalizing next with
  | nil => exact ⟨[], [], by simp [anchor], by simp⟩
  | cons c before ih =>
      simp only [anchor]
      split
      · obtain ⟨run, rest, hlist, hstop⟩ := ih c
        exact ⟨next :: run, rest, by rw [hlist, List.cons_append], hstop⟩
      · rename_i hattached
        refine ⟨[], c :: before, rfl, ?_⟩
        intro prev hprev
        obtain rfl : c = prev := by simpa using hprev
        simpa using hattached

theorem anchor_mem (d : Document) (next : Node) (before : List Node) :
    anchor d next before ∈ next :: before := by
  obtain ⟨run, rest, hlist, -⟩ := anchor_spec d next before
  rw [hlist]
  simp

theorem namedChildren_eq (d : Document) :
    ∃ rest, d.root.namedChildren = d.root.namedChildren.takeWhile (isPreamble d) ++ rest ∧
      d.root.namedChildren.drop (d.root.namedChildren.takeWhile (isPreamble d)).length = rest := by
  let nodes := d.root.namedChildren
  have hsplit : nodes.takeWhile (isPreamble d) ++ nodes.dropWhile (isPreamble d) = nodes :=
    List.takeWhile_append_dropWhile
  refine ⟨nodes.dropWhile (isPreamble d), hsplit.symm, ?_⟩
  calc
    nodes.drop (nodes.takeWhile (isPreamble d)).length =
        (nodes.takeWhile (isPreamble d) ++ nodes.dropWhile (isPreamble d)).drop
          (nodes.takeWhile (isPreamble d)).length := by rw [hsplit]
    _ = nodes.dropWhile (isPreamble d) := List.drop_left

theorem insertion_stop (d : Document) (stmt : Text) :
    (insertion d stmt).stop = (insertion d stmt).start := by
  simp only [insertion]
  split <;> rfl

/-- The import is put at a boundary at or before every top-level node outside the preamble. -/
theorem insertion_start_le {d : Document} (hroot : d.root.isNested d.source = true) (stmt : Text)
    {n : Node} (hn : n ∈ d.root.namedChildren) (hout : isPreamble d n = false) :
    (insertion d stmt).start ≤ n.span.start ∧
      onBoundary d.source (insertion d stmt).start = true := by
  obtain ⟨rest, hnodes, hdrop⟩ := namedChildren_eq d
  let preamble := d.root.namedChildren.takeWhile (isPreamble d)
  have hordered : (preamble ++ rest).Pairwise fun a b => a.span.stop ≤ b.span.start :=
    hnodes ▸ (Node.pairwise_children hroot).filter _
  have hfits (m : Node) (hm : m ∈ preamble ++ rest) : m.span.Fits d.source :=
    Node.fits_of_isNested (Node.isNested_of_mem hroot (Node.mem_namedChildren (hnodes ▸ hm))).1
  -- the node itself stands behind the preamble
  have hrest : n ∈ rest := by
    rcases List.mem_append.mp (hnodes ▸ hn : n ∈ preamble ++ rest) with h | h
    · have := List.all_eq_true.mp List.all_takeWhile n h
      simp [hout] at this
    · exact h
  cases rest with
  | nil => simp at hrest
  | cons first others =>
      let found := anchor d first preamble.reverse
      have hmem : found ∈ preamble ++ first :: others := by
        have h := anchor_mem d first preamble.reverse
        simp only [List.mem_cons, List.mem_reverse] at h
        simp only [List.mem_append, List.mem_cons]
        rcases h with h | h
        · exact Or.inr (Or.inl h)
        · exact Or.inl h
      obtain ⟨-, hothers, hcross⟩ := List.pairwise_append.mp hordered
      have hfirst : first.span.start ≤ n.span.start := by
        rcases List.mem_cons.mp hrest with rfl | h
        · exact Nat.le_refl _
        · have h₁ := (List.pairwise_cons.mp hothers).1 n h
          have h₂ := (hfits first (by simp)).start_le_stop
          omega
      have hfound : found.span.start ≤ first.span.start := by
        have h := anchor_mem d first preamble.reverse
        rcases List.mem_cons.mp h with h | h
        · exact Nat.le_of_eq (congrArg (fun m : Node => m.span.start) h)
        · have h₁ := hcross found (List.mem_reverse.mp h) first (by simp)
          have h₂ := (hfits found hmem).start_le_stop
          omega
      have heq : (insertion d stmt).start = offsetBefore d found := by
        simp only [insertion, hdrop]
        rfl
      have hle := offsetBefore_le (hfits found hmem)
      rw [heq]
      exact ⟨by omega, onBoundary_offsetBefore (hfits found hmem)⟩

theorem isPreamble_of_visitStatement_ne {d : Document} {entry : Text} {stmt : Node}
    (h : (Survey.mk d entry).visitStatement stmt ≠ ([], [])) : isPreamble d stmt = false := by
  have hkind := Survey.kind_of_visitStatement_ne h
  simp only [List.mem_cons, List.not_mem_nil, or_false] at hkind
  rcases hkind with h | h | h | h | h | h | h <;> simp [isPreamble, isDirective, h]

end ImportSite

end SpanWeave
