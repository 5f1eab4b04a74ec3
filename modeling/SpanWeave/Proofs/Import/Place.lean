import Mathlib.Data.List.Chain
import SpanWeave.Proofs.Weave.Conflict

/-!
What the import is put between. Its place is in front of the first statement and of the comments
attached to that, and behind everything else in front of the statement. It lies inside no top-level
node, so the interpreter line and the directives stay first, and no comment or statement is divided.
-/

namespace SpanWeave

open Syntax Text

namespace Text

/-- What stands behind the last line break of a text. -/
def lastLine (s : Text) : Text := (s.reverse.takeWhile (· != '\n')).reverse

theorem lastLine_suffix (s : Text) : lastLine s <:+ s := by
  rw [← List.reverse_prefix, lastLine, List.reverse_reverse]
  exact List.takeWhile_prefix _

theorem newline_notMem_lastLine (s : Text) : '\n' ∉ lastLine s := by
  rw [lastLine, List.mem_reverse]
  intro h
  have := List.all_eq_true.mp List.all_takeWhile '\n' h
  simp at this

theorem lastLine_suffix_of_append {s t a m : Text} (h : s ++ t = a ++ m)
    (ha : a = [] ∨ ∃ a', a = a' ++ ['\n']) : lastLine t <:+ m := by
  have hlast : lastLine t <:+ a ++ m := h ▸ (lastLine_suffix t).trans (List.suffix_append s t)
  rcases ha with rfl | ⟨a', rfl⟩
  · exact hlast
  · have hline : '\n' :: m <:+ a' ++ ['\n'] ++ m := ⟨a', by simp⟩
    rcases List.suffix_or_suffix_of_suffix hlast hline with hle | hle
    · rcases List.suffix_cons_iff.mp hle with heq | hle
      · exact absurd (heq ▸ List.mem_cons_self) (newline_notMem_lastLine t)
      · exact hle
    · exact absurd (hle.subset List.mem_cons_self) (newline_notMem_lastLine t)

end Text

namespace ImportSite

theorem stop_le_offsetBefore {d : Document} {p n : Node} (hp : p.span.Fits d.source)
    (hn : n.span.Fits d.source) (hle : p.span.stop ≤ n.span.start)
    (hlast : blank (lastLine (d.textOf p)) = false) : p.span.stop ≤ offsetBefore d n := by
  obtain ⟨a, b, c, hsource, hstart, hoffset, hline⟩ := Document.lineStart_spec hn.boundary_start
  simp only [offsetBefore]
  split
  · rename_i hblank
    rw [← hstart, ← hoffset, hsource, slice_parts] at hblank
    by_contra hlt
    obtain ⟨s, t, r, hsource', hs, ht⟩ :=
      exists_parts hp.boundary_start hp.boundary_stop hp.start_le_stop
    have htext : d.textOf p = t := by
      rw [Document.textOf, ← ht, ← hs, hsource', slice_parts]
    -- the node ends in the line, so what it has of the line is blank
    obtain ⟨m, hm, hrest⟩ := exists_eq_append_of_byteSize_le (c := s ++ t) (d := r)
      (hsource.symm.trans (by rw [hsource', List.append_assoc]))
      (by rw [byteSize_append]; omega)
    have hsize := congrArg byteSize hm
    rw [byteSize_append, byteSize_append] at hsize
    obtain ⟨m', rfl, -⟩ := exists_eq_append_of_byteSize_le hrest.symm (by omega)
    have hsuffix := lastLine_suffix_of_append hm hline
    have hall : blank (lastLine t) = true := by
      refine List.all_eq_true.mpr ?_
      intro x hx
      exact List.all_eq_true.mp hblank x (List.mem_append_left _ (hsuffix.subset hx))
    rw [htext, hall] at hlast
    cases hlast
  · exact hle

/-- The named top-level nodes, as the import divides them: it is put behind `earlier` and in front of
`run`, the comments attached to the first statement. -/
structure Division (d : Document) (earlier run : List Node) (first : Node) (later : List Node) :
    Prop where
  nodes : d.root.namedChildren = earlier ++ (run ++ first :: later)
  preamble : ∀ n ∈ earlier ++ run, isPreamble d n = true
  statement : isPreamble d first = false
  comments : ∀ n ∈ run, n.kind = .comment
  attached : (run ++ [first]).IsChain fun a b => isAttached d a b = true
  detached : ∀ c n, earlier.getLast? = some c → (run ++ [first]).head? = some n →
    isAttached d c n = false

/-- The scan back from a node passes the longest run of comments that are attached one to the
other and the last one to the node. -/
theorem exists_run (d : Document) (next : Node) (before : List Node) :
    ∃ earlier run, before.reverse = earlier ++ run ∧ (∀ n ∈ run, n.kind = .comment) ∧
      ((run ++ [next]).IsChain fun a b => isAttached d a b = true) ∧
      (run ++ [next]).head? = some (anchor d next before) ∧
      ∀ c, earlier.getLast? = some c → isAttached d c (anchor d next before) = false := by
  induction before generalizing next with
  | nil => exact ⟨[], [], rfl, by simp, List.isChain_singleton _, rfl, by simp⟩
  | cons c before ih =>
      rw [List.reverse_cons, anchor]
      split
      · rename_i hattached
        obtain ⟨earlier, run, hsplit, hcomments, hchain, hhead, hstop⟩ := ih c
        have hc : c.kind = .comment := by
          simp only [isAttached, Bool.and_eq_true, decide_eq_true_eq] at hattached
          exact hattached.1
        refine ⟨earlier, run ++ [c], by rw [hsplit, List.append_assoc], ?_, ?_, ?_, hstop⟩
        · intro n hn
          rcases List.mem_append.mp hn with hn | hn
          · exact hcomments n hn
          · exact List.mem_singleton.mp hn ▸ hc
        · rw [List.append_assoc, List.singleton_append]
          exact List.isChain_append_cons_cons.mpr
            ⟨hchain, hattached, List.isChain_singleton _⟩
        · rw [List.head?_append, hhead]
          rfl
      · rename_i hattached
        refine ⟨before.reverse ++ [c], [], by simp, by simp, List.isChain_singleton _, rfl, ?_⟩
        intro c' hc'
        obtain rfl : c = c' := by simpa using hc'
        simpa using hattached

/-- A file with a statement is divided, and the import is put in front of the node at which the
second part begins. -/
theorem exists_division {d : Document} (stmt : Text)
    (hsome : ∃ n ∈ d.root.namedChildren, isPreamble d n = false) :
    ∃ earlier run first later found, Division d earlier run first later ∧
      (run ++ [first]).head? = some found ∧
      (insertion d stmt).start = offsetBefore d found := by
  obtain ⟨rest, hnodes, hdrop⟩ := namedChildren_eq d
  have hpreamble : ∀ n ∈ d.root.namedChildren.takeWhile (isPreamble d), isPreamble d n = true :=
    fun n hn => List.all_eq_true.mp List.all_takeWhile n hn
  have hrest : rest = d.root.namedChildren.dropWhile (isPreamble d) :=
    List.append_cancel_left (hnodes.symm.trans List.takeWhile_append_dropWhile.symm)
  cases rest with
  | nil =>
      obtain ⟨n, hn, hout⟩ := hsome
      rw [List.append_nil] at hnodes
      have := hpreamble n (hnodes ▸ hn)
      simp [hout] at this
  | cons first later =>
      obtain ⟨earlier, run, hsplit, hcomments, hattached, hhead, hdetached⟩ :=
        exists_run d first (d.root.namedChildren.takeWhile (isPreamble d)).reverse
      rw [List.reverse_reverse] at hsplit
      refine ⟨earlier, run, first, later, _, ⟨?_, ?_, ?_, hcomments, hattached, ?_⟩, hhead, ?_⟩
      · rw [← List.append_assoc, ← hsplit, ← hnodes]
      · exact hsplit ▸ hpreamble
      · have hfirst : (d.root.namedChildren.dropWhile (isPreamble d)).head? = some first := by
          rw [← hrest]
          rfl
        simpa [hfirst] using List.head?_dropWhile_not (isPreamble d) d.root.namedChildren
      · intro c n hc hn
        obtain rfl := Option.some.inj (hhead.symm.trans hn)
        exact hdetached c hc
      · simp only [insertion, hdrop]
        rfl

section
variable {d : Document} {earlier run later : List Node} {first found : Node}
  (h : Division d earlier run first later) (hfound : (run ++ [first]).head? = some found)
include h hfound

theorem Division.mem_namedChildren : found ∈ d.root.namedChildren := by
  have hmem : found ∈ run ++ [first] := List.mem_of_head? hfound
  rw [h.nodes]
  simp only [List.mem_append, List.mem_cons, List.not_mem_nil, or_false] at hmem ⊢
  tauto

variable (hfits : ∀ n ∈ d.root.children, n.span.Fits d.source)
  (hordered : d.root.children.Pairwise fun a b => a.span.stop ≤ b.span.start)
include hfits hordered

theorem Division.order :
    (∀ n ∈ earlier, n.span.stop ≤ found.span.start) ∧
      ∀ n ∈ run ++ first :: later, found.span.start ≤ n.span.start := by
  obtain ⟨others, hothers⟩ : ∃ others, run ++ first :: later = found :: others := by
    obtain ⟨others, hrun⟩ := List.head?_eq_some_iff.mp hfound
    exact ⟨others ++ later, by rw [← List.cons_append, ← hrun, List.append_assoc]; rfl⟩
  have hnamed : (earlier ++ found :: others).Pairwise fun a b => a.span.stop ≤ b.span.start := by
    rw [← hothers, ← h.nodes]
    exact hordered.filter _
  obtain ⟨-, hsecond, hcross⟩ := List.pairwise_append.mp hnamed
  have hle := (hfits found (Node.mem_namedChildren (h.mem_namedChildren hfound))).start_le_stop
  constructor
  · intro n hn
    exact hcross n hn found (by simp)
  · intro n hn
    rcases List.mem_cons.mp (hothers ▸ hn) with rfl | hn
    · exact Nat.le_refl _
    · exact Nat.le_trans hle ((List.pairwise_cons.mp hsecond).1 n hn)

variable (hlast : ∀ n ∈ d.root.children, n.kind.isNamed = false ∨ isPreamble d n = true →
  blank (lastLine (d.textOf n)) = false)
include hlast

theorem Division.place :
    (∀ n ∈ earlier, n.span.stop ≤ offsetBefore d found) ∧
      ∀ n ∈ run ++ first :: later, offsetBefore d found ≤ n.span.start := by
  obtain ⟨hfront, hback⟩ := h.order hfound hfits hordered
  have hin := hfits found (Node.mem_namedChildren (h.mem_namedChildren hfound))
  constructor
  · intro n hn
    have hmem : n ∈ d.root.children :=
      Node.mem_namedChildren (h.nodes ▸ List.mem_append_left _ hn)
    exact stop_le_offsetBefore (hfits n hmem) hin (hfront n hn)
      (hlast n hmem (Or.inr (h.preamble n (List.mem_append_left _ hn))))
  · intro n hn
    exact Nat.le_trans (offsetBefore_le hin) (hback n hn)

/-- The place lies inside no top-level node. A token among them is not the node at which the second
part begins, so it ends in front of that or begins behind it. -/
theorem Division.apart {n : Node} (hn : n ∈ d.root.children) :
    n.span.stop ≤ offsetBefore d found ∨ offsetBefore d found ≤ n.span.start := by
  by_cases hnamed : n.kind.isNamed = true
  · obtain ⟨hfront, hback⟩ := h.place hfound hfits hordered hlast
    have hn' : n ∈ earlier ++ (run ++ first :: later) :=
      h.nodes ▸ List.mem_filter.mpr ⟨hn, hnamed⟩
    exact (List.mem_append.mp hn').imp (hfront n) (hback n)
  · have hmem := h.mem_namedChildren hfound
    have hin := hfits found (Node.mem_namedChildren hmem)
    have hne : n ≠ found := by
      rintro rfl
      exact hnamed (List.mem_filter.mp hmem).2
    have : Std.Symm fun a b : Node => a.span.Apart b.span := ⟨fun _ _ => Span.Apart.symm⟩
    have hall : d.root.children.Pairwise fun a b => a.span.Apart b.span :=
      hordered.imp fun h => Or.inl h
    rcases hall.forall hn (Node.mem_namedChildren hmem) hne with hside | hside
    · exact Or.inl (stop_le_offsetBefore (hfits n hn) hin hside
        (hlast n hn (Or.inl (Bool.eq_false_iff.mpr hnamed))))
    · have hle := offsetBefore_le hin
      have hstart := hin.start_le_stop
      exact Or.inr (by omega)

end

theorem slice_of_apart {source front back : Text} (hsource : source = front ++ back) {s : Span}
    (hfits : s.Fits source) (hapart : s.stop ≤ byteSize front ∨ byteSize front ≤ s.start) :
    (s.stop ≤ byteSize front ∧ slice front s.start s.stop = slice source s.start s.stop) ∨
      byteSize front ≤ s.start ∧
        slice back (s.start - byteSize front) (s.stop - byteSize front) =
          slice source s.start s.stop := by
  obtain ⟨hle, hstart, hstop⟩ := hfits
  subst hsource
  rcases hapart with hapart | hapart
  · refine Or.inl ⟨hapart, (slice_append_right back ?_ ?_ hle).symm⟩
    · exact onBoundary_of_append hstart (Nat.le_trans hle hapart)
    · exact onBoundary_of_append hstop hapart
  · refine Or.inr ⟨hapart, ?_⟩
    have hback : onBoundary back (s.start - byteSize front) = true := by
      have h := onBoundary_dropBytes (onBoundary_append front back) hstart hapart
      rwa [dropBytes_append] at h
    have h := slice_append_left front back _ (s.stop - byteSize front) hback
    rw [← h, Nat.add_sub_cancel' hapart, Nat.add_sub_cancel' (Nat.le_trans hapart hle)]

/-- Where the import of a file with a statement goes. The nodes in front of the first statement are
the interpreter line, directives and comments, and those that are not comments attached to the
statement all end before the import. The import lies at a boundary, in front of the first statement
and inside no top-level node, so it divides the source into a front and a back and every top-level
node is found whole in one of them. What ends in front of the first statement must not end in a
blank line; a top-level token, if there is one, is asked the same. -/
theorem place_of_insertion {d : Document} (stmt : Text)
    (hfits : ∀ n ∈ d.root.children, n.span.Fits d.source)
    (hordered : d.root.children.Pairwise fun a b => a.span.stop ≤ b.span.start)
    (hlast : ∀ n ∈ d.root.children, n.kind.isNamed = false ∨ isPreamble d n = true →
      blank (lastLine (d.textOf n)) = false)
    (hsome : ∃ n ∈ d.root.namedChildren, isPreamble d n = false) :
    ∃ earlier run first later, Division d earlier run first later ∧
      (∀ n ∈ earlier, n.span.stop ≤ (insertion d stmt).start) ∧
      (∀ n ∈ run ++ first :: later, (insertion d stmt).start ≤ n.span.start) ∧
      onBoundary d.source (insertion d stmt).start = true ∧
      ∃ front back, d.source = front ++ back ∧ byteSize front = (insertion d stmt).start ∧
        Edit.applyAll d.source [insertion d stmt] =
          .ok (front ++ (insertion d stmt).text ++ back) ∧
        ∀ n ∈ d.root.children,
          (n.span.stop ≤ byteSize front ∧ slice front n.span.start n.span.stop = d.textOf n) ∨
            byteSize front ≤ n.span.start ∧
              slice back (n.span.start - byteSize front) (n.span.stop - byteSize front) =
                d.textOf n := by
  obtain ⟨earlier, run, first, later, found, hdivision, hfound, hplace⟩ :=
    exists_division stmt hsome
  obtain ⟨hearlier, hlater⟩ := hdivision.place hfound hfits hordered hlast
  have hboundary : onBoundary d.source (offsetBefore d found) = true :=
    onBoundary_offsetBefore
      (hfits found (Node.mem_namedChildren (hdivision.mem_namedChildren hfound)))
  rw [hplace]
  obtain ⟨front, back, hsource, hsize⟩ := onBoundary_iff.mp hboundary
  refine ⟨earlier, run, first, later, hdivision, hearlier, hlater, hboundary, front, back, hsource,
    hsize, ?_, ?_⟩
  · have hedit : insertion d stmt = Edit.insert (byteSize front) (insertion d stmt).text := by
      rw [hsize, ← hplace]
      exact congrArg (fun stop => Edit.mk _ stop _) (insertion_stop d stmt)
    rw [hsource, hedit]
    exact Edit.applyAll_insert front back _
  · intro n hn
    exact slice_of_apart hsource (hfits n hn)
      (hsize ▸ hdivision.apart hfound hfits hordered hlast hn)

/-- An attached comment that begins on the line of a directive. -/
def prologueFile : Text :=
  "#!/usr/bin/env node\n'use strict'; /* c */\n// d\nfoo();\n".toList

theorem place_in_prologueFile : ∃ d earlier run first later,
    Document.parse prologueFile .javaScript = .ok d ∧ Division d earlier run first later ∧
      insertion d "import 'm';".toList = Edit.insert 34 "import 'm';\n\n".toList ∧
      (∀ n ∈ earlier, n.span.stop ≤ 34) ∧ (∀ n ∈ run ++ first :: later, 34 ≤ n.span.start) ∧
      ∃ front back, prologueFile = front ++ back ∧ byteSize front = 34 ∧
        Edit.applyAll prologueFile [Edit.insert 34 "import 'm';\n\n".toList] =
          .ok (front ++ "import 'm';\n\n".toList ++ back) := by
  have hcheck : yields (Document.parse prologueFile .javaScript) (fun d =>
      d.root.isNested d.source &&
        decide (insertion d "import 'm';".toList = Edit.insert 34 "import 'm';\n\n".toList ∧
        (∀ n ∈ d.root.children, n.kind.isNamed = false ∨ isPreamble d n = true →
          blank (lastLine (d.textOf n)) = false) ∧
        (∃ n ∈ d.root.namedChildren, isPreamble d n = false))) = true := by
    decide +kernel
  obtain ⟨d, hd, h⟩ := exists_of_yields hcheck
  obtain ⟨hroot, hedit, hlast, hsome⟩ := (Bool.and_eq_true_iff.mp h).imp_right of_decide_eq_true
  obtain ⟨earlier, run, first, later, hdivision, hearlier, hlater, -, front, back, hsource, hsize,
    hout, -⟩ := place_of_insertion "import 'm';".toList
      (fun n hn => Node.fits_of_isNested (Node.isNested_of_mem hroot hn).1)
      (Node.pairwise_children hroot) hlast hsome
  rw [hedit] at hearlier hlater hsize hout
  rw [(Document.of_parse_eq_ok hd).1] at hsource hout
  exact ⟨d, earlier, run, first, later, hd, hdivision, hedit, hearlier, hlater, front, back, hsource,
    hsize, hout⟩

end ImportSite

end SpanWeave
