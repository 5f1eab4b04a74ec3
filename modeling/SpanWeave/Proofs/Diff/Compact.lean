import SpanWeave.Diff.Compact
import SpanWeave.Proofs.Diff.Script

namespace SpanWeave.Diff

/-- One script leads wherever another one does. -/
def Yields (t : Texts) (ps qs : List Piece) : Prop :=
  ∀ ⦃a b : Place⦄, Leads t a ps b → Leads t a qs b

namespace Yields

variable {t : Texts} {ps qs rs ss : List Piece}

theorem refl (t : Texts) (ps : List Piece) : Yields t ps ps := fun _ _ h => h

theorem trans (h : Yields t ps qs) (h' : Yields t qs rs) : Yields t ps rs :=
  fun _ _ hps => h' (h hps)

theorem append (h : Yields t ps qs) (h' : Yields t rs ss) : Yields t (ps ++ rs) (qs ++ ss) := by
  intro a c hlead
  obtain ⟨b, hps, hrs⟩ := follows_append.mp hlead
  exact (h hps).append (h' hrs)

end Yields

variable {t : Texts} {p q : Piece}

theorem yields_swap (hp : p.change ≠ .keep) (hq : q.change ≠ .keep) (hne : q.change ≠ p.change) :
    Yields t [q, p] [p, q] := by
  rintro a b ⟨hqs, hps, hb⟩
  obtain ⟨qc, qold, qnew, qsize⟩ := q
  obtain ⟨pc, pold, pnew, psize⟩ := p
  cases qc <;> cases pc <;> simp_all [Follows]

theorem yields_merge (hq : q.change ≠ .keep) (heq : q.change = p.change) :
    Yields t [q, p] [q.extend p.size] := by
  rintro a b ⟨hqs, hps, rfl⟩
  obtain ⟨c, qold, qnew, qsize⟩ := q
  obtain ⟨_, pold, pnew, psize⟩ := p
  obtain rfl : c = _ := heq
  cases c with
  | keep => exact absurd rfl hq
  | delete =>
      obtain ⟨hsize, hold⟩ := Piece.stands_delete_iff.mp hqs
      refine ⟨Piece.stands_delete_iff.mpr ⟨Nat.add_pos_left hsize _, hold⟩, ?_⟩
      simp [Follows, Piece.extend, Nat.add_assoc]
  | insert =>
      obtain ⟨hsize, hnew⟩ := Piece.stands_insert_iff.mp hqs
      refine ⟨Piece.stands_insert_iff.mpr ⟨Nat.add_pos_left hsize _, hnew⟩, ?_⟩
      simp [Follows, Piece.extend, Nat.add_assoc]

theorem yields_keepInFront (old new n : Nat) (ps : List Piece) :
    Yields t (⟨.keep, old, new, n⟩ :: ps) (keepInFront n ⟨.keep, old, new, n⟩ ps) := by
  unfold keepInFront
  split
  · rename_i q ps
    split
    · rename_i hkeep
      obtain ⟨qc, qold, qnew, qsize⟩ := q
      obtain rfl : qc = .keep := hkeep
      rintro a b ⟨hmade, hq, hrest⟩
      simp only [Piece.stands_keep_iff, Piece.past_keep] at hmade hq hrest
      obtain ⟨hn, rfl, rfl, hagree⟩ := hmade
      obtain ⟨hsize, rfl, rfl, hagree'⟩ := hq
      refine ⟨?_, ?_⟩
      · simp [Piece.up, Piece.extend, Nat.add_comm qsize n, hagree.append hagree',
          Nat.add_pos_left hn]
      · simpa [Piece.up, Piece.extend, Nat.add_comm qsize n, Nat.add_assoc] using hrest
    · exact Yields.refl t _
  · exact Yields.refl t _

theorem yields_keepBehind (old new n : Nat) (ps : List Piece) :
    Yields t (ps.reverse ++ [⟨.keep, old, new, n⟩])
      (keepBehind n ⟨.keep, old, new, n⟩ ps).reverse := by
  unfold keepBehind
  split
  · rename_i q ps
    split
    · rename_i hkeep
      obtain ⟨qc, qold, qnew, qsize⟩ := q
      obtain rfl : qc = .keep := hkeep
      rw [List.reverse_cons, List.reverse_cons, List.append_assoc]
      refine (Yields.refl t _).append ?_
      rintro a b ⟨hq, hmade, hb⟩
      simp only [Piece.stands_keep_iff, Piece.past_keep] at hmade hq hb
      obtain ⟨hn, rfl, rfl, hagree⟩ := hq
      obtain ⟨hsize, rfl, rfl, hagree'⟩ := hmade
      refine ⟨?_, ?_⟩
      · simp [Piece.extend, hagree.append hagree', Nat.add_pos_left hn]
      · simpa [Follows, Piece.extend, Nat.add_assoc] using hb
    · simpa using Yields.refl t _
  · simpa using Yields.refl t _

theorem yields_split {m n : Nat} (hm : 0 < m) (hn : 0 < n) (old new : Nat) :
    Yields t [⟨.keep, old, new, m + n⟩]
      [⟨.keep, old, new, m⟩, ⟨.keep, old + m, new + m, n⟩] := by
  rintro a b ⟨hkept, rfl⟩
  obtain ⟨-, rfl, rfl, hagree⟩ := Piece.stands_keep_iff.mp hkept
  simp [Follows, hm, hn, hagree.take (Nat.le_add_right m n), hagree.drop, Nat.add_assoc]

/-- An insertion that ends with the kept lines above it moves up across them. -/
theorem yields_slideUp {n old new pold pnew size : Nat} (hn : n ≤ size) (x : Nat)
    (hagree : t.Agree (old, pnew + size - n) n) :
    Yields t [⟨.keep, old, new, n⟩, ⟨.insert, pold, pnew, size⟩]
      [⟨.insert, x, pnew - n, size⟩, ⟨.keep, old, pnew + size - n, n⟩] := by
  rintro a b ⟨hkept, hins, rfl⟩
  obtain ⟨hpos, rfl, rfl, -⟩ := Piece.stands_keep_iff.mp hkept
  obtain ⟨hsize, rfl⟩ := Piece.stands_insert_iff.mp hins
  have hnew : a.2 + n + size - n = a.2 + size := by omega
  simp only [Piece.past_keep, hnew] at hagree ⊢
  simp [Follows, hpos, hsize, hagree, Nat.add_right_comm]

theorem yields_slideDown {n old new pold pnew size : Nat} (x : Nat)
    (hagree : t.Agree (old, pnew) n) :
    Yields t [⟨.insert, pold, pnew, size⟩, ⟨.keep, old, new, n⟩]
      [⟨.keep, old, pnew, n⟩, ⟨.insert, x, pnew + n, size⟩] := by
  rintro a b ⟨hins, hkept, rfl⟩
  obtain ⟨hsize, rfl⟩ := Piece.stands_insert_iff.mp hins
  obtain ⟨hpos, rfl, rfl, -⟩ := Piece.stands_keep_iff.mp hkept
  simp only [Piece.past_insert] at hagree ⊢
  simp [Follows, hpos, hsize, hagree, Nat.add_right_comm]

section
variable (hq : q.change = .keep)

theorem of_roomAbove (hn : t.roomAbove q p ≠ 0) :
    p.change = .insert ∧ t.roomAbove q p ≤ q.size ∧ t.roomAbove q p ≤ p.size ∧
      t.Agree (q.old + q.size - t.roomAbove q p, p.new + p.size - t.roomAbove q p)
        (t.roomAbove q p) := by
  have hp : p.change = .insert := by
    by_contra h
    simp [Texts.roomAbove, h] at hn
  have hbound := t.agreeingBefore_le (min q.size p.size) (q.old + q.size) (p.new + p.size)
  have hagree := t.agree_agreeingBefore (min q.size p.size) (q.old + q.size) (p.new + p.size)
  simp only [Texts.roomAbove, hp, ↓reduceIte]
  exact ⟨trivial, by omega, by omega, hagree⟩

theorem of_roomBelow (hn : t.roomBelow q p ≠ 0) :
    p.change = .insert ∧ t.roomBelow q p ≤ q.size ∧ t.Agree (q.old, p.new) (t.roomBelow q p) := by
  have hp : p.change = .insert := by
    by_contra h
    simp [Texts.roomBelow, h] at hn
  have hbound := t.agreeing_le (min q.size p.size) q.old p.new
  simp only [Texts.roomBelow, hp, ↓reduceIte]
  exact ⟨trivial, by omega, t.agree_agreeing _ _ _⟩

/-- The kept lines that an insertion has moved up across stand below it. -/
def Texts.keptBelow (t : Texts) (q p : Piece) : Piece :=
  ⟨.keep, q.old + q.size - t.roomAbove q p, p.new + p.size - t.roomAbove q p, t.roomAbove q p⟩

include hq

theorem yields_above_all (hn : t.roomAbove q p ≠ 0) (hle : q.size ≤ t.roomAbove q p) :
    Yields t [q, p] [p.up (t.roomAbove q p), t.keptBelow q p] := by
  obtain ⟨hp, hqn, hpn, hagree⟩ := of_roomAbove hn
  obtain ⟨qc, qold, qnew, qsize⟩ := q
  obtain ⟨pc, pold, pnew, psize⟩ := p
  obtain rfl : qc = .keep := hq
  obtain rfl : pc = .insert := hp
  simp only [Texts.keptBelow, Piece.up]
  generalize t.roomAbove ⟨.keep, qold, qnew, qsize⟩ ⟨.insert, pold, pnew, psize⟩ = n at *
  obtain rfl : qsize = n := Nat.le_antisymm hle hqn
  dsimp only at hpn hagree
  rw [Nat.add_sub_cancel] at hagree ⊢
  exact yields_slideUp hpn _ hagree

theorem yields_above_some (hn : t.roomAbove q p ≠ 0) (hle : ¬ q.size ≤ t.roomAbove q p) :
    Yields t [q, p]
      [q.shorten (t.roomAbove q p), p.up (t.roomAbove q p), t.keptBelow q p] := by
  obtain ⟨hp, hqn, hpn, hagree⟩ := of_roomAbove hn
  obtain ⟨qc, qold, qnew, qsize⟩ := q
  obtain ⟨pc, pold, pnew, psize⟩ := p
  obtain rfl : qc = .keep := hq
  obtain rfl : pc = .insert := hp
  simp only [Texts.keptBelow, Piece.up, Piece.shorten]
  generalize t.roomAbove ⟨.keep, qold, qnew, qsize⟩ ⟨.insert, pold, pnew, psize⟩ = n at *
  dsimp only at hqn hpn hagree hle
  obtain ⟨m, rfl⟩ : ∃ m, qsize = m + n := ⟨qsize - n, by omega⟩
  rw [← Nat.add_assoc, Nat.add_sub_cancel, Nat.add_sub_cancel] at *
  have hsplit := (yields_split (t := t) (m := m) (n := n) (by omega) (by omega) qold qnew).append
    (Yields.refl t [⟨.insert, pold, pnew, psize⟩])
  exact hsplit.trans ((Yields.refl t [_]).append (yields_slideUp hpn _ hagree))

theorem yields_below_all (hn : t.roomBelow q p ≠ 0) (hle : q.size ≤ t.roomBelow q p) :
    Yields t [p, q]
      [⟨.keep, q.old, p.new, t.roomBelow q p⟩, p.down (t.roomBelow q p)] := by
  obtain ⟨hp, hqn, hagree⟩ := of_roomBelow hn
  obtain ⟨qc, qold, qnew, qsize⟩ := q
  obtain ⟨pc, pold, pnew, psize⟩ := p
  obtain rfl : qc = .keep := hq
  obtain rfl : pc = .insert := hp
  simp only [Piece.down]
  generalize t.roomBelow ⟨.keep, qold, qnew, qsize⟩ ⟨.insert, pold, pnew, psize⟩ = n at *
  obtain rfl : qsize = n := Nat.le_antisymm hle hqn
  exact yields_slideDown _ hagree

theorem yields_below_some (hn : t.roomBelow q p ≠ 0) (hle : ¬ q.size ≤ t.roomBelow q p) :
    Yields t [p, q]
      [⟨.keep, q.old, p.new, t.roomBelow q p⟩, p.down (t.roomBelow q p),
        (q.down (t.roomBelow q p)).shorten (t.roomBelow q p)] := by
  obtain ⟨hp, hqn, hagree⟩ := of_roomBelow hn
  obtain ⟨qc, qold, qnew, qsize⟩ := q
  obtain ⟨pc, pold, pnew, psize⟩ := p
  obtain rfl : qc = .keep := hq
  obtain rfl : pc = .insert := hp
  simp only [Piece.down, Piece.shorten]
  generalize t.roomBelow ⟨.keep, qold, qnew, qsize⟩ ⟨.insert, pold, pnew, psize⟩ = n at *
  dsimp only at hqn hagree hle
  obtain ⟨m, rfl⟩ : ∃ m, qsize = n + m := ⟨qsize - n, by omega⟩
  rw [Nat.add_sub_cancel_left]
  have hsplit := (Yields.refl t [⟨.insert, pold, pnew, psize⟩]).append
    (yields_split (t := t) (m := n) (n := m) (by omega) (by omega) qold qnew)
  exact hsplit.trans ((yields_slideDown _ hagree).append (Yields.refl t [_]))

end

/-- The script that a view shows. -/
def View.whole (v : View) : List Piece := v.before.reverse ++ v.current :: v.after

theorem yields_behind (before : List Piece) {ps qs : List Piece} (h : Yields t (q :: ps) qs) :
    Yields t ((q :: before).reverse ++ ps) (before.reverse ++ qs) := by
  rw [List.reverse_cons, List.append_assoc]
  exact (Yields.refl t _).append h

theorem yields_moveUp (t : Texts) (before : List Piece) {p : Piece} (after : List Piece)
    (hp : p.change ≠ .keep) :
    (moveUp t before p after).current.change = p.change ∧
      Yields t (before.reverse ++ p :: after) (moveUp t before p after).whole := by
  fun_induction moveUp t before p after with
  | case1 p after => exact ⟨rfl, Yields.refl t _⟩
  | case2 p after q rest hq n hn => exact ⟨rfl, Yields.refl t _⟩
  | case3 p after q rest hq n hn after' hle ih =>
      obtain ⟨hchange, hmoved⟩ := ih hp
      refine ⟨hchange, (yields_behind rest ?_).trans hmoved⟩
      have hafter := yields_keepInFront (t := t) (q.old + q.size - n) (p.new + p.size - n) n after
      exact ((yields_above_all hq hn hle).append (Yields.refl t after)).trans
        ((Yields.refl t [_]).append hafter)
  | case4 p after q rest hq n hn after' hle ih =>
      obtain ⟨hchange, hmoved⟩ := ih hp
      rw [List.reverse_cons, List.append_assoc] at hmoved
      refine ⟨hchange, (yields_behind rest ?_).trans hmoved⟩
      have hafter := yields_keepInFront (t := t) (q.old + q.size - n) (p.new + p.size - n) n after
      exact ((yields_above_some hq hn hle).append (Yields.refl t after)).trans
        ((Yields.refl t [_, _]).append hafter)
  | case5 p after q rest hq heq ih =>
      obtain ⟨hchange, hmoved⟩ := ih hq
      refine ⟨hchange.trans heq, (yields_behind rest ?_).trans hmoved⟩
      exact (yields_merge hq heq).append (Yields.refl t after)
  | case6 p after q rest hq hne ih =>
      obtain ⟨hchange, hmoved⟩ := ih hp
      refine ⟨hchange, (yields_behind rest ?_).trans hmoved⟩
      exact (yields_swap hp hq hne).append (Yields.refl t after)

theorem yields_moveDown (t : Texts) (before : List Piece) {p : Piece} (after : List Piece)
    (hp : p.change ≠ .keep) :
    (moveDown t before p after).current.change = p.change ∧
      Yields t (before.reverse ++ p :: after) (moveDown t before p after).whole := by
  fun_induction moveDown t before p after with
  | case1 before p => exact ⟨rfl, Yields.refl t _⟩
  | case2 before p q rest hq n hn => exact ⟨rfl, Yields.refl t _⟩
  | case3 before p q rest hq n hn before' hle ih =>
      obtain ⟨hchange, hmoved⟩ := ih hp
      refine ⟨hchange, Yields.trans ?_ hmoved⟩
      have hbefore := yields_keepBehind (t := t) q.old p.new n before
      have hstep := (Yields.refl t before.reverse).append
        ((yields_below_all hq hn hle).append (Yields.refl t rest))
      refine hstep.trans ?_
      simpa using hbefore.append (Yields.refl t (p.down n :: rest))
  | case4 before p q rest hq n hn before' hle ih =>
      obtain ⟨hchange, hmoved⟩ := ih hp
      refine ⟨hchange, Yields.trans ?_ hmoved⟩
      have hbefore := yields_keepBehind (t := t) q.old p.new n before
      have hstep := (Yields.refl t before.reverse).append
        ((yields_below_some hq hn hle).append (Yields.refl t rest))
      refine hstep.trans ?_
      simpa using hbefore.append (Yields.refl t (p.down n :: (q.down n).shorten n :: rest))
  | case5 before p q rest hq heq ih =>
      obtain ⟨hchange, hmoved⟩ := ih hp
      refine ⟨hchange, Yields.trans ?_ hmoved⟩
      exact (Yields.refl t _).append ((yields_merge hp heq.symm).append (Yields.refl t rest))
  | case6 before p q rest hq hne ih =>
      obtain ⟨hchange, hmoved⟩ := ih hp
      refine ⟨hchange, Yields.trans ?_ hmoved⟩
      have hstep := (Yields.refl t before.reverse).append
        ((yields_swap hq hp (Ne.symm hne)).append (Yields.refl t rest))
      simpa using hstep

theorem yields_settle (t : Texts) (change : Change) (hchange : change ≠ .keep) (fuel : Nat)
    (before after : List Piece) :
    Yields t (before.reverse ++ after) (settle t change fuel before after) := by
  fun_induction settle t change fuel before after with
  | case1 before after => exact Yields.refl t _
  | case2 fuel before => simpa using Yields.refl t _
  | case3 fuel before p after hp high =>
      rename_i low ih
      obtain ⟨hhigh, hup⟩ := yields_moveUp t before after (hp ▸ hchange)
      have hcurrent : high.current.change ≠ .keep := by
        rw [hhigh, hp]
        exact hchange
      obtain ⟨-, hdown⟩ := yields_moveDown t high.before high.after hcurrent
      rw [List.reverse_cons, List.append_assoc] at ih
      exact (hup.trans hdown).trans ih
  | case4 fuel before p after hp ih => simpa using ih

theorem yields_compact (t : Texts) (ps : List Piece) : Yields t ps (compact t ps) := by
  have hdelete := yields_settle t .delete (by simp) (settleFuel ps) [] ps
  have hinsert := yields_settle t .insert (by simp)
    (settleFuel (settle t .delete (settleFuel ps) [] ps)) []
    (settle t .delete (settleFuel ps) [] ps)
  exact hdelete.trans hinsert

theorem leads_compact_script (t : Texts) :
    Leads t (0, 0) (compact t (script t)) (t.old.size, t.new.size) :=
  yields_compact t _ (leads_script t)

end SpanWeave.Diff
