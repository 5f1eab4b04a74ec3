import Mathlib.Data.List.Nodup
import SpanWeave.Diff.Script

/-!
The point at which a script is divided lies in the window. Paths are followed without regard to
the far sides of the window and may leave it by a step per round; but where paths from both ends
are first seen to meet they are still inside, since a path that left the window did so next to
one that would have met its counterpart a round earlier.
-/

namespace SpanWeave.Diff

namespace Texts

theorem agreeing_le (t : Texts) (limit i j : Nat) : t.agreeing limit i j ≤ limit := by
  fun_induction Texts.agreeing t limit i j with
  | case1 => omega
  | case2 limit i j _ ih => omega
  | case3 => omega

theorem agreeingBefore_le (t : Texts) (limit i j : Nat) :
    t.agreeingBefore limit i j ≤ limit ∧ t.agreeingBefore limit i j ≤ i ∧
      t.agreeingBefore limit i j ≤ j := by
  fun_induction Texts.agreeingBefore t limit i j with
  | case1 limit i j _ ih => omega
  | case2 => omega
  | case3 => omega

end Texts

theorem mem_diagonals_iff {d : Nat} {k : Int} :
    k ∈ diagonals d ↔ -d ≤ k ∧ k ≤ d ∧ (d - k) % 2 = 0 := by
  simp only [diagonals, List.mem_map, List.mem_range]
  constructor
  · rintro ⟨i, hi, rfl⟩
    omega
  · rintro ⟨hlow, hhigh, hparity⟩
    exact ⟨((d - k) / 2).toNat, by omega, by omega⟩

theorem nodup_diagonals (d : Nat) : (diagonals d).Nodup := by
  refine List.Nodup.map ?_ List.nodup_range
  intro i j hij
  simp only at hij
  omega

namespace Frontier

/-- There is room for all diagonals of at most `size`, and for their neighbours. -/
structure Wide (f : Frontier) (size : Nat) : Prop where
  center_eq : f.center = size + 1
  length_eq : f.reach.size = 2 * size + 3

theorem wide_start (size : Nat) : (start size).Wide size := ⟨rfl, by simp [start]⟩

theorem reachOn_start (size : Nat) (k : Int) : (start size).reachOn k = 0 := by
  simp only [start, reachOn, Array.getD_eq_getD_getElem?, Array.getElem?_replicate]
  split <;> rfl

variable {f : Frontier} {size : Nat} {k : Int}

theorem Wide.record (hf : f.Wide size) (x : Nat) : (f.record k x).Wide size :=
  ⟨hf.center_eq, by simp [Frontier.record, hf.length_eq]⟩

theorem reachOn_record (hf : f.Wide size) (hk : k.natAbs ≤ size) (x : Nat) {j : Int}
    (hj : j.natAbs ≤ size + 1) :
    (f.record k x).reachOn j = if j = k then x else f.reachOn j := by
  have hlength := hf.length_eq
  simp only [reachOn, Frontier.record, hf.center_eq, Array.getD_eq_getD_getElem?,
    Array.getElem?_setIfInBounds]
  by_cases hjk : j = k
  · subst hjk
    have hin : (j + ↑(size + 1)).toNat < f.reach.size := by omega
    rw [if_pos rfl, if_pos hin, if_pos rfl]
    rfl
  · have hne : (k + ↑(size + 1)).toNat ≠ (j + ↑(size + 1)).toNat := by omega
    rw [if_neg hne, if_neg hjk]

theorem le_enter (f : Frontier) {d : Nat} (hk : k ∈ diagonals d) :
    (k < d → f.reachOn (k + 1) ≤ f.enter d k) ∧
      (-d < k → f.reachOn (k - 1) + 1 ≤ f.enter d k) := by
  have hk := mem_diagonals_iff.mp hk
  simp only [enter]
  split
  · rename_i h
    simp only [Bool.or_eq_true, Bool.and_eq_true, decide_eq_true_eq, ne_eq] at h
    omega
  · rename_i h
    simp only [Bool.or_eq_true, Bool.and_eq_true, decide_eq_true_eq, ne_eq] at h
    omega

theorem enter_cases (f : Frontier) {d : Nat} (hd : 0 < d) (hk : k ∈ diagonals d) :
    (k < d ∧ f.enter d k = f.reachOn (k + 1)) ∨
      (-d < k ∧ f.enter d k = f.reachOn (k - 1) + 1) := by
  have hk := mem_diagonals_iff.mp hk
  simp only [enter]
  split
  · rename_i h
    simp only [Bool.or_eq_true, Bool.and_eq_true, decide_eq_true_eq, ne_eq] at h
    left
    omega
  · rename_i h
    simp only [Bool.or_eq_true, Bool.and_eq_true, decide_eq_true_eq, ne_eq] at h
    right
    omega

end Frontier

/-- A window of `n` old and `m` new lines, seen by the paths from one end. These are held against
those from the other end when their number of changes has come `late` changes further than the
diagonal between them. -/
structure Field where
  n : Nat
  m : Nat
  late : Nat

namespace Field

/-- Paths with `d` changes on diagonal `k` are held against those from the other end. -/
def near (w : Field) (d : Nat) (k : Int) : Prop :=
  ((w.n : Int) - w.m) % 2 = w.late ∧ (k - (w.n - w.m)).natAbs + w.late ≤ d

theorem near.mem_diagonals {w : Field} {d : Nat} {k : Int} (h : w.near d k)
    (hk : k ∈ diagonals d) : w.late ≤ d ∧ (w.n : Int) - w.m - k ∈ diagonals (d - w.late) := by
  obtain ⟨hparity, hradius⟩ := h
  have hk := mem_diagonals_iff.mp hk
  exact ⟨by omega, mem_diagonals_iff.mpr (by omega)⟩

/-- A path that enters diagonal `k` at `x` goes on to `r`, and not out of the window. -/
def Advances (w : Field) (k : Int) (x r : Nat) : Prop :=
  x ≤ r ∧ (r = x ∨ r ≤ w.n ∧ (r : Int) - k ≤ w.m)

/-- What is known of paths with `d` changes where they enter their last diagonals. -/
structure Ready (w : Field) (d : Nat) (f : Frontier) : Prop where
  low : ∀ k ∈ diagonals d, k ≤ f.enter d k
  old_le : ∀ k ∈ diagonals d, f.enter d k ≤ w.n + d
  new_le : ∀ k ∈ diagonals d, (f.enter d k : Int) - k ≤ w.m + d
  over_old : ∀ k ∈ diagonals d, w.n < f.enter d k → -d ≤ k - 2 ∧ w.n ≤ f.enter d (k - 2)
  over_new : ∀ k ∈ diagonals d, (w.m : Int) < f.enter d k - k →
    k + 2 ≤ d ∧ (w.m : Int) ≤ f.enter d (k + 2) - (k + 2)
  inside : ∀ k ∈ diagonals d, w.near d k → f.enter d k ≤ w.n ∧ (f.enter d k : Int) - k ≤ w.m

/-- What is known of paths with `d` changes where they end, if none has met its counterpart. -/
structure Bounded (w : Field) (d : Nat) (f : Frontier) : Prop where
  low : ∀ k ∈ diagonals d, k ≤ f.reachOn k
  old_le : ∀ k ∈ diagonals d, f.reachOn k ≤ w.n + d
  new_le : ∀ k ∈ diagonals d, (f.reachOn k : Int) - k ≤ w.m + d
  over_old : ∀ k ∈ diagonals d, w.n < f.reachOn k → -d ≤ k - 2 ∧ w.n ≤ f.reachOn (k - 2)
  over_new : ∀ k ∈ diagonals d, (w.m : Int) < f.reachOn k - k →
    k + 2 ≤ d ∧ (w.m : Int) ≤ f.reachOn (k + 2) - (k + 2)
  inside : ∀ k ∈ diagonals d, w.near d k → f.reachOn k < w.n ∧ (f.reachOn k : Int) - k < w.m

variable {w : Field} {d : Nat} {f g : Frontier}

theorem ready_start (w : Field) (size : Nat) : w.Ready 0 (.start size) := by
  have henter : (Frontier.start size).enter 0 0 = 0 := by
    simp [Frontier.enter, Frontier.reachOn_start]
  have hzero : ∀ k ∈ diagonals 0, k = 0 := by
    intro k hk
    have := mem_diagonals_iff.mp hk
    omega
  constructor <;> intro k hk <;> obtain rfl := hzero k hk <;> simp [henter]

theorem Ready.bounded (h : w.Ready d f)
    (hadvances : ∀ k ∈ diagonals d, w.Advances k (f.enter d k) (g.reachOn k))
    (hinside : ∀ k ∈ diagonals d, w.near d k →
      g.reachOn k < w.n ∧ (g.reachOn k : Int) - k < w.m) : w.Bounded d g := by
  constructor
  · intro k hk
    have := h.low k hk
    have := (hadvances k hk).1
    omega
  · intro k hk
    have := h.old_le k hk
    have := (hadvances k hk).2
    omega
  · intro k hk
    have := h.new_le k hk
    have := (hadvances k hk).2
    omega
  · intro k hk hover
    have hadvance := (hadvances k hk).2
    obtain ⟨hlow, hnext⟩ := h.over_old k hk (by omega)
    have hk := mem_diagonals_iff.mp hk
    have := (hadvances (k - 2) (mem_diagonals_iff.mpr (by omega))).1
    omega
  · intro k hk hover
    have hadvance := (hadvances k hk).2
    obtain ⟨hlow, hnext⟩ := h.over_new k hk (by omega)
    have hk := mem_diagonals_iff.mp hk
    have := (hadvances (k + 2) (mem_diagonals_iff.mpr (by omega))).1
    omega
  · exact hinside

section
variable (h : w.Bounded d f) {k : Int} (hk : k ∈ diagonals (d + 1))
include h hk

theorem Bounded.enter_le :
    k ≤ f.enter (d + 1) k ∧ f.enter (d + 1) k ≤ w.n + (d + 1) ∧
      (f.enter (d + 1) k : Int) - k ≤ w.m + (d + 1 : Nat) := by
  have hd := mem_diagonals_iff.mp hk
  rcases f.enter_cases (by omega) hk with ⟨hlt, heq⟩ | ⟨hlt, heq⟩
  · have habove : k + 1 ∈ diagonals d := mem_diagonals_iff.mpr (by omega)
    have := h.low (k + 1) habove
    have := h.old_le (k + 1) habove
    have := h.new_le (k + 1) habove
    omega
  · have hbelow : k - 1 ∈ diagonals d := mem_diagonals_iff.mpr (by omega)
    have := h.low (k - 1) hbelow
    have := h.old_le (k - 1) hbelow
    have := h.new_le (k - 1) hbelow
    omega

theorem Bounded.of_over_old (hover : w.n < f.enter (d + 1) k) :
    k - 1 ∈ diagonals d ∧ w.n ≤ f.reachOn (k - 1) := by
  have hd := mem_diagonals_iff.mp hk
  rcases f.enter_cases (by omega) hk with ⟨hlt, heq⟩ | ⟨hlt, heq⟩
  · have habove : k + 1 ∈ diagonals d := mem_diagonals_iff.mpr (by omega)
    obtain ⟨hlow, hreach⟩ := h.over_old (k + 1) habove (by omega)
    have hsame : k + 1 - 2 = k - 1 := by omega
    rw [hsame] at hreach
    exact ⟨mem_diagonals_iff.mpr (by omega), hreach⟩
  · exact ⟨mem_diagonals_iff.mpr (by omega), by omega⟩

theorem Bounded.of_over_new (hover : (w.m : Int) < f.enter (d + 1) k - k) :
    k + 1 ∈ diagonals d ∧ (w.m : Int) ≤ f.reachOn (k + 1) - (k + 1) := by
  have hd := mem_diagonals_iff.mp hk
  rcases f.enter_cases (by omega) hk with ⟨hlt, heq⟩ | ⟨hlt, heq⟩
  · exact ⟨mem_diagonals_iff.mpr (by omega), by omega⟩
  · have hbelow : k - 1 ∈ diagonals d := mem_diagonals_iff.mpr (by omega)
    obtain ⟨hhigh, hreach⟩ := h.over_new (k - 1) hbelow (by omega)
    have hsame : k - 1 + 2 = k + 1 := by omega
    rw [hsame] at hreach
    exact ⟨mem_diagonals_iff.mpr (by omega), hreach⟩

theorem Bounded.enter_inside (hnear : w.near (d + 1) k) :
    f.enter (d + 1) k ≤ w.n ∧ (f.enter (d + 1) k : Int) - k ≤ w.m := by
  obtain ⟨hparity, hradius⟩ := hnear
  have hd := mem_diagonals_iff.mp hk
  constructor
  · by_contra hover
    -- the neighbour below was held against its counterpart a round before
    obtain ⟨hbelow, hreach⟩ := h.of_over_old hk (by omega)
    have hnew := h.new_le (k - 1) hbelow
    have hinside := h.inside (k - 1) hbelow
    simp only [near, hparity, true_and] at hinside
    omega
  · by_contra hover
    obtain ⟨habove, hreach⟩ := h.of_over_new hk (by omega)
    have hold := h.old_le (k + 1) habove
    have hinside := h.inside (k + 1) habove
    simp only [near, hparity, true_and] at hinside
    omega

end

theorem Bounded.ready (h : w.Bounded d f) : w.Ready (d + 1) f := by
  refine ⟨fun k hk => (h.enter_le hk).1, fun k hk => (h.enter_le hk).2.1,
    fun k hk => (h.enter_le hk).2.2, ?_, ?_, fun k hk => h.enter_inside hk⟩
  · intro k hk hover
    obtain ⟨hbelow, hreach⟩ := h.of_over_old hk hover
    have hd := mem_diagonals_iff.mp hbelow
    have hnext : k - 2 ∈ diagonals (d + 1) := mem_diagonals_iff.mpr (by omega)
    have henter := (f.le_enter hnext).1 (by omega)
    have hsame : k - 2 + 1 = k - 1 := by omega
    rw [hsame] at henter
    exact ⟨by omega, by omega⟩
  · intro k hk hover
    obtain ⟨habove, hreach⟩ := h.of_over_new hk hover
    have hd := mem_diagonals_iff.mp habove
    have hnext : k + 2 ∈ diagonals (d + 1) := mem_diagonals_iff.mpr (by omega)
    have henter := (f.le_enter hnext).2 (by omega)
    have hsame : k + 2 - 1 = k + 1 := by omega
    rw [hsame] at henter
    exact ⟨by omega, by omega⟩

end Field

/-- Follows paths over the given diagonals until one meets its counterpart. -/
def sweep (advance : Int → Nat → Nat) (meets : Int → Nat → Bool) (found : Int → Nat → Nat × Nat)
    (d : Nat) : List Int → Frontier → Frontier ⊕ (Nat × Nat)
  | [], f => .inl f
  | k :: ks, f =>
      let x := f.enter d k
      if meets k (advance k x) then .inr (found k x)
      else sweep advance meets found d ks (f.record k (advance k x))

section
variable {advance : Int → Nat → Nat} {meets : Int → Nat → Bool} {found : Int → Nat → Nat × Nat}
  {d size : Nat}

/-- The order of the diagonals does not matter, since paths come from the diagonals between. -/
theorem enter_record {f : Frontier} (hf : f.Wide size) (hd : d ≤ size) {j k : Int}
    (hj : j ∈ diagonals d) (hk : k ∈ diagonals d) (x : Nat) :
    (f.record j x).enter d k = f.enter d k := by
  have hj := mem_diagonals_iff.mp hj
  have hk := mem_diagonals_iff.mp hk
  have habove := Frontier.reachOn_record hf (k := j) (by omega) x (j := k + 1) (by omega)
  have hbelow := Frontier.reachOn_record hf (k := j) (by omega) x (j := k - 1) (by omega)
  rw [if_neg (by omega)] at habove hbelow
  simp only [Frontier.enter, habove, hbelow]

theorem of_sweep_eq_inr {ks : List Int} {f : Frontier} (hf : f.Wide size) (hd : d ≤ size)
    (hks : ∀ k ∈ ks, k ∈ diagonals d) {p : Nat × Nat}
    (h : sweep advance meets found d ks f = .inr p) :
    ∃ k ∈ ks, meets k (advance k (f.enter d k)) = true ∧ p = found k (f.enter d k) := by
  induction ks generalizing f with
  | nil => simp [sweep] at h
  | cons k ks ih =>
      simp only [sweep] at h
      split at h
      · rename_i hmeets
        exact ⟨k, by simp, hmeets, (Sum.inr.inj h).symm⟩
      · obtain ⟨j, hj, hmeets, hfound⟩ :=
          ih (hf.record _) (fun j hj => hks j (by simp [hj])) h
        rw [enter_record hf hd (hks k (by simp)) (hks j (by simp [hj]))] at hmeets hfound
        exact ⟨j, by simp [hj], hmeets, hfound⟩

theorem of_sweep_eq_inl {ks : List Int} {f g : Frontier} (hf : f.Wide size) (hd : d ≤ size)
    (hks : ∀ k ∈ ks, k ∈ diagonals d) (hnodup : ks.Nodup)
    (h : sweep advance meets found d ks f = .inl g) :
    g.Wide size ∧ (∀ j, j.natAbs ≤ size + 1 → j ∉ ks → g.reachOn j = f.reachOn j) ∧
      ∀ k ∈ ks, g.reachOn k = advance k (f.enter d k) ∧
        meets k (advance k (f.enter d k)) = false := by
  induction ks generalizing f with
  | nil =>
      obtain rfl := Sum.inl.inj h
      exact ⟨hf, fun _ _ _ => rfl, by simp⟩
  | cons k ks ih =>
      obtain ⟨hk, hnodup⟩ := List.nodup_cons.mp hnodup
      have hbound := mem_diagonals_iff.mp (hks k (by simp))
      simp only [sweep] at h
      split at h
      · simp at h
      · rename_i hmeets
        obtain ⟨hwide, hothers, hreach⟩ :=
          ih (hf.record _) (fun j hj => hks j (by simp [hj])) hnodup h
        refine ⟨hwide, ?_, ?_⟩
        · intro j hj hnot
          rw [List.mem_cons, not_or] at hnot
          rw [hothers j hj hnot.2, Frontier.reachOn_record hf (by omega) _ hj, if_neg hnot.1]
        · intro j hj
          rcases List.mem_cons.mp hj with rfl | hj
          · rw [hothers j (by omega) hk, Frontier.reachOn_record hf (by omega) _ (by omega),
              if_pos rfl]
            exact ⟨rfl, Bool.eq_false_iff.mpr hmeets⟩
          · have hstep := hreach j hj
            rwa [enter_record hf hd (hks k (by simp)) (hks j (by simp [hj]))] at hstep

variable {w : Field} {f g other : Frontier}
  (hmeets : ∀ k r, meets k r = true ↔
    w.near d k ∧ w.n ≤ r + other.reachOn ((w.n : Int) - w.m - k))
  (hf : f.Wide size) (hd : d ≤ size) (hready : w.Ready d f)
include hmeets hf hd hready

theorem Field.Ready.of_sweep_eq_inr {p : Nat × Nat}
    (h : sweep advance meets found d (diagonals d) f = .inr p) :
    ∃ (k : Int) (x : Nat), k ≤ x ∧ x ≤ w.n ∧ (x : Int) - k ≤ w.m ∧ p = found k x := by
  obtain ⟨k, hk, hmet, rfl⟩ := Diff.of_sweep_eq_inr hf hd (fun _ hk => hk) h
  have hnear := ((hmeets _ _).mp hmet).1
  exact ⟨k, _, hready.low k hk, (hready.inside k hk hnear).1, (hready.inside k hk hnear).2, rfl⟩

theorem Field.Ready.of_sweep_eq_inl
    (hadvance : ∀ (k : Int) (x : Nat), k ≤ x → w.Advances k x (advance k x))
    (hother : ∀ k ∈ diagonals d, w.near d k →
      (w.n : Int) - w.m - k ≤ other.reachOn ((w.n : Int) - w.m - k))
    (h : sweep advance meets found d (diagonals d) f = .inl g) :
    g.Wide size ∧ w.Bounded d g := by
  obtain ⟨hwide, -, hreach⟩ :=
    Diff.of_sweep_eq_inl hf hd (fun _ hk => hk) (nodup_diagonals d) h
  refine ⟨hwide, hready.bounded ?_ ?_⟩
  · intro k hk
    rw [(hreach k hk).1]
    exact hadvance k _ (hready.low k hk)
  · intro k hk hnear
    obtain ⟨heq, hmet⟩ := hreach k hk
    have hshort : ¬ w.n ≤ g.reachOn k + other.reachOn ((w.n : Int) - w.m - k) := by
      intro hle
      rw [heq] at hle
      simp [(hmeets k _).mpr ⟨hnear, hle⟩] at hmet
    have hfar := hother k hk hnear
    omega

end

/-- No range ends before it begins. -/
structure Window.Proper (w : Window) : Prop where
  old_le : w.oldStart ≤ w.oldStop
  new_le : w.newStart ≤ w.newStop

namespace Search

variable (s : Search)

/-- The window as the paths from one end see it. -/
def field (late : Nat) : Field := ⟨s.window.oldSize, s.window.newSize, late⟩

/-- How far a path from the near end that enters a diagonal goes on. -/
def onward (k : Int) (x : Nat) : Nat :=
  let y := ((x : Int) - k).toNat
  x + s.texts.agreeing (min (s.window.oldSize - x) (s.window.newSize - y))
    (s.window.oldStart + x) (s.window.newStart + y)

/-- How far a path from the far end that enters a diagonal goes on. -/
def backOnward (k : Int) (x : Nat) : Nat :=
  let y := ((x : Int) - k).toNat
  x + s.texts.agreeingBefore (min (s.window.oldSize - x) (s.window.newSize - y))
    (s.window.oldStop - x) (s.window.newStop - y)

/-- A path from the near end meets one from the far end. -/
def frontMeets (d : Nat) (back : Frontier) (k : Int) (r : Nat) : Bool :=
  s.delta % 2 ≠ 0 && (k - s.delta).natAbs + 1 ≤ d &&
    s.window.oldSize ≤ r + back.reachOn (s.delta - k)

/-- A path from the far end meets one from the near end. -/
def backMeets (d : Nat) (front : Frontier) (k : Int) (r : Nat) : Bool :=
  s.delta % 2 = 0 && (k - s.delta).natAbs ≤ d &&
    s.window.oldSize ≤ r + front.reachOn (s.delta - k)

def frontPoint (k : Int) (x : Nat) : Nat × Nat :=
  (s.window.oldStart + x, s.window.newStart + ((x : Int) - k).toNat)

def backPoint (k : Int) (x : Nat) : Nat × Nat :=
  (s.window.oldStop - s.backOnward k x,
    s.window.newStop - (((x : Int) - k).toNat + (s.backOnward k x - x)))

theorem forward_eq_sweep (d : Nat) (back : Frontier) (ks : List Int) (f : Frontier) :
    s.forward d back ks f = sweep s.onward (s.frontMeets d back) s.frontPoint d ks f := by
  induction ks generalizing f with
  | nil => rfl
  | cons k ks ih =>
      rw [forward, sweep]
      simp only [ih]
      rfl

theorem backward_eq_sweep (d : Nat) (front : Frontier) (ks : List Int) (f : Frontier) :
    s.backward d front ks f = sweep s.backOnward (s.backMeets d front) s.backPoint d ks f := by
  induction ks generalizing f with
  | nil => rfl
  | cons k ks ih =>
      rw [backward, sweep]
      simp only [ih, backPoint, backOnward, Nat.add_sub_cancel_left]
      rfl

theorem frontMeets_iff {d : Nat} {back : Frontier} {k : Int} {r : Nat} :
    s.frontMeets d back k r = true ↔ (s.field 1).near d k ∧
      (s.field 1).n ≤ r + back.reachOn (((s.field 1).n : Int) - (s.field 1).m - k) := by
  simp only [frontMeets, Bool.and_eq_true, decide_eq_true_eq]
  refine and_congr_left fun _ => and_congr_left fun _ => ?_
  simp only [field, delta]
  omega

theorem backMeets_iff {d : Nat} {front : Frontier} {k : Int} {r : Nat} :
    s.backMeets d front k r = true ↔ (s.field 0).near d k ∧
      (s.field 0).n ≤ r + front.reachOn (((s.field 0).n : Int) - (s.field 0).m - k) := by
  simp only [backMeets, Bool.and_eq_true, decide_eq_true_eq]
  rfl

theorem advances_onward (late : Nat) {k : Int} {x : Nat} (hk : k ≤ x) :
    (s.field late).Advances k x (s.onward k x) := by
  have hle := s.texts.agreeing_le
    (min (s.window.oldSize - x) (s.window.newSize - ((x : Int) - k).toNat))
    (s.window.oldStart + x) (s.window.newStart + ((x : Int) - k).toNat)
  simp only [Field.Advances, field, onward]
  omega

theorem advances_backOnward (late : Nat) {k : Int} {x : Nat} (hk : k ≤ x) :
    (s.field late).Advances k x (s.backOnward k x) := by
  have hle := (s.texts.agreeingBefore_le
    (min (s.window.oldSize - x) (s.window.newSize - ((x : Int) - k).toNat))
    (s.window.oldStop - x) (s.window.newStop - ((x : Int) - k).toNat)).1
  simp only [Field.Advances, field, backOnward]
  omega

end Search

/-- The point lies in both ranges or at their ends. -/
structure Window.Holds (w : Window) (p : Nat × Nat) : Prop where
  oldStart_le : w.oldStart ≤ p.1
  le_oldStop : p.1 ≤ w.oldStop
  newStart_le : w.newStart ≤ p.2
  le_newStop : p.2 ≤ w.newStop

namespace Search

variable {s : Search} (hproper : s.window.Proper)
include hproper

theorem holds_frontPoint {k : Int} {x : Nat} (hx : x ≤ s.window.oldSize)
    (hy : (x : Int) - k ≤ s.window.newSize) : s.window.Holds (s.frontPoint k x) := by
  have := hproper.old_le
  have := hproper.new_le
  simp only [Window.oldSize, Window.newSize] at hx hy
  constructor <;> simp only [frontPoint] <;> omega

theorem holds_backPoint {k : Int} {x : Nat} (hk : k ≤ x) (hx : x ≤ s.window.oldSize)
    (hy : (x : Int) - k ≤ s.window.newSize) : s.window.Holds (s.backPoint k x) := by
  have := hproper.old_le
  have := hproper.new_le
  have hadvances := s.advances_backOnward 0 hk
  simp only [Field.Advances, field, Window.oldSize, Window.newSize] at hx hy hadvances
  constructor <;> simp only [backPoint] <;> omega

/-- What a round leaves behind is what the next one needs. -/
theorem holds_of_rounds {size fuel d : Nat} {front back : Frontier} {p : Nat × Nat}
    (hsize : d + fuel ≤ size + 1) (hfront : front.Wide size) (hback : back.Wide size)
    (hfrontReady : (s.field 1).Ready d front) (hbackReady : (s.field 0).Ready d back)
    (hlow : 1 ≤ d → ∀ k ∈ diagonals (d - 1), k ≤ back.reachOn k)
    (h : s.rounds fuel d front back = some p) : s.window.Holds p := by
  induction fuel generalizing d front back with
  | zero => simp [rounds] at h
  | succ fuel ih =>
      rw [rounds, forward_eq_sweep] at h
      split at h
      · rename_i found hfound
        obtain ⟨k, x, -, hx, hy, rfl⟩ :=
          hfrontReady.of_sweep_eq_inr (fun _ _ => s.frontMeets_iff) hfront (by omega) hfound
        obtain rfl := Option.some.inj h
        exact holds_frontPoint hproper hx hy
      rename_i front' hfront'
      obtain ⟨hwide, hbounded⟩ := hfrontReady.of_sweep_eq_inl (fun _ _ => s.frontMeets_iff) hfront
        (by omega) (fun _ _ => s.advances_onward 1) (fun k hk hnear =>
          hlow (hnear.mem_diagonals hk).1 _ (hnear.mem_diagonals hk).2) hfront'
      rw [backward_eq_sweep] at h
      split at h
      · rename_i found hfound
        obtain ⟨k, x, hk, hx, hy, rfl⟩ :=
          hbackReady.of_sweep_eq_inr (fun _ _ => s.backMeets_iff) hback (by omega) hfound
        obtain rfl := Option.some.inj h
        exact holds_backPoint hproper hk hx hy
      rename_i back' hback'
      obtain ⟨hwide', hbounded'⟩ := hbackReady.of_sweep_eq_inl (fun _ _ => s.backMeets_iff) hback
        (by omega) (fun _ _ => s.advances_backOnward 0)
        (fun k hk hnear => hbounded.low _ (hnear.mem_diagonals hk).2) hback'
      exact ih (by omega) hwide hwide' hbounded.ready hbounded'.ready (fun _ => hbounded'.low) h

theorem holds_of_divide? {p : Nat × Nat} (h : s.divide? = some p) : s.window.Holds p := by
  refine holds_of_rounds hproper ?_ (Frontier.wide_start _) (Frontier.wide_start _)
    (Field.ready_start _ _) (Field.ready_start _ _) ?_ h
  · omega
  · intro h
    omega

end Search

end SpanWeave.Diff
