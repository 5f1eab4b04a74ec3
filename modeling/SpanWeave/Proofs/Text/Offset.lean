import SpanWeave.Text.Basic

namespace SpanWeave.Text

theorem byteSize_eq_zero_iff {s : Text} : byteSize s = 0 ↔ s = [] := by
  cases s with
  | nil => simp
  | cons c s =>
      have hc : 0 < c.utf8Size := Char.utf8Size_pos c
      simp only [byteSize_cons, reduceCtorEq, iff_false]
      omega

theorem onBoundary_iff {s : Text} {n : Nat} :
    onBoundary s n = true ↔ ∃ a b, s = a ++ b ∧ byteSize a = n := by
  rw [onBoundary, Option.isSome_iff_exists]
  constructor
  · rintro ⟨⟨a, b⟩, h⟩
    exact ⟨a, b, cut?_eq_some_iff.mp h⟩
  · rintro ⟨a, b, h⟩
    exact ⟨(a, b), cut?_eq_some_iff.mpr h⟩

theorem onBoundary_append (a b : Text) : onBoundary (a ++ b) (byteSize a) = true :=
  onBoundary_iff.mpr ⟨a, b, rfl, rfl⟩

@[simp] theorem onBoundary_zero (s : Text) : onBoundary s 0 = true :=
  onBoundary_iff.mpr ⟨[], s, rfl, rfl⟩

theorem le_byteSize_of_onBoundary {s : Text} {n : Nat} (h : onBoundary s n = true) :
    n ≤ byteSize s := by
  obtain ⟨a, b, rfl, rfl⟩ := onBoundary_iff.mp h
  simp

@[simp] theorem takeBytes_append (a b : Text) : takeBytes (a ++ b) (byteSize a) = a := by
  simp [takeBytes, cut?_byteSize_append]

@[simp] theorem dropBytes_append (a b : Text) : dropBytes (a ++ b) (byteSize a) = b := by
  simp [dropBytes, cut?_byteSize_append]

@[simp] theorem takeBytes_zero (s : Text) : takeBytes s 0 = [] := by
  simpa using takeBytes_append [] s

@[simp] theorem dropBytes_zero (s : Text) : dropBytes s 0 = s := by
  simp [dropBytes]

theorem exists_eq_append_of_byteSize_le {a b c d : Text} (h : a ++ b = c ++ d)
    (hle : byteSize a ≤ byteSize c) : ∃ m, c = a ++ m ∧ b = m ++ d := by
  rcases List.append_eq_append_iff.mp h with ⟨m, rfl, rfl⟩ | ⟨m, rfl, rfl⟩
  · exact ⟨m, rfl, rfl⟩
  · have hm : m = [] := by
      rw [byteSize_append] at hle
      exact byteSize_eq_zero_iff.mp (by omega)
    subst hm
    exact ⟨[], by simp, by simp⟩

theorem exists_parts {s : Text} {m n : Nat} (hm : onBoundary s m = true)
    (hn : onBoundary s n = true) (hmn : m ≤ n) :
    ∃ a b c, s = a ++ (b ++ c) ∧ byteSize a = m ∧ byteSize a + byteSize b = n := by
  obtain ⟨a, b, rfl, rfl⟩ := onBoundary_iff.mp hm
  obtain ⟨c, d, hcd, rfl⟩ := onBoundary_iff.mp hn
  obtain ⟨t, rfl, rfl⟩ := exists_eq_append_of_byteSize_le hcd hmn
  exact ⟨a, t, d, rfl, rfl, by simp⟩

theorem slice_parts (a b c : Text) :
    slice (a ++ (b ++ c)) (byteSize a) (byteSize a + byteSize b) = b := by
  simp [slice]

theorem dropBytes_parts (a b c : Text) :
    dropBytes (a ++ (b ++ c)) (byteSize a + byteSize b) = c := by
  rw [← List.append_assoc, ← byteSize_append, dropBytes_append]

theorem byteSize_slice {s : Text} {m n : Nat} (hm : onBoundary s m = true)
    (hn : onBoundary s n = true) (hmn : m ≤ n) : byteSize (slice s m n) = n - m := by
  obtain ⟨a, b, c, rfl, rfl, rfl⟩ := exists_parts hm hn hmn
  rw [slice_parts]
  omega

theorem slice_append_slice {s : Text} {l m n : Nat} (hl : onBoundary s l = true)
    (hm : onBoundary s m = true) (hn : onBoundary s n = true) (hlm : l ≤ m) (hmn : m ≤ n) :
    slice s l m ++ slice s m n = slice s l n := by
  obtain ⟨a, b, c, rfl, rfl, rfl⟩ := exists_parts hl hm hlm
  obtain ⟨d, e, hde, rfl⟩ := onBoundary_iff.mp hn
  rw [← List.append_assoc] at hde
  obtain ⟨f, rfl, rfl⟩ := exists_eq_append_of_byteSize_le hde (by simpa using hmn)
  have hfirst : slice (a ++ (b ++ (f ++ e))) (byteSize a) (byteSize a + byteSize b) = b :=
    slice_parts a b (f ++ e)
  have hsecond := slice_parts (a ++ b) f e
  have hwhole := slice_parts a (b ++ f) e
  simp only [byteSize_append, List.append_assoc, Nat.add_assoc] at hsecond hwhole ⊢
  rw [hfirst, hsecond, hwhole]

theorem slice_append_dropBytes {s : Text} {m n : Nat} (hm : onBoundary s m = true)
    (hn : onBoundary s n = true) (hmn : m ≤ n) :
    slice s m n ++ dropBytes s n = dropBytes s m := by
  obtain ⟨a, b, c, rfl, rfl, rfl⟩ := exists_parts hm hn hmn
  rw [slice_parts, dropBytes_parts, dropBytes_append]

theorem dropBytes_dropBytes {s : Text} {m n : Nat} (hm : onBoundary s m = true)
    (hn : onBoundary s n = true) (hmn : m ≤ n) :
    dropBytes (dropBytes s m) (n - m) = dropBytes s n := by
  obtain ⟨a, b, c, rfl, rfl, rfl⟩ := exists_parts hm hn hmn
  rw [dropBytes_append, dropBytes_parts, Nat.add_sub_cancel_left, dropBytes_append]

theorem onBoundary_dropBytes {s : Text} {m n : Nat} (hm : onBoundary s m = true)
    (hn : onBoundary s n = true) (hmn : m ≤ n) :
    onBoundary (dropBytes s m) (n - m) = true := by
  obtain ⟨a, b, c, rfl, rfl, rfl⟩ := exists_parts hm hn hmn
  rw [dropBytes_append, Nat.add_sub_cancel_left]
  exact onBoundary_append b c

theorem slice_append_left (a s : Text) (m n : Nat) (hm : onBoundary s m = true) :
    slice (a ++ s) (byteSize a + m) (byteSize a + n) = slice s m n := by
  obtain ⟨b, c, rfl, rfl⟩ := onBoundary_iff.mp hm
  rw [slice, slice, dropBytes_parts, dropBytes_append, Nat.add_sub_add_left]

theorem onBoundary_of_append {a b : Text} {n : Nat} (h : onBoundary (a ++ b) n = true)
    (hn : n ≤ byteSize a) : onBoundary a n = true := by
  obtain ⟨c, d, hcd, rfl⟩ := onBoundary_iff.mp h
  obtain ⟨m, rfl, -⟩ := exists_eq_append_of_byteSize_le hcd.symm hn
  exact onBoundary_append c m

theorem onBoundary_append_right {a : Text} (b : Text) {n : Nat} (h : onBoundary a n = true) :
    onBoundary (a ++ b) n = true := by
  obtain ⟨c, d, rfl, rfl⟩ := onBoundary_iff.mp h
  rw [List.append_assoc]
  exact onBoundary_append c (d ++ b)

theorem dropBytes_append_right {a : Text} (b : Text) {n : Nat} (h : onBoundary a n = true) :
    dropBytes (a ++ b) n = dropBytes a n ++ b := by
  obtain ⟨c, d, rfl, rfl⟩ := onBoundary_iff.mp h
  rw [List.append_assoc, dropBytes_append, dropBytes_append]

theorem slice_append_right {a : Text} (b : Text) {m n : Nat} (hm : onBoundary a m = true)
    (hn : onBoundary a n = true) (hmn : m ≤ n) : slice (a ++ b) m n = slice a m n := by
  obtain ⟨c, d, e, rfl, rfl, rfl⟩ := exists_parts hm hn hmn
  rw [slice_parts, List.append_assoc, List.append_assoc, slice_parts]

theorem byteSize_takeBytes {s : Text} {n : Nat} (hn : onBoundary s n = true) :
    byteSize (takeBytes s n) = n := by
  obtain ⟨a, b, rfl, rfl⟩ := onBoundary_iff.mp hn
  rw [takeBytes_append]

theorem takeBytes_append_dropBytes {s : Text} {n : Nat} (hn : onBoundary s n = true) :
    takeBytes s n ++ dropBytes s n = s := by
  obtain ⟨a, b, rfl, rfl⟩ := onBoundary_iff.mp hn
  rw [takeBytes_append, dropBytes_append]

theorem takeBytes_append_slice {s : Text} {m n : Nat} (hm : onBoundary s m = true)
    (hn : onBoundary s n = true) (hmn : m ≤ n) : takeBytes s m ++ slice s m n = takeBytes s n := by
  obtain ⟨a, b, c, rfl, rfl, rfl⟩ := exists_parts hm hn hmn
  rw [takeBytes_append, slice_parts, ← List.append_assoc, ← byteSize_append, takeBytes_append]

theorem slice_self (s : Text) (n : Nat) : slice s n n = [] := by
  rw [slice, Nat.sub_self, takeBytes_zero]

end SpanWeave.Text
