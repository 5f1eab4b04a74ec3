import SpanWeave.Text.Utf8
import SpanWeave.Proofs.Text.Offset

namespace SpanWeave.Text

theorem bounds_of_lead? {b low high : UInt8} {owed : Nat} (h : lead? b = some (owed, low, high)) :
    (owed = 0 ∧ b.toNat < 0x80) ∨
      (0x80 ≤ low.toNat ∧ high.toNat ≤ 0xBF ∧
        ((owed = 1 ∧ 0xC2 ≤ b.toNat ∧ b.toNat < 0xE0) ∨
          (owed = 2 ∧ 0xE0 ≤ b.toNat ∧ b.toNat < 0xF0 ∧ (b.toNat = 0xE0 → 0xA0 ≤ low.toNat) ∧
            (b.toNat = 0xED → high.toNat ≤ 0x9F)) ∨
          (owed = 3 ∧ 0xF0 ≤ b.toNat ∧ b.toNat < 0xF5 ∧ (b.toNat = 0xF0 → 0x90 ≤ low.toNat) ∧
            (b.toNat = 0xF4 → high.toNat ≤ 0x8F)))) := by
  simp only [lead?, UInt8.lt_iff_toNat_lt, ← UInt8.toNat_inj, UInt8.reduceToNat] at h
  repeat' split at h
  all_goals cases h
  all_goals
    simp only [UInt8.reduceToNat, true_and]
    omega

theorem take_of_following {owed : Nat} {low high : UInt8} {bs : Bytes}
    (h : following (owed + 1) low high bs = owed + 1) :
    ∃ b rest, bs = b :: rest ∧ low.toNat ≤ b.toNat ∧ b.toNat ≤ high.toNat ∧
      following owed 0x80 0xBF rest = owed := by
  cases bs with
  | nil => simp [following] at h
  | cons b rest =>
      simp only [following] at h
      split at h
      · rename_i hb
        simp only [Bool.and_eq_true, decide_eq_true_eq, UInt8.le_iff_toNat_le] at hb
        exact ⟨b, rest, rfl, hb.1, hb.2, by omega⟩
      · simp at h

theorem following_le (owed : Nat) (low high : UInt8) (bs : Bytes) :
    following owed low high bs ≤ owed := by
  fun_induction following owed low high bs with
  | case1 => omega
  | case2 => omega
  | case3 => omega

theorem ofNat_eq_of_eq_toNat {n : Nat} {b : UInt8} (h : n = b.toNat) : UInt8.ofNat n = b := by
  rw [h, UInt8.ofNat_toNat]

theorem toNat_val_ofNat {v : Nat} (h : v.isValidChar) : (Char.ofNat v).val.toNat = v := by
  rw [Char.ofNat, dif_pos h]
  rfl

theorem utf8EncodeChar_assemble_two {b b₁ : UInt8} {rest : Bytes} (hb : 0xC2 ≤ b.toNat)
    (hb' : b.toNat < 0xE0) (h₁ : 0x80 ≤ b₁.toNat) (h₁' : b₁.toNat ≤ 0xBF) :
    String.utf8EncodeChar (assemble 1 b (b₁ :: rest)) = [b, b₁] := by
  simp only [assemble, Nat.succ_ne_zero, ↓reduceIte, List.take_succ_cons, List.take_zero,
    List.foldl_cons, List.foldl_nil, Nat.pow_eq, Nat.reduceSub, Nat.reducePow]
  rw [String.utf8EncodeChar, toNat_val_ofNat (Or.inl (by omega)), if_neg (by omega),
    if_pos (by omega), ofNat_eq_of_eq_toNat (b := b) (by omega),
    ofNat_eq_of_eq_toNat (b := b₁) (by omega)]

theorem utf8EncodeChar_assemble_three {b b₁ b₂ : UInt8} {rest : Bytes} (hb : 0xE0 ≤ b.toNat)
    (hb' : b.toNat < 0xF0) (h₁ : 0x80 ≤ b₁.toNat) (h₁' : b₁.toNat ≤ 0xBF)
    (he : b.toNat = 0xE0 → 0xA0 ≤ b₁.toNat) (hd : b.toNat = 0xED → b₁.toNat ≤ 0x9F)
    (h₂ : 0x80 ≤ b₂.toNat) (h₂' : b₂.toNat ≤ 0xBF) :
    String.utf8EncodeChar (assemble 2 b (b₁ :: b₂ :: rest)) = [b, b₁, b₂] := by
  simp only [assemble, Nat.succ_ne_zero, ↓reduceIte, List.take_succ_cons, List.take_zero,
    List.foldl_cons, List.foldl_nil, Nat.pow_eq, Nat.reduceSub, Nat.reducePow]
  have hvalid : Nat.isValidChar ((b.toNat % 16 * 64 + b₁.toNat % 64) * 64 + b₂.toNat % 64) := by
    simp only [Nat.isValidChar]
    omega
  rw [String.utf8EncodeChar, toNat_val_ofNat hvalid, if_neg (by omega), if_neg (by omega),
    if_pos (by omega), ofNat_eq_of_eq_toNat (b := b) (by omega),
    ofNat_eq_of_eq_toNat (b := b₁) (by omega), ofNat_eq_of_eq_toNat (b := b₂) (by omega)]

theorem utf8EncodeChar_assemble_four {b b₁ b₂ b₃ : UInt8} {rest : Bytes} (hb : 0xF0 ≤ b.toNat)
    (hb' : b.toNat < 0xF5) (h₁ : 0x80 ≤ b₁.toNat) (h₁' : b₁.toNat ≤ 0xBF)
    (hf : b.toNat = 0xF0 → 0x90 ≤ b₁.toNat) (hg : b.toNat = 0xF4 → b₁.toNat ≤ 0x8F)
    (h₂ : 0x80 ≤ b₂.toNat) (h₂' : b₂.toNat ≤ 0xBF) (h₃ : 0x80 ≤ b₃.toNat)
    (h₃' : b₃.toNat ≤ 0xBF) :
    String.utf8EncodeChar (assemble 3 b (b₁ :: b₂ :: b₃ :: rest)) = [b, b₁, b₂, b₃] := by
  simp only [assemble, Nat.succ_ne_zero, ↓reduceIte, List.take_succ_cons, List.take_zero,
    List.foldl_cons, List.foldl_nil, Nat.pow_eq, Nat.reduceSub, Nat.reducePow]
  have hvalid : Nat.isValidChar
      (((b.toNat % 8 * 64 + b₁.toNat % 64) * 64 + b₂.toNat % 64) * 64 + b₃.toNat % 64) := by
    simp only [Nat.isValidChar]
    omega
  rw [String.utf8EncodeChar, toNat_val_ofNat hvalid, if_neg (by omega), if_neg (by omega),
    if_neg (by omega), ofNat_eq_of_eq_toNat (b := b) (by omega),
    ofNat_eq_of_eq_toNat (b := b₁) (by omega), ofNat_eq_of_eq_toNat (b := b₂) (by omega),
    ofNat_eq_of_eq_toNat (b := b₃) (by omega)]

theorem utf8EncodeChar_of_decodeOne {b : UInt8} {bs : Bytes} {c : Char} {n : Nat}
    (h : decodeOne b bs = (some c, n)) : String.utf8EncodeChar c = b :: bs.take n := by
  simp only [decodeOne] at h
  split at h
  · simp at h
  rename_i owed low high hlead
  simp only [Prod.mk.injEq] at h
  obtain ⟨hc, rfl⟩ := h
  split at hc
  · rename_i hn
    rw [hn] at hc ⊢
    obtain rfl := Option.some.inj hc
    obtain ⟨rfl, hb⟩ | ⟨hlow, hhigh, ⟨rfl, hb, hb'⟩ | ⟨rfl, hb, hb', he, hd⟩ |
        ⟨rfl, hb, hb', hf, hg⟩⟩ := bounds_of_lead? hlead
    · simp only [assemble, ↓reduceIte, List.take_zero, List.foldl_nil]
      rw [String.utf8EncodeChar, toNat_val_ofNat (Or.inl (by omega)), if_pos (by omega),
        UInt8.ofNat_toNat]
    · obtain ⟨b₁, rest, rfl, h₁, h₁', -⟩ := take_of_following hn
      exact utf8EncodeChar_assemble_two hb hb' (by omega) (by omega)
    · obtain ⟨b₁, rest, rfl, h₁, h₁', hn₁⟩ := take_of_following hn
      obtain ⟨b₂, rest, rfl, h₂, h₂', -⟩ := take_of_following hn₁
      exact utf8EncodeChar_assemble_three hb hb' (by omega) (by omega) (by omega) (by omega) h₂ h₂'
    · obtain ⟨b₁, rest, rfl, h₁, h₁', hn₁⟩ := take_of_following hn
      obtain ⟨b₂, rest, rfl, h₂, h₂', hn₂⟩ := take_of_following hn₁
      obtain ⟨b₃, rest, rfl, h₃, h₃', -⟩ := take_of_following hn₂
      exact utf8EncodeChar_assemble_four hb hb' (by omega) (by omega) (by omega) (by omega) h₂ h₂'
        h₃ h₃'
  · simp at hc

/-- What the replacement character stands for is short, and is not the form of that character. -/
theorem of_decodeOne_eq_none {b : UInt8} {bs : Bytes} {n : Nat}
    (h : decodeOne b bs = (none, n)) :
    (b :: bs.take n).length ≤ 3 ∧ b :: bs.take n ≠ String.utf8EncodeChar replacement := by
  have hform : String.utf8EncodeChar replacement = [0xEF, 0xBF, 0xBD] := by decide
  rw [hform]
  simp only [decodeOne] at h
  split at h
  · obtain ⟨-, rfl⟩ := Prod.mk.inj h
    simp
  rename_i owed low high hlead
  obtain ⟨hc, rfl⟩ := Prod.mk.inj h
  split at hc
  · simp at hc
  rename_i hne
  have hle := following_le owed low high bs
  have howed : owed ≤ 3 ∧ (b.toNat = 0xEF → owed = 2) := by
    have hbounds := bounds_of_lead? hlead
    omega
  have hlength : (bs.take (following owed low high bs)).length ≤ following owed low high bs :=
    List.length_take_le _ _
  refine ⟨?_, ?_⟩
  · rw [List.length_cons]
    omega
  · intro heq
    obtain ⟨rfl, htail⟩ := List.cons.inj heq
    have htwo := howed.2 rfl
    rw [htail] at hlength
    simp only [List.length_cons, List.length_nil] at hlength
    omega

/-- Bytes that are read as one character; those of a fault are none. -/
structure Chunk where
  bytes : Bytes
  char? : Option Char

namespace Chunk

def char (k : Chunk) : Char := k.char?.getD replacement

/-- The bytes are the form of their character, unless they are a fault. -/
structure Sound (k : Chunk) : Prop where
  length_le : k.bytes.length ≤ k.char.utf8Size
  eq_iff : String.utf8EncodeChar k.char = k.bytes ↔ k.char?.isSome = true

end Chunk

def textOf (ks : List Chunk) : Text := ks.map Chunk.char

def bytesOf (ks : List Chunk) : Bytes := ks.flatMap Chunk.bytes

@[simp] theorem textOf_append (ks ls : List Chunk) : textOf (ks ++ ls) = textOf ks ++ textOf ls :=
  List.map_append

/-- The chunks that bytes behind `skip` used ones are decoded by. -/
def chunksFrom : (skip : Nat) → Bytes → List Chunk
  | _, [] => []
  | skip + 1, _ :: bs => chunksFrom skip bs
  | 0, b :: bs =>
      ⟨b :: bs.take (decodeOne b bs).2, (decodeOne b bs).1⟩ :: chunksFrom (decodeOne b bs).2 bs

def chunks (bs : Bytes) : List Chunk := chunksFrom 0 bs

theorem bytesOf_chunksFrom (skip : Nat) (bs : Bytes) :
    bytesOf (chunksFrom skip bs) = bs.drop skip := by
  induction bs generalizing skip with
  | nil => simp [chunksFrom, bytesOf]
  | cons b bs ih =>
      cases skip with
      | zero =>
          have hrest := ih (decodeOne b bs).2
          simp only [bytesOf] at hrest
          simp only [chunksFrom, bytesOf, List.flatMap_cons, hrest, List.cons_append,
            List.take_append_drop, List.drop_zero]
      | succ skip => rw [chunksFrom, ih, List.drop_succ_cons]

theorem bytesOf_chunks (bs : Bytes) : bytesOf (chunks bs) = bs := bytesOf_chunksFrom 0 bs

theorem decodeFrom_eq (skip : Nat) (done : Text) (bs : Bytes) :
    decodeFrom skip done bs = done.reverse ++ textOf (chunksFrom skip bs) := by
  induction bs generalizing skip done with
  | nil => simp [decodeFrom, chunksFrom, textOf]
  | cons b bs ih =>
      cases skip with
      | zero =>
          rw [decodeFrom, chunksFrom]
          simp [ih, textOf, Chunk.char]
      | succ skip => rw [decodeFrom, ih, chunksFrom]

theorem textOf_chunks (bs : Bytes) : textOf (chunks bs) = decode bs := by
  simp [decode, decodeFrom_eq, chunks]

theorem sound_of_mem_chunksFrom {skip : Nat} {bs : Bytes} {k : Chunk}
    (hk : k ∈ chunksFrom skip bs) : k.Sound := by
  induction bs generalizing skip with
  | nil => simp [chunksFrom] at hk
  | cons b bs ih =>
      cases skip with
      | succ skip => exact ih hk
      | zero =>
          rcases List.mem_cons.mp hk with rfl | hk
          · cases hone : decodeOne b bs with
            | mk c n =>
                cases c with
                | some c =>
                    have hform := utf8EncodeChar_of_decodeOne hone
                    refine ⟨?_, by simp [Chunk.char, hform]⟩
                    simp only [Chunk.char, Option.getD_some]
                    exact Nat.le_of_eq (by rw [← hform, String.length_utf8EncodeChar])
                | none =>
                    obtain ⟨hshort, hform⟩ := of_decodeOne_eq_none hone
                    exact ⟨hshort, by simp [Chunk.char, Ne.symm hform]⟩
          · exact ih hk

theorem encode_cons (c : Char) (s : Text) :
    encode (c :: s) = String.utf8EncodeChar c ++ encode s := rfl

theorem length_encode (s : Text) : (encode s).length = byteSize s := by
  induction s with
  | nil => rfl
  | cons c s ih =>
      rw [encode_cons, List.length_append, ih, String.length_utf8EncodeChar, byteSize_cons]

section
variable {ks : List Chunk} (hks : ∀ k ∈ ks, k.Sound)
include hks

theorem length_bytesOf_le : (bytesOf ks).length ≤ byteSize (textOf ks) := by
  induction ks with
  | nil => simp [bytesOf]
  | cons k ks ih =>
      have hk := (hks k (by simp)).length_le
      have hrest := ih fun l hl => hks l (by simp [hl])
      simp only [bytesOf, textOf, List.flatMap_cons, List.map_cons, List.length_append,
        byteSize_cons] at hrest ⊢
      omega

/-- A text has the form it was read from exactly when there was no fault. -/
theorem encode_textOf_eq_iff :
    encode (textOf ks) = bytesOf ks ↔ ∀ k ∈ ks, k.char?.isSome = true := by
  induction ks with
  | nil => simp [textOf, bytesOf]
  | cons k ks ih =>
      have hk := hks k (by simp)
      have htail : ∀ l ∈ ks, l.Sound := fun l hl => hks l (by simp [hl])
      have hrest := length_bytesOf_le htail
      rw [List.forall_mem_cons, ← ih htail, ← hk.eq_iff]
      change String.utf8EncodeChar k.char ++ encode (textOf ks) = k.bytes ++ bytesOf ks ↔ _
      constructor
      · intro h
        have hlengths := congrArg List.length h
        rw [List.length_append, List.length_append, String.length_utf8EncodeChar,
          length_encode] at hlengths
        have hle := hk.length_le
        refine List.append_inj h ?_
        rw [String.length_utf8EncodeChar]
        omega
      · rintro ⟨h, h'⟩
        rw [h, h']

end

/-- The offsets in the text, which begins at `n`, of the characters that stand for faults. -/
def faultsFrom : (n : Nat) → List Chunk → List Nat
  | _, [] => []
  | n, k :: ks =>
      if k.char?.isSome then faultsFrom (n + k.char.utf8Size) ks
      else n :: faultsFrom (n + k.char.utf8Size) ks

/-- The offsets in the decoded text of the characters that stand for bytes that are none. -/
def faults (bs : Bytes) : List Nat := faultsFrom 0 (chunks bs)

theorem faultsFrom_append (n : Nat) (ks ls : List Chunk) :
    faultsFrom n (ks ++ ls) = faultsFrom n ks ++ faultsFrom (n + byteSize (textOf ks)) ls := by
  induction ks generalizing n with
  | nil => simp [faultsFrom, textOf]
  | cons k ks ih =>
      simp only [List.cons_append, faultsFrom, ih, textOf, List.map_cons, byteSize_cons,
        Nat.add_assoc]
      split <;> rfl

theorem bounds_of_mem_faultsFrom {n x : Nat} {ks : List Chunk} (hx : x ∈ faultsFrom n ks) :
    n ≤ x ∧ x < n + byteSize (textOf ks) := by
  induction ks generalizing n with
  | nil => simp [faultsFrom] at hx
  | cons k ks ih =>
      have hpos := Char.utf8Size_pos k.char
      simp only [textOf, List.map_cons, byteSize_cons] at ih ⊢
      simp only [faultsFrom] at hx
      split at hx
      · have := ih hx
        omega
      · rcases List.mem_cons.mp hx with rfl | hx
        · omega
        · have := ih hx
          omega

theorem faultsFrom_eq_nil_iff {n : Nat} {ks : List Chunk} :
    faultsFrom n ks = [] ↔ ∀ k ∈ ks, k.char?.isSome = true := by
  induction ks generalizing n with
  | nil => simp [faultsFrom]
  | cons k ks ih =>
      simp only [faultsFrom, List.forall_mem_cons]
      split
      · rename_i hk
        rw [ih]
        exact ⟨fun h => ⟨hk, h⟩, And.right⟩
      · rename_i hk
        simp [hk]

theorem isSome_decodeStrictFrom_iff {skip : Nat} {done : Text} {bs : Bytes} :
    (decodeStrictFrom skip done bs).isSome = true ↔
      ∀ k ∈ chunksFrom skip bs, k.char?.isSome = true := by
  induction bs generalizing skip done with
  | nil => simp [decodeStrictFrom, chunksFrom]
  | cons b bs ih =>
      cases skip with
      | zero =>
          rw [decodeStrictFrom, chunksFrom, List.forall_mem_cons]
          cases decodeOne b bs with
          | mk c n => cases c <;> simp [ih]
      | succ skip => rw [decodeStrictFrom, ih, chunksFrom]

theorem faults_eq_nil_iff {bs : Bytes} : faults bs = [] ↔ (decodeStrict? bs).isSome = true := by
  rw [faults, faultsFrom_eq_nil_iff, decodeStrict?, isSome_decodeStrictFrom_iff, chunks]

/-- The chunks that the first `n` bytes of the text were read from. -/
def chunksOf : List Chunk → (n : Nat) → List Chunk
  | [], _ => []
  | k :: ks, n => if n = 0 then [] else k :: chunksOf ks (n - k.char.utf8Size)

/-- The chunks that the text behind its first `n` bytes was read from. -/
def chunksBehind : List Chunk → (n : Nat) → List Chunk
  | [], _ => []
  | k :: ks, n => if n = 0 then k :: ks else chunksBehind ks (n - k.char.utf8Size)

theorem chunksOf_append (ks ls : List Chunk) :
    chunksOf (ks ++ ls) (byteSize (textOf ks)) = ks ∧
      chunksBehind (ks ++ ls) (byteSize (textOf ks)) = ls := by
  induction ks with
  | nil => cases ls <;> simp [chunksOf, chunksBehind, textOf]
  | cons k ks ih =>
      have hpos : k.char.utf8Size + byteSize (textOf ks) ≠ 0 := by
        have := Char.utf8Size_pos k.char
        omega
      have hsize : byteSize (textOf (k :: ks)) = k.char.utf8Size + byteSize (textOf ks) := rfl
      simp only [hsize, List.cons_append, chunksOf, chunksBehind, hpos, ↓reduceIte,
        Nat.add_sub_cancel_left, ih, and_self]

theorem exists_chunks_of_onBoundary {ks : List Chunk} {n : Nat}
    (h : onBoundary (textOf ks) n = true) :
    ∃ a b, ks = a ++ b ∧ byteSize (textOf a) = n := by
  obtain ⟨s, t, hst, rfl⟩ := onBoundary_iff.mp h
  obtain ⟨a, b, rfl, rfl, rfl⟩ := List.map_eq_append_iff.mp hst
  exact ⟨a, b, rfl, rfl⟩

end SpanWeave.Text
