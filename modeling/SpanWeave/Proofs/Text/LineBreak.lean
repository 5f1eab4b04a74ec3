import SpanWeave.Proofs.Text.Offset
import SpanWeave.Proofs.Wrapper

namespace SpanWeave.Text

/-- Every line feed has a carriage return in front of it. -/
def Paired (s : Text) : Prop := ∀ a b, s = a ++ '\n' :: b → a.getLast? = some '\r'

/-- The text holds no part of a line break. -/
def Unbroken (s : Text) : Prop := '\n' ∉ s ∧ '\r' ∉ s

/-- The offset lies between a carriage return and the line feed behind it. -/
def splitsBreak (s : Text) (n : Nat) : Bool :=
  (takeBytes s n).getLast? = some '\r' && (dropBytes s n).head? = some '\n'

instance : DecidablePred Unbroken := fun _ => inferInstanceAs (Decidable (_ ∧ _))

variable {a b s t : Text}

theorem paired_iff : Paired s ↔
    ∀ i < s.length, s[i]? = some '\n' → (s.take i).getLast? = some '\r' := by
  constructor
  · intro h i hi hnewline
    refine h _ (s.drop (i + 1)) ?_
    obtain ⟨hlt, heq⟩ := List.getElem?_eq_some_iff.mp hnewline
    rw [← heq, List.getElem_cons_drop, List.take_append_drop]
  · rintro h a b rfl
    simpa using h a.length (by simp) (by simp)

instance : DecidablePred Paired := fun _ => decidable_of_iff _ paired_iff.symm

theorem paired_of_notMem (h : '\n' ∉ s) : Paired s := by
  rintro a b rfl
  exact absurd (by simp) h

theorem Paired.append (hs : Paired s) (ht : Paired t) : Paired (s ++ t) := by
  intro a b heq
  rcases List.append_eq_append_iff.mp heq with ⟨m, rfl, hm⟩ | ⟨m, rfl, hm⟩
  · rw [List.getLast?_append, ht m b hm]
    rfl
  · cases m with
    | nil => exact absurd (ht [] b hm.symm) (by simp)
    | cons c m =>
        obtain ⟨rfl, rfl⟩ := List.cons.inj hm
        exact hs a m rfl

theorem Paired.concat (hs : Paired s) (hlast : s.getLast? = some '\r') : Paired (s ++ ['\n']) := by
  intro a b heq
  rcases List.append_eq_append_iff.mp heq with ⟨m, rfl, hm⟩ | ⟨m, rfl, hm⟩
  · cases m with
    | nil => simpa using hlast
    | cons c m => simp at hm
  · cases m with
    | nil => simpa using hlast
    | cons c m =>
        obtain ⟨rfl, rfl⟩ := List.cons.inj hm
        exact hs a m rfl

theorem Paired.left (h : Paired (s ++ t)) : Paired s := by
  rintro a b rfl
  exact h a (b ++ t) (by simp)

theorem Paired.right (h : Paired (s ++ t))
    (hsplit : s.getLast? = some '\r' → t.head? ≠ some '\n') : Paired t := by
  rintro a b rfl
  have hlast := h (s ++ a) b (by simp)
  cases a with
  | nil => exact absurd rfl (hsplit (by simpa using hlast))
  | cons c a => simpa [List.getLast?_append] using hlast

theorem Unbroken.append (hs : Unbroken s) (ht : Unbroken t) : Unbroken (s ++ t) := by
  simp only [Unbroken, List.mem_append, not_or]
  exact ⟨⟨hs.1, ht.1⟩, hs.2, ht.2⟩

theorem unbroken_quote (s : Text) : Unbroken (Literal.quote s) := by
  have hescape (c : Char) : Unbroken (Literal.escape c) := by
    simp only [Literal.escape]
    by_cases hfeed : c = '\n'
    · rw [hfeed]
      decide
    by_cases hreturn : c = '\r'
    · rw [hreturn]
      decide
    simp only [hfeed, hreturn, ↓reduceIte]
    split
    · decide
    split
    · decide
    split
    · decide
    split
    · decide
    · simpa [Unbroken] using ⟨Ne.symm hfeed, Ne.symm hreturn⟩
  have hall : Unbroken (s.flatMap Literal.escape) := by
    simp only [Unbroken, List.mem_flatMap, not_exists, not_and]
    exact ⟨fun c _ => (hescape c).1, fun c _ => (hescape c).2⟩
  exact Unbroken.append (s := ['\x27']) (by decide) (hall.append (by decide))

theorem mem_of_mem_splitAt {sep c : Char} {p : Text} (hp : p ∈ splitAt sep s) (hc : c ∈ p) :
    c ∈ s ∧ c ≠ sep := by
  induction s generalizing p with
  | nil =>
      obtain rfl : p = [] := by simpa [splitAt] using hp
      cases hc
  | cons d s ih =>
      obtain ⟨q, qs, hq⟩ := exists_splitAt_eq sep s
      rw [hq] at ih
      simp only [splitAt, hq] at hp
      split at hp
      · rcases List.mem_cons.mp hp with rfl | hp
        · cases hc
        · exact ⟨List.mem_cons_of_mem d (ih hp hc).1, (ih hp hc).2⟩
      · rename_i hd
        rcases List.mem_cons.mp hp with rfl | hp
        · rcases List.mem_cons.mp hc with rfl | hc
          · exact ⟨by simp, hd⟩
          · have h := ih (by simp) hc
            exact ⟨List.mem_cons_of_mem d h.1, h.2⟩
        · have h := ih (List.mem_cons_of_mem q hp) hc
          exact ⟨List.mem_cons_of_mem d h.1, h.2⟩

theorem mem_of_mem_lines {c : Char} {line : Text} (hline : line ∈ lines s) (hc : c ∈ line) :
    c ∈ s ∧ c ≠ '\n' := by
  simp only [lines] at hline
  split at hline
  · cases hline
  · rename_i last ended hsplit
    have hpieces (p : Text) (hp : p ∈ last :: ended) (hcp : c ∈ p) : c ∈ s ∧ c ≠ '\n' := by
      rw [← hsplit, List.mem_reverse] at hp
      exact mem_of_mem_splitAt hp hcp
    rcases List.mem_append.mp hline with hline | hline
    · obtain ⟨p, hp, rfl⟩ := List.mem_map.mp hline
      refine hpieces p (by simp [List.mem_reverse.mp hp]) ?_
      simp only [dropReturn] at hc
      split at hc
      · exact List.dropLast_subset _ hc
      · exact hc
    · split at hline
      · cases hline
      · obtain rfl := List.mem_singleton.mp hline
        exact hpieces line (by simp) hc

theorem isPrefix_takeBytes (s : Text) (n : Nat) : takeBytes s n <+: s := by
  rw [takeBytes]
  split
  · rename_i a b hcut
    exact ⟨b, (cut?_eq_some_iff.mp hcut).1.symm⟩
  · exact List.nil_prefix

theorem isSuffix_dropBytes (s : Text) (n : Nat) : dropBytes s n <:+ s := by
  rw [dropBytes]
  split
  · rename_i a b hcut
    exact ⟨a, (cut?_eq_some_iff.mp hcut).1.symm⟩
  · exact List.nil_suffix

theorem mem_of_mem_slice {m n : Nat} {c : Char} (h : c ∈ slice s m n) : c ∈ s :=
  (isSuffix_dropBytes s m).subset ((isPrefix_takeBytes _ _).subset h)

theorem Paired.dropBytes {n : Nat} (h : Paired s) (hn : splitsBreak s n = false) :
    Paired (dropBytes s n) := by
  by_cases hboundary : onBoundary s n = true
  · rw [← takeBytes_append_dropBytes hboundary] at h
    refine h.right fun hlast hhead => ?_
    simp [splitsBreak, hlast, hhead] at hn
  · have hnone : cut? s n = none := by simpa [onBoundary] using hboundary
    rw [Text.dropBytes, hnone]
    exact paired_of_notMem (by simp)

theorem Paired.slice {m : Nat} (h : Paired s) (hm : splitsBreak s m = false) (n : Nat) :
    Paired (slice s m n) := by
  obtain ⟨rest, hrest⟩ := isPrefix_takeBytes (Text.dropBytes s m) (n - m)
  exact Paired.left (t := rest) (hrest ▸ h.dropBytes hm)

end Text

open Text

namespace Wrapper

/-- Moving a paired text to the right leaves it paired: each line keeps its end. Here `a` is what
stands in front of the text, and `a'` what stands in front of it when it is moved. -/
theorem paired_append_reindent {a a' s step : Text} (hs : Paired (a ++ s)) (ha' : Paired a')
    (hend : a.getLast? = some '\r' → a'.getLast? = some '\r') (hstep : Paired step) :
    Paired (a' ++ reindent s step) := by
  induction s generalizing a a' with
  | nil => simpa using ha'
  | cons c s ih =>
      have hs' : Paired ((a ++ [c]) ++ s) := by simpa using hs
      by_cases hc : c = '\n'
      · subst hc
        have hreturn : a'.getLast? = some '\r' := hend (hs a s rfl)
        have hbroken : Paired (a' ++ ['\n']) := ha'.concat hreturn
        rw [reindent_newline]
        have hgap : Paired (if blank (s.takeWhile (· != '\n')) then [] else step) := by
          split
          · exact paired_of_notMem (by simp)
          · exact hstep
        have h := ih hs' (hbroken.append hgap) (by simp)
        simpa using h
      · rw [reindent_cons hc]
        have hone : Paired [c] := paired_of_notMem (by simpa using Ne.symm hc)
        have h := ih hs' (ha'.append hone) (by simp)
        simpa using h

theorem paired_reindent {body step : Text} (hbody : Paired body) (hstep : Paired step) :
    Paired (reindent body step) :=
  @paired_append_reindent [] [] body step hbody (by decide) id hstep

theorem mem_of_mem_indentStep {body indent : Text} {c : Char} (h : c ∈ indentStep body indent) :
    c = ' ' ∨ c ∈ body ∧ c ≠ '\n' := by
  simp only [indentStep] at h
  cases hfind : ((lines body).drop 1).findSome? (extraIndent? indent) with
  | none =>
      rw [hfind] at h
      left
      simpa [defaultStep] using h
  | some step =>
      rw [hfind, Option.getD_some] at h
      right
      obtain ⟨line, hline, hextra⟩ := List.exists_of_findSome?_eq_some hfind
      refine mem_of_mem_lines (List.mem_of_mem_drop hline) ?_
      simp only [extraIndent?] at hextra
      split at hextra
      · simp at hextra
      split at hextra
      · rename_i rest hrest
        obtain rfl := afterLead?_eq_some_iff.mp hrest
        split at hextra
        · simp at hextra
        · obtain rfl := Option.some.inj hextra
          exact List.mem_append_right _ (List.takeWhile_subset _ h)
      · simp at hextra

theorem mem_of_mem_reindent {body step : Text} {c : Char} (h : c ∈ reindent body step) :
    c ∈ body ∨ c ∈ step := by
  induction body with
  | nil => simp at h
  | cons d body ih =>
      by_cases hd : d = '\n'
      · subst hd
        rw [reindent_newline] at h
        split at h
        · simp only [List.nil_append, List.mem_cons] at h
          grind
        · simp only [List.mem_cons, List.mem_append] at h
          grind
      · rw [reindent_cons hd] at h
        grind

end Wrapper

end SpanWeave
