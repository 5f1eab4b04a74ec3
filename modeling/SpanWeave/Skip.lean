import SpanWeave.Error
import SpanWeave.Pattern.Reader

namespace SpanWeave

/-- Patterns of names that are left alone. -/
structure SkipList where
  patterns : List Pattern

namespace SkipList

/-- Flags that may stand behind a pattern between slashes. -/
def allowedFlags : Text := "gimsuy".toList

/-- The flags among them on which it depends whether a name matches. -/
def usedFlags : Text := "ims".toList

/-- A pattern and its flags, when it is written between slashes. -/
def slashed? (written : Text) : Option (Text × Text) :=
  match written with
  | '/' :: rest =>
      match Text.breakAfterLast? '/' rest with
      | some (body, flags) =>
          if flags.all allowedFlags.contains then some (body.dropLast, flags) else none
      | none => none
  | _ => none

/-- The bare form of a pattern. Flags that matter are set in front of it. -/
def bare (written : Text) : Text :=
  match slashed? written with
  | some (body, flags) =>
      let used := flags.filter usedFlags.contains
      if used = [] then body else "(?".toList ++ used ++ ")".toList ++ body
  | none => written

/-- Reads a list of patterns. The first one without a meaning is told. -/
def ofWritten : List Text → Except RunError SkipList
  | [] => .ok ⟨[]⟩
  | written :: rest =>
      match Pattern.read? (bare written) with
      | none => .error (.badPattern written)
      | some p =>
          match ofWritten rest with
          | .ok l => .ok ⟨p :: l.patterns⟩
          | .error e => .error e

/-- Some pattern is found in the name. -/
def isMatch (l : SkipList) (name : Text) : Bool := l.patterns.any fun p => p.isFoundIn name

/-- There are no patterns. -/
def isEmpty (l : SkipList) : Bool := l.patterns.isEmpty

theorem ofWritten_append {p q : List Text} {lp lq : SkipList} (hp : ofWritten p = .ok lp)
    (hq : ofWritten q = .ok lq) : ofWritten (p ++ q) = .ok ⟨lp.patterns ++ lq.patterns⟩ := by
  induction p generalizing lp with
  | nil =>
      simp only [ofWritten, Except.ok.injEq] at hp
      subst hp
      simpa using hq
  | cons w p ih =>
      simp only [ofWritten] at hp
      split at hp
      · simp at hp
      · rename_i pat hpat
        split at hp
        · rename_i l hl
          simp only [Except.ok.injEq] at hp
          subst hp
          simp [ofWritten, hpat, ih hl]
        · simp at hp

end SkipList

end SpanWeave
