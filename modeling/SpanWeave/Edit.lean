import SpanWeave.Error

/-!
Edits of a text. All edits refer to the offsets of the text as it was; `applyAll` makes them
in one pass from left to right and refuses ranges that are no ranges of the text or overlap.
-/

namespace SpanWeave

/-- The bytes from `start` up to `stop` become `text`. -/
structure Edit where
  start : Nat
  stop : Nat
  text : Text
  deriving DecidableEq, Repr

namespace Edit

/-- Puts `text` at an offset. -/
def insert (offset : Nat) (text : Text) : Edit := ⟨offset, offset, text⟩

/-- Nothing is taken away. -/
def isInsertion (e : Edit) : Bool := e.start = e.stop

/-- Edits are made in the order of their start, and of their end at the same start; so an
insertion comes before a replacement that begins at the same offset. -/
def before (a b : Edit) : Bool :=
  a.start < b.start || (a.start = b.start && a.stop ≤ b.stop)

/-- Edits in the order in which they are made; equal ranges keep their order. -/
def inOrder (edits : List Edit) : List Edit := edits.mergeSort before

/-- The range is one of `source`. -/
def fits (source : Text) (e : Edit) : Bool :=
  e.start ≤ e.stop && Text.onBoundary source e.start && Text.onBoundary source e.stop

/-- Makes ordered edits in `rest`, the part of `source` from offset `done` on. -/
def applyFrom (source : Text) : (done : Nat) → (rest : Text) → List Edit →
    Except SourceError Text
  | _, rest, [] => .ok rest
  | done, rest, e :: es =>
      if !fits source e then .error (.invalidRange e.start e.stop)
      else if e.start < done then .error (.overlapping done e.start)
      else
        let kept := Text.takeBytes rest (e.start - done)
        let behind := Text.dropBytes rest (e.stop - done)
        match applyFrom source e.stop behind es with
        | .ok tail => .ok (kept ++ e.text ++ tail)
        | .error err => .error err

/-- Makes all edits in `source`. -/
def applyAll (source : Text) (edits : List Edit) : Except SourceError Text :=
  applyFrom source 0 source (inOrder edits)

end Edit

end SpanWeave
