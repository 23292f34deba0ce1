/-!
Source positions: half-open spans of positions, and spans in a numbered file.
-/

namespace RefStability

/-- Source positions are 32-bit numbers; this is the largest. -/
def maxPosition : Nat := Nat.pow 2 32 - 1

/-- The positions from `start` up to, but not including, `stop`. -/
@[ext]
structure Span where
  start : Nat
  stop : Nat
  start_le_stop : start ≤ stop := by omega
deriving DecidableEq, Repr

/-- A span with the given ends; an end before the start is moved up to the start. -/
def Span.ofBounds (start stop : Nat) : Span where
  start := start
  stop := max start stop

def Span.point (position : Nat) : Span where
  start := position
  stop := position

def Span.length (span : Span) : Nat := span.stop - span.start

def Span.isEmpty (span : Span) : Bool := span.start == span.stop

def Span.contains (span : Span) (position : Nat) : Bool :=
  span.start ≤ position && position < span.stop

def Span.encloses (outer inner : Span) : Bool :=
  outer.start ≤ inner.start && inner.stop ≤ outer.stop

def Span.cover (left right : Span) : Span :=
  Span.ofBounds (min left.start right.start) (max left.stop right.stop)

def Span.render (span : Span) : String := s!"{span.start}..{span.stop}"

theorem Span.ofBounds_stop (start stop : Nat) (h : start ≤ stop) :
    (Span.ofBounds start stop).stop = stop := Nat.max_eq_right h

theorem Span.contains_iff (span : Span) (position : Nat) :
    span.contains position = true ↔ span.start ≤ position ∧ position < span.stop := by
  simp [Span.contains]

@[ext]
structure Location where
  file : Nat
  span : Span
deriving DecidableEq, Repr

/-- The location of what has no place in a file. -/
def Location.unknown : Location := ⟨0, Span.point 0⟩

def renderFile (file : Nat) : String := s!"file#{file}"

def Location.render (location : Location) : String :=
  renderFile location.file ++ ":" ++ location.span.render

end RefStability
