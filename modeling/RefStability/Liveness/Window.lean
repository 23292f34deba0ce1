import RefStability.Span

/-!
Windows: the positions at which a bound reference is live, widened as its uses are met.
-/

namespace RefStability

@[ext]
structure Window where
  start : Nat
  stop : Nat
  start_le_stop : start ≤ stop
deriving Repr

namespace Window

instance : DecidableEq Window := fun _ _ => decidable_of_iff _ Window.ext_iff.symm

def openAt (start : Nat) : Window where
  start := start
  stop := start
  start_le_stop := Nat.le_refl start

def covering (start stop : Nat) : Window where
  start := start
  stop := max start stop
  start_le_stop := Nat.le_max_left start stop

/-- Widens the window to include a position; the end stays within the largest position. -/
def extendTo (window : Window) (position : Nat) : Window where
  start := window.start
  stop := max window.stop (min (position + 1) maxPosition)
  start_le_stop := Nat.le_trans window.start_le_stop (Nat.le_max_left _ _)

/-- Ends the window at a position, or at its start if that comes later. -/
def closeAt (window : Window) (position : Nat) : Window :=
  covering window.start position

def straddles (window : Window) (position : Nat) : Bool :=
  window.start ≤ position && position < window.stop

def isEmpty (window : Window) : Bool := window.start == window.stop

end Window

end RefStability
