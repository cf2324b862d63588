import Mathlib.Algebra.Order.Field.Basic
import Mathlib.Tactic.Linarith

/-!
Owns the offset of a server's clock from a client's by one exchange of four times.
Main result: with delays that are not negative, the offset measured is off by at most
half of what the round trip takes beyond the server's hold, and what was rounded.

Does not own how the times are read or carried.
-/

namespace JooanW3U.Library.ClockOffset

universe u

variable {K : Type u} [Field K] [LinearOrder K] [IsStrictOrderedRing K]

/-- The four times of an exchange, the client's by its own clock, the server's by its own. -/
structure Exchange (K : Type u) where
  sent : K
  received : K
  transmitted : K
  arrived : K

/-- The server's clock is `offset` ahead, and nothing arrives before it is sent. -/
structure Exchange.Causal (exchange : Exchange K) (offset : K) : Prop where
  forward : exchange.sent + offset ≤ exchange.received
  back : exchange.transmitted ≤ exchange.arrived + offset

def Exchange.measured (exchange : Exchange K) : K :=
  ((exchange.received - exchange.sent) + (exchange.transmitted - exchange.arrived)) / 2

/-- Half of the round trip without the server's hold. -/
def Exchange.uncertainty (exchange : Exchange K) : K :=
  ((exchange.arrived - exchange.sent) - (exchange.transmitted - exchange.received)) / 2

theorem Exchange.Causal.measured_near {exchange : Exchange K} {offset : K}
    (causal : exchange.Causal offset) :
    |exchange.measured - offset| ≤ exchange.uncertainty := by
  have forward := causal.forward
  have back := causal.back
  rw [abs_le, Exchange.measured, Exchange.uncertainty]
  constructor <;> linarith

/-- What is computed of an exchange with an error is off by no more than both errors. -/
theorem Exchange.Causal.computed_near {exchange : Exchange K} {offset computed error : K}
    (causal : exchange.Causal offset) (near : |computed - exchange.measured| ≤ error) :
    |computed - offset| ≤ exchange.uncertainty + error := by
  have exact := abs_le.mp causal.measured_near
  have rounded := abs_le.mp near
  rw [abs_le]
  constructor <;> linarith [exact.1, exact.2, rounded.1, rounded.2]

end JooanW3U.Library.ClockOffset
