/-!
Ways a computation can fail to have a value. A fault is not an error a caller is told about and
recovers from: it ends the work in progress where it stands.
-/

namespace Montage

inductive Fault where
  /-- An exact result left the signed 64-bit range. -/
  | overflow
  | zeroDenominator
  /-- A value was to be limited to a range whose ends are in the wrong order. -/
  | emptyRange
  /-- A span of time is negative, not a number, or longer than a clock can hold. -/
  | unrepresentableSpan
  /-- A clock was to tick with no time between two ticks. -/
  | zeroInterval
  deriving DecidableEq

end Montage
