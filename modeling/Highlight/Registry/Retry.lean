/-!
# Retrying failed loads

After a failed load the next one waits, twice as long after every further failure and never longer
than a given maximum, until too many loads have failed.  Times are whole milliseconds.
-/

namespace Highlight

/-- How failed loads are retried. -/
structure RetryPolicy where
  /-- The number of failed loads after which a language is given up. -/
  maxAttempts : Nat := 3
  /-- The wait before the first retry. -/
  backoffBase : Nat := 250
  /-- The longest wait. -/
  backoffMax : Nat := 10000
  deriving DecidableEq, Repr

namespace RetryPolicy

/-- The largest factor of a wait: factors are words of 32 bits. -/
def maxFactor : Nat := 4294967295

/-- The longest duration that can be written down: 64 bits of seconds, less than one of them
short. -/
def maxDuration : Nat := 18446744073709551615999

/-- The factor after `failures` failures: it doubles until it is as large as it can be. -/
def factor (failures : Nat) : Nat :=
  if failures ≤ 32 then min (Nat.pow 2 (failures - 1)) maxFactor else maxFactor

/-- The wait before a retry after `failures` failures in a row. -/
def backoff (p : RetryPolicy) (failures : Nat) : Nat :=
  if failures = 0 then 0
  else min (min (p.backoffBase * factor failures) maxDuration) p.backoffMax

def givesUp (p : RetryPolicy) (failures : Nat) : Bool := p.maxAttempts ≤ failures

end RetryPolicy

end Highlight
