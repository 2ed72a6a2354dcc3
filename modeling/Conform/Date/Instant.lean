import Conform.Binary64
import Conform.Date.Calendar

/-!
# Instants

An instant is a number of seconds since the start of 1970 and a fraction in nanoseconds.  Within a
leap second the second count stands still and the fraction goes on beyond one second, so instants
are ordered by seconds and then by fraction.  This file defines:

* `Instant` with its order;
* `TimeOfDay`: hours, minutes, seconds up to the sixtieth and a fraction;
* `Instant.ofLocal`: the instant of a day and a time at an offset;
* `Instant.ofMillis?`: the instant of a whole number of milliseconds, within the supported years.
-/

namespace Conform

/-- Seconds since the start of 1970 and nanoseconds, at least `10 ^ 9` in a leap second. -/
structure Instant where
  seconds : Int
  nanos : Nat
  deriving DecidableEq, Repr

namespace Instant

instance : LT Instant :=
  ⟨fun a b => a.seconds < b.seconds ∨ (a.seconds = b.seconds ∧ a.nanos < b.nanos)⟩

instance (a b : Instant) : Decidable (a < b) :=
  inferInstanceAs (Decidable (a.seconds < b.seconds ∨ (a.seconds = b.seconds ∧ a.nanos < b.nanos)))

end Instant

/-- A time of day; the sixtieth second is a leap second. -/
structure TimeOfDay where
  hour : Nat
  minute : Nat
  second : Nat
  nanos : Nat
  deriving DecidableEq, Repr

namespace TimeOfDay

def IsValid (t : TimeOfDay) : Prop :=
  t.hour ≤ 23 ∧ t.minute ≤ 59 ∧ t.second ≤ 60 ∧ t.nanos < 10 ^ 9

instance (t : TimeOfDay) : Decidable t.IsValid := inferInstanceAs (Decidable (_ ∧ _ ∧ _ ∧ _))

def midnight : TimeOfDay := ⟨0, 0, 0, 0⟩

end TimeOfDay

namespace Instant

/-- The instant of a day and a time, `offset` seconds ahead of universal time. -/
def ofLocal (d : Day) (t : TimeOfDay) (offset : Int) : Instant :=
  let whole := d.number * 86400 + (t.hour * 3600 + t.minute * 60 : Nat) - offset
  -- In a leap second the count of seconds stands still.
  if t.second = 60 then ⟨whole + 59, t.nanos + 10 ^ 9⟩ else ⟨whole + t.second, t.nanos⟩

def firstMillis : Int := -8334601228800000

def lastMillis : Int := 8210266876799999

/-- The instant of a whole number of milliseconds since the start of 1970. -/
def ofMillis? (x : Binary64) : Option Instant :=
  if x.isIntegral ∧ firstMillis ≤ x.toInt ∧ x.toInt ≤ lastMillis then
    some ⟨x.toInt / 1000, (x.toInt % 1000).toNat * 10 ^ 6⟩
  else none

end Instant

end Conform
