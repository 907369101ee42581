import Scrim.Decimal.Fixed

/-!
# Time

Instants and durations are whole numbers of nanoseconds, held as `Nat`; instants count from
the start of a run.
-/

namespace Scrim.Time

def perSecond : Nat := 1000000000

def perMilli : Nat := 1000000

def ofMillis (count : Nat) : Nat := count * perMilli

/-- Whole milliseconds, rounded down. -/
def millis (time : Nat) : Nat := time / perMilli

/-- Whole milliseconds as they are put on record, in 64 bits. -/
def stamp (time : Nat) : Nat := (millis time).toUInt64.toNat

/-- Seconds: the whole seconds and the rest are each rounded to a double, then added. -/
def seconds (time : Nat) : Float :=
  Float.ofNat (time / perSecond) + Float.ofNat (time % perSecond) / 1e9

/-- Milliseconds below one second, then seconds, with one decimal place unless they are
whole. -/
def text (time : Nat) : String :=
  let ms := millis time
  if ms < 1000 then s!"{ms}ms"
  else if ms % 1000 = 0 then s!"{ms / 1000}s"
  else s!"{Decimal.fixed 1 (.ofFloat (seconds time))}s"

@[simp] theorem millis_ofMillis (count : Nat) : millis (ofMillis count) = count := by
  simp [millis, ofMillis, perMilli]

end Scrim.Time
