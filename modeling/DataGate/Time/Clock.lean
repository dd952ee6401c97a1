import DataGate.Double

namespace DataGate

/-- A reading that gives no time. -/
inductive ClockFault
  | stopped
  | notFinite (reason : NotFinite)
  deriving DecidableEq, Repr

def ClockFault.message : ClockFault → String
  | stopped => "clock failed"
  | notFinite reason => reason.message

/-- A source of times in milliseconds since the epoch. `reads` counts the readings taken so far,
those that failed included. -/
structure Clock where
  reading : Nat → Except ClockFault Int
  reads : Nat := 0

namespace Clock

def tick (clock : Clock) : Except ClockFault Int × Clock :=
  (clock.reading clock.reads, { clock with reads := clock.reads + 1 })

@[simp] theorem tick_reading (clock : Clock) : clock.tick.2.reading = clock.reading := rfl

@[simp] theorem tick_reads (clock : Clock) : clock.tick.2.reads = clock.reads + 1 := rfl

/-- A number of readings in a row; the first that fails ends them. -/
def readings (clock : Clock) (count : Nat) : Except ClockFault (List Int) :=
  (List.range count).mapM fun index => clock.reading (clock.reads + index)

/-- The last reading repeats forever. -/
def ofReadings (first : Except ClockFault Int) (rest : List (Except ClockFault Int)) : Clock where
  reading index := ((first :: rest)[index]?).getD ((first :: rest).getLastD first)

/-- A reading in seconds, taken to milliseconds in binary64 arithmetic and cut toward zero. -/
def ofSeconds (seconds : Float) : Except ClockFault Int :=
  (Double.truncate (seconds * 1000.0)).mapError .notFinite

end DataGate.Clock
