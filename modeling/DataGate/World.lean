import DataGate.Counters
import DataGate.Loader
import DataGate.Settings

namespace DataGate

/-- Why an operation failed. -/
inductive Fault
  | clock (reason : ClockFault)
  | time (reason : TimeError)
  | settings (reason : SettingsError)
  | unknownLevel (name : String)
  | unknownWord (reason : UnknownWord)
  | environment (reason : VariableError)
  deriving DecidableEq, Repr

def Fault.message : Fault → String
  | clock reason => reason.message
  | time reason => reason.message
  | settings reason => reason.shown
  | unknownLevel name => "Unknown level: " ++ Text.quoted name
  | unknownWord reason => reason.message
  | environment reason => reason.message

/-- Settings with an identity. Two instances of equal settings differ in their serial number. -/
structure Instance where
  serial : Nat
  settings : Settings
  deriving DecidableEq, Repr

/-- What operations share: where settings come from, the instance in force, the level of the log,
the counters and the wall clock. `created` is the number of instances made so far. -/
structure World where
  loader : Loader
  environment : Environment
  dotenv : String
  level : Log.Level
  wall : Clock
  created : Nat := 0
  shared : Option Instance := none
  counters : Counters := .zero
  broken : Counter → Option String := fun _ => none

namespace World

/-- The environment with the file loaded into it, and what the load was refused. -/
def loaded (world : World) : Environment × Option VariableError :=
  world.loader.load world.environment world.dotenv

/-- The last value that the file defines for a name. -/
def defined? (world : World) (name : String) : Option String :=
  (world.loader.definitions world.environment world.dotenv).last? name

def issue (world : World) (entry : Log.Entry) : Log.Issue where
  entry
  threshold := world.level

def breakCounter (world : World) (counter : Counter) (complaint : Option String) : World :=
  { world with broken := fun other => if other = counter then complaint else world.broken other }

end World

end DataGate
