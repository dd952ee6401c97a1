import DataGate.Effect

/-!
Where settings come from: the environment, completed by the file of assignments. One instance is
shared by all who do not bring settings of their own; it is loaded when first asked for and kept
until it is reset.
-/

namespace DataGate.Settings

open Effect

def assignVariable (name value : String) : Effect Unit := do
  let world ← read
  let environment ← ofExcept .environment (world.environment.assign name value)
  modify ({ · with environment })

def Switch.load (switch : Switch) : Effect Bool := do
  let world ← read
  issueAll (switch.warnings world.environment)
  return switch.value world.environment

/-- A new instance with these settings. -/
def instantiate (settings : Settings) : Effect Instance := do
  let world ← read
  modify fun world => { world with created := world.created + 1 }
  return { serial := world.created, settings }

def validate (settings : Settings) : Effect Unit := do
  if settings.isValid then issue settings.validatedEntry
  else
    issue settings.invalidEntry
    fail (.settings settings.invalid)

/-- Makes the settings' level that of the log. -/
def applyLevel (settings : Settings) : Effect Unit :=
  match Log.Level.ofName? settings.logLevel with
  | some level => modify ({ · with level })
  | none => fail (.unknownLevel settings.logLevel)

/-- What the file defines enters the environment for good, also when the settings then turn out not
to be valid. -/
def mergeDotenv : Effect Unit := do
  let world ← read
  let (environment, refused) := world.loaded
  modify ({ · with environment })
  match refused with
  | some reason => fail (.environment reason)
  | none => return

def load (checked : Bool) : Effect Instance := do
  mergeDotenv
  let world ← read
  issueAll (warnings world.environment)
  let settings := ofEnvironment world.environment
  issue settings.loadedEntry
  if checked then
    settings.validate
    settings.applyLevel
  settings.instantiate

/-- An instance that is already shared is not checked again. -/
def shared (checked : Bool) : Effect Instance := do
  let world ← read
  match world.shared with
  | some current => return current
  | none =>
      let loaded ← load checked
      modify ({ · with shared := some loaded })
      return loaded

def reset : Effect Unit := do
  modify ({ · with shared := none })
  issue resetEntry

end DataGate.Settings
