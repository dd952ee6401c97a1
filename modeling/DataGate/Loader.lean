import DataGate.Environment

namespace DataGate

/-- What a file says of names, in its order. A name that stands alone is given no value. -/
abbrev Definitions := List (String × Option String)

/-- What is said of a name last counts. -/
def Definitions.last? (definitions : Definitions) (name : String) : Option String :=
  (definitions.reverse.lookup name).join

/-- A library that loads files of variable assignments. What a file defines may depend on the
environment, since its values may refer to variables. A variable that is set keeps its value, also
if that is empty. One that is not takes the last value that the file defines for it, unless the load
is refused some variable before that; then it stays unset. -/
structure Loader where
  definitions : Environment → String → Definitions
  load : Environment → String → Environment × Option VariableError
  keeps : ∀ {environment : Environment} {file name value : String},
    environment.get? name = some value → (load environment file).1.get? name = some value
  fills : ∀ {environment : Environment} {file name : String}, environment.get? name = none →
    (load environment file).1.get? name = (definitions environment file).last? name ∨
      (load environment file).2 ≠ none ∧ (load environment file).1.get? name = none

namespace Loader

variable {loader : Loader} {environment : Environment} {file : String}

/-- A load that is refused nothing comes to every variable. -/
theorem get?_load (merged : (loader.load environment file).2 = none) (name : String) :
    (loader.load environment file).1.get? name =
      (environment.get? name).or ((loader.definitions environment file).last? name) := by
  cases present : environment.get? name with
  | some value => exact loader.keeps present
  | none =>
      rw [Option.none_or]
      exact (loader.fills present).resolve_right fun stopped => stopped.1 merged

end Loader

end DataGate
