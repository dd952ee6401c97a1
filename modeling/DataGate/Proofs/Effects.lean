import DataGate.Effect

/-!
How effects run, one equation for each primitive in front of what follows it, and what effects leave
alone. An effect keeps every view of the world that does not look at the fields it writes; a view of
one field and the world itself are the two extremes.
-/

namespace DataGate.Effect

variable {α β γ ε : Type} {world : World} {view : World → γ}

@[simp] theorem read_bind (next : World → Effect β) :
    (read >>= next) world = next world world := rfl

@[simp] theorem modify_bind (change : World → World) (next : Unit → Effect β) :
    (modify change >>= next) world = next () (change world) :=
  rfl

@[simp] theorem issue_bind (entry : Log.Entry) (next : Unit → Effect β) :
    (issue entry >>= next) world =
      { next () world with issued := world.issue entry :: (next () world).issued } :=
  rfl

@[simp] theorem issueAll_bind (entries : List Log.Entry) (next : Unit → Effect β) :
    (issueAll entries >>= next) world =
      { next () world with issued := entries.map world.issue ++ (next () world).issued } :=
  rfl

@[simp] theorem fail_bind (fault : Fault) (next : α → Effect β) :
    (fail fault >>= next) world = { result := .error fault, world } :=
  rfl

theorem ok_of_toOption {result : Except ε α} {value : α} (found : result.toOption = some value) :
    result = .ok value := by
  cases result with
  | error reason => cases found
  | ok other =>
      cases found
      rfl

/-- The effect leaves this view of the world as it is, whether it succeeds or fails. -/
def Keeps (view : World → γ) (effect : Effect α) : Prop :=
  ∀ world, view (effect world).world = view world

theorem Keeps.bind {first : Effect α} {next : α → Effect β} (keeps : Keeps view first)
    (keepsNext : ∀ value, Keeps view (next value)) : Keeps view (first >>= next) := by
  intro world
  cases done : (first world).result with
  | error fault =>
      rw [bind_apply_error done]
      exact keeps world
  | ok value =>
      rw [bind_apply_ok done]
      exact (keepsNext value (first world).world).trans (keeps world)

theorem keeps_pure (value : α) : Keeps view (Pure.pure value) := fun _ => rfl

theorem keeps_read : Keeps view read := fun _ => rfl

theorem keeps_issue (entry : Log.Entry) : Keeps view (issue entry) := fun _ => rfl

theorem keeps_issueAll (entries : List Log.Entry) : Keeps view (issueAll entries) := fun _ => rfl

theorem keeps_fail (fault : Fault) : Keeps view (fail fault : Effect α) := fun _ => rfl

theorem keeps_modify {change : World → World} (same : ∀ world, view (change world) = view world) :
    Keeps view (modify change) := same

theorem keeps_ofExcept (fault : ε → Fault) (result : Except ε α) :
    Keeps view (ofExcept fault result) := by
  cases result with
  | ok value => exact keeps_pure value
  | error reason => exact keeps_fail (fault reason)

end DataGate.Effect
