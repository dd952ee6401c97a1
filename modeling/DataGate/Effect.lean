import DataGate.World

/-!
Operations on the world. An operation that fails keeps the changes and the log entries it has made
up to that point, and nothing after the failure runs.
-/

namespace DataGate

structure Outcome (α : Type) where
  result : Except Fault α
  world : World
  issued : List Log.Issue := []

def Effect (α : Type) : Type :=
  World → Outcome α

namespace Effect

variable {α β : Type}

def pure (value : α) : Effect α := fun world =>
  { result := .ok value, world }

def bind (first : Effect α) (next : α → Effect β) : Effect β := fun world =>
  let done := first world
  match done.result with
  | .error fault => { result := .error fault, world := done.world, issued := done.issued }
  | .ok value =>
      let rest := next value done.world
      { rest with issued := done.issued ++ rest.issued }

instance : Monad Effect where
  pure := pure
  bind := bind

@[simp] theorem pure_apply (value : α) (world : World) :
    (Pure.pure value : Effect α) world = { result := .ok value, world } := rfl

theorem bind_apply_ok {first : Effect α} {next : α → Effect β} {world : World} {value : α}
    (done : (first world).result = .ok value) :
    (first >>= next) world =
      { next value (first world).world with
        issued := (first world).issued ++ (next value (first world).world).issued } := by
  change bind first next world = _
  simp only [bind, done]

theorem bind_apply_error {first : Effect α} {next : α → Effect β} {world : World} {fault : Fault}
    (failed : (first world).result = .error fault) :
    (first >>= next) world =
      { result := .error fault
        world := (first world).world
        issued := (first world).issued } := by
  change bind first next world = _
  simp only [bind, failed]

instance : LawfulMonad Effect :=
  LawfulMonad.mk' Effect
    (fun effect => by
      funext world
      change bind effect pure world = effect world
      simp only [bind, pure]
      generalize effect world = done
      obtain ⟨result, after, issued⟩ := done
      cases result <;> simp)
    (fun value next => by
      funext world
      change bind (pure value) next world = next value world
      simp [bind, pure])
    (fun first second third => by
      funext world
      change bind (bind first second) third world =
        bind first (fun value => bind (second value) third) world
      simp only [bind]
      cases done : (first world).result with
      | error fault => simp
      | ok value =>
          simp only
          cases more : (second value (first world).world).result <;> simp)

def read : Effect World := fun world =>
  { result := .ok world, world }

def modify (change : World → World) : Effect Unit := fun world =>
  { result := .ok (), world := change world }

def issue (entry : Log.Entry) : Effect Unit := fun world =>
  { result := .ok (), world, issued := [world.issue entry] }

def issueAll (entries : List Log.Entry) : Effect Unit := fun world =>
  { result := .ok (), world, issued := entries.map world.issue }

def fail (fault : Fault) : Effect α := fun world =>
  { result := .error fault, world }

def ofExcept {ε : Type} (fault : ε → Fault) : Except ε α → Effect α
  | .ok value => pure value
  | .error reason => fail (fault reason)

end DataGate.Effect
