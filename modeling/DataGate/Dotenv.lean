import DataGate.Dotenv.Reference
import DataGate.Dotenv.Statement
import DataGate.Loader

/-!
The loader that the program runs with. A value may refer to variables of the environment and of
earlier statements; the environment goes first. A name keeps its place in the file when it is given
again, and its last value counts.
-/

namespace DataGate.Dotenv

/-- What a reference sees. A name that stood alone is known and empty. -/
def valueOf (environment : Environment) (known : Definitions) (name : String) : Option String :=
  (environment.get? name).or ((known.reverse.lookup name).map (·.getD ""))

def resolve (environment : Environment) (known : Definitions) (statement : Statement) :
    Definitions :=
  let expanded := statement.value.map fun value =>
    String.ofList (expand (valueOf environment known) value.toList)
  known ++ [(statement.name, expanded)]

def disablingVariable : String := "PYTHON_DOTENV_DISABLED"

def disablingWords : List String := ["1", "true", "t", "yes", "y"]

/-- The environment itself may forbid files. -/
def isDisabled (environment : Environment) : Bool :=
  (environment.get? disablingVariable).any fun text =>
    disablingWords.contains (String.ofList (Text.foldCase text.toList))

def definitions (environment : Environment) (file : String) : Definitions :=
  if isDisabled environment then [] else (ofFile file).foldl (resolve environment) []

def put (name : String) (value : Option String) : Definitions → Definitions
  | [] => [(name, value)]
  | (other, old) :: rest =>
      if other = name then (name, value) :: rest else (other, old) :: put name value rest

def latest (definitions : Definitions) : Definitions :=
  definitions.foldl (fun known (name, value) => put name value known) []

/-- The values that the definitions come to, one to a name. A name that was last seen alone has
none. -/
def assignments (definitions : Definitions) : List (String × String) :=
  (latest definitions).filterMap fun (name, value) => value.map (name, ·)

def load (environment : Environment) (file : String) : Environment × Option VariableError :=
  environment.merge (assignments (definitions environment file))

section Laws

variable {name other : String} {value : Option String} {known : Definitions}

theorem lookup_cons_ite (rest : Definitions) :
    ((name, value) :: rest : Definitions).lookup other =
      if other = name then some value else rest.lookup other := by
  rw [List.lookup_cons]
  by_cases same : other = name
  · rw [same, BEq.rfl, if_pos rfl]
  · rw [beq_false_of_ne same, if_neg same]

theorem lookup_put :
    (put name value known).lookup other =
      if other = name then some value else known.lookup other := by
  induction known with
  | nil => exact lookup_cons_ite []
  | cons entry rest ih =>
      obtain ⟨first, old⟩ := entry
      simp only [put]
      split
      · next replaced =>
          subst replaced
          rw [lookup_cons_ite, lookup_cons_ite]
          split <;> rfl
      · next kept =>
          rw [lookup_cons_ite, lookup_cons_ite, ih]
          by_cases same : other = first
          · rw [if_pos same, if_pos same, if_neg (same ▸ kept)]
          · rw [if_neg same, if_neg same]

theorem mem_names_put :
    other ∈ (put name value known).map Prod.fst ↔ other = name ∨ other ∈ known.map Prod.fst := by
  induction known with
  | nil => simp [put]
  | cons entry rest ih =>
      obtain ⟨first, old⟩ := entry
      rw [put]
      split
      · next same =>
          subst same
          simp
      · simp only [List.map_cons, List.mem_cons, ih, or_left_comm]

theorem nodup_names_put (distinct : (known.map Prod.fst).Nodup) :
    ((put name value known).map Prod.fst).Nodup := by
  induction known with
  | nil => simp [put]
  | cons entry rest ih =>
      obtain ⟨first, old⟩ := entry
      obtain ⟨fresh, distinctRest⟩ := List.nodup_cons.mp distinct
      simp only [put]
      split
      · next same =>
          subst same
          exact List.nodup_cons.mpr ⟨fresh, distinctRest⟩
      · next different =>
          refine List.nodup_cons.mpr ⟨fun member => ?_, ih distinctRest⟩
          exact (mem_names_put.mp member).elim different fresh

theorem nodup_names_latest (definitions : Definitions) :
    ((latest definitions).map Prod.fst).Nodup := by
  have preserved (known : Definitions) (distinct : (known.map Prod.fst).Nodup) :
      ((definitions.foldl (fun known (name, value) => put name value known) known).map
        Prod.fst).Nodup := by
    induction definitions generalizing known with
    | nil => exact distinct
    | cons first rest ih => exact ih _ (nodup_names_put distinct)
  exact preserved [] List.nodup_nil

theorem lookup_latest (definitions : Definitions) (name : String) :
    (latest definitions).lookup name = definitions.reverse.lookup name := by
  have carried (known : Definitions) :
      (definitions.foldl (fun known (name, value) => put name value known) known).lookup name =
        (definitions.reverse.lookup name).or (known.lookup name) := by
    induction definitions generalizing known with
    | nil => rfl
    | cons first rest ih =>
        rw [List.foldl_cons, ih, lookup_put, List.reverse_cons, List.lookup_append,
          lookup_cons_ite, Option.or_assoc]
        split <;> rfl
  rw [latest, carried []]
  exact Option.or_none

/-- With one entry to a name, dropping the names without a value uncovers no other entry. -/
theorem lookup_valued (distinct : (known.map Prod.fst).Nodup) :
    (known.filterMap fun (name, value) => value.map (name, ·)).lookup other =
      (known.lookup other).join := by
  induction known with
  | nil => rfl
  | cons entry rest ih =>
      obtain ⟨first, value⟩ := entry
      obtain ⟨fresh, distinctRest⟩ := List.nodup_cons.mp distinct
      rw [lookup_cons_ite]
      by_cases same : other = first
      · subst same
        rw [if_pos rfl]
        cases value with
        | some value => simp
        | none =>
            have gone : rest.lookup other = none :=
              List.lookup_eq_none_iff.mpr fun entry member => bne_iff_ne.mpr fun same =>
                fresh (List.mem_map.mpr ⟨entry, member, same.symm⟩)
            rw [List.filterMap_cons_none rfl, ih distinctRest, gone]
            rfl
      · rw [if_neg same, ← ih distinctRest]
        cases value with
        | none => rw [List.filterMap_cons_none rfl]
        | some value => simp [List.lookup_cons, beq_false_of_ne same]

theorem lookup_assignments (definitions : Definitions) (name : String) :
    (assignments definitions).lookup name = definitions.last? name := by
  rw [assignments, lookup_valued (nodup_names_latest definitions), lookup_latest, Definitions.last?]

end Laws

def loader : Loader where
  definitions := definitions
  load := load
  keeps := Environment.get?_merge_of_set
  fills unset := by
    rw [← lookup_assignments]
    exact Environment.get?_merge_of_unset unset

end DataGate.Dotenv
