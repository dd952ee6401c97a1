namespace DataGate

/-- Why a variable cannot be set. -/
inductive VariableError
  | embeddedNull
  | illegalName
  | emptyName
  deriving DecidableEq, Repr

def VariableError.message : VariableError → String
  | embeddedNull => "embedded null byte"
  | illegalName => "illegal environment variable name"
  | emptyName => "[Errno 22] Invalid argument"

/-- The variables a program runs under. -/
structure Environment where
  get? : String → Option String

namespace Environment

variable {environment : Environment} {name other value : String}

@[ext] theorem ext {left right : Environment} (same : ∀ name, left.get? name = right.get? name) :
    left = right := by
  obtain ⟨getLeft⟩ := left
  obtain ⟨getRight⟩ := right
  congr
  funext name
  exact same name

def ofList (bindings : List (String × String)) : Environment where
  get? name := bindings.reverse.lookup name

def set (environment : Environment) (name value : String) : Environment where
  get? other := if other = name then some value else environment.get? other

@[simp] theorem get?_set :
    (environment.set name value).get? other =
      if other = name then some value else environment.get? other := rfl

def unset (environment : Environment) (name : String) : Environment where
  get? other := if other = name then none else environment.get? other

/-- A variable is kept as `NAME=value` and a closing null, so neither part may hold a null, and the
name may hold no equals sign. -/
def refusal? (name value : String) : Option VariableError :=
  if name.toList.contains '\x00' || value.toList.contains '\x00' then some .embeddedNull
  else if name.toList.contains '=' then some .illegalName
  else if name.isEmpty then some .emptyName
  else none

def assign (environment : Environment) (name value : String) : Except VariableError Environment :=
  match refusal? name value with
  | some reason => .error reason
  | none => .ok (environment.set name value)

/-- Sets each variable that is not set yet; an empty value counts as set. The first that cannot be
set ends the merge, and those before it stay. -/
def merge (environment : Environment) :
    List (String × String) → Environment × Option VariableError
  | [] => (environment, none)
  | (name, value) :: rest =>
      if (environment.get? name).isSome then environment.merge rest
      else match environment.assign name value with
        | .error reason => (environment, some reason)
        | .ok extended => extended.merge rest

variable {bindings rest : List (String × String)}

theorem merge_cons_of_set (set : (environment.get? name).isSome = true) :
    environment.merge ((name, value) :: rest) = environment.merge rest := by
  rw [merge, if_pos set]

theorem merge_cons_of_refused {reason : VariableError} (unset : environment.get? name = none)
    (refused : refusal? name value = some reason) :
    environment.merge ((name, value) :: rest) = (environment, some reason) := by
  simp only [merge, unset, Option.isSome_none, Bool.false_eq_true, if_false, assign, refused]

theorem merge_cons_of_accepted (unset : environment.get? name = none)
    (accepted : refusal? name value = none) :
    environment.merge ((name, value) :: rest) = (environment.set name value).merge rest := by
  simp only [merge, unset, Option.isSome_none, Bool.false_eq_true, if_false, assign, accepted]

theorem get?_merge_of_set (set : environment.get? name = some value) :
    (environment.merge bindings).1.get? name = some value := by
  induction bindings generalizing environment with
  | nil => exact set
  | cons binding rest ih =>
      obtain ⟨first, given⟩ := binding
      cases present : environment.get? first with
      | some current =>
          rw [merge_cons_of_set (by rw [present, Option.isSome_some])]
          exact ih set
      | none =>
          cases refused : refusal? first given with
          | some reason =>
              rw [merge_cons_of_refused present refused]
              exact set
          | none =>
              rw [merge_cons_of_accepted present refused]
              apply ih
              have different : name ≠ first := by
                rintro rfl
                rw [set] at present
                cases present
              rw [get?_set, if_neg different]
              exact set

/-- A variable that is not set takes the first value that is given for it, if the merge comes to
that. -/
theorem get?_merge_of_unset (unset : environment.get? name = none) :
    (environment.merge bindings).1.get? name = bindings.lookup name ∨
      (environment.merge bindings).2 ≠ none ∧ (environment.merge bindings).1.get? name = none := by
  induction bindings generalizing environment with
  | nil => exact .inl unset
  | cons binding rest ih =>
      obtain ⟨first, given⟩ := binding
      cases present : environment.get? first with
      | some current =>
          have different : name ≠ first := by
            rintro rfl
            rw [unset] at present
            cases present
          rw [merge_cons_of_set (by rw [present, Option.isSome_some]), List.lookup_cons,
            beq_false_of_ne different]
          exact ih unset
      | none =>
          cases refused : refusal? first given with
          | some reason =>
              rw [merge_cons_of_refused present refused]
              exact .inr ⟨Option.some_ne_none reason, unset⟩
          | none =>
              rw [merge_cons_of_accepted present refused, List.lookup_cons]
              by_cases same : name = first
              · rw [same, BEq.rfl]
                exact .inl (get?_merge_of_set (by rw [get?_set, if_pos rfl]))
              · rw [beq_false_of_ne same]
                exact ih (by rw [get?_set, if_neg same]; exact unset)

end DataGate.Environment
