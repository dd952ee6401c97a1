/-!
References in values: `${NAME}` stands for the value of a variable, and `${NAME:-TEXT}` for that
value or, if the variable has none, for the text. The first closing brace ends a reference.
-/

namespace DataGate.Dotenv

structure Reference where
  name : String
  fallback : List Char := []
  deriving DecidableEq, Repr

def isReferenceChar (c : Char) : Bool :=
  c != '\x7d' && c != ':'

/-- The reference at the front of a text and what follows it. -/
def reference? : List Char → Option (Reference × List Char)
  | '$' :: '\x7b' :: rest =>
      let name := String.ofList (rest.takeWhile isReferenceChar)
      match rest.dropWhile isReferenceChar with
      | '\x7d' :: after => some ({ name }, after)
      | ':' :: '-' :: more =>
          match more.dropWhile (· != '\x7d') with
          | _ :: after => some ({ name, fallback := more.takeWhile (· != '\x7d') }, after)
          | [] => none
      | _ => none
  | _ => none

theorem length_lt_of_reference? {text after : List Char} {reference : Reference}
    (read : reference? text = some (reference, after)) : after.length < text.length := by
  unfold reference? at read
  split at read
  · next rest =>
      have named := (List.dropWhile_sublist isReferenceChar (l := rest)).length_le
      split at read
      · next closed =>
          cases read
          rw [closed] at named
          simp only [List.length_cons] at named ⊢
          omega
      · next more split =>
          have given := (List.dropWhile_sublist (· != '\x7d') (l := more)).length_le
          split at read
          · next last left closed =>
              cases read
              rw [closed] at given
              rw [split] at named
              simp only [List.length_cons] at named given ⊢
              omega
          · simp at read
      · simp at read
  · simp at read

/-- The text with every reference replaced. -/
def expand (value? : String → Option String) (text : List Char) : List Char :=
  match read : reference? text with
  | some (reference, after) =>
      have := length_lt_of_reference? read
      ((value? reference.name).elim reference.fallback String.toList) ++ expand value? after
  | none => match text with
    | [] => []
    | c :: rest => c :: expand value? rest
termination_by text.length

end DataGate.Dotenv
