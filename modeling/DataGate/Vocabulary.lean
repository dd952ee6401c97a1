import DataGate.Text.Literal

namespace DataGate

/-- A closed family of words. The declaration order `all` is the order in which members are
displayed, and no two members share a name. -/
class Vocabulary (α : Type) where
  title : String
  all : List α
  name : α → String
  mem_all : ∀ word, word ∈ all
  name_injective : ∀ {left right}, name left = name right → left = right

/-- A value that is no word of the family called `title`. -/
structure UnknownWord where
  value : Literal
  title : String
  deriving DecidableEq, Repr

def UnknownWord.message (refused : UnknownWord) : String :=
  refused.value.shown ++ " is not a valid " ++ refused.title

namespace Vocabulary

variable {α : Type} [Vocabulary α]

def ofName? (text : String) : Option α :=
  (all : List α).find? (name · == text)

theorem name_eq_of_ofName? {text : String} {word : α} (found : ofName? text = some word) :
    name word = text := by
  simpa using List.find?_some (p := (name · == text)) found

@[simp] theorem ofName?_name (word : α) : ofName? (name word) = some word := by
  cases found : (ofName? (name word) : Option α) with
  | none =>
      have absent := List.find?_eq_none.mp found word (mem_all word)
      simp at absent
  | some other => rw [name_injective (name_eq_of_ofName? found)]

theorem ofName?_eq_some_iff {text : String} {word : α} :
    ofName? text = some word ↔ name word = text :=
  ⟨name_eq_of_ofName?, fun same => same ▸ ofName?_name word⟩

/-- Only the exact name is accepted: no other case, no surrounding blanks. -/
def read (value : Literal) : Except UnknownWord α :=
  let refused := .error { value, title := title α }
  match value with
  | .text text => match ofName? text with
    | some word => .ok word
    | none => refused
  | _ => refused

/-- The first value that is no word is the one reported. -/
def readAll (values : List Literal) : Except UnknownWord (List α) :=
  values.mapM read

@[simp] theorem read_name (word : α) : read (.text (name word)) = .ok word := by
  simp [read]

end DataGate.Vocabulary
