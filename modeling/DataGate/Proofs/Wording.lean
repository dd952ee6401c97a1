import Mathlib.Data.List.Basic
import DataGate.Grant
import DataGate.Obstacle
import DataGate.Trigger

/-!
Texts that are made of names and marks. A name is spelled in capital letters and underscores, so no
mark belongs to a name, and such a text can be taken apart at its marks in one way only.
-/

namespace DataGate

namespace Text

variable {mark : Char} {text : String} {before rest : List Char}

/-- A character that names are spelled with. All others are marks. -/
def isLetter (c : Char) : Bool :=
  c.isUpper || c == '_'

def isPlain (text : String) : Bool :=
  text.toList.all isLetter

theorem not_mem_of_isPlain (plain : isPlain text = true) (marks : isLetter mark = false) :
    mark ∉ text.toList := by
  intro member
  have letter := List.all_eq_true.mp plain mark member
  rw [marks] at letter
  cases letter

/-- What follows the expected words. -/
def after? (expected : String) (text : List Char) : Option (List Char) :=
  text.dropPrefix? expected.toList

@[simp] theorem after?_append (expected : String) (rest : List Char) :
    after? expected (expected.toList ++ rest) = some rest :=
  List.dropPrefix?_append_of_beq rest (beq_self_eq_true _)

/-- What is written before the first mark, and the rest. -/
def cut (mark : Char) (text : List Char) : List Char × List Char :=
  (text.takeWhile (· != mark), text.dropWhile (· != mark))

theorem cut_append (absent : mark ∉ before) (marked : rest.head? = some mark) :
    cut mark (before ++ rest) = (before, rest) := by
  have passes : ∀ c ∈ before, (c != mark) = true := by
    intro c member
    exact bne_iff_ne.mpr fun same => absent (same ▸ member)
  obtain ⟨after, rfl⟩ := List.head?_eq_some_iff.mp marked
  rw [cut, List.takeWhile_append_of_pos passes, List.dropWhile_append_of_pos passes]
  simp

/-- Words with a mark before each are a mark and the words with marks between them. -/
theorem flatMap_cons_eq_intercalate {words : List (List Char)} (nonempty : words ≠ []) :
    words.flatMap (mark :: ·) = mark :: [mark].intercalate words := by
  induction words with
  | nil => exact absurd rfl nonempty
  | cons word rest ih =>
      cases rest with
      | nil => simp
      | cons next rest =>
          rw [List.flatMap_cons, ih (List.cons_ne_nil next rest), List.intercalate_cons_cons]
          simp

theorem not_mem_intercalate {separator : List Char} {words : List (List Char)}
    (apart : mark ∉ separator) (absent : ∀ word ∈ words, mark ∉ word) :
    mark ∉ separator.intercalate words := by
  induction words with
  | nil => simp
  | cons word rest ih =>
      obtain ⟨first, others⟩ := List.forall_mem_cons.mp absent
      cases rest with
      | nil => simpa using first
      | cons next rest =>
          rw [List.intercalate_cons_cons]
          simp [first, apart, ih others]

end Text

namespace Vocabulary

variable {α : Type} [Vocabulary α] {mark : Char} {word : α} {words : List α} {rest : List Char}

/-- The word that is written before the first mark, and the rest. -/
def wordBefore? (mark : Char) (text : List Char) : Option (α × List Char) := do
  let (spelled, rest) := Text.cut mark text
  let word ← ofName? (String.ofList spelled)
  return (word, rest)

theorem wordBefore?_name (plain : Text.isPlain (name word) = true)
    (marks : Text.isLetter mark = false) (marked : rest.head? = some mark) :
    wordBefore? mark ((name word).toList ++ rest) = some (word, rest) := by
  simp [wordBefore?, Text.cut_append (Text.not_mem_of_isPlain plain marks) marked]

/-- The words of a text that has a mark between any two of them. -/
def wordsApart? (mark : Char) (text : List Char) : Option (List α) :=
  (text.splitOn mark).mapM fun spelled => ofName? (String.ofList spelled)

theorem mapM_ofName?_name (words : List α) :
    (words.map fun word => (name word).toList).mapM (fun spelled =>
      (ofName? (String.ofList spelled) : Option α)) = some words := by
  induction words with
  | nil => rfl
  | cons word rest ih => simp [ih]

theorem wordsApart?_intercalate (plain : ∀ word : α, Text.isPlain (name word) = true)
    (marks : Text.isLetter mark = false) (nonempty : words ≠ []) :
    wordsApart? mark ([mark].intercalate (words.map fun word => (name word).toList)) =
      some words := by
  have absent : ∀ spelled ∈ words.map fun word => (name word).toList, mark ∉ spelled := by
    intro spelled member
    obtain ⟨word, _, rfl⟩ := List.mem_map.mp member
    exact Text.not_mem_of_isPlain (plain word) marks
  rw [wordsApart?, List.splitOn_intercalate mark absent (mt List.map_eq_nil_iff.mp nonempty)]
  exact mapM_ofName?_name words

end Vocabulary

theorem Trigger.isPlain_name (trigger : Trigger) : Text.isPlain trigger.name = true := by
  cases trigger <;> decide +kernel

theorem Trigger.wordBefore?_comma (trigger : Trigger) {rest : List Char}
    (marked : rest.head? = some ',') :
    Vocabulary.wordBefore? ',' (trigger.name.toList ++ rest) = some (trigger, rest) :=
  Vocabulary.wordBefore?_name trigger.isPlain_name rfl marked

theorem Obstacle.isPlain_name (obstacle : Obstacle) : Text.isPlain obstacle.name = true := by
  cases obstacle <;> decide +kernel

theorem Grant.isPlain_name (grant : Grant) : Text.isPlain grant.name = true := by
  cases grant <;> decide +kernel

end DataGate
