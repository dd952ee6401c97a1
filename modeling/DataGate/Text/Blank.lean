/-!
Blank characters and trimming. A blank is a character with the Unicode property `White_Space`, or
one of the four information separators U+001C to U+001F.
-/

namespace DataGate.Text

def isBlank (c : Char) : Bool :=
  let code := c.toNat
  (0x09 ≤ code && code ≤ 0x0D) || (0x1C ≤ code && code ≤ 0x20) || code == 0x85 || code == 0xA0 ||
    code == 0x1680 || (0x2000 ≤ code && code ≤ 0x200A) || code == 0x2028 || code == 0x2029 ||
    code == 0x202F || code == 0x205F || code == 0x3000

def trimLeft (text : List Char) : List Char :=
  text.dropWhile isBlank

def trimRight (text : List Char) : List Char :=
  (text.reverse.dropWhile isBlank).reverse

def trim (text : List Char) : List Char :=
  trimRight (trimLeft text)

theorem trimLeft_append {blanks : List Char} (blank : ∀ c ∈ blanks, isBlank c = true)
    (text : List Char) : trimLeft (blanks ++ text) = trimLeft text :=
  List.dropWhile_append_of_pos blank

theorem trimRight_append {blanks : List Char} (blank : ∀ c ∈ blanks, isBlank c = true)
    (text : List Char) : trimRight (text ++ blanks) = trimRight text := by
  have reversed : ∀ c ∈ blanks.reverse, isBlank c = true := fun c member =>
    blank c (List.mem_reverse.mp member)
  simp only [trimRight, List.reverse_append, List.dropWhile_append_of_pos reversed]

def isAllBlank (text : List Char) : Bool :=
  text.all isBlank

/-- The lower-case form as far as ASCII letters go. No other character has a lower-case form made of
the letters of the words it is compared with. -/
def lower (text : List Char) : List Char :=
  text.map Char.toLower

/-- Letters without regard to case. Beyond ASCII the long s is the one character that folds to a
part of the words that folded texts are compared with. -/
def foldCase (text : List Char) : List Char :=
  text.map fun c => if c = '\u017f' then 's' else c.toLower

end DataGate.Text
