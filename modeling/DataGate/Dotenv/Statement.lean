import DataGate.Text.Blank

/-!
Files of variable assignments, one statement `NAME = value` a line. `export` may stand before the
name. A quoted name or value may run over several lines; nothing but a comment may follow it on its
last line. A line that is no statement is passed over, and reading goes on with the next line.
-/

namespace DataGate.Dotenv

open Text

/-- A name that stands alone has no value. -/
structure Statement where
  name : String
  value : Option String
  deriving DecidableEq, Repr

def isLineEnd (c : Char) : Bool :=
  c == '\n' || c == '\r'

def isInnerBlank (c : Char) : Bool :=
  isBlank c && !isLineEnd c

def skipBlanks (text : List Char) : List Char :=
  text.dropWhile isInnerBlank

def line (text : List Char) : List Char :=
  text.takeWhile (!isLineEnd ·)

def afterLine (text : List Char) : List Char :=
  (text.dropWhile (!isLineEnd ·)).tail

def skipExport (text : List Char) : List Char :=
  match text with
  | 'e' :: 'x' :: 'p' :: 'o' :: 'r' :: 't' :: blank :: rest =>
      if isInnerBlank blank then skipBlanks rest else text
  | _ => text

/-- What a backslash and the character after it stand for. Single quotes know two escapes only. A
pair that is no escape stands for itself. -/
def unescape (quote c : Char) : List Char :=
  if c = '\\' ∨ c = '\x27' then [c]
  else if quote = '\x27' then ['\\', c]
  else match c with
    | '"' => ['"']
    | 'a' => ['\x07']
    | 'b' => ['\x08']
    | 'f' => ['\x0c']
    | 'n' => ['\n']
    | 'r' => ['\r']
    | 't' => ['\t']
    | 'v' => ['\x0b']
    | _ => ['\\', c]

/-- The text before the closing quote and what follows the quote. A quote after a backslash does not
close, unless it is the last one there is; then the backslash stands for itself. -/
def quoted? (quote : Char) : List Char → Option (List Char × List Char)
  | [] => none
  | '\\' :: c :: rest =>
      match quoted? quote rest with
      | some (text, after) => some (unescape quote c ++ text, after)
      | none => if c = quote then some (['\\'], rest) else none
  | c :: rest =>
      if c = quote then some ([], rest)
      else (quoted? quote rest).map fun (text, after) => (c :: text, after)

def isNameChar (c : Char) : Bool :=
  c != '=' && c != '#' && !isBlank c

/-- The name at the front of a text and what follows it. A quoted name is taken as it stands. -/
def name? (text : List Char) : Option (List Char × List Char) :=
  match text with
  | '\x27' :: rest =>
      match rest.takeWhile (· != '\x27'), rest.dropWhile (· != '\x27') with
      | first :: name, _ :: after => some (first :: name, after)
      | _, _ => none
  | _ =>
      match text.takeWhile isNameChar with
      | [] => none
      | name => some (name, text.dropWhile isNameChar)

/-- A comment in an unquoted value needs a blank before it. -/
def cutComment : List Char → List Char
  | [] => []
  | c :: rest => if isBlank c && rest.head? == some '#' then [] else c :: cutComment rest

/-- The value behind an equals sign and what follows it. -/
def value? (text : List Char) : Option (List Char × List Char) :=
  match skipBlanks text with
  | '"' :: rest => quoted? '"' rest
  | '\x27' :: rest => quoted? '\x27' rest
  | _ => some (trim (cutComment (line text)), text.dropWhile (!isLineEnd ·))

/-- Nothing but a comment is left on the line. -/
def isFinished (text : List Char) : Bool :=
  (skipBlanks text).head?.all fun c => c == '#' || isLineEnd c

/-- The statement at the front of a text, if there is one, and a rest of its last line. -/
def statement (text : List Char) : Option Statement × List Char :=
  let body := skipExport text
  match name? body with
  | none => (none, body)
  | some (name, after) =>
      match skipBlanks after with
      | '=' :: rest =>
          match value? rest with
          | none => (none, rest)
          | some (value, after) =>
              let found := { name := String.ofList name, value := some (String.ofList value) }
              (if isFinished after then some found else none, after)
      | after =>
          let found := { name := String.ofList name, value := none }
          (if isFinished after then some found else none, after)

theorem length_skipBlanks_le (text : List Char) : (skipBlanks text).length ≤ text.length :=
  (List.dropWhile_sublist _).length_le

theorem length_skipExport_le (text : List Char) : (skipExport text).length ≤ text.length := by
  unfold skipExport
  split
  · split
    · have inner := length_skipBlanks_le ‹List Char›
      simp only [List.length_cons]
      omega
    · exact Nat.le_refl _
  · exact Nat.le_refl _

theorem length_lt_of_quoted? {quote : Char} {text shown after : List Char}
    (read : quoted? quote text = some (shown, after)) : after.length < text.length := by
  fun_induction quoted? quote text generalizing shown after with
  | case1 => simp at read
  | case2 c rest inner left found ih =>
      cases read
      have shorter := ih found
      simp only [List.length_cons]
      omega
  | case3 rest _ _ =>
      cases read
      simp only [List.length_cons]
      omega
  | case4 => simp at read
  | case5 c rest =>
      cases read
      simp
  | case6 c rest _ _ ih =>
      obtain ⟨⟨inner, left⟩, found, same⟩ := Option.map_eq_some_iff.mp read
      cases same
      have shorter := ih found
      simp only [List.length_cons]
      omega

theorem length_le_of_value? {text value after : List Char}
    (read : value? text = some (value, after)) : after.length ≤ text.length := by
  have blanks := length_skipBlanks_le text
  unfold value? at read
  split at read
  · have shorter := length_lt_of_quoted? read
    simp_all only [List.length_cons]
    omega
  · have shorter := length_lt_of_quoted? read
    simp_all only [List.length_cons]
    omega
  · cases read
    exact (List.dropWhile_sublist _).length_le

theorem length_le_of_name? {text name after : List Char}
    (read : name? text = some (name, after)) : after.length ≤ text.length := by
  unfold name? at read
  split at read
  · next rest =>
      have remaining := (List.dropWhile_sublist (· != '\x27') (l := rest)).length_le
      split at read
      · next first name last left quoted closed =>
          cases read
          rw [closed] at remaining
          simp only [List.length_cons] at remaining ⊢
          omega
      · simp at read
  · split at read
    · simp at read
    · cases read
      exact (List.dropWhile_sublist _).length_le

theorem length_statement_le (text : List Char) : (statement text).2.length ≤ text.length := by
  have body := length_skipExport_le text
  simp only [statement]
  split
  · exact body
  · next name after named =>
      have named := length_le_of_name? named
      have blanks := length_skipBlanks_le after
      split
      · next rest equals =>
          rw [equals] at blanks
          simp only [List.length_cons] at blanks
          split
          · simp only
            omega
          · next value left valued =>
              have valued := length_le_of_value? valued
              simp only
              omega
      · simp only
        omega

theorem length_afterLine_lt {text : List Char} (more : text ≠ []) :
    (afterLine text).length < text.length := by
  have shorter := (List.dropWhile_sublist (!isLineEnd ·) (l := text)).length_le
  have some : 0 < text.length := List.length_pos_iff.mpr more
  simp only [afterLine, List.length_tail]
  omega

theorem length_afterLine_statement_lt {text rest : List Char} {first : Char}
    (found : trimLeft text = first :: rest) :
    (afterLine (statement (first :: rest)).2).length < text.length := by
  have within := length_statement_le (first :: rest)
  have trimmed : (trimLeft text).length ≤ text.length := (List.dropWhile_sublist _).length_le
  rw [found] at trimmed
  by_cases ended : (statement (first :: rest)).2 = []
  · rw [ended]
    simp only [List.length_cons] at trimmed
    simp only [afterLine, List.dropWhile_nil, List.tail_nil, List.length_nil]
    omega
  · have line := length_afterLine_lt ended
    omega

/-- The statements of a text in their order. -/
def statements (text : List Char) : List Statement :=
  match found : trimLeft text with
  | [] => []
  | first :: rest =>
      have := length_afterLine_statement_lt found
      (statement (first :: rest)).1.toList ++
        statements (afterLine (statement (first :: rest)).2)
termination_by text.length

/-- Every line end as a line feed. A file is read that way. -/
def unifyLineEnds : List Char → List Char
  | '\r' :: '\n' :: rest => '\n' :: unifyLineEnds rest
  | '\r' :: rest => '\n' :: unifyLineEnds rest
  | c :: rest => c :: unifyLineEnds rest
  | [] => []

/-- A byte order mark at the start of a file is no part of its text. -/
def ofFile (file : String) : List Statement :=
  match unifyLineEnds file.toList with
  | '\ufeff' :: text => statements text
  | text => statements text

end DataGate.Dotenv
