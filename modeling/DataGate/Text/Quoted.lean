import DataGate.Text.Printable

/-!
Quoted text. A text is enclosed in single quotes, or in double quotes when it holds a single quote
and no double one, so that the choice of quote saves an escape whenever it can. A character without
a visible form is written by its code.
-/

namespace DataGate.Text.Quoted

def hexDigit (value : Nat) : Char :=
  if value < 10 then Char.ofNat ('0'.toNat + value) else Char.ofNat ('a'.toNat + (value - 10))

def hexDigits (width value : Nat) : List Char :=
  (List.range width).reverse.map fun place => hexDigit (value >>> (4 * place) % 16)

/-- A code has the shortest of three widths that holds it. -/
def codeEscape (code : Nat) : List Char :=
  if code < 0x100 then '\\' :: 'x' :: hexDigits 2 code
  else if code < 0x10000 then '\\' :: 'u' :: hexDigits 4 code
  else '\\' :: 'U' :: hexDigits 8 code

def escape (quote c : Char) : List Char :=
  if c = '\\' ∨ c = quote then ['\\', c]
  else if c = '\n' then ['\\', 'n']
  else if c = '\r' then ['\\', 'r']
  else if c = '\t' then ['\\', 't']
  else if isPrintable c then [c]
  else codeEscape c.toNat

def quoteFor (text : List Char) : Char :=
  if '\x27' ∈ text ∧ '"' ∉ text then '"' else '\x27'

def encode (text : List Char) : List Char :=
  let quote := quoteFor text
  quote :: (text.flatMap (escape quote) ++ [quote])

end Quoted

/-- The quoted form of a text. -/
def quoted (text : String) : String :=
  String.ofList (Quoted.encode text.toList)

/-- A list of texts in brackets, each quoted. -/
def quotedList (texts : List String) : String :=
  "[" ++ String.intercalate ", " (texts.map quoted) ++ "]"

end DataGate.Text
