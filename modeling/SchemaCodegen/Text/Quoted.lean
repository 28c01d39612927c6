import SchemaCodegen.Text.Graphic

/-!
# Quoted texts in messages

A message shows an offending text between double quotes. Quotes, backslashes and the four
common controls are written as two-character escapes, every other character that is not graphic
as its number in braces, and all else as itself.
-/

namespace SchemaCodegen.Text

def hexDigits (n : Nat) : List Char := Nat.toDigits 16 n

def quotedChar (c : Char) : List Char :=
  match c with
  | '"' => ['\\', '"']
  | '\\' => ['\\', '\\']
  | '\n' => ['\\', 'n']
  | '\r' => ['\\', 'r']
  | '\t' => ['\\', 't']
  | c =>
    if c.toNat = 0 then ['\\', '0']
    else if isGraphic c then [c]
    else ['\\', 'u', '{'] ++ hexDigits c.toNat ++ ['}']

/-- `s` as a message shows it. -/
def quoted (s : String) : String :=
  String.ofList ('"' :: s.toList.flatMap quotedChar ++ ['"'])

end SchemaCodegen.Text
