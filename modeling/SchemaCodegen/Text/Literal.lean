/-!
# String literals of generated source

A literal is a text between double quotes in which a few characters are written as an escape.
All three target languages escape the quote and the backslash; Java literals also keep line
breaks and tabs out of the source line.
-/

namespace SchemaCodegen.Text

/-- Escapes the two characters that a literal cannot hold as themselves. -/
def escapeQuote (c : Char) : List Char :=
  match c with
  | '"' => ['\\', '"']
  | '\\' => ['\\', '\\']
  | c => [c]

/-- Escapes as `escapeQuote` does, and line feed, carriage return and tab by their letters. -/
def escapeQuoteOrBreak (c : Char) : List Char :=
  match c with
  | '\n' => ['\\', 'n']
  | '\r' => ['\\', 'r']
  | '\t' => ['\\', 't']
  | c => escapeQuote c

def literalChars (escape : Char → List Char) (cs : List Char) : List Char :=
  '"' :: cs.flatMap escape ++ ['"']

def literal (escape : Char → List Char) (s : String) : String :=
  String.ofList (literalChars escape s.toList)

end SchemaCodegen.Text
