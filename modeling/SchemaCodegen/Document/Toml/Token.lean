import SchemaCodegen.Document.Toml.Scalar
import SchemaCodegen.Text.Search

/-!
# TOML tokens

A TOML text is a sequence of marks, quoted texts, words and line ends. Blanks between tokens and
comments leave no token behind. There are four kinds of quoted texts: with escapes or without, on
one line or on several. A carriage return may only stand before a line feed, and no other control
character but the tab may stand anywhere.
-/

namespace SchemaCodegen.Document.Toml

open SchemaCodegen.Number SchemaCodegen.Text

inductive Lexeme where
  /-- One of `[`, `]`, `{`, `}`, `,`, `.` and `=`. -/
  | mark (c : Char)
  | text (content : String) (multiLine : Bool)
  | word (chars : List Char)
  | lineEnd
deriving DecidableEq, Repr

structure Token where
  lexeme : Lexeme
  span : Span
deriving DecidableEq, Repr

def isSpace (c : Char) : Bool := c == ' ' || c == '\t'

def isMark (c : Char) : Bool :=
  c == '[' || c == ']' || c == '\x7b' || c == '\x7d' || c == ',' || c == '.' || c == '='

/-- Whether `c` may stand in comments and quoted texts on one line. -/
def isPlain (c : Char) : Bool := c == '\t' || (decide (0x20 ≤ c.toNat) && c.toNat != 0x7F)

/-- Whether `c` may stand in a word after its first character. -/
def isWordChar (c : Char) : Bool :=
  !isSpace c && !isMark c && c != '#' && c != '\n' && c != '\r'

/-- The number of characters of the line end at the start of a text. -/
def lineEndLength? : List Char → Option Nat
  | '\n' :: _ => some 1
  | '\r' :: '\n' :: _ => some 2
  | _ => none

/-! ## Texts -/

/-- The character of a number, unless it is half of a surrogate pair or too large. -/
def charOf? (n : Nat) : Option Char :=
  if h : n.isValidChar then some (Char.ofNatAux n h) else none

def numbered? (digits : Nat) (cs : List Char) : Option (Char × Nat) :=
  if cs.length < digits then none
  else ((baseNumber? 16 (cs.take digits)).bind charOf?).map (·, digits + 1)

/-- What the text after a backslash stands for, and how many of its characters do so. -/
def escape? : List Char → Option (Char × Nat)
  | 'b' :: _ => some ('\x08', 1)
  | 't' :: _ => some ('\t', 1)
  | 'n' :: _ => some ('\n', 1)
  | 'f' :: _ => some ('\x0c', 1)
  | 'r' :: _ => some ('\r', 1)
  | 'e' :: _ => some ('\x1b', 1)
  | '"' :: _ => some ('"', 1)
  | '\\' :: _ => some ('\\', 1)
  | 'x' :: cs => numbered? 2 cs
  | 'u' :: cs => numbered? 4 cs
  | 'U' :: cs => numbered? 8 cs
  | _ => none

/-- What a scanner found, and how many characters it took. -/
abbrev Scan := Option (List Char × Nat)

/-- Puts what `count` characters stand for before what follows them. -/
def Scan.after (found : List Char) (count : Nat) (rest : Scan) : Scan :=
  rest.map fun (content, taken) => (found ++ content, count + taken)

/-- A text without escapes on one line, up to its quote. -/
def rawText : List Char → Scan
  | [] => none
  | c :: cs =>
    if c = '\'' then some ([], 1)
    else if isPlain c then Scan.after [c] 1 (rawText cs)
    else none

/-- A text with escapes on one line, up to its quote. -/
def escapedText : List Char → Scan
  | [] => none
  | c :: cs =>
    if c = '"' then some ([], 1)
    else if c = '\\' then
      match escape? cs with
      | some (d, count) => Scan.after [d] (count + 1) (escapedText (cs.drop count))
      | none => none
    else if isPlain c then Scan.after [c] 1 (escapedText cs)
    else none
termination_by cs => cs.length
decreasing_by all_goals simp only [List.length_drop, List.length_cons]; omega

/-- The end of a text on several lines: three quotes, and up to two more before them that belong to
the text. -/
def longEnd? (quote : Char) (cs : List Char) : Scan :=
  let count := min (cs.takeWhile (· == quote)).length 5
  if count < 3 then none else some (List.replicate (count - 3) quote, count)

def longChar? (c : Char) (cs : List Char) : Option (List Char × Nat) :=
  if isPlain c then some ([c], 0)
  else
    match lineEndLength? (c :: cs) with
    | some count => some ((c :: cs).take count, count - 1)
    | none => none

/-- A text without escapes on several lines, up to its quotes. -/
def longRawText : List Char → Scan
  | [] => none
  | c :: cs =>
    match longEnd? '\'' (c :: cs), longChar? c cs with
    | some found, _ => some found
    | none, some (found, more) => Scan.after found (more + 1) (longRawText (cs.drop more))
    | none, none => none
termination_by cs => cs.length
decreasing_by simp only [List.length_drop, List.length_cons]; omega

/-- How many blanks and line ends stand at the start of a text. -/
def gapLength : List Char → Option Nat
  | [] => some 0
  | '\r' :: '\n' :: cs => (gapLength cs).map (· + 2)
  | c :: cs =>
    if isSpace c || c == '\n' then (gapLength cs).map (· + 1)
    else if c == '\r' then none
    else some 0

/-- The length of a gap that a backslash at the end of a line opens: blanks up to the line end, and
all blanks and line ends after it. -/
def lineGapLength? (cs : List Char) : Option Nat :=
  match lineEndLength? (cs.dropWhile isSpace) with
  | some _ => gapLength cs
  | none => none

/-- A text with escapes on several lines, up to its quotes. -/
def longEscapedText : List Char → Scan
  | [] => none
  | c :: cs =>
    if c = '\\' then
      match lineGapLength? cs, escape? cs with
      | some gap, _ => Scan.after [] (gap + 1) (longEscapedText (cs.drop gap))
      | none, some (d, count) => Scan.after [d] (count + 1) (longEscapedText (cs.drop count))
      | none, none => none
    else
      match longEnd? '"' (c :: cs), longChar? c cs with
      | some found, _ => some found
      | none, some (found, more) => Scan.after found (more + 1) (longEscapedText (cs.drop more))
      | none, none => none
termination_by cs => cs.length
decreasing_by all_goals simp only [List.length_drop, List.length_cons]; omega

/-- A text on several lines after its opening quotes: a line end right after them is no part of
it. -/
def longText (scan : List Char → Scan) (cs : List Char) : Option (Lexeme × Nat) :=
  let skipped := (lineEndLength? cs).getD 0
  (scan (cs.drop skipped)).map fun (content, count) =>
    (.text (String.ofList content) true, skipped + count + 2)

def quotedText (quote : Char) (short long : List Char → Scan) (cs : List Char) :
    Option (Lexeme × Nat) :=
  match cs with
  | c :: d :: rest =>
    if c = quote ∧ d = quote then longText long rest
    else (short cs).map fun (content, count) => (.text (String.ofList content) false, count)
  | _ => (short cs).map fun (content, count) => (.text (String.ofList content) false, count)

/-! ## Words and comments -/

/-- Whether a word is as long as a date and looks like one. -/
def looksDated : List Char → Bool
  | [a, b, c, d, '-', e, f, '-', g, h] => [a, b, c, d, e, f, g, h].all isDigit
  | _ => false

/-- The number of characters of a word. A date and a time with one space between them are one
word. -/
def wordLength (cs : List Char) : Nat :=
  let word := cs.takeWhile isWordChar
  match cs.drop word.length with
  | ' ' :: c :: rest =>
    if looksDated word && isDigit c then word.length + 1 + ((c :: rest).takeWhile isWordChar).length
    else word.length
  | _ => word.length

def commentLength? : List Char → Option Nat
  | [] => some 0
  | c :: cs =>
    if isPlain c then (commentLength? cs).map (· + 1)
    else (lineEndLength? (c :: cs)).map fun _ => 0

/-! ## Tokens -/

/-- The lexeme that starts with `c`, if any, and the number of characters of `cs` that are read
with it. -/
def lexeme (c : Char) (cs : List Char) : Option (Option Lexeme × Nat) :=
  if isSpace c then some (none, 0)
  else if isMark c then some (some (.mark c), 0)
  else if c = '#' then (commentLength? cs).map (none, ·)
  else if c = '"' then
    (quotedText c escapedText longEscapedText cs).map fun (found, count) => (some found, count)
  else if c = '\'' then
    (quotedText c rawText longRawText cs).map fun (found, count) => (some found, count)
  else
    match lineEndLength? (c :: cs) with
    | some count => some (some .lineEnd, count - 1)
    | none =>
      let count := wordLength (c :: cs)
      if count = 0 then none else some (some (.word ((c :: cs).take count)), count - 1)

def tokens (place : Nat) : List Char → Option (List Token)
  | [] => some []
  | c :: cs =>
    match lexeme c cs with
    | none => none
    | some (found, count) =>
      let width := byteCount (c :: cs.take count)
      let more := tokens (place + width) (cs.drop count)
      match found with
      | none => more
      | some found => more.map (⟨found, ⟨place, width⟩⟩ :: ·)
termination_by cs => cs.length
decreasing_by simp only [List.length_drop, List.length_cons]; omega

end SchemaCodegen.Document.Toml
