import SchemaCodegen.Document.Toml.Assembly
import SchemaCodegen.Document.Toml.Token

/-!
# TOML statements

A document is a sequence of lines, each of them empty, a header or a setting. Within a setting's
value, brackets and braces may go over several lines: what they hold waits on a stack until they
are closed, and is then a value itself.
-/

namespace SchemaCodegen.Document.Toml

open SchemaCodegen.Text

/-- The largest number of brackets and braces inside one another, and of keys in a path. -/
def maxDepth : Nat := 80

/-- A part of a line: a token, or the value of closed brackets or braces. -/
inductive Part where
  | token (t : Token)
  | value (n : Node)
deriving Repr

def isKeyChar (c : Char) : Bool :=
  ('a' ≤ c && c ≤ 'z') || ('A' ≤ c && c ≤ 'Z') || SchemaCodegen.Number.isDigit c || c == '_' ||
    c == '-'

def keyOf? : Part → Option Key
  | .token ⟨.word chars, span⟩ =>
    if chars.all isKeyChar then some ⟨String.ofList chars, span, span.stop⟩ else none
  | .token ⟨.text content false, span⟩ => some ⟨content, span, span.stop⟩
  | _ => none

def isMarkPart (c : Char) : Part → Bool
  | .token ⟨.mark d, _⟩ => c == d
  | _ => false

def isLineEndPart : Part → Bool
  | .token ⟨.lineEnd, _⟩ => true
  | _ => false

/-- Keys with a point between any two. -/
def keysOf? : List Part → Option (List Key)
  | [] => none
  | [part] => (keyOf? part).map ([·])
  | part :: point :: rest =>
    if isMarkPart '.' point then
      match keyOf? part, keysOf? rest with
      | some key, some path => some (key :: path)
      | _, _ => none
    else none

/-- The path that parts spell, unless it is too long. -/
def pathOf? (parts : List Part) : Option (List Key) :=
  (keysOf? parts).filter fun path => decide (path.length ≤ maxDepth)

/-! ## Values -/

/-- The characters of words and points that follow one another without a gap, up to the place where
the last one ends. -/
def joinedWords? (place : Nat) : List Part → Option (List Char × Nat)
  | [] => some ([], place)
  | .token ⟨.word chars, span⟩ :: rest =>
    if span.start = place then
      (joinedWords? span.stop rest).map fun (more, stop) => (chars ++ more, stop)
    else none
  | .token ⟨.mark '.', span⟩ :: rest =>
    if span.start = place then
      (joinedWords? span.stop rest).map fun (more, stop) => ('.' :: more, stop)
    else none
  | _ => none

def valueOf? : List Part → Option Node
  | [.value n] => some n
  | [.token ⟨.text content _, span⟩] => some (.scalar span (.text content))
  | .token t :: rest =>
    (joinedWords? t.span.start (.token t :: rest)).bind fun (chars, stop) =>
      (scalarOf? chars).map (.scalar ⟨t.span.start, stop - t.span.start⟩)
  | _ => none

def trimLineEnds (parts : List Part) : List Part :=
  ((parts.dropWhile isLineEndPart).reverse.dropWhile isLineEndPart).reverse

/-- The setting that parts spell: a path, an equals sign and a value. Between braces they may stand
on several lines. -/
def settingOf? (parts : List Part) : Option Setting :=
  match parts.dropWhile (!isMarkPart '=' ·) with
  | [] => none
  | _ :: value =>
    match pathOf? (trimLineEnds (parts.takeWhile (!isMarkPart '=' ·))),
      valueOf? (trimLineEnds value) with
    | some path, some node => some ⟨path, node⟩
    | _, _ => none

def chunks : List Part → List (List Part)
  | [] => [[]]
  | part :: rest =>
    if isMarkPart ',' part then [] :: chunks rest
    else
      match chunks rest with
      | [] => [[part]]
      | chunk :: more => (part :: chunk) :: more

/-- The elements between brackets or braces. A comma may follow the last one. -/
def elements (parts : List Part) : List (List Part) :=
  let trimmed := (chunks parts).map trimLineEnds
  match trimmed.getLast? with
  | some [] => trimmed.dropLast
  | _ => trimmed

/-- The value of brackets, `isTable` being false, or of braces. -/
def closedValue? (isTable : Bool) (span : Span) (parts : List Part) : Option Node :=
  if isTable then
    ((elements parts).mapM settingOf?).bind fun settings =>
      (assembleTable settings).map fun entries => .table span entries
  else ((elements parts).mapM valueOf?).map (.list span)

/-! ## Lines -/

/-- Brackets or braces that are open, and their parts so far, the last one first. -/
structure Open where
  isTable : Bool
  start : Nat
  parts : List Part
deriving Repr

structure Reading where
  /-- The statements so far, the last one first. -/
  statements : List Statement
  /-- The parts of the current line, the last one first. -/
  line : List Part
  /-- Whether the current line has an equals sign. -/
  inValue : Bool
  /-- What is open in the current line. -/
  frames : List Open
deriving Repr

/-- Whether two parts follow one another without a gap. -/
def areAdjacent : Part → Part → Bool
  | .token s, .token t => s.span.stop == t.span.start
  | _, _ => false

def headerOf? (isElement : Bool) (first last : Part) (path : List Part) : Option Statement :=
  match first, last with
  | .token s, .token t =>
    (pathOf? path).map fun keys =>
      .header ⟨isElement, keys, ⟨s.span.start, t.span.stop - s.span.start⟩⟩
  | _, _ => none

/-- The statement of a line that starts with a bracket. -/
def headerLine? (first : Part) (rest : List Part) : Option Statement :=
  match rest, rest.reverse with
  | second :: _, last :: penultimate :: _ =>
    if isMarkPart ']' last then
      if isMarkPart '[' second && areAdjacent first second then
        if isMarkPart ']' penultimate && areAdjacent penultimate last then
          headerOf? true first last (rest.tail.dropLast.dropLast)
        else none
      else headerOf? false first last rest.dropLast
    else none
  | _, _ => none

def statementOf? : List Part → Option Statement
  | [] => none
  | first :: rest =>
    if isMarkPart '[' first then headerLine? first rest
    else (settingOf? (first :: rest)).map .setting

namespace Reading

def start : Reading := ⟨[], [], false, []⟩

def endLine (r : Reading) : Option Reading :=
  match r.line.reverse with
  | [] => some { r with inValue := false }
  | parts => (statementOf? parts).map fun s => ⟨s :: r.statements, [], false, []⟩

/-- Adds a part to what is open, or to the line. -/
def add (r : Reading) (part : Part) : Reading :=
  match r.frames with
  | [] => { r with line := part :: r.line }
  | frame :: rest => { r with frames := { frame with parts := part :: frame.parts } :: rest }

def push (r : Reading) (isTable : Bool) (t : Token) : Option Reading :=
  if r.frames.length < maxDepth then
    some { r with frames := ⟨isTable, t.span.start, []⟩ :: r.frames }
  else none

def close (r : Reading) (isTable : Bool) (t : Token) : Option Reading :=
  match r.frames with
  | [] => none
  | frame :: rest =>
    if frame.isTable = isTable then
      (closedValue? isTable ⟨frame.start, t.span.stop - frame.start⟩ frame.parts.reverse).map
        fun node => { r with frames := rest }.add (.value node)
    else none

def step (r : Reading) (t : Token) : Option Reading :=
  if r.inValue then
    match t.lexeme, r.frames with
    | .mark '[', _ => r.push false t
    | .mark '\x7b', _ => r.push true t
    | .mark ']', _ => r.close false t
    | .mark '\x7d', _ => r.close true t
    -- a line does not end while something is open
    | .lineEnd, [] => r.endLine
    | _, _ => some (r.add (.token t))
  else
    -- before an equals sign brackets belong to a header, and do not nest
    match t.lexeme with
    | .lineEnd => r.endLine
    | .mark '=' => some { r.add (.token t) with inValue := true }
    | _ => some (r.add (.token t))

/-- The statements, if all of the text is read. -/
def statements? (r : Reading) : Option (List Statement) :=
  if r.frames.isEmpty then r.endLine.map (·.statements.reverse) else none

end Reading

def byteOrderMark : Char := '\ufeff'

def sourceTokens (source : String) : Option (List Token) :=
  match source.toList with
  | c :: cs => if c = byteOrderMark then tokens c.utf8Size cs else tokens 0 (c :: cs)
  | [] => some []

def read? (source : String) : Option Node :=
  (sourceTokens source).bind fun ts =>
    (ts.foldlM Reading.step Reading.start).bind fun r =>
      r.statements?.bind fun statements =>
        (assemble statements).map (.table ⟨0, 0⟩)

end SchemaCodegen.Document.Toml
