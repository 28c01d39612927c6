import SchemaCodegen.CommandLine.Outcome

/-!
# Stores

A store is a directory with the files below it, as a value. Directories exist as far as files need
them. Running a command on a store gives its ending and the store afterwards.
-/

namespace SchemaCodegen.CommandLine

/-- What a file holds: a text, or bytes that are no text. -/
inductive Content where
  | text (s : String)
  | bytes (data : List UInt8)
deriving DecidableEq, Repr

/-- The files of a directory under their names' parts. -/
structure Store where
  files : List (List String × Content)
deriving DecidableEq, Repr

namespace Store

/-- The parts of a path between slashes, empty ones included. -/
def pathParts : List Char → List (List Char)
  | [] => [[]]
  | c :: cs =>
    if c = '/' then [] :: pathParts cs
    else
      match pathParts cs with
      | [] => [[c]]
      | part :: parts => (c :: part) :: parts

/-- Whether the parts name a directory: the root, or a directory above some file. -/
def isDirectory (s : Store) (parts : List String) : Bool :=
  parts.isEmpty || s.files.any fun file => parts.isPrefixOf file.1 && file.1 != parts

/-- Follows path parts from a directory. Only directories can be passed through, and nothing above
the root can be reached. -/
def walk (s : Store) : List String → List String → Option (List String)
  | here, [] => some here
  | here, part :: rest =>
    if !s.isDirectory here then none
    else if part = "" ∨ part = "." then walk s here rest
    else if part = ".." then
      if here.isEmpty then none else walk s here.dropLast rest
    else walk s (here ++ [part]) rest

/-- The name that a relative path leads to. -/
def resolve (s : Store) (path : String) : Option (List String) :=
  match path.toList with
  | [] | '/' :: _ => none
  | cs => s.walk [] ((pathParts cs).map String.ofList)

def content? (s : Store) (path : String) : Option Content :=
  (s.resolve path).bind fun name => s.files.lookup name

def text? (s : Store) (path : String) : Option String :=
  match s.content? path with
  | some (.text text) => some text
  | _ => none

/-- The files with one under a name added or replaced. -/
def put (name : List String) (content : Content) :
    List (List String × Content) → List (List String × Content)
  | [] => [(name, content)]
  | file :: rest => if file.1 = name then (name, content) :: rest else file :: put name content rest

/-- The store after a text is written to a path, if that is possible: the directory must exist, and
the path must not lead to a directory. -/
def write? (s : Store) (path text : String) : Option Store :=
  match s.resolve path with
  | none => none
  | some name => if s.isDirectory name then none else some ⟨put name (.text text) s.files⟩

def perform (s : Store) : Effect → Ending × Store
  | .print text => (⟨0, text, ""⟩, s)
  | .fail failure => (.failed failure, s)
  | .save path text report =>
    match s.write? path text with
    | some saved => (⟨0, report, ""⟩, saved)
    | none => (.failed (.write path), s)

/-- Runs the program with arguments. Without a manual, nothing is shown where it would be. -/
def run (s : Store) (arguments : List String) (manual : Manual := .blank) : Ending × Store :=
  match readArguments arguments with
  | .run command => s.perform (command.effect manual s.text?)
  | .help => (⟨0, manual.usage, ""⟩, s)
  | .version => (⟨0, versionText, ""⟩, s)
  | .misuse => (⟨2, "", manual.usage⟩, s)

end Store

end SchemaCodegen.CommandLine
