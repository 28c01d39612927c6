import SchemaCodegen.CommandLine.Arguments
import SchemaCodegen.CommandLine.Report

/-!
# Outcomes of commands

What a command does, given the texts of the files that it reads. A command either prints a text,
writes one file and prints a report on it, or fails without doing anything.
-/

namespace SchemaCodegen.CommandLine

open Document

inductive Failure where
  | read (error : ReadError)
  | generation (error : GenerationError)
  /-- The output file cannot be written. -/
  | write (path : String)
deriving DecidableEq, Repr

def Failure.message : Failure → String
  | read error => error.message
  | generation error => error.message
  | write path => "Failed to write '" ++ path ++ "'"

inductive Effect where
  | print (text : String)
  /-- Writes a file, then prints a report. -/
  | save (path text report : String)
  | fail (failure : Failure)
deriving DecidableEq, Repr

def Command.inputs : Command → List String
  | generate request schema _ => [request, schema]
  | list schema => schema.toList
  | completions _ => []

def sourceAt (texts : String → Option String) (path : String) : Except ReadError Source :=
  match texts path with
  | some text => .ok ⟨path, text⟩
  | none => .error (.noText path)

/-- The request in a file, whose name tells the format. -/
def requestAt (texts : String → Option String) (path : String) : Except ReadError Request :=
  match sourceAt texts path with
  | .ok source => Request.ofSource source (Format.ofPath path)
  | .error failure => .error failure

def schemaAt (texts : String → Option String) (path : String) : Except ReadError Schema :=
  match sourceAt texts path with
  | .ok source => Schema.ofSource source
  | .error failure => .error failure

def generateEffect (texts : String → Option String) (request schema : String)
    (output : Option String) : Effect :=
  match requestAt texts request with
  | .error failure => .fail (.read failure)
  | .ok r =>
    match schemaAt texts schema with
    | .error failure => .fail (.read failure)
    | .ok s =>
      match (r.run s.provider).result, output with
      | .error failure, _ => .fail (.generation failure)
      | .ok generated, none => .print generated.text
      | .ok generated, some path =>
        .save path generated.text (reportText (generatedReport path generated))

/-- Lists the targets, and the tables of a schema. -/
def listEffect (texts : String → Option String) : Option String → Effect
  | none => .print (reportText targetsReport)
  | some path =>
    match schemaAt texts path with
    | .error failure => .fail (.read failure)
    | .ok s => .print (reportText (targetsReport ++ schemaReport path s))

/-- What the program shows of its own use. These texts are written elsewhere. -/
structure Manual where
  usage : String
  /-- The script that makes a shell complete arguments. -/
  completions : Shell → String

def Manual.blank : Manual := ⟨"", fun _ => ""⟩

def Command.effect (manual : Manual) (texts : String → Option String) : Command → Effect
  | generate request schema output => generateEffect texts request schema output
  | list schema => listEffect texts schema
  | completions shell => .print (manual.completions shell)

/-- The program's name and version. -/
def versionText : String := "typegen 0.3.0\n"

/-- How a run of the program ends. -/
structure Ending where
  exit : Nat
  stdout : String
  stderr : String
deriving DecidableEq, Repr

def Ending.failed (failure : Failure) : Ending := ⟨1, "", failure.message ++ "\n"⟩

end SchemaCodegen.CommandLine
