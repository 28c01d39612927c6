import SchemaCodegen.CommandLine.Outcome

/-!
# The program

Reads the files that a command needs, and performs its effect.
-/

namespace SchemaCodegen.CommandLine

/-- The text of a file, if it can be read. -/
def fileText (path : String) : IO (Option String) := do
  try return some (← IO.FS.readFile path)
  catch _ => return none

def finish (e : Ending) : IO UInt32 := do
  IO.print e.stdout
  IO.eprint e.stderr
  return e.exit.toUInt32

def perform : Effect → IO UInt32
  | .print text => finish ⟨0, text, ""⟩
  | .fail failure => finish (.failed failure)
  | .save path text report => do
    try
      IO.FS.writeFile path text
      finish ⟨0, report, ""⟩
    catch _ => finish (.failed (.write path))

def execute (manual : Manual) (command : Command) : IO UInt32 := do
  let texts ← command.inputs.mapM fun path => return (path, ← fileText path)
  perform (command.effect manual fun path => (texts.lookup path).join)

def invoke (manual : Manual) (arguments : List String) : IO UInt32 :=
  match readArguments arguments with
  | .run command => execute manual command
  | .help => finish ⟨0, manual.usage, ""⟩
  | .version => finish ⟨0, versionText, ""⟩
  | .misuse => finish ⟨2, "", manual.usage⟩

end SchemaCodegen.CommandLine

def main (arguments : List String) : IO UInt32 :=
  SchemaCodegen.CommandLine.invoke .blank arguments
