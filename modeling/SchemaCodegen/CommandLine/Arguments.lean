/-!
# Command line arguments

Arguments are read from left to right, and the first one that settles the matter does so: a request
for help or the version wins over any mistake after it, and loses to any mistake before it. Options
take a value from the same argument or the next one, which must then not look like an option; none
may be given twice, and no value may be empty. After `--` everything is a value.
-/

namespace SchemaCodegen.CommandLine

inductive Shell where
  | bash
  | elvish
  | fish
  | powershell
  | zsh
deriving DecidableEq, Repr

def Shell.ofName? (name : String) : Option Shell :=
  [("bash", bash), ("elvish", elvish), ("fish", fish), ("powershell", powershell),
    ("zsh", zsh)].lookup name

inductive Command where
  | generate (request schema : String) (output : Option String)
  | list (schema : Option String)
  | completions (shell : Shell)
deriving DecidableEq, Repr

inductive Invocation where
  | run (command : Command)
  | help
  | version
  | misuse
deriving DecidableEq, Repr

/-- The first argument that is no option. -/
inductive Verb where
  | generate
  | list
  | completions
deriving DecidableEq, Repr

def Verb.ofName? (name : String) : Option Verb :=
  [("generate", generate), ("list", list), ("completions", completions)].lookup name

inductive Parameter where
  | schema
  | output
deriving DecidableEq, Repr

def Verb.parameters : Verb → List Parameter
  | generate => [.schema, .output]
  | list => [.schema]
  | completions => []

/-- How many values a verb takes besides those of options. -/
def Verb.valueCount : Verb → Nat
  | generate | completions => 1
  | list => 0

def Parameter.long : Parameter → String
  | schema => "schema"
  | output => "output"

def Parameter.letter : Parameter → Char
  | schema => 's'
  | output => 'o'

/-- What has been given after a verb. -/
structure Given where
  values : List String
  schema : Option String
  output : Option String
deriving DecidableEq, Repr

namespace Given

/-- Adds the value of an option, once. -/
def setParameter (g : Given) (p : Parameter) (value : String) : Option Given :=
  if value.isEmpty then none
  else
    match p with
    | .schema => if g.schema.isSome then none else some { g with schema := some value }
    | .output => if g.output.isSome then none else some { g with output := some value }

def addValue (g : Given) (verb : Verb) (value : String) : Option Given :=
  if value.isEmpty || decide (verb.valueCount ≤ g.values.length) then none
  else if verb = .completions ∧ Shell.ofName? value = none then none
  else some { g with values := g.values ++ [value] }

/-- The command, if nothing is missing. -/
def command? (g : Given) : Verb → Option Command
  | .generate =>
    g.values.head?.map fun request => .generate request (g.schema.getD "schema.toml") g.output
  | .list => some (.list g.schema)
  | .completions => (g.values.head?.bind Shell.ofName?).map .completions

end Given

inductive Reading where
  /-- Nothing that changes the command. -/
  | nothing
  | parameter (p : Parameter) (value : String)
  /-- An option whose value is the next argument. -/
  | awaits (p : Parameter)
  | value (text : String)
  /-- Everything after it is a value. -/
  | valuesOnly
  | settled (outcome : Invocation)
deriving DecidableEq, Repr

/-- Reads the letters of an argument; `allowsVersion` holds before the verb. -/
def readLetters (parameters : List Parameter) (allowsVersion : Bool) : List Char → Reading
  | [] => .nothing
  | c :: rest =>
    -- flags may stand together, and an option only at the end: what follows it is its value
    if c = 'v' then readLetters parameters allowsVersion rest
    else if c = 'h' then .settled .help
    else if c = 'V' ∧ allowsVersion then .settled .version
    else
      match parameters.find? (·.letter == c), rest with
      | none, _ => .settled .misuse
      | some p, [] => .awaits p
      | some p, '=' :: value => .parameter p (String.ofList value)
      | some p, value => .parameter p (String.ofList value)

/-- Reads an argument that starts with two dashes, which are left out. -/
def readLong (parameters : List Parameter) (allowsVersion : Bool) (cs : List Char) : Reading :=
  let name := String.ofList (cs.takeWhile (· != '='))
  match parameters.find? (·.long == name), cs.dropWhile (· != '=') with
  | some p, [] => .awaits p
  | some p, _ :: value => .parameter p (String.ofList value)
  | none, [] =>
    if name = "verbose" then .nothing
    else if name = "help" then .settled .help
    else if name = "version" ∧ allowsVersion then .settled .version
    else .settled .misuse
  | none, _ => .settled .misuse

/-- Reads an argument. A single dash is a value. -/
def readArgument (parameters : List Parameter) (allowsVersion : Bool) (argument : String) :
    Reading :=
  match argument.toList with
  | ['-', '-'] => .valuesOnly
  | '-' :: '-' :: cs => readLong parameters allowsVersion cs
  | '-' :: c :: cs => readLetters parameters allowsVersion (c :: cs)
  | _ => .value argument

/-- Whether an argument cannot be the value of an option before it. -/
def looksLikeOption (argument : String) : Bool :=
  match argument.toList with
  | '-' :: _ :: _ => true
  | _ => false

def addValues (verb : Verb) (g : Given) : List String → Option Given
  | [] => some g
  | value :: rest => (g.addValue verb value).bind (addValues verb · rest)

def invocationOf (verb : Verb) (g : Option Given) : Invocation :=
  match g.bind (·.command? verb) with
  | some command => .run command
  | none => .misuse

def readAfter (verb : Verb) (g : Given) : List String → Invocation
  | [] => invocationOf verb (some g)
  | argument :: rest =>
    match readArgument verb.parameters false argument with
    | .nothing => readAfter verb g rest
    | .settled outcome => outcome
    | .valuesOnly => invocationOf verb (addValues verb g rest)
    | .value text =>
      match g.addValue verb text with
      | some g => readAfter verb g rest
      | none => .misuse
    | .parameter p value =>
      match g.setParameter p value with
      | some g => readAfter verb g rest
      | none => .misuse
    | .awaits p =>
      match rest with
      | [] => .misuse
      | value :: rest =>
        if looksLikeOption value then .misuse
        else
          match g.setParameter p value with
          | some g => readAfter verb g rest
          | none => .misuse

/-- Reads the names after `help`: those of one verb at most. -/
def readHelp : List String → Invocation
  | [] => .help
  | [name] => if name = "help" ∨ (Verb.ofName? name).isSome then .help else .misuse
  | _ => .misuse

def readArguments : List String → Invocation
  | [] => .misuse
  | argument :: rest =>
    match readArgument [] true argument with
    | .nothing => readArguments rest
    | .settled outcome => outcome
    | .value name =>
      if name = "help" then readHelp rest
      else
        match Verb.ofName? name with
        | some verb => readAfter verb ⟨[], none, none⟩ rest
        | none => .misuse
    | _ => .misuse

end SchemaCodegen.CommandLine
