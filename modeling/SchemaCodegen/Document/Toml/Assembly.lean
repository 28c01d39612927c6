import SchemaCodegen.Document.Node

/-!
# Assembling TOML tables

Settings and headers name tables by paths. A table comes into being in one of three ways: written
by a header, implied by a longer header, or made by a dotted key. A header may take over an implied
table once; a dotted key may not reach into a written one. A header in double brackets adds an
element to a list of tables. Values that are written as a whole stay closed.
-/

namespace SchemaCodegen.Document.Toml

open SchemaCodegen.Text

structure Setting where
  path : List Key
  value : Node
deriving Repr

/-- The start of a table's settings. -/
structure Header where
  /-- Whether the table is an element of a list. -/
  isElement : Bool
  path : List Key
  span : Span
deriving Repr

inductive Statement where
  | setting (s : Setting)
  | header (h : Header)
deriving Repr

/-- How a table came into being. -/
inductive Origin where
  | written
  | implied
  | dotted
deriving DecidableEq, Repr

inductive Draft where
  /-- A value that was written as a whole. -/
  | closed (n : Node)
  | table (span : Span) (origin : Origin) (entries : List (Key × Draft))
  /-- A list of tables, the last one first. -/
  | tables (span : Span) (elements : List (Span × List (Key × Draft)))
deriving Repr

abbrev Entries := List (Key × Draft)

mutual

def Draft.node : Draft → Node
  | .closed n => n
  | .table span _ entries => .table span (entryNodes entries)
  | .tables span elements => .list span (elementNodes elements [])

def entryNodes : List (Key × Draft) → List (Key × Node)
  | [] => []
  | (key, draft) :: rest => (key, draft.node) :: entryNodes rest

/-- The tables of a finished list, put before `later` in reverse. -/
def elementNodes : List (Span × List (Key × Draft)) → List Node → List Node
  | [], later => later
  | (span, entries) :: rest, later => elementNodes rest (.table span (entryNodes entries) :: later)

end

namespace Entries

def find? (key : Key) (entries : Entries) : Option Draft :=
  (List.find? (fun entry => entry.1.text == key.text) entries).map (·.2)

/-- The entries with another draft under a key that they have. -/
def replace (key : Key) (draft : Draft) (entries : Entries) : Entries :=
  entries.map fun entry => if entry.1.text == key.text then (entry.1, draft) else entry

def erase (key : Key) (entries : Entries) : Entries :=
  entries.filter fun entry => entry.1.text != key.text

def push (key : Key) (draft : Draft) (entries : Entries) : Entries := entries ++ [(key, draft)]

/-- Changes the table at the end of a path, making the tables on the way that are missing. For
dotted paths these are dotted tables, for headers implied ones. -/
def modify (isDotted : Bool) (change : Origin → Entries → Option Entries) :
    List Key → Origin → Entries → Option Entries
  | [], origin, entries => change origin entries
  | key :: path, _, entries =>
    match entries.find? key with
    | none =>
      let origin := if isDotted then .dotted else .implied
      (modify isDotted change path origin []).map fun inner =>
        entries.push key (.table key.span origin inner)
    | some (.table span origin inner) =>
      -- dotted keys do not reach into a table with a header of its own
      if isDotted && origin == .written then none
      else
        (modify isDotted change path origin inner).map fun inner =>
          entries.replace key (.table span origin inner)
    -- a path through a list of tables goes on in its last one
    | some (.tables span ((place, inner) :: earlier)) =>
      (modify isDotted change path .written inner).map fun inner =>
        entries.replace key (.tables span ((place, inner) :: earlier))
    | some _ => none

/-- Adds a setting. A dotted key ends in a dotted table, and a plain key in any other. -/
def set (s : Setting) (entries : Entries) : Option Entries :=
  match s.path.reverse with
  | [] => none
  | key :: parents =>
    modify (!parents.isEmpty)
      (fun origin inner =>
        if (origin == .dotted) == parents.isEmpty then none
        else if (inner.find? key).isSome then none
        else some (inner.push key (.closed s.value)))
      parents.reverse .written entries

def setAll (entries : Entries) : List Setting → Option Entries
  | [] => some entries
  | s :: rest => (entries.set s).bind (setAll · rest)

/-- Adds a table with its settings under a header's key. -/
def setTable (h : Header) (key : Key) (settings : List Setting) (entries : Entries) :
    Option Entries :=
  match h.isElement, entries.find? key with
  | false, none =>
    (setAll [] settings).map fun inner => entries.push key (.table h.span .written inner)
  -- the table moves to the place of its header
  | false, some (.table _ .implied inner) =>
    (setAll inner settings).map fun inner =>
      (entries.erase key).push key (.table h.span .written inner)
  | true, none =>
    (setAll [] settings).map fun inner => entries.push key (.tables h.span [(h.span, inner)])
  | true, some (.tables span elements) =>
    (setAll [] settings).map fun inner =>
      entries.replace key (.tables span ((h.span, inner) :: elements))
  | _, _ => none

/-- Adds a header's table at the end of its path. -/
def addSection (entries : Entries) (h : Header) (settings : List Setting) : Option Entries :=
  match h.path.reverse with
  | [] => none
  | key :: parents =>
    modify false (fun _ inner => inner.setTable h key settings) parents.reverse .written entries

def addSections (entries : Entries) : List (Header × List Setting) → Option Entries
  | [] => some entries
  | (h, settings) :: rest => (entries.addSection h settings).bind (addSections · rest)

end Entries

/-- The settings before the first header, and those of each header. -/
def sections : List Statement → List Setting × List (Header × List Setting)
  | [] => ([], [])
  | .setting s :: rest => (s :: (sections rest).1, (sections rest).2)
  | .header h :: rest => ([], (h, (sections rest).1) :: (sections rest).2)

/-- The entries of a table that is written between braces. -/
def assembleTable (settings : List Setting) : Option (List (Key × Node)) :=
  (Entries.setAll [] settings).map entryNodes

def assemble (statements : List Statement) : Option (List (Key × Node)) :=
  let (settings, tables) := sections statements
  ((Entries.setAll [] settings).bind (Entries.addSections · tables)).map entryNodes

end SchemaCodegen.Document.Toml
