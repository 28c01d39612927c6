import SchemaCodegen.Layout.Fragment

/-!
# Printing

A printer holds the text so far and the depth of the next line. Fragments are printed by its
steps, and a whole fragment leaves the depth as it was.
-/

namespace SchemaCodegen

inductive Indent where
  /-- Two spaces, as in TypeScript. -/
  | two
  /-- Four spaces, as in Java and C#. -/
  | four
deriving DecidableEq, Repr

namespace Indent

/-- The spaces of one level. -/
def text : Indent → String
  | two => "  "
  | four => "    "

/-- The spaces of `depth` levels. -/
def atDepth (unit : Indent) : Nat → String
  | 0 => ""
  | depth + 1 => unit.text ++ unit.atDepth depth

end Indent

structure Printer where
  unit : Indent
  depth : Nat
  text : String
deriving DecidableEq, Repr

namespace Printer

def start (unit : Indent) : Printer := ⟨unit, 0, ""⟩

/-- Prints a line at the current depth. -/
def line (p : Printer) (s : String) : Printer :=
  { p with text := p.text ++ p.unit.atDepth p.depth ++ s ++ "\n" }

/-- Prints an empty line without indentation. -/
def blank (p : Printer) : Printer := { p with text := p.text ++ "\n" }

def indent (p : Printer) : Printer := { p with depth := p.depth + 1 }

/-- Goes one level up; at depth zero nothing changes. -/
def dedent (p : Printer) : Printer := { p with depth := p.depth - 1 }

mutual

def emitOne (p : Printer) : Fragment → Printer
  | .line s => p.line s
  | .blank => p.blank
  | .doc s => p.line (Fragment.docLine s)
  | .block header body close =>
    let printed := (emit (p.line header).indent body).dedent
    match close with
    | some s => printed.line s
    | none => printed

def emit (p : Printer) : List Fragment → Printer
  | [] => p
  | fragment :: rest => emit (emitOne p fragment) rest

end

end Printer

/-- The text of fragments from depth zero. -/
def Fragment.print (unit : Indent) (fragments : List Fragment) : String :=
  ((Printer.start unit).emit fragments).text

end SchemaCodegen
