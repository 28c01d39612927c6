import SchemaCodegen.Layout.Printer
import SchemaCodegen.Proofs.Layout.Separators

/-!
# The text of fragments

Printing threads a depth and a growing text through a tree of fragments. The
text that a fragment adds is a function of the fragment, of the unit of
indentation and of the depth at which it stands, and the depth afterwards is
the depth before. So the text of a unit is the concatenation of the texts of
its parts, which is what the statements about whole units are built from.
-/

namespace SchemaCodegen

/-! ## Texts of fragments -/

def Indent.lineAt (unit : Indent) (depth : Nat) (s : String) : String :=
  unit.atDepth depth ++ s ++ "\n"

namespace Fragment

mutual

def render (unit : Indent) (depth : Nat) : Fragment → String
  | .line s => unit.lineAt depth s
  | .blank => "\n"
  | .doc s => unit.lineAt depth (docLine s)
  | .block header body close =>
    unit.lineAt depth header ++ renderAll unit (depth + 1) body ++
      match close with
      | some s => unit.lineAt depth s
      | none => ""

def renderAll (unit : Indent) (depth : Nat) : List Fragment → String
  | [] => ""
  | fragment :: rest => render unit depth fragment ++ renderAll unit depth rest

end

end Fragment

namespace Printer

theorem line_eq (p : Printer) (s : String) :
    p.line s = { p with text := p.text ++ p.unit.lineAt p.depth s } := by
  simp only [line, Indent.lineAt, String.append_assoc]

mutual

/-- A fragment adds its text at the current depth and nothing else. -/
theorem emitOne_eq (p : Printer) : ∀ fragment : Fragment,
    p.emitOne fragment = { p with text := p.text ++ fragment.render p.unit p.depth }
  | .line s => by rw [emitOne, Fragment.render, line_eq]
  | .blank => by rw [emitOne, Fragment.render, blank]
  | .doc s => by rw [emitOne, Fragment.render, line_eq]
  | .block header body close => by
      -- the body is printed one level deeper, and the depth comes back with `dedent`
      have hbody := emit_eq (p.line header).indent body
      simp only [line_eq, indent] at hbody
      cases close <;>
        simp only [emitOne, Fragment.render, line_eq, indent, hbody, dedent, Nat.add_sub_cancel,
          String.append_empty, String.append_assoc]

/-- Fragments add their texts at the current depth and nothing else. -/
theorem emit_eq (p : Printer) : ∀ fragments : List Fragment,
    p.emit fragments = { p with text := p.text ++ Fragment.renderAll p.unit p.depth fragments }
  | [] => by rw [emit, Fragment.renderAll, String.append_empty]
  | fragment :: rest => by
      rw [emit, emitOne_eq p fragment, emit_eq _ rest, Fragment.renderAll]
      simp only [String.append_assoc]

end

@[simp] theorem emit_append (p : Printer) (xs ys : List Fragment) :
    p.emit (xs ++ ys) = (p.emit xs).emit ys := by
  induction xs generalizing p with
  | nil => simp [emit]
  | cons x xs ih => simp [emit, ih]

end Printer

namespace Fragment

/-- Groups with a blank line between them if they are spaced, as a loop comes to them. -/
@[simp]
theorem joinGroups_cons (spaced : Bool) (first : List Fragment) (rest : List (List Fragment)) :
    joinGroups spaced (first :: rest) =
      first ++ rest.flatMap fun group => (if spaced then [.blank] else []) ++ group := by
  cases spaced with
  | false =>
      simp only [joinGroups, Bool.false_eq_true, if_false, List.flatten_cons, List.nil_append]
      simp
  | true => exact intercalate_cons_eq [.blank] first rest

theorem print_eq (unit : Indent) (fragments : List Fragment) :
    print unit fragments = renderAll unit 0 fragments := by
  rw [print, Printer.emit_eq, Printer.start, String.empty_append]

@[simp] theorem renderAll_append (unit : Indent) (depth : Nat) (xs ys : List Fragment) :
    renderAll unit depth (xs ++ ys) = renderAll unit depth xs ++ renderAll unit depth ys := by
  induction xs with
  | nil => simp [renderAll]
  | cons x xs ih => simp [renderAll, ih, String.append_assoc]

@[simp] theorem renderAll_flatMap {α : Type} (unit : Indent) (depth : Nat) (f : α → List Fragment)
    (xs : List α) :
    renderAll unit depth (xs.flatMap f) =
      String.join (xs.map fun x => renderAll unit depth (f x)) := by
  induction xs with
  | nil => rfl
  | cons x xs ih => simp [ih]

theorem renderAll_eq_join (unit : Indent) (depth : Nat) (fragments : List Fragment) :
    renderAll unit depth fragments = String.join (fragments.map (render unit depth)) := by
  induction fragments with
  | nil => rfl
  | cons fragment rest ih => simp [renderAll, ih]

/-- Lines one after the other. -/
@[simp] theorem renderAll_map_line (unit : Indent) (depth : Nat) (lines : List String) :
    renderAll unit depth (lines.map .line) = String.join (lines.map (unit.lineAt depth)) := by
  rw [renderAll_eq_join, List.map_map]
  apply congrArg String.join
  apply List.map_congr_left
  intro s _
  rw [Function.comp, render]

end Fragment

end SchemaCodegen
