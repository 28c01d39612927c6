import SchemaCodegen.Proofs.TypeMap.Entries
import SchemaCodegen.TypeMap.TypeScript

/-!
# TypeScript types read back

A TypeScript type is a name, an array over a type, or a union of two types.
Brackets bind to what stands right before them, a bar separates all that it finds
on its two sides, and parentheses hold a union together. A reader that knows no
more than this takes a text character by character. Every type in the table is
read, an array as an array over the whole type of its element, and a text that is
read as a type is read with `null` behind a bar as the union of the two.
-/

namespace SchemaCodegen

/-- A type in TypeScript. The arguments of a name belong to the name. -/
inductive TypeExpr where
  | name (text : String)
  | array (element : TypeExpr)
  | union (left right : TypeExpr)
deriving DecidableEq, Repr

namespace TypeExpr

/-! ## A reader -/

/-- What a reader knows of the operand that it is at: nothing, a name with some angle brackets open
in it, a type, or the element in front of an open bracket. -/
inductive Operand where
  | missing
  | name (chars : List Char) (depth : Nat)
  | whole (type : TypeExpr)
  | opened (element : TypeExpr)

def Operand.type? : Operand → Option TypeExpr
  | .name chars 0 => some (.name (String.ofList chars))
  | .whole type => some type
  | _ => none

/-- A reader of types. -/
structure Reader where
  /-- What stands before the last bar outside of each parenthesis that is open, inner ones first. -/
  outer : List (Option TypeExpr)
  /-- What stands before the last bar. -/
  left : Option TypeExpr
  operand : Operand

namespace Reader

def start : Reader := ⟨[], none, .missing⟩

/-- What was read since the last parenthesis was opened. -/
def type? (r : Reader) : Option TypeExpr :=
  r.operand.type?.map fun right => r.left.elim right (.union · right)

/-- Reads a character outside all names. -/
def nextMark (r : Reader) (c : Char) : Option Reader :=
  if c = ' ' then some { r with operand := r.operand.type?.elim r.operand .whole }
  else if c = '|' then r.type?.map fun left => { r with left := some left, operand := .missing }
  else if c = '[' then r.operand.type?.map fun element => { r with operand := .opened element }
  else if c = ')' then
    match r.outer, r.type? with
    | left :: outer, some type => some ⟨outer, left, .whole type⟩
    | _, _ => none
  else none

def next (r : Reader) (c : Char) : Option Reader :=
  match r.operand with
  | .missing =>
    if c = '(' then some ⟨r.left :: r.outer, none, .missing⟩
    else if c.isAlpha then some { r with operand := .name [c] 0 }
    else r.nextMark c
  | .name chars 0 =>
    if c.isAlphanum then some { r with operand := .name (chars ++ [c]) 0 }
    else if c = '<' then some { r with operand := .name (chars ++ [c]) 1 }
    else r.nextMark c
  | .name chars (depth + 1) =>
    let left := if c = '<' then depth + 2 else if c = '>' then depth else depth + 1
    some { r with operand := .name (chars ++ [c]) left }
  | .whole _ => r.nextMark c
  | .opened element => if c = ']' then some { r with operand := .whole (.array element) } else none

end Reader

/-- The type that a text writes. -/
def ofText? (text : String) : Option TypeExpr :=
  (text.toList.foldlM Reader.next .start).bind fun r => if r.outer = [] then r.type? else none

theorem ofText?_eq_some_iff {text : String} {type : TypeExpr} :
    ofText? text = some type ↔
      ∃ r, text.toList.foldlM Reader.next .start = some r ∧ r.outer = [] ∧ r.type? = some type := by
  rw [ofText?, Option.bind_eq_some_iff]
  simp only [Option.ite_none_right_eq_some]

/-- A space ends an operand that is whole. -/
theorem Reader.next_space {r : Reader} {operand : TypeExpr}
    (h : r.operand.type? = some operand) :
    r.next ' ' = some { r with operand := .whole operand } := by
  have hmark : r.nextMark ' ' = some { r with operand := .whole operand } := by
    rw [nextMark, if_pos rfl, h]
    rfl
  obtain ⟨outer, left, read⟩ := r
  cases read with
  | missing => cases h
  | whole type => exact hmark
  | opened element => cases h
  | name chars depth =>
      cases depth with
      | zero => exact hmark
      | succ depth => cases h

/-- Behind a whole type, `null` becomes its alternative. -/
theorem foldlM_null {r : Reader} {type : TypeExpr} (h : r.type? = some type) :
    " | null".toList.foldlM Reader.next r =
      some { r with left := some type, operand := .name "null".toList 0 } := by
  obtain ⟨operand, hoperand, htype⟩ := Option.map_eq_some_iff.mp h
  have hbar : Reader.next { r with operand := .whole operand } '|' =
      some { r with left := some type, operand := .missing } := by
    rw [← htype]
    rfl
  have hchars : " | null".toList = ' ' :: '|' :: " null".toList := rfl
  rw [hchars, List.foldlM_cons, Reader.next_space hoperand]
  show List.foldlM Reader.next _ _ = _
  rw [List.foldlM_cons, hbar]
  rfl

/-- **A type with `null` behind a bar is the union of the two**, whatever the type is. -/
theorem ofText?_append_null {text : String} {type : TypeExpr} (h : ofText? text = some type) :
    ofText? (text ++ " | null") = some (.union type (.name "null")) := by
  obtain ⟨r, hread, houter, htype⟩ := ofText?_eq_some_iff.mp h
  apply ofText?_eq_some_iff.mpr
  refine ⟨{ r with left := some type, operand := .name "null".toList 0 }, ?_, houter, rfl⟩
  rw [String.toList_append, List.foldlM_append, hread]
  exact foldlM_null htype

example : ofText? "(string | Date)[] | null" =
    some (.union (.array (.union (.name "string") (.name "Date"))) (.name "null")) := by
  decide

/-- Every type of the table is read, and so is the array type over it, as the array over it. -/
theorem exists_ofText?_scalar (engine : Engine) (name : String) :
    ∃ type ∈ ofText? (TypeTable.typescript.scalar engine name),
      ofText? (TypeTable.typescript.arrayOf (TypeTable.typescript.scalar engine name)) =
        some (.array type) := by
  refine TypeTable.scalar_induction (t := .typescript)
    (P := fun text => ∃ type ∈ ofText? text,
      ofText? (TypeTable.typescript.arrayOf text) = some (.array type)) ?_ ?_ engine name
  · decide +kernel
  · intro engine
    cases engine <;> decide +kernel

/-- The type of every column is read. That of an array is read as the array over the type of the
element, and not as a union of which one part is an array. -/
theorem exists_ofText?_mapType (engine : Engine) (raw : String) :
    ∃ type, ofText? (TypeTable.typescript.mapType engine raw) = some type ∧
      (TypeName.isArray engine raw = true → ∃ element,
        ofText? (TypeTable.typescript.scalar engine (TypeName.scalarName engine raw)) =
          some element ∧ type = .array element) := by
  obtain ⟨type, hscalar, harray⟩ := exists_ofText?_scalar engine (TypeName.scalarName engine raw)
  rw [TypeTable.mapType_eq]
  cases TypeName.isArray engine raw with
  | true => exact ⟨.array type, harray, fun _ => ⟨type, hscalar, rfl⟩⟩
  | false => exact ⟨type, hscalar, fun h => absurd h Bool.false_ne_true⟩

end TypeExpr

end SchemaCodegen
