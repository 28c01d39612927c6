import SchemaCodegen.Proofs.Emission.Partition
import SchemaCodegen.Proofs.Layout.Lines

/-!
# What surrounds a member

A unit is a sequence of lines, and a column of its stream shows in the lines of
one member. Columns that have an ordinal in common are read alike in the same
place of a stream: either none of them lets the stream be read, or there is a
unit for each, and the lines above and below the member are the same in all of
them. So whatever is known about the lines of a member is known about the unit.
-/

namespace SchemaCodegen

/-! ## Streams around a column -/

/-- Columns with the same ordinal are read alike in a place of a stream. -/
theorem collect_around (ordinal previous : Nat) (front back : List StreamItem) :
    (∃ cause, ∀ column : Column, column.ordinal = ordinal →
        collect (orderedAfter previous (front ++ .ok column :: back)) = .error cause) ∨
      ∃ before after, back = after.map .ok ∧ ∀ column : Column, column.ordinal = ordinal →
        collect (orderedAfter previous (front ++ .ok column :: back)) =
          .ok (before ++ column :: after) := by
  induction front generalizing previous with
  | nil =>
      -- the column comes next, and all that is asked of it is its ordinal
      by_cases hle : ordinal ≤ previous
      · refine .inl ⟨.outOfOrder previous ordinal, ?_⟩
        rintro column rfl
        rw [List.nil_append, orderedAfter, if_pos hle, collect]
      · cases hback : collect (orderedAfter ordinal back) with
        | error cause =>
            refine .inl ⟨cause, ?_⟩
            rintro column rfl
            rw [List.nil_append, orderedAfter, if_neg hle, collect, hback]
            rfl
        | ok after =>
            refine .inr ⟨[], after, (eq_map_ok_of_collect hback).1, ?_⟩
            rintro column rfl
            rw [List.nil_append, orderedAfter, if_neg hle, collect, hback]
            rfl
  | cons item front ih =>
      cases item with
      | error cause => exact .inl ⟨cause, fun _ _ => rfl⟩
      | ok first =>
          by_cases hle : first.ordinal ≤ previous
          · refine .inl ⟨.outOfOrder previous first.ordinal, fun column _ => ?_⟩
            rw [List.cons_append, orderedAfter, if_pos hle, collect]
          · rcases ih first.ordinal with ⟨cause, hfailed⟩ | ⟨before, after, hback, hread⟩
            · refine .inl ⟨cause, fun column hordinal => ?_⟩
              rw [List.cons_append, orderedAfter, if_neg hle, collect, hfailed column hordinal]
              rfl
            · refine .inr ⟨first :: before, after, hback, fun column hordinal => ?_⟩
              rw [List.cons_append, orderedAfter, if_neg hle, collect, hread column hordinal]
              rfl

theorem unlines_flatten (groups : List (List String)) :
    unlines groups.flatten = String.join (groups.map unlines) := by
  induction groups with
  | nil => rfl
  | cons first rest ih =>
      simp [ih]

namespace Configured

/-! ## Units as lines -/

def declaredLine (c : Configured) (engine : Engine) (isLast : Bool) (column : Column) : String :=
  c.declaration isLast column (c.memberName column.name) (c.memberType engine column)

/-- The lines of a column's member, one level deep. -/
def indentedLines (c : Configured) (engine : Engine) (isLast : Bool) (column : Column) :
    List String :=
  (c.memberLines engine isLast column).map (c.indent.atDepth 1 ++ ·)

theorem indentedLines_eq (c : Configured) (engine : Engine) (isLast : Bool) (column : Column) :
    c.indentedLines engine isLast column =
      (c.decorations engine column ++ [c.declaredLine engine isLast column]).map
        (c.indent.atDepth 1 ++ ·) := rfl

def gapLines (c : Configured) (isFirst : Bool) : List String :=
  if c.spaced && !isFirst then [""] else []

def openingLines (c : Configured) (context : Context) (isEmpty : Bool) : List String :=
  (if c.jsonNames && !isEmpty then ["using System.Text.Json.Serialization;", ""] else []) ++
    Fragment.allLines c.indent 0 (c.heading context isEmpty)

def closingLines (c : Configured) (context : Context) (isEmpty : Bool) : List String :=
  Fragment.allLines c.indent 0 (c.ending context isEmpty)

theorem opening_eq_unlines (c : Configured) (context : Context) (isEmpty : Bool) :
    c.opening context isEmpty = unlines (c.openingLines context isEmpty) := by
  rw [opening, openingLines, unlines_append, Fragment.print_eq_unlines, directive]
  congr 1
  split <;> rfl

theorem closing_eq_unlines (c : Configured) (context : Context) (isEmpty : Bool) :
    c.closing context isEmpty = unlines (c.closingLines context isEmpty) :=
  Fragment.print_eq_unlines c.indent (c.ending context isEmpty)

theorem block_eq_unlines (c : Configured) (engine : Engine) (isFirst isLast : Bool)
    (column : Column) :
    c.block engine isFirst isLast column =
      unlines (c.gapLines isFirst ++ c.indentedLines engine isLast column) := by
  have hlines : String.join ((c.memberLines engine isLast column).map (c.indent.lineAt 1)) =
      unlines (c.indentedLines engine isLast column) := by
    rw [unlines, indentedLines, List.map_map]
    rfl
  rw [block, hlines, unlines_append, gapLines]
  congr 1
  split <;> rfl

/-- The lines of a unit. -/
theorem source_eq_unlines (c : Configured) (h : c.isMapper = false) (context : Context)
    (columns : List Column) :
    c.source context columns =
      unlines (c.openingLines context columns.isEmpty ++
        (columns.mapIdx fun i column =>
          c.gapLines (i == 0) ++
            c.indentedLines context.engine (i + 1 == columns.length) column).flatten ++
        c.closingLines context columns.isEmpty) := by
  simp only [c.source_eq_blocks h, opening_eq_unlines, closing_eq_unlines, unlines_append,
    unlines_flatten, map_eq_mapIdx, List.mapIdx_mapIdx, blocks]
  simp only [block_eq_unlines, Function.comp_def]

/-! ## Units around a column -/

/-- In all units with the same columns before and after, the same lines surround a member. -/
theorem source_around (c : Configured) (h : c.isMapper = false) (context : Context)
    (before after : List Column) :
    ∃ above below, ∀ column, c.source context (before ++ column :: after) =
      unlines (above ++ c.indentedLines context.engine after.isEmpty column ++ below) := by
  let placed (i : Nat) (column : Column) : List String :=
    c.gapLines (i == 0) ++
      c.indentedLines context.engine (i + 1 == before.length + (after.length + 1)) column
  -- which line is the first or the last is a matter of the number of columns around
  refine ⟨c.openingLines context false ++ (before.mapIdx placed).flatten ++
      c.gapLines (before.length == 0),
    (after.mapIdx fun i => placed (i + 1 + before.length)).flatten ++ c.closingLines context false,
    fun column => ?_⟩
  have hlast : (before.length + 1 == before.length + (after.length + 1)) = after.isEmpty := by
    cases after <;> simp
  have hempty : (before ++ column :: after).isEmpty = false := by simp
  have hmembers : (before ++ column :: after).mapIdx placed =
      before.mapIdx placed ++
        (c.gapLines (before.length == 0) ++ c.indentedLines context.engine after.isEmpty column) ::
          after.mapIdx fun i => placed (i + 1 + before.length) := by
    rw [List.mapIdx_append, List.mapIdx_cons, Nat.zero_add]
    simp only [placed, hlast]
  rw [source_eq_unlines c h, hempty, List.length_append, List.length_cons]
  show unlines (_ ++ ((before ++ column :: after).mapIdx placed).flatten ++ _) = _
  rw [hmembers, List.flatten_append, List.flatten_cons]
  simp only [List.append_assoc]

/-- **A column shows in the lines of its member and nowhere else.** Another column with the same
ordinal in its place is read as it is, and if there is a unit, the same lines surround the lines of
the member. -/
theorem generate_around (c : Configured) (h : c.isMapper = false) (context : Context)
    (front back : List StreamItem) (column : Column) :
    ∃ above below, ∀ other : Column, other.ordinal = column.ordinal →
      c.generate context (front ++ .ok other :: back) =
        (context.drain (front ++ .ok column :: back)).map fun _ =>
          unlines (above ++ c.indentedLines context.engine back.isEmpty other ++ below) := by
  rcases collect_around column.ordinal 0 front back with
    ⟨cause, hfailed⟩ | ⟨before, after, hback, hread⟩
  · refine ⟨[], [], fun other hordinal => ?_⟩
    rw [generate_eq, context.drain_eq, context.drain_eq, collectOrdered, collectOrdered, ordered,
      ordered, hfailed other hordinal, hfailed column rfl]
    rfl
  · obtain ⟨above, below, hsource⟩ := c.source_around h context before after
    refine ⟨above, below, fun other hordinal => ?_⟩
    have hlast : back.isEmpty = after.isEmpty := by simp [hback]
    rw [generate_eq, context.drain_eq, context.drain_eq, collectOrdered, collectOrdered, ordered,
      ordered, hread other hordinal, hread column rfl, hlast, ← hsource]
    rfl

/-- In the unit of a stream every column has the lines of its member. -/
theorem exists_eq_unlines_of_generate {c : Configured} (h : c.isMapper = false) {context : Context}
    {front back : List StreamItem} {column : Column} {source : String}
    (hsource : c.generate context (front ++ .ok column :: back) = .ok source) :
    ∃ above below,
      source = unlines (above ++ c.indentedLines context.engine back.isEmpty column ++ below) := by
  obtain ⟨above, below, haround⟩ := c.generate_around h context front back column
  rw [haround column rfl] at hsource
  refine ⟨above, below, ?_⟩
  cases hread : context.drain (front ++ .ok column :: back) with
  | error failure =>
      rw [hread] at hsource
      cases hsource
  | ok columns =>
      rw [hread] at hsource
      exact (Except.ok.inj hsource).symm

end Configured

end SchemaCodegen
