import SchemaCodegen.Proofs.Emission.OneLine

/-!
# Extra spacing

Seven targets can leave an empty line between the members of a unit. The loops that
write the members are five, each with its own annotations, comments and separators,
and the option is read in all of them. It decides about the empty lines and about
nothing else: the members are the same lines with the option and without it, the
lines around them are the same, and an empty line stands above each member but the
first.
-/

namespace SchemaCodegen

/-- A text without its empty lines. -/
def withoutEmptyLines (text : String) : String := unlines ((linesOf text).filter (· ≠ ""))

/-! ## Joined groups of lines -/

/-- Groups with an empty line above each but the first have so many empty lines more. -/
theorem count_intercalate_empty (groups : List (List String)) :
    ([""].intercalate groups).count "" = groups.flatten.count "" + (groups.length - 1) := by
  cases groups with
  | nil => rfl
  | cons first rest =>
      have hrest : (rest.flatMap ([""] ++ ·)).count "" = rest.flatten.count "" + rest.length := by
        induction rest with
        | nil => rfl
        | cons second rest ih =>
            simp only [List.flatMap_cons, List.count_append, List.count_singleton_self, ih,
              List.flatten_cons, List.length_cons]
            omega
      simp only [intercalate_cons_eq, List.count_append, hrest, List.flatten_cons,
        List.length_cons, Nat.add_sub_cancel, Nat.add_assoc]

/-- Without the empty lines it does not show what is between groups. -/
theorem filter_intercalate_empty (groups : List (List String)) :
    ([""].intercalate groups).filter (· ≠ "") = groups.flatten.filter (· ≠ "") := by
  cases groups with
  | nil => rfl
  | cons first rest =>
      have hrest : (rest.flatMap ([""] ++ ·)).filter (· ≠ "") = rest.flatten.filter (· ≠ "") := by
        induction rest with
        | nil => rfl
        | cons second rest ih =>
            have hempty : [""].filter (· ≠ "") = [] := by simp
            simp only [List.flatMap_cons, List.filter_append, hempty, ih, List.flatten_cons,
              List.nil_append]
      simp only [intercalate_cons_eq, List.filter_append, hrest, List.flatten_cons]

/-- Groups are joined as if each came with the gap above it. -/
theorem flatten_gaps (spaced : Bool) (groups : List (List String)) :
    (groups.mapIdx fun i group => (if spaced && !(i == 0) then [""] else []) ++ group).flatten =
      joinLines spaced groups := by
  cases groups with
  | nil => cases spaced <;> rfl
  | cons first rest =>
      have hrest : (rest.mapIdx fun i group =>
          (if spaced && !(i + 1 == 0) then [""] else []) ++ group) =
          rest.map fun group => (if spaced then [""] else []) ++ group := by
        apply List.ext_getElem?
        intro i
        simp
      rw [List.mapIdx_cons, hrest, List.flatten_cons]
      cases spaced with
      | false => simp [joinLines]
      | true =>
          show first ++ (rest.map ([""] ++ ·)).flatten = [""].intercalate (first :: rest)
          rw [intercalate_cons_eq, List.flatMap_def]

namespace Configured

/-! ## The option -/

/-- Whether the target has the option. -/
def hasSpacing : Configured → Bool
  | .javaDto _ | .javaRecord _ | .csharpDto _ | .csharpRecord _ | .typescript .. => true
  | .javaMapperXml _ | .javaMapperInterface _ | .typescriptZod _ => false

/-- The target with the option on or off and all others as they are. -/
def withSpacing (c : Configured) (spacing : Bool) : Configured :=
  match c with
  | .javaDto o => .javaDto { o with extraSpacing := spacing }
  | .javaRecord o => .javaRecord { o with extraSpacing := spacing }
  | .csharpDto o => .csharpDto { o with extraSpacing := spacing }
  | .csharpRecord o => .csharpRecord { o with extraSpacing := spacing }
  | .typescript kind o => .typescript kind { o with extraSpacing := spacing }
  | c => c

variable {c : Configured} (spacing : Bool)

/-- The option decides about the empty lines and about nothing else. -/
theorem withSpacing_parts (h : c.hasSpacing = true) :
    (c.withSpacing spacing).isMapper = false ∧
    (∀ isFirst, (c.withSpacing spacing).gapLines isFirst =
      if spacing && !isFirst then [""] else []) ∧
    (∀ engine isLast column, (c.withSpacing spacing).indentedLines engine isLast column =
      c.indentedLines engine isLast column) ∧
    (∀ context isEmpty, (c.withSpacing spacing).openingLines context isEmpty =
      c.openingLines context isEmpty) ∧
    ∀ context isEmpty, (c.withSpacing spacing).closingLines context isEmpty =
      c.closingLines context isEmpty := by
  cases c with
  | javaMapperXml o | javaMapperInterface o | typescriptZod o => cases h
  | javaDto o | javaRecord o | csharpDto o | csharpRecord o | typescript kind o =>
      exact ⟨rfl, fun _ => rfl, fun _ _ _ => rfl, fun _ _ => rfl, fun _ _ => rfl⟩

/-- The lines of the members of a unit. -/
def members (c : Configured) (engine : Engine) (columns : List Column) : List (List String) :=
  columns.mapIdx fun i column => c.indentedLines engine (i + 1 == columns.length) column

theorem source_withSpacing (h : c.hasSpacing = true) (context : Context) (columns : List Column) :
    (c.withSpacing spacing).source context columns =
      unlines (c.openingLines context columns.isEmpty ++
        joinLines spacing (c.members context.engine columns) ++
        c.closingLines context columns.isEmpty) := by
  obtain ⟨hmapper, hgaps, hmembers, hopening, hclosing⟩ := withSpacing_parts spacing h
  rw [source_eq_unlines _ hmapper, hopening, hclosing, ← flatten_gaps, members, List.mapIdx_mapIdx]
  simp only [hgaps, hmembers, Function.comp_def]

/-- The lines of a unit are those around its members and those that are read from the members. -/
theorem linesOf_source_withSpacing (h : c.hasSpacing = true) (context : Context)
    (columns : List Column) :
    linesOf ((c.withSpacing spacing).source context columns) =
      linesOf (unlines (c.openingLines context columns.isEmpty)) ++
        joinLines spacing
          ((c.members context.engine columns).map fun member => linesOf (unlines member)) ++
        linesOf (unlines (c.closingLines context columns.isEmpty)) := by
  rw [source_withSpacing spacing h, linesOf_unlines_append, linesOf_unlines_append,
    linesOf_unlines_joinLines]

/-- The lines of a member start with a line that is not empty, as members are indented. -/
theorem exists_first_line (engine : Engine) (isLast : Bool) (column : Column) :
    ∃ first rest, linesOf (unlines (c.indentedLines engine isLast column)) = first :: rest ∧
      first ≠ "" := by
  obtain ⟨line, lines, hlines⟩ : ∃ line lines, c.memberLines engine isLast column = line :: lines :=
    List.exists_cons_of_ne_nil (List.append_ne_nil_of_right_ne_nil _ (List.cons_ne_nil _ _))
  obtain ⟨blanks, hindent⟩ : ∃ blanks, (c.indent.atDepth 1).toList = ' ' :: blanks := by
    cases c.indent with
    | two => exact ⟨_, rfl⟩
    | four => exact ⟨_, rfl⟩
  obtain ⟨cs, hcs⟩ : ∃ cs, (unlines (c.indentedLines engine isLast column)).toList = ' ' :: cs := by
    rw [indentedLines, hlines, List.map_cons, unlines_cons]
    simp only [String.toList_append, hindent, List.cons_append]
    exact ⟨_, rfl⟩
  obtain ⟨first, rest, hread⟩ := readLines_cons (show ' ' ≠ '\n' by decide) cs
  refine ⟨String.ofList (' ' :: first), rest.map String.ofList, ?_, ?_⟩
  · rw [linesOf, hcs, hread, List.map_cons]
  · rw [ne_eq, String.ofList_eq_empty_iff]
    exact List.cons_ne_nil _ _

/-- Names without breaks leave the lines of the members as they are. -/
theorem linesOf_members {columns : List Column} (h : ∀ column ∈ columns, OneLine column.name)
    (engine : Engine) :
    (c.members engine columns).map (fun member => linesOf (unlines member)) =
      c.members engine columns := by
  have hindent := oneLine_atDepth c.indent 1
  have hread : ∀ member ∈ c.members engine columns, linesOf (unlines member) = id member := by
    intro member hmember
    obtain ⟨i, hi, rfl⟩ := List.mem_mapIdx.mp hmember
    apply linesOf_unlines
    rw [indentedLines, List.forall_mem_map]
    intro line hline
    exact hindent.append (oneLine_memberLines (h _ (List.getElem_mem hi)) c engine _ line hline)
  rw [List.map_congr_left hread, List.map_id]

/-- **Extra spacing adds empty lines and nothing else.** Without its empty lines, a unit is the
same text with the option and without it, and with it there is an empty line more for every member
but the first. It stands above the lines of the member, its annotations, attributes or comments
included. These are the lines that were written if no name has a break in it. Otherwise they are
what the names break into, below the line at which their member starts. -/
theorem spacing_adds_empty_lines (h : c.hasSpacing = true) (context : Context)
    {columns : List Column} (hascending : Ascending columns) :
    ∃ spaced plain,
      (c.withSpacing true).generate context (columns.map .ok) = .ok spaced ∧
      (c.withSpacing false).generate context (columns.map .ok) = .ok plain ∧
      withoutEmptyLines spaced = withoutEmptyLines plain ∧
      (linesOf spaced).count "" = (linesOf plain).count "" + (columns.length - 1) ∧
      ∃ above below members,
        members = (c.members context.engine columns).map (fun member => linesOf (unlines member)) ∧
        ((∀ column ∈ columns, OneLine column.name) → members = c.members context.engine columns) ∧
        (∀ member ∈ members, ∃ first rest, member = first :: rest ∧ first ≠ "") ∧
        linesOf plain = above ++ members.flatten ++ below ∧
        linesOf spaced = above ++ [""].intercalate members ++ below := by
  have hspaced := linesOf_source_withSpacing true h context columns
  have hplain := linesOf_source_withSpacing false h context columns
  rw [joinLines, if_pos rfl] at hspaced
  rw [joinLines, if_neg Bool.false_ne_true] at hplain
  refine ⟨_, _, generate_of_ascending _ context hascending, generate_of_ascending _ context
    hascending, ?_, ?_, _, _, _, rfl, fun hnames => linesOf_members hnames context.engine, ?_,
    hplain, hspaced⟩
  · rw [withoutEmptyLines, withoutEmptyLines, hspaced, hplain]
    simp only [List.filter_append, filter_intercalate_empty]
  · rw [hspaced, hplain]
    simp only [List.count_append, count_intercalate_empty, List.length_map, members,
      List.length_mapIdx]
    omega
  -- a line of a member starts with its indentation and is not empty
  · intro member hmember
    obtain ⟨lines, hlines, rfl⟩ := List.mem_map.mp hmember
    obtain ⟨i, hi, rfl⟩ := List.mem_mapIdx.mp hlines
    exact exists_first_line _ _ _

/-- Three properties, one of them below a comment, in an interface with an alias, which has an
empty line above it in any case. -/
theorem spaced_interface_has_two_more :
    let options : TypeScriptOptions :=
      { TypeScriptOptions.table.unset with comments := true, partialType := true }
    let columns := [(Column.new 1 "id" "int").asKey, (Column.new 2 "name" "text").withComment "shown",
      Column.new 4 "price" "numeric(10, 2)"]
    let members := [["  id: number;"], ["  /** shown */", "  name: string;"], ["  price: number;"]]
    Ascending columns ∧
      ∃ spaced plain above below,
        (typescript .interface { options with extraSpacing := true }).generate
          ⟨"user_visit", "UserVisit", .postgres⟩ (columns.map .ok) = .ok spaced ∧
        (typescript .interface { options with extraSpacing := false }).generate
          ⟨"user_visit", "UserVisit", .postgres⟩ (columns.map .ok) = .ok plain ∧
        withoutEmptyLines spaced = withoutEmptyLines plain ∧
        (linesOf spaced).count "" = (linesOf plain).count "" + 2 ∧
        linesOf plain = above ++ members.flatten ++ below ∧
        linesOf spaced = above ++ [""].intercalate members ++ below := by
  intro options columns members
  have hascending : Ascending columns := by decide
  have hspacing : (typescript .interface options).hasSpacing = true := rfl
  have hnames : ∀ column ∈ columns, OneLine column.name := by decide
  have hmembers : (typescript .interface options).members .postgres columns = members := by
    decide +kernel
  obtain ⟨spaced, plain, hspaced, hplain, hsame, hcount, above, below, read, -, hread, -, hplainLines,
      hspacedLines⟩ :=
    spacing_adds_empty_lines hspacing ⟨"user_visit", "UserVisit", .postgres⟩ hascending
  rw [hread hnames, hmembers] at hplainLines hspacedLines
  exact ⟨hascending, spaced, plain, above, below, hspaced, hplain, hsame, hcount,
    hplainLines, hspacedLines⟩

end Configured

end SchemaCodegen
