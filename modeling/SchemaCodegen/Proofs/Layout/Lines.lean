import SchemaCodegen.Proofs.Layout.Rendering

/-!
# Units as lines

The text of fragments is a sequence of lines, each with the break that ends it:
a fragment at a depth stands for its lines, those of a block between header and
close one level deeper. What a unit holds can then be said of its lines, without
the breaks and without a word about printing.

The lines can be read back from the text. What has a break in it is read as several
lines, but never together with what stands above or below.
-/

namespace SchemaCodegen

/-- Lines one after the other, each with the break that ends it. -/
def unlines (lines : List String) : String := String.join (lines.map (· ++ "\n"))

@[simp] theorem unlines_nil : unlines [] = "" := rfl

@[simp] theorem unlines_cons (s : String) (lines : List String) :
    unlines (s :: lines) = s ++ "\n" ++ unlines lines := by
  simp [unlines]

@[simp]
theorem unlines_append (xs ys : List String) : unlines (xs ++ ys) = unlines xs ++ unlines ys := by
  induction xs with
  | nil => simp
  | cons x xs ih => simp [ih, String.append_assoc]

/-- Groups of lines one after the other, with an empty line between two groups if `spaced`. -/
def joinLines (spaced : Bool) (groups : List (List String)) : List String :=
  if spaced then [""].intercalate groups else groups.flatten

theorem mem_joinLines {line : String} {group : List String} {groups : List (List String)}
    (hgroup : group ∈ groups) (hline : line ∈ group) (spaced : Bool) :
    line ∈ joinLines spaced groups := by
  cases spaced with
  | false => exact List.mem_flatten.mpr ⟨group, hgroup, hline⟩
  | true => exact mem_intercalate_of_mem hgroup hline

/-! ## Lines of a text -/

/-- The lines of a text, without the breaks that end them. A last line may do without a break. -/
def readLines : List Char → List (List Char)
  | [] => []
  | c :: cs =>
    if c = '\n' then [] :: readLines cs
    else
      match readLines cs with
      | [] => [[c]]
      | line :: rest => (c :: line) :: rest

def linesOf (text : String) : List String := (readLines text.toList).map String.ofList

/-- A character that is no break starts the first line. -/
theorem readLines_cons {c : Char} (h : c ≠ '\n') (cs : List Char) :
    ∃ line rest, readLines (c :: cs) = (c :: line) :: rest := by
  rw [readLines, if_neg h]
  cases readLines cs with
  | nil => exact ⟨[], [], rfl⟩
  | cons line rest => exact ⟨line, rest, rfl⟩

theorem readLines_ne_nil {cs : List Char} (h : cs ≠ []) : readLines cs ≠ [] := by
  obtain ⟨c, cs, rfl⟩ := List.exists_cons_of_ne_nil h
  by_cases hbreak : c = '\n'
  · rw [readLines, if_pos hbreak]
    exact List.cons_ne_nil _ _
  · obtain ⟨line, rest, hlines⟩ := readLines_cons hbreak cs
    rw [hlines]
    exact List.cons_ne_nil _ _

/-- A break is where the lines of a text part. -/
theorem readLines_append_break (cs ds : List Char) :
    readLines (cs ++ '\n' :: ds) = readLines (cs ++ ['\n']) ++ readLines ds := by
  induction cs with
  | nil => rfl
  | cons c cs ih =>
      obtain ⟨line, rest, hlines⟩ := List.exists_cons_of_ne_nil
        (readLines_ne_nil (List.append_ne_nil_of_right_ne_nil cs (List.cons_ne_nil '\n' [])))
      simp only [List.cons_append, readLines, ih, hlines]
      by_cases hbreak : c = '\n'
      · rw [if_pos hbreak, if_pos hbreak]
        rfl
      · rw [if_neg hbreak, if_neg hbreak]
        rfl

/-- Lines are read apart from those above them and below them, whatever is in them. -/
theorem linesOf_unlines_append (xs ys : List String) :
    linesOf (unlines (xs ++ ys)) = linesOf (unlines xs) ++ linesOf (unlines ys) := by
  have hfirst : ∀ (x : String) (rest : List String),
      linesOf (unlines (x :: rest)) = linesOf (x ++ "\n") ++ linesOf (unlines rest) := by
    intro x rest
    have hchars : (unlines (x :: rest)).toList = x.toList ++ '\n' :: (unlines rest).toList := by
      simp
    have hline : (x ++ "\n").toList = x.toList ++ ['\n'] := String.toList_append
    rw [linesOf, linesOf, linesOf, hchars, hline, readLines_append_break, List.map_append]
  induction xs with
  | nil => rfl
  | cons x xs ih => rw [List.cons_append, hfirst, hfirst, ih, List.append_assoc]

/-- The text has no break in it. -/
def OneLine (s : String) : Prop := '\n' ∉ s.toList

instance (s : String) : Decidable (OneLine s) := inferInstanceAs (Decidable (¬ _))

theorem OneLine.append {s t : String} (hs : OneLine s) (ht : OneLine t) : OneLine (s ++ t) := by
  rw [OneLine, String.toList_append, List.mem_append, not_or]
  exact ⟨hs, ht⟩

@[simp] theorem Indent.atDepth_one (unit : Indent) : unit.atDepth 1 = unit.text := by
  simp [atDepth]

theorem oneLine_atDepth (unit : Indent) (depth : Nat) : OneLine (unit.atDepth depth) := by
  induction depth with
  | zero => exact List.not_mem_nil
  | succ depth ih =>
      have hunit : OneLine unit.text := by cases unit <;> decide
      exact hunit.append ih

/-- Lines without breaks are read back as they are. -/
theorem linesOf_unlines {lines : List String} (h : ∀ s ∈ lines, OneLine s) :
    linesOf (unlines lines) = lines := by
  have hread : ∀ cs : List Char, '\n' ∉ cs → readLines (cs ++ ['\n']) = [cs] := by
    intro cs hcs
    induction cs with
    | nil => rfl
    | cons c cs ih =>
        rw [List.mem_cons, not_or] at hcs
        rw [List.cons_append, readLines, if_neg (Ne.symm hcs.1), ih hcs.2]
  induction lines with
  | nil => rfl
  | cons line lines ih =>
      obtain ⟨hline, hrest⟩ := List.forall_mem_cons.mp h
      have hfirst : linesOf (unlines [line]) = [line] := by
        simp [linesOf, hread _ hline]
      rw [← List.singleton_append, linesOf_unlines_append, hfirst, ih hrest]

/-- So are groups of lines. -/
theorem linesOf_unlines_joinLines (spaced : Bool) (groups : List (List String)) :
    linesOf (unlines (joinLines spaced groups)) =
      joinLines spaced (groups.map fun group => linesOf (unlines group)) := by
  cases spaced with
  | false =>
      exact map_flatten_of_append (f := fun group => linesOf (unlines group)) rfl
        linesOf_unlines_append groups
  | true =>
      exact map_intercalate_of_append (f := fun group => linesOf (unlines group)) rfl
        linesOf_unlines_append [""] groups

namespace Fragment

mutual

def lines (unit : Indent) (depth : Nat) : Fragment → List String
  | .line s => [unit.atDepth depth ++ s]
  | .blank => [""]
  | .doc s => [unit.atDepth depth ++ docLine s]
  | .block header body close =>
    (unit.atDepth depth ++ header) :: (allLines unit (depth + 1) body ++
      match close with
      | some s => [unit.atDepth depth ++ s]
      | none => [])

def allLines (unit : Indent) (depth : Nat) : List Fragment → List String
  | [] => []
  | fragment :: rest => lines unit depth fragment ++ allLines unit depth rest

end

theorem unlines_singleton_atDepth (unit : Indent) (depth : Nat) (s : String) :
    unlines [unit.atDepth depth ++ s] = unit.lineAt depth s := by
  simp [Indent.lineAt]

mutual

/-- The text of a fragment is its lines with their breaks. -/
theorem render_eq_unlines (unit : Indent) (depth : Nat) : ∀ fragment : Fragment,
    render unit depth fragment = unlines (lines unit depth fragment)
  | .line s => by rw [render, lines, unlines_singleton_atDepth]
  | .blank => rfl
  | .doc s => by rw [render, lines, unlines_singleton_atDepth]
  | .block header body close => by
      have hbody := renderAll_eq_unlines unit (depth + 1) body
      cases close with
      | none =>
          simp [render, lines, hbody, Indent.lineAt]
      | some s =>
          simp [render, lines, hbody, Indent.lineAt, String.append_assoc]

/-- The text of fragments is their lines with their breaks. -/
theorem renderAll_eq_unlines (unit : Indent) (depth : Nat) : ∀ fragments : List Fragment,
    renderAll unit depth fragments = unlines (allLines unit depth fragments)
  | [] => rfl
  | fragment :: rest => by
      simp [renderAll, allLines, render_eq_unlines unit depth fragment,
        renderAll_eq_unlines unit depth rest]

end

theorem print_eq_unlines (unit : Indent) (fragments : List Fragment) :
    print unit fragments = unlines (allLines unit 0 fragments) := by
  rw [print_eq, renderAll_eq_unlines]

example : allLines .two 0 [.block "a (" [.line "b", .blank] (some ")")] = ["a (", "  b", "", ")"] :=
  rfl

/-- A block that stands alone is its header, its body and its last line. -/
@[simp] theorem allLines_block (unit : Indent) (header close : String) (body : List Fragment) :
    allLines unit 0 [.block header body (some close)] =
      header :: (allLines unit 1 body ++ [close]) := by
  simp [allLines, lines, Indent.atDepth]

@[simp] theorem allLines_line (unit : Indent) (s : String) : allLines unit 0 [.line s] = [s] := by
  simp [allLines, lines, Indent.atDepth]

/-- What is written on one line in one case, and as a block in the other. -/
theorem allLines_line_or_block (unit : Indent) (p : Prop) [Decidable p]
    (whole header close : String) (body : List Fragment) :
    allLines unit 0 (if p then [.line whole] else [.block header body (some close)]) =
      if p then [whole] else header :: (allLines unit 1 body ++ [close]) := by
  split <;> simp

@[simp] theorem allLines_append (unit : Indent) (depth : Nat) (xs ys : List Fragment) :
    allLines unit depth (xs ++ ys) = allLines unit depth xs ++ allLines unit depth ys := by
  induction xs with
  | nil => rfl
  | cons x xs ih => simp [allLines, ih]

@[simp] theorem allLines_map_line (unit : Indent) (depth : Nat) (texts : List String) :
    allLines unit depth (texts.map .line) = texts.map (unit.atDepth depth ++ ·) := by
  induction texts with
  | nil => rfl
  | cons s rest ih => simp [allLines, ih, lines]

/-- The lines of joined groups are the joined lines of the groups. -/
@[simp] theorem allLines_joinGroups (unit : Indent) (depth : Nat) (spaced : Bool)
    (groups : List (List Fragment)) :
    allLines unit depth (joinGroups spaced groups) =
      joinLines spaced (groups.map (allLines unit depth)) := by
  have happend := allLines_append unit depth
  cases spaced with
  | false => exact map_flatten_of_append rfl happend groups
  | true => exact map_intercalate_of_append rfl happend [.blank] groups

end Fragment

end SchemaCodegen
