import SchemaCodegen.Proofs.Layout.Lines

/-!
# The levels of lines

Fragments have lines before they have a place. Each of their lines is empty, or is
a text that stands some levels below the place of the fragments, one for every
block around it. Where the fragments are printed, the levels are counted from the
depth of the printer. So fragments that are printed one level deeper have the same
lines with one more unit of indentation, save those of blanks, and this can be read
off the two texts if no line has a break in it.
-/

namespace SchemaCodegen

/-! ## Rows -/

/-- A line of fragments without its place. -/
inductive Row where
  /-- The line of a blank. -/
  | empty
  /-- A text below a number of levels. -/
  | text (level : Nat) (s : String)
deriving DecidableEq, Repr

namespace Row

def placed (unit : Indent) (depth : Nat) : Row → String
  | empty => ""
  | text level s => unit.atDepth (depth + level) ++ s

/-- A line of the row one level deeper. -/
def deepen (unit : Indent) : Row → String → String
  | empty, line => line
  | text _ _, line => unit.text ++ line

theorem placed_succ (unit : Indent) (depth : Nat) (row : Row) :
    row.placed unit (depth + 1) = row.deepen unit (row.placed unit depth) := by
  cases row with
  | empty => rfl
  | text level s =>
      have hdepth : depth + 1 + level = depth + level + 1 := by omega
      rw [placed, deepen, placed, hdepth, Indent.atDepth, String.append_assoc]

end Row

namespace Fragment

mutual

/-- The rows of a fragment, counted from a level: the body of a block is one level below its
header and its last line. -/
def rows (level : Nat) : Fragment → List Row
  | .line s => [.text level s]
  | .blank => [.empty]
  | .doc s => [.text level (docLine s)]
  | .block header body close =>
    .text level header :: (allRows (level + 1) body ++ (close.map (Row.text level)).toList)

def allRows (level : Nat) : List Fragment → List Row
  | [] => []
  | fragment :: rest => rows level fragment ++ allRows level rest

end

mutual

/-- Whatever is written in a fragment. -/
def texts : Fragment → List String
  | .line s => [s]
  | .blank => []
  | .doc s => [s]
  | .block header body close => header :: (allTexts body ++ close.toList)

def allTexts : List Fragment → List String
  | [] => []
  | fragment :: rest => texts fragment ++ allTexts rest

end

mutual

/-- The lines of a fragment are its rows, with the levels counted from the depth. -/
theorem lines_eq_placed (unit : Indent) (depth level : Nat) : ∀ fragment : Fragment,
    lines unit (depth + level) fragment = (rows level fragment).map (Row.placed unit depth)
  | .line s => rfl
  | .blank => rfl
  | .doc s => rfl
  | .block header body close => by
      -- the level is not fixed, as the body of the block is counted from the next one
      have hbody := allLines_eq_placed unit depth (level + 1) body
      rw [← Nat.add_assoc] at hbody
      cases close with
      | none => simp [lines, rows, hbody, Row.placed]
      | some s => simp [lines, rows, hbody, Row.placed]

/-- The lines of fragments are their rows, with the levels counted from the depth. -/
theorem allLines_eq_placed (unit : Indent) (depth level : Nat) : ∀ fragments : List Fragment,
    allLines unit (depth + level) fragments = (allRows level fragments).map (Row.placed unit depth)
  | [] => rfl
  | fragment :: rest => by
      rw [allLines, allRows, List.map_append, lines_eq_placed unit depth level fragment,
        allLines_eq_placed unit depth level rest]

end

theorem oneLine_docLine {s : String} (h : OneLine s) : OneLine (docLine s) :=
  (OneLine.append (s := "/** ") (by decide) h).append (by decide)

mutual

/-- Lines have no break in them if nothing that is written has. -/
theorem oneLine_lines (unit : Indent) (depth : Nat) : ∀ fragment : Fragment,
    (∀ s ∈ texts fragment, OneLine s) → ∀ line ∈ lines unit depth fragment, OneLine line
  | .line s, h => by
      rw [lines, List.forall_mem_singleton]
      exact (oneLine_atDepth unit depth).append (h s (List.mem_singleton_self s))
  | .blank, _ => by
      rw [lines, List.forall_mem_singleton]
      decide
  | .doc s, h => by
      rw [lines, List.forall_mem_singleton]
      exact (oneLine_atDepth unit depth).append
        (oneLine_docLine (h s (List.mem_singleton_self s)))
  | .block header body close, h => by
      rw [texts, List.forall_mem_cons, List.forall_mem_append] at h
      obtain ⟨hheader, hbody, hclose⟩ := h
      have hlines := oneLine_allLines unit (depth + 1) body hbody
      have hindent := oneLine_atDepth unit depth
      cases close with
      | none =>
          rw [lines, List.append_nil, List.forall_mem_cons]
          exact ⟨hindent.append hheader, hlines⟩
      | some s =>
          rw [lines, List.forall_mem_cons, List.forall_mem_append, List.forall_mem_singleton]
          exact ⟨hindent.append hheader, hlines,
            hindent.append (hclose s (List.mem_singleton_self s))⟩

theorem oneLine_allLines (unit : Indent) (depth : Nat) : ∀ fragments : List Fragment,
    (∀ s ∈ allTexts fragments, OneLine s) → ∀ line ∈ allLines unit depth fragments, OneLine line
  | [], _ => List.forall_mem_nil _
  | fragment :: rest, h => by
      rw [allTexts, List.forall_mem_append] at h
      rw [allLines, List.forall_mem_append]
      exact ⟨oneLine_lines unit depth fragment h.1, oneLine_allLines unit depth rest h.2⟩

end

end Fragment

/-! ## Printing at a depth -/

/-- Where a printer stands at a depth, printing the fragments adds a text to what is printed, and
nothing else: the printer still stands at the depth. -/
def Printer.Adds (unit : Indent) (depth : Nat) (fragments : List Fragment) (added : String) :
    Prop :=
  ∀ printed, (⟨unit, depth, printed⟩ : Printer).emit fragments = ⟨unit, depth, printed ++ added⟩

/-- The text has the rows of the fragments as lines, each as deep as the blocks around it say. -/
structure IsLaidOut (unit : Indent) (depth : Nat) (fragments : List Fragment) (text : String) :
    Prop where
  ended : text = unlines (linesOf text)
  lines_eq : linesOf text = (Fragment.allRows 0 fragments).map (Row.placed unit depth)

namespace Fragment

theorem adds_renderAll (unit : Indent) (depth : Nat) (fragments : List Fragment) :
    Printer.Adds unit depth fragments (renderAll unit depth fragments) := by
  intro printed
  rw [Printer.emit_eq]

variable {fragments : List Fragment} (h : ∀ s ∈ allTexts fragments, OneLine s)
include h

theorem isLaidOut_renderAll (unit : Indent) (depth : Nat) :
    IsLaidOut unit depth fragments (renderAll unit depth fragments) := by
  have hlines : linesOf (renderAll unit depth fragments) = allLines unit depth fragments := by
    rw [renderAll_eq_unlines, linesOf_unlines (oneLine_allLines unit depth fragments h)]
  refine ⟨?_, ?_⟩
  · rw [hlines, renderAll_eq_unlines]
  · rw [hlines]
    exact allLines_eq_placed unit depth 0 fragments

/-- One level deeper, every line has one more unit in front, save those of blanks. -/
theorem renderAll_succ (unit : Indent) (depth : Nat) :
    renderAll unit (depth + 1) fragments =
      unlines (List.zipWith (Row.deepen unit) (allRows 0 fragments)
        (linesOf (renderAll unit depth fragments))) := by
  have hdeeper := isLaidOut_renderAll h unit (depth + 1)
  rw [hdeeper.ended, hdeeper.lines_eq, (isLaidOut_renderAll h unit depth).lines_eq,
    List.zipWith_map_right, List.zipWith_self]
  congr 1
  apply List.map_congr_left
  intro row _
  exact row.placed_succ unit depth

end Fragment

/-- **Fragments are printed by their levels.** At every depth they add a text and leave the depth
alone, and joined fragments are printed one after the other. If nothing that is written has a
break in it, the lines of the text stand as deep as the blocks around them say, and one level deeper
the text has one more unit in front of every line but those of blanks. -/
theorem fragments_printed_by_level (unit : Indent) (depth : Nat) (xs ys : List Fragment) :
    ∃ added, Printer.Adds unit depth xs added ∧
      (∀ p : Printer, p.emit (xs ++ ys) = (p.emit xs).emit ys) ∧
      ((∀ s ∈ Fragment.allTexts xs, OneLine s) →
        IsLaidOut unit depth xs added ∧
        (linesOf added).length = (Fragment.allRows 0 xs).length ∧
        Printer.Adds unit (depth + 1) xs
          (unlines (List.zipWith (Row.deepen unit) (Fragment.allRows 0 xs) (linesOf added)))) := by
  refine ⟨Fragment.renderAll unit depth xs, Fragment.adds_renderAll unit depth xs,
    fun p => p.emit_append xs ys, ?_⟩
  intro h
  have hlaid := Fragment.isLaidOut_renderAll h unit depth
  refine ⟨hlaid, ?_, ?_⟩
  · simp [hlaid.lines_eq]
  · rw [← Fragment.renderAll_succ h unit depth]
    exact Fragment.adds_renderAll unit (depth + 1) xs

/-- A block with a line of nothing, a blank, and a block inside that is not closed. -/
def openBlock : List Fragment :=
  [.block "a (" [.line "", .blank, .block "b" [.doc "c"] none] (some ")"), .blank, .line "d"]

theorem openBlock_one_level_deeper :
    (∀ s ∈ Fragment.allTexts openBlock, OneLine s) ∧
      ∃ added, Printer.Adds .two 0 openBlock added ∧
        linesOf added = ["a (", "  ", "", "  b", "    /** c */", ")", "", "d"] ∧
        Printer.Adds .two 1 openBlock
          (unlines ["  a (", "    ", "", "    b", "      /** c */", "  )", "", "  d"]) := by
  have hone : ∀ s ∈ Fragment.allTexts openBlock, OneLine s := by decide
  obtain ⟨added, hadds, -, hlevels⟩ := fragments_printed_by_level .two 0 openBlock []
  obtain ⟨hlaid, -, hdeeper⟩ := hlevels hone
  refine ⟨hone, added, hadds, hlaid.lines_eq, ?_⟩
  rw [hlaid.lines_eq] at hdeeper
  exact hdeeper

end SchemaCodegen
