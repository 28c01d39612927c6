import Mathlib.Data.List.DropRight
import SchemaCodegen.Document.Shape
import SchemaCodegen.Document.Source
import SchemaCodegen.Proofs.Text.ByteOrder
import SchemaCodegen.Proofs.Text.Occurrence

/-!
# Places by line and column

A place in a text is a number of bytes, and a reader of the text knows it as a line
and a column. The line counts the line feeds before the place and the column the
bytes behind the last of them. A line feed is a byte of its own in UTF-8, no part of
another character, so that both can be counted without a look at the characters,
and a place comes back from its line and column even in the midst of a character.
What is no place of the text is moved to its end, so nothing is shown outside.
-/

namespace SchemaCodegen.Text

/-- The line of a place: one more than the line feeds before it. -/
def lineNumber (source : String) (place : Nat) : Nat :=
  1 + ((bytes source).take place).count 10

/-- The column of a place: one more than the bytes before it in its line. -/
def columnNumber (source : String) (place : Nat) : Nat :=
  1 + (((bytes source).take place).rtakeWhile (· != 10)).length

/-! ## Line feeds -/

theorem utf8EncodeChar_lineFeed : String.utf8EncodeChar '\n' = [10] := by decide

theorem lineFeed_notMem_utf8EncodeChar {c : Char} (h : c ≠ '\n') :
    10 ∉ String.utf8EncodeChar c := by
  have hcode : c.val.toNat ≠ 10 := by
    intro heq
    exact h (Char.ext (UInt32.toNat_inj.mp heq))
  have hlast := code_lt c
  have hten : (10 : UInt8).toNat = 10 := rfl
  simp only [String.utf8EncodeChar]
  generalize c.val.toNat = n at hcode hlast
  -- every byte of a longer form is 128 at least
  split_ifs <;>
    simp (disch := omega) only [List.mem_cons, List.not_mem_nil, or_false, ← UInt8.toNat_inj,
      UInt8.toNat_ofNat', Nat.mod_eq_of_lt, hten] <;>
    omega

/-! ## Counting by bytes -/

/-- The line and column behind one more byte. -/
def LineColumn.step (here : LineColumn) (byte : UInt8) : LineColumn :=
  if byte = 10 then ⟨here.line + 1, 0⟩ else { here with column := here.column + 1 }

theorem LineColumn.foldl_step_of_notMem {bs : List UInt8} (h : 10 ∉ bs) (here : LineColumn) :
    bs.foldl step here = { here with column := here.column + bs.length } := by
  induction bs generalizing here with
  | nil => rfl
  | cons b bs ih =>
      rw [List.mem_cons, not_or] at h
      rw [List.foldl_cons, step, if_neg (Ne.symm h.1), ih h.2, List.length_cons]
      simp only [LineColumn.mk.injEq, true_and]
      omega

/-- Reading characters up to a place is reading the bytes before the place. -/
theorem advance_eq_foldl (here : LineColumn) (place : Nat) (cs : List Char) :
    advance here place cs =
      ((cs.flatMap String.utf8EncodeChar).take place).foldl LineColumn.step here := by
  induction cs generalizing here place with
  | nil => simp [advance]
  | cons c cs ih =>
      have hlength : (String.utf8EncodeChar c).length = c.utf8Size := String.length_utf8EncodeChar c
      rw [advance, List.flatMap_cons]
      by_cases hlt : place < c.utf8Size
      · -- the place is in the midst of the character, or in front of it
        rw [if_pos hlt, List.take_append_of_le_length (by omega)]
        by_cases hc : c = '\n'
        · have hplace : place = 0 := by
            have hone : '\n'.utf8Size = 1 := rfl
            rw [hc, hone] at hlt
            omega
          rw [hplace]
          rfl
        · have hno : 10 ∉ (String.utf8EncodeChar c).take place := fun hmem =>
            lineFeed_notMem_utf8EncodeChar hc (List.mem_of_mem_take hmem)
          rw [LineColumn.foldl_step_of_notMem hno, List.length_take, hlength,
            Nat.min_eq_left (Nat.le_of_lt hlt)]
      · rw [if_neg hlt, List.take_append, List.take_of_length_le (by omega), List.foldl_append, ih,
          hlength]
        congr 1
        by_cases hc : c = '\n'
        · rw [if_pos hc, hc, utf8EncodeChar_lineFeed]
          rfl
        · rw [if_neg hc, LineColumn.foldl_step_of_notMem (lineFeed_notMem_utf8EncodeChar hc),
            hlength]

theorem foldl_step_start (before : List UInt8) :
    before.foldl LineColumn.step ⟨1, 0⟩ =
      ⟨1 + before.count 10, (before.rtakeWhile (· != 10)).length⟩ := by
  induction before using List.reverseRecOn with
  | nil => rfl
  | append_singleton before b ih =>
      rw [List.foldl_concat, ih, List.count_append, List.rtakeWhile_concat, LineColumn.step]
      by_cases hb : b = 10
      · subst hb
        rfl
      · simp [hb]

/-- Reading goes by the lines and columns of the places. -/
theorem lineColumn_eq (source : String) (place : Nat) :
    lineColumn source place = ⟨lineNumber source place, columnNumber source place - 1⟩ := by
  rw [lineColumn, advance_eq_foldl, ← bytes_eq, foldl_step_start, lineNumber, columnNumber,
    Nat.add_sub_cancel_left]

/-! ## Back from line and column -/

/-- The lines that are passed and the bytes of the line that is reached make up the place. Where no
line is passed, the reader goes on in the line in which it started. -/
theorem exists_advance_eq {cs : List Char} {place : Nat} (h : place ≤ byteCount cs)
    (here : LineColumn) :
    ∃ lines, (advance here place cs).line = here.line + lines ∧
      bytesOfLines lines cs + (advance here place cs).column =
        place + if lines = 0 then here.column else 0 := by
  induction cs generalizing here place with
  | nil =>
      have hplace : place = 0 := Nat.le_zero.mp h
      refine ⟨0, rfl, ?_⟩
      rw [advance, bytesOfLines, hplace, if_pos rfl]
  | cons c cs ih =>
      rw [byteCount] at h
      rw [advance]
      by_cases hlt : place < c.utf8Size
      · refine ⟨0, by rw [if_pos hlt, Nat.add_zero], ?_⟩
        rw [if_pos hlt, if_pos rfl, bytesOfLines]
        show 0 + (here.column + place) = _
        omega
      · have hrest : place - c.utf8Size ≤ byteCount cs := by omega
        rw [if_neg hlt]
        by_cases hc : c = '\n'
        · obtain ⟨lines, hline, hcolumn⟩ := ih hrest ⟨here.line + 1, 0⟩
          dsimp only at hline hcolumn
          rw [ite_self] at hcolumn
          rw [if_pos hc]
          refine ⟨lines + 1, by rw [hline]; omega, ?_⟩
          rw [bytesOfLines, if_pos hc, Nat.add_assoc, hcolumn, if_neg (Nat.succ_ne_zero lines)]
          omega
        · obtain ⟨lines, hline, hcolumn⟩ :=
            ih hrest { here with column := here.column + c.utf8Size }
          rw [if_neg hc]
          refine ⟨lines, hline, ?_⟩
          -- the character counts for the column only if the place is in the same line
          cases lines with
          | zero =>
              rw [bytesOfLines] at hcolumn ⊢
              rw [hcolumn, if_pos rfl, if_pos rfl]
              show place - _ + (here.column + _) = _
              omega
          | succ lines =>
              rw [if_neg (Nat.succ_ne_zero lines)] at hcolumn
              rw [bytesOfLines, if_neg hc, Nat.add_assoc, hcolumn, if_neg (Nat.succ_ne_zero lines)]
              omega

variable {source : String}

theorem bytesOfLines_lineNumber {place : Nat} (h : place ≤ source.utf8ByteSize) :
    bytesOfLines (lineNumber source place - 1) source.toList + (columnNumber source place - 1) =
      place := by
  rw [utf8ByteSize_eq] at h
  obtain ⟨lines, hline, hcolumn⟩ := exists_advance_eq h ⟨1, 0⟩
  rw [← lineColumn, lineColumn_eq] at hline hcolumn
  dsimp only at hline hcolumn
  rw [ite_self, Nat.add_zero] at hcolumn
  rw [hline, Nat.add_sub_cancel_left, hcolumn]

/-- Every line starts in the text or at its end. -/
theorem bytesOfLines_le (lines : Nat) (cs : List Char) : bytesOfLines lines cs ≤ byteCount cs := by
  induction lines, cs using bytesOfLines.induct with
  | case1 => simp [bytesOfLines]
  | case2 => simp [bytesOfLines]
  | case3 lines c cs ih =>
      rw [bytesOfLines, byteCount]
      omega

/-- The sum that is cut off at the end of the text stays within twice its length, for the columns
that a decoder reports. -/
theorem bytesOfLines_add_column_le (line : Nat) {column : Nat} (h : column ≤ source.utf8ByteSize) :
    bytesOfLines (line - 1) source.toList + (column - 1) ≤ 2 * source.utf8ByteSize := by
  have hline := bytesOfLines_le (line - 1) source.toList
  rw [← utf8ByteSize_eq] at hline
  omega

theorem byteOffset_of_pos {line : Nat} (h : 0 < line) (source : String) (column : Nat) :
    byteOffset source line column =
      some (min (bytesOfLines (line - 1) source.toList + (column - 1)) source.utf8ByteSize) := by
  rw [byteOffset, if_neg (Nat.ne_of_gt h)]

/-- What comes back from any line and column is in the text or at its end. -/
theorem byteOffset_le {line column place : Nat}
    (h : byteOffset source line column = some place) : place ≤ source.utf8ByteSize := by
  rw [byteOffset] at h
  split at h
  · cases h
  · rw [Option.some.injEq] at h
    rw [← h]
    exact Nat.min_le_right _ _

theorem lineNumber_pos (source : String) (place : Nat) : 0 < lineNumber source place := by
  rw [lineNumber]
  omega

theorem byteOffset_lineNumber {place : Nat} (h : place ≤ source.utf8ByteSize) :
    byteOffset source (lineNumber source place) (columnNumber source place) = some place := by
  rw [byteOffset_of_pos (lineNumber_pos source place), bytesOfLines_lineNumber h,
    Nat.min_eq_left h]

end SchemaCodegen.Text

namespace SchemaCodegen.Document

open Text

theorem Source.exists_of_decode_json {α : Type} {s origin : Source}
    {decoder : Node → Except Fault α} {detail : String} {span : Option Span}
    (h : s.decode .json decoder = .error (.mistyped origin detail span)) :
    ∃ place ≤ s.text.utf8ByteSize, span = some ⟨place, 0⟩ := by
  rw [decode] at h
  split at h
  · cases h
  · split at h
    · cases h
    · rename_i fault _
      rw [Except.error.injEq] at h
      split at h
      · rw [mistyped, ReadError.mistyped.injEq] at h
        obtain ⟨-, -, rfl⟩ := h
        have hline : 0 < (lineColumn s.text fault.reached).line := by
          rw [lineColumn_eq]
          exact lineNumber_pos s.text fault.reached
        rw [byteOffset_of_pos hline]
        exact ⟨_, Nat.min_le_right _ _, rfl⟩
      · cases h

/-- **Places come back from their lines and columns.** A place of the text is found again from the
line feeds before it and the bytes before it in its line, also if it is in the midst of a character,
and these are the line and the bytes that reading counts. To every line from one on and every column
there is a place in the text or at its end, which moves on with the column. So what is shown for a
line and column is in the text, whatever they are, and so is what is shown for a JSON document of
the wrong shape. -/
theorem places_from_lines_and_columns (source : String) :
    (∀ place ≤ source.utf8ByteSize,
      byteOffset source (lineNumber source place) (columnNumber source place) = some place ∧
        lineColumn source place = ⟨lineNumber source place, columnNumber source place - 1⟩) ∧
    (∀ line, 0 < line → ∃ places : Nat → Nat, Monotone places ∧ ∀ column,
      byteOffset source line column = some (places column) ∧
        places column ≤ source.utf8ByteSize) ∧
    (∀ line column place, byteOffset source line column = some place →
      place ≤ source.utf8ByteSize) ∧
    ∀ (α : Type) (name : String) (decoder : Node → Except Fault α) (origin : Source)
      (detail : String) (span : Option Span),
      Source.decode ⟨name, source⟩ .json decoder = .error (.mistyped origin detail span) →
        ∃ place ≤ source.utf8ByteSize, span = some ⟨place, 0⟩ := by
  refine ⟨?_, ?_, fun _ _ _ => byteOffset_le, ?_⟩
  · intro place hplace
    exact ⟨byteOffset_lineNumber hplace, lineColumn_eq source place⟩
  · intro line hline
    refine ⟨_, ?_, fun column => ⟨byteOffset_of_pos hline source column, Nat.min_le_right _ _⟩⟩
    intro column column' hle
    show min _ _ ≤ min _ _
    omega
  · intro α name decoder origin detail span h
    exact Source.exists_of_decode_json h

/-- A place in the midst of a character, the end of a text behind a line feed, a line that is too
many, a column behind the end, and a text in place of a number. -/
theorem accented_letter_found :
    let source := "\n\"é\"\n"
    byteOffset source 2 3 = some 3 ∧ byteOffset source 3 1 = some 6 ∧
      (∃ place ≤ 6, byteOffset source 9 7 = some place) ∧
      (byteOffset source 1 9 = some 6 ∧ 6 ≤ source.utf8ByteSize) ∧
      Source.decode ⟨"count.json", source⟩ .json Node.asCount =
        .error (.mistyped ⟨"count.json", source⟩
          "invalid type: string \"é\", expected u32 at line 2 column 4" (some ⟨4, 0⟩)) ∧
      ∃ place ≤ 6, some (⟨4, 0⟩ : Span) = some ⟨place, 0⟩ := by
  intro source
  have hfault : Source.decode ⟨"count.json", source⟩ .json Node.asCount =
      .error (.mistyped ⟨"count.json", source⟩
        "invalid type: string \"é\", expected u32 at line 2 column 4" (some ⟨4, 0⟩)) := by
    decide +kernel
  obtain ⟨hback, hlines, hinside, hshown⟩ := places_from_lines_and_columns source
  obtain ⟨places, -, hplaces⟩ := hlines 9 (by decide)
  have hend : byteOffset source 1 9 = some 6 := by decide
  exact ⟨(hback 3 (by decide)).1, (hback 6 (by decide)).1, ⟨_, (hplaces 7).2, (hplaces 7).1⟩,
    ⟨hend, hinside _ _ _ hend⟩, hfault, hshown _ _ _ _ _ _ hfault⟩

end SchemaCodegen.Document
