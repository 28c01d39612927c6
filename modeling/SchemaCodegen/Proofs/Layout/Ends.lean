import SchemaCodegen.Proofs.Layout.Rendering
import SchemaCodegen.Proofs.TypeMap.Entries

/-!
# Where fragments start and end

Units are put one after the other, with a line feed between two of them. Whether
this makes one empty line depends on the two ends of a unit: it must not start
with an empty line, and its last line must hold something. Both ends are fixed by
the first and the last fragment of the unit, whatever stands between them.
-/

namespace SchemaCodegen

/-! ## Ends of texts -/

/-- Any character but a line feed. -/
def notLineFeed (c : Char) : Bool := c != '\n'

/-- Whether the text ends with a character of the class. -/
def trailsWith (p : Char → Bool) (s : String) : Bool := s.toList.getLast?.any p

theorem trailsWith_append {p : Char → Bool} {t : String} (h : trailsWith p t = true) (s : String) :
    trailsWith p (s ++ t) = true := by
  unfold trailsWith at h ⊢
  rw [String.toList_append]
  cases hlast : t.toList.getLast? with
  | none =>
      rw [hlast] at h
      cases h
  | some c =>
      rw [hlast] at h
      rw [List.getLast?_append, hlast]
      exact h

/-- The text of a unit: it does not start with a line feed, and ends with exactly one. -/
structure IsUnitText (s : String) : Prop where
  nonempty : s ≠ ""
  start : s.toList.head? ≠ some '\n'
  finish : ∃ body : List Char, s.toList = body ++ ['\n'] ∧ body.getLast? ≠ some '\n'

namespace IsUnitText

theorem of_ends {s body : String} (hs : s = body ++ "\n") (hstart : leadsWith notLineFeed s = true)
    (hend : trailsWith notLineFeed body = true) : IsUnitText s := by
  obtain ⟨c, rest, hlist, hc⟩ := leadsWith_iff.mp hstart
  have hne : c ≠ '\n' := by simpa [notLineFeed] using hc
  refine ⟨?_, ?_, body.toList, ?_, ?_⟩
  · rintro rfl
    cases hlist
  · rw [hlist, List.head?_cons]
    simpa using hne
  · rw [hs, String.toList_append]
    rfl
  · intro hlast
    rw [trailsWith, hlast] at hend
    exact absurd hend (by decide)

/-- Two unit texts with a line feed between them are the text of a longer unit. -/
theorem join {s t : String} (hs : IsUnitText s) (ht : IsUnitText t) :
    IsUnitText (s ++ "\n" ++ t) := by
  obtain ⟨body, htext, hlast⟩ := ht.finish
  have hbody : body ≠ [] := by
    rintro rfl
    exact ht.start (by rw [htext]; rfl)
  obtain ⟨c, rest, hlist⟩ : ∃ c rest, s.toList = c :: rest := by
    apply List.exists_cons_of_ne_nil
    rw [Ne, String.toList_eq_nil_iff]
    exact hs.nonempty
  have hjoined : (s ++ "\n" ++ t).toList = s.toList ++ '\n' :: body ++ ['\n'] := by
    simp [String.toList_append, htext]
  refine ⟨?_, ?_, s.toList ++ '\n' :: body, hjoined, ?_⟩
  · intro hempty
    rw [hempty, hlist] at hjoined
    cases hjoined
  · have hstart := hs.start
    rw [hlist] at hstart
    rw [hjoined, hlist]
    exact hstart
  · have hafter : ('\n' :: body).getLast? = body.getLast? := List.getLast?_cons_of_ne_nil hbody
    rw [List.getLast?_append, hafter, List.getLast?_eq_some_getLast hbody, Option.some_or]
    rwa [List.getLast?_eq_some_getLast hbody] at hlast

end IsUnitText

/-! ## Ends of fragments -/

namespace Fragment

variable {unit : Indent}

/-- The text of the fragments starts on its first line. -/
def Starts (unit : Indent) (fragments : List Fragment) : Prop :=
  leadsWith notLineFeed (renderAll unit 0 fragments) = true

/-- The text of the fragments ends on its last line. -/
def Finishes (unit : Indent) (fragments : List Fragment) : Prop :=
  ∃ body, renderAll unit 0 fragments = body ++ "\n" ∧ trailsWith notLineFeed body = true

theorem isUnitText_print {fragments : List Fragment} (hstart : Starts unit fragments)
    (hend : Finishes unit fragments) : IsUnitText (print unit fragments) := by
  obtain ⟨body, hbody, htrails⟩ := hend
  rw [print_eq]
  exact .of_ends hbody hstart htrails

@[simp] theorem lineAt_zero (unit : Indent) (s : String) : unit.lineAt 0 s = s ++ "\n" := by
  simp [Indent.lineAt, Indent.atDepth]

theorem starts_line {s : String} (h : leadsWith notLineFeed s = true) (rest : List Fragment) :
    Starts unit (.line s :: rest) := by
  rw [Starts, renderAll, render, lineAt_zero]
  exact leadsWith_append (leadsWith_append h _) _

theorem starts_block {header : String} (h : leadsWith notLineFeed header = true)
    (body : List Fragment) (close : Option String) (rest : List Fragment) :
    Starts unit (.block header body close :: rest) := by
  rw [Starts, renderAll]
  cases close with
  | none | some s =>
      rw [render, lineAt_zero]
      exact leadsWith_append (leadsWith_append (leadsWith_append (leadsWith_append h _) _) _) _

theorem starts_append {xs : List Fragment} (h : Starts unit xs) (ys : List Fragment) :
    Starts unit (xs ++ ys) := by
  rw [Starts, renderAll_append]
  exact leadsWith_append h _

/-- Lines in front of fragments start the text, if there are any. -/
theorem starts_lines_append {α : Type} {text : α → String}
    (htext : ∀ a, leadsWith notLineFeed (text a) = true) (items : List α) {rest : List Fragment}
    (h : Starts unit rest) : Starts unit (items.map (fun a => .line (text a)) ++ rest) := by
  cases items with
  | nil => exact h
  | cons a items => exact starts_line (htext a) _

theorem finishes_line {s : String} (h : trailsWith notLineFeed s = true) :
    Finishes unit [.line s] := by
  refine ⟨s, ?_, h⟩
  simp [renderAll, render]

theorem finishes_block {close : String} (h : trailsWith notLineFeed close = true) (header : String)
    (body : List Fragment) : Finishes unit [.block header body (some close)] := by
  refine ⟨unit.lineAt 0 header ++ renderAll unit 1 body ++ close, ?_, trailsWith_append h _⟩
  simp [renderAll, render, String.append_assoc]

theorem finishes_append {ys : List Fragment} (h : Finishes unit ys) (xs : List Fragment) :
    Finishes unit (xs ++ ys) := by
  obtain ⟨body, hbody, htrails⟩ := h
  refine ⟨renderAll unit 0 xs ++ body, ?_, trailsWith_append htrails _⟩
  simp [hbody, String.append_assoc]

theorem finishes_cons {ys : List Fragment} (h : Finishes unit ys) (x : Fragment) :
    Finishes unit (x :: ys) :=
  finishes_append h [x]

end Fragment

end SchemaCodegen
