import SchemaCodegen.Proofs.Layout.Rendering

/-!
# Nested brackets

A text is read against the closing brackets that are due, the one of the most
recent opening bracket first. An opening bracket puts its partner in front; a
closing bracket has to be the one in front and takes it away; every other
character changes nothing. A text is well nested if it can be read from nothing
due to nothing due.

Reading composes: what a text does to the brackets that are due is one fact per
line, and the facts of the lines of a unit chain into one for the unit.
-/

namespace SchemaCodegen

def closer? : Char → Option Char
  | '(' => some ')'
  | '[' => some ']'
  | '{' => some '}'
  | '<' => some '>'
  | _ => none

def closers : List Char := [')', ']', '}', '>']

def isBracket (c : Char) : Bool := (closer? c).isSome || closers.contains c

/-- Reads one character while the brackets `due` are due. -/
def readBracket (due : List Char) (c : Char) : Option (List Char) :=
  match closer? c with
  | some closer => some (closer :: due)
  | none =>
    if closers.contains c then
      match due with
      | [] => none
      | expected :: rest => if c = expected then some rest else none
    else some due

/-- Reads characters while the brackets `due` are due, and gives the brackets that are due
afterwards, unless a closing bracket is not the one that is expected. -/
def readBrackets (due cs : List Char) : Option (List Char) := cs.foldlM readBracket due

/-- The text takes the brackets that are due from `due` to `left`. -/
def Leaves (due : List Char) (s : String) (left : List Char) : Prop :=
  readBrackets due s.toList = some left

instance (due : List Char) (s : String) (left : List Char) : Decidable (Leaves due s left) :=
  inferInstanceAs (Decidable (readBrackets due s.toList = some left))

/-- Every closing bracket matches the most recent open one, and none stays open. -/
def WellNested (s : String) : Prop := Leaves [] s []

instance (s : String) : Decidable (WellNested s) :=
  inferInstanceAs (Decidable (Leaves [] s []))

/-- There are no brackets among the characters. -/
def NoBrackets (cs : List Char) : Prop := ∀ c ∈ cs, isBracket c = false

instance (cs : List Char) : Decidable (NoBrackets cs) :=
  List.decidableBAll (fun c => isBracket c = false) cs

/-- The text has no brackets. -/
def BracketFree (s : String) : Prop := NoBrackets s.toList

instance (s : String) : Decidable (BracketFree s) :=
  inferInstanceAs (Decidable (NoBrackets s.toList))

/-! ## Characters without brackets -/

theorem noBrackets_cons {c : Char} {cs : List Char} :
    NoBrackets (c :: cs) ↔ isBracket c = false ∧ NoBrackets cs := List.forall_mem_cons

theorem noBrackets_singleton {c : Char} : NoBrackets [c] ↔ isBracket c = false :=
  List.forall_mem_singleton

theorem NoBrackets.append {xs ys : List Char} (hx : NoBrackets xs) (hy : NoBrackets ys) :
    NoBrackets (xs ++ ys) :=
  List.forall_mem_append.mpr ⟨hx, hy⟩

theorem NoBrackets.flatMap {α : Type} {f : α → List Char} {xs : List α}
    (h : ∀ x ∈ xs, NoBrackets (f x)) : NoBrackets (xs.flatMap f) := by
  intro c hc
  rw [List.mem_flatMap] at hc
  obtain ⟨x, hx, hmem⟩ := hc
  exact h x hx c hmem

theorem NoBrackets.intercalate {separator : List Char} {words : List (List Char)}
    (hseparator : NoBrackets separator) (h : ∀ word ∈ words, NoBrackets word) :
    NoBrackets (separator.intercalate words) := by
  intro c hc
  obtain hc | ⟨word, hword, hc⟩ := mem_of_mem_intercalate hc
  · exact hseparator c hc
  · exact h word hword c hc

/-! ## Reading characters -/

theorem readBrackets_append (due xs ys : List Char) :
    readBrackets due (xs ++ ys) = (readBrackets due xs).bind (readBrackets · ys) :=
  List.foldlM_append

theorem readBracket_of_free {c : Char} (h : isBracket c = false) (due : List Char) :
    readBracket due c = some due := by
  simp only [isBracket, Bool.or_eq_false_iff, Option.isSome_eq_false_iff,
    Option.isNone_iff_eq_none] at h
  simp only [readBracket, h.1, h.2, Bool.false_eq_true, if_false]

theorem readBrackets_of_free {cs : List Char} (h : NoBrackets cs) (due : List Char) :
    readBrackets due cs = some due := by
  induction cs with
  | nil => rfl
  | cons c cs ih =>
      rw [noBrackets_cons] at h
      obtain ⟨hc, hcs⟩ := h
      rw [readBrackets, List.foldlM_cons, readBracket_of_free hc]
      exact ih hcs

/-- Brackets that stay due below do not matter. -/
theorem readBracket_frame {due left : List Char} {c : Char} (h : readBracket due c = some left)
    (below : List Char) : readBracket (due ++ below) c = some (left ++ below) := by
  unfold readBracket at h ⊢
  cases hcloser : closer? c with
  | some closer =>
      rw [hcloser] at h
      cases h
      rfl
  | none =>
      rw [hcloser] at h
      -- only the bracket that is due next is looked at
      by_cases hclose : closers.contains c = true
      · simp only [hclose, if_true] at h ⊢
        cases due with
        | nil => cases h
        | cons expected rest =>
            simp only [List.cons_append] at h ⊢
            split at h
            · rename_i heq
              cases h
              rw [if_pos heq]
            · cases h
      · simp only [hclose, if_false, Bool.false_eq_true] at h ⊢
        cases h
        rfl

theorem readBrackets_frame {due left cs : List Char} (h : readBrackets due cs = some left)
    (below : List Char) : readBrackets (due ++ below) cs = some (left ++ below) := by
  induction cs generalizing due with
  | nil => cases h; rfl
  | cons c cs ih =>
      rw [readBrackets, List.foldlM_cons] at h ⊢
      obtain ⟨next, hnext, hrest⟩ := Option.bind_eq_some_iff.mp h
      rw [readBracket_frame hnext below]
      exact ih hrest

/-! ## Texts -/

theorem Leaves.append {due mid left : List Char} {s t : String} (hs : Leaves due s mid)
    (ht : Leaves mid t left) : Leaves due (s ++ t) left := by
  rw [Leaves, String.toList_append, readBrackets_append, hs]
  exact ht

theorem BracketFree.leaves {s : String} (h : BracketFree s) (due : List Char) :
    Leaves due s due :=
  readBrackets_of_free h due

theorem WellNested.leaves {s : String} (h : WellNested s) (due : List Char) :
    Leaves due s due :=
  readBrackets_frame h due

theorem BracketFree.wellNested {s : String} (h : BracketFree s) : WellNested s := h.leaves []

theorem WellNested.append {s t : String} (hs : WellNested s) (ht : WellNested t) :
    WellNested (s ++ t) :=
  Leaves.append hs ht

theorem BracketFree.append {s t : String} (hs : BracketFree s) (ht : BracketFree t) :
    BracketFree (s ++ t) := by
  rw [BracketFree, String.toList_append]
  exact NoBrackets.append hs ht

theorem bracketFree_ofList {cs : List Char} (h : NoBrackets cs) :
    BracketFree (String.ofList cs) := by
  rw [BracketFree, String.toList_ofList]
  exact h

/-- What is opened in front of a well-nested text is closed behind it. -/
theorem WellNested.enclose {due left mid : List Char} {s opening closing : String}
    (h : WellNested s) (hopen : Leaves due opening mid) (hclose : Leaves mid closing left) :
    Leaves due (opening ++ s ++ closing) left :=
  (hopen.append (h.leaves mid)).append hclose

theorem WellNested.intercalate {separator : String} {texts : List String}
    (hseparator : WellNested separator) (h : ∀ s ∈ texts, WellNested s) :
    WellNested (separator.intercalate texts) := by
  induction texts with
  | nil =>
      rw [String.intercalate_nil]
      decide
  | cons first rest ih =>
      obtain ⟨hfirst, hrest⟩ := List.forall_mem_cons.mp h
      cases rest with
      | nil => rwa [String.intercalate_singleton]
      | cons second rest =>
          rw [String.intercalate_cons_cons]
          exact (hfirst.append hseparator).append (ih hrest)

theorem wellNested_join {texts : List String} (h : ∀ s ∈ texts, WellNested s) :
    WellNested (String.join texts) := by
  induction texts with
  | nil => decide
  | cons s texts ih =>
      obtain ⟨hs, htexts⟩ := List.forall_mem_cons.mp h
      rw [String.join_cons]
      exact hs.append (ih htexts)

/-! ## Fragments -/

theorem bracketFree_atDepth (unit : Indent) (depth : Nat) : BracketFree (unit.atDepth depth) := by
  induction depth with
  | zero =>
      intro c hc
      cases hc
  | succ depth ih =>
      apply BracketFree.append
      · cases unit <;> decide
      · exact ih

/-- Indentation and the line end have no brackets. -/
theorem Leaves.lineAt {due left : List Char} {s : String} (h : Leaves due s left)
    (unit : Indent) (depth : Nat) : Leaves due (unit.lineAt depth s) left :=
  (((bracketFree_atDepth unit depth).leaves due).append h).append
    (BracketFree.leaves (by decide) left)

namespace Fragment

/-- The text of fragments, wherever they stand, takes the brackets that are due from `due` to
`left`. -/
def Leaves (due : List Char) (fragments : List Fragment) (left : List Char) : Prop :=
  ∀ unit depth, SchemaCodegen.Leaves due (renderAll unit depth fragments) left

/-- The text of fragments is well nested wherever they stand. -/
def Nested (fragments : List Fragment) : Prop := Leaves [] fragments []

theorem Leaves.append {due mid left : List Char} {xs ys : List Fragment} (hx : Leaves due xs mid)
    (hy : Leaves mid ys left) : Leaves due (xs ++ ys) left := by
  intro unit depth
  rw [renderAll_append]
  exact (hx unit depth).append (hy unit depth)

theorem Nested.append {xs ys : List Fragment} (hx : Nested xs) (hy : Nested ys) :
    Nested (xs ++ ys) :=
  Leaves.append hx hy

theorem Nested.leaves {fragments : List Fragment} (h : Nested fragments) (due : List Char) :
    Leaves due fragments due :=
  fun unit depth => WellNested.leaves (h unit depth) due

theorem nested_nil : Nested [] := by
  intro unit depth
  rw [renderAll]
  decide

theorem leaves_singleton {due left : List Char} {f : Fragment}
    (h : ∀ unit depth, SchemaCodegen.Leaves due (f.render unit depth) left) :
    Leaves due [f] left := by
  intro unit depth
  rw [renderAll, renderAll, String.append_empty]
  exact h unit depth

theorem leaves_line {due left : List Char} {s : String} (h : SchemaCodegen.Leaves due s left) :
    Leaves due [.line s] left := by
  apply leaves_singleton
  intro unit depth
  rw [render]
  exact h.lineAt unit depth

theorem nested_line {s : String} (h : WellNested s) : Nested [.line s] := leaves_line h

theorem nested_blank : Nested [.blank] := by
  apply leaves_singleton
  intro unit depth
  rw [render]
  decide

theorem nested_doc {s : String} (h : WellNested s) : Nested [.doc s] := by
  apply leaves_singleton
  intro unit depth
  rw [render, docLine]
  have hopen : SchemaCodegen.Leaves [] "/** " [] := by decide
  have hclose : SchemaCodegen.Leaves [] " */" [] := by decide
  exact SchemaCodegen.Leaves.lineAt (h.enclose hopen hclose) unit depth

/-- A block is well nested if its last line closes what its header opens. -/
theorem nested_block {header close : String} {body : List Fragment} {due : List Char}
    (hheader : SchemaCodegen.Leaves [] header due) (hbody : Nested body)
    (hclose : SchemaCodegen.Leaves due close []) : Nested [.block header body (some close)] := by
  apply leaves_singleton
  intro unit depth
  rw [render]
  exact WellNested.enclose (hbody unit (depth + 1)) (hheader.lineAt unit depth)
    (hclose.lineAt unit depth)

/-- A block without a last line is well nested if its body closes what its header opens. -/
theorem nested_openBlock {header : String} {body : List Fragment} {due : List Char}
    (hheader : SchemaCodegen.Leaves [] header due) (hbody : Leaves due body []) :
    Nested [.block header body none] := by
  apply leaves_singleton
  intro unit depth
  rw [render, String.append_empty]
  exact (hheader.lineAt unit depth).append (hbody unit (depth + 1))

theorem nested_map {α : Type} {f : α → Fragment} {xs : List α} (h : ∀ x ∈ xs, Nested [f x]) :
    Nested (xs.map f) := by
  induction xs with
  | nil => exact nested_nil
  | cons x xs ih =>
      obtain ⟨hx, hxs⟩ := List.forall_mem_cons.mp h
      exact hx.append (ih hxs)

/-- Blank lines between groups do not matter. -/
theorem nested_joinGroups {spaced : Bool} {groups : List (List Fragment)}
    (h : ∀ group ∈ groups, Nested group) : Nested (joinGroups spaced groups) := by
  unfold joinGroups
  induction groups with
  | nil => cases spaced <;> exact nested_nil
  | cons first rest ih =>
      obtain ⟨hfirst, hrest⟩ := List.forall_mem_cons.mp h
      cases spaced with
      | false => exact hfirst.append (ih hrest)
      | true =>
          cases rest with
          | nil => simpa only [if_true, List.intercalate_singleton] using hfirst
          | cons second rest =>
              simp only [if_true, List.intercalate_cons_cons] at ih ⊢
              exact (hfirst.append nested_blank).append (ih hrest)

theorem nested_joinGroups_map {α : Type} {spaced : Bool} {lines : α → List Fragment}
    {items : List α} (h : ∀ item ∈ items, Nested (lines item)) :
    Nested (joinGroups spaced (items.map lines)) := by
  apply nested_joinGroups
  intro group hgroup
  rcases List.mem_map.mp hgroup with ⟨item, hitem, rfl⟩
  exact h item hitem

end Fragment

/-! ## Separators -/

theorem wellNested_separator {separator s : String} (h : WellNested separator)
    (hs : s = separator ∨ s = "") : WellNested s := by
  rcases hs with rfl | rfl
  · exact h
  · decide

/-- Lines over separated items are well nested if they are over every item, with any well-nested
text behind it. -/
theorem Fragment.nested_joinGroups_separated {α : Type} {spaced : Bool}
    {lines : α × String → List Fragment} {separator : String} (hseparator : WellNested separator)
    {items : List α} (h : ∀ item ∈ items, ∀ s, WellNested s → Nested (lines (item, s))) :
    Nested (joinGroups spaced ((withSeparators separator items).map lines)) := by
  apply nested_joinGroups_map
  rintro ⟨item, s⟩ hmem
  obtain ⟨hitem, hs⟩ := mem_withSeparators hmem
  exact h item hitem s (wellNested_separator hseparator hs)

end SchemaCodegen
