import Mathlib.Data.List.Forall2
import SchemaCodegen.Document.Content
import SchemaCodegen.Document.Shape
import SchemaCodegen.Document.Toml.Kept
import SchemaCodegen.Proofs.Document.Tree

/-!
# What kept values say

A value that is kept for later says of itself no more than a text, an integer,
or that it is neither. Which of these it is can be told from the value as it
was written: a moment says its text, and so does a table that stands for a
moment. Whatever is kept can be passed over.
-/

namespace SchemaCodegen.Document

/-- What a value says to a reader of texts and integers. -/
inductive Plain where
  | text (s : String)
  | int (i : Int)
  | other
deriving DecidableEq

namespace Node

/-- What a value will say once it is kept. A moment says its text. -/
def plain : Node → Plain
  | .scalar _ (.text s) => .text s
  | .scalar _ (.moment s) => .text s
  | .scalar _ (.int i) => .int i
  | .table _ entries =>
    if Toml.startsWithMoment entries then (Toml.firstMoment? entries).elim .other (.text ·.text)
    else .other
  | _ => .other

/-- What the members of a table say, in their order. -/
def members : Node → List (String × Plain)
  | .table _ entries => entries.map fun e => (e.1.text, e.2.plain)
  | _ => []

def elements : Node → List Plain
  | .list _ items => items.map plain
  | _ => []

/-- A kept value says what it was read as. -/
structure Says (kept : Node) (r : Plain) : Prop where
  asText : ∀ {s}, kept.asText = .ok s ↔ r = .text s
  asCount : ∀ {c}, kept.asCount = .ok c ↔ r = .int c ∧ c < 2 ^ 32
  obstacle : kept.obstacle? = none

end Node

namespace Toml

/-! ## Passing over kept values -/

theorem obstacle?_of_keepScalar? {span : Text.Span} {content kept : Scalar}
    (h : keepScalar? content = some kept) : (Node.scalar span kept).obstacle? = none := by
  unfold keepScalar? at h
  split at h
  · split at h
    · cases h
      rfl
    · cases h
  · cases h
    rfl
  · cases h
  · cases h
  · cases h
  · rename_i hwide hoverflow hunreadable
    cases h
    cases content with
    | overflow kind => exact absurd rfl (hoverflow kind)
    | _ => rfl

mutual

theorem obstacle?_of_keep? : ∀ {n kept : Node}, keep? n = some kept → kept.obstacle? = none
  | .scalar span content, kept, h => by
      rw [keep?, Option.map_eq_some_iff] at h
      obtain ⟨content', hcontent, rfl⟩ := h
      exact obstacle?_of_keepScalar? hcontent
  | .list span items, kept, h => by
      rw [keep?, Option.map_eq_some_iff] at h
      obtain ⟨items', hitems, rfl⟩ := h
      exact firstObstacle?_of_keepItems? hitems
  | .table span entries, kept, h => by
      rw [keep?] at h
      split at h
      · obtain ⟨_, -, rfl⟩ := Option.map_eq_some_iff.mp h
        rfl
      · obtain ⟨entries', hentries, rfl⟩ := Option.map_eq_some_iff.mp h
        exact entryObstacle?_of_keepEntries? hentries

theorem firstObstacle?_of_keepItems? : ∀ {items kept : List Node},
    keepItems? items = some kept → Node.firstObstacle? kept = none
  | [], _, h => by
      cases h
      rfl
  | item :: rest, _, h => by
      rw [keepItems?] at h
      split at h
      · rename_i kept more hitem hrest
        cases h
        rw [Node.firstObstacle?, obstacle?_of_keep? hitem, firstObstacle?_of_keepItems? hrest]
        rfl
      · cases h

theorem entryObstacle?_of_keepEntries? : ∀ {entries kept : List (Key × Node)},
    keepEntries? entries = some kept → Node.entryObstacle? kept = none
  | [], _, h => by
      cases h
      rfl
  | (key, value) :: rest, _, h => by
      rw [keepEntries?] at h
      split at h
      · rename_i kept more hvalue hrest
        cases h
        rw [Node.entryObstacle?, obstacle?_of_keep? hvalue, entryObstacle?_of_keepEntries? hrest]
        rfl
      · cases h

end

/-! ## What is said -/

theorem says_text (span : Text.Span) (s : String) :
    (Node.scalar span (.text s)).Says (.text s) where
  asText := by simp [Node.asText]
  asCount := by simp [Node.asCount]
  obstacle := rfl

theorem says_int (span : Text.Span) (i : Int) : (Node.scalar span (.int i)).Says (.int i) where
  asText := by simp [Node.asText]
  asCount := by
    intro c
    have hmax : maxCount = 2 ^ 32 - 1 := rfl
    rw [Node.asCount, Plain.int.injEq]
    split
    · rw [Except.ok.injEq]
      omega
    · refine iff_of_false (by simp) ?_
      rintro ⟨rfl, hlt⟩
      omega
  obstacle := rfl

theorem says_other {kept : Node} (htext : ∀ s, kept.asText ≠ .ok s)
    (hcount : ∀ c, kept.asCount ≠ .ok c) (h : kept.obstacle? = none) : kept.Says .other where
  asText := iff_of_false (htext _) (by simp)
  asCount := iff_of_false (hcount _) (by simp)
  obstacle := h

/-- **A value that is kept says what it was read as.** -/
theorem says_of_keep? {n kept : Node} (h : keep? n = some kept) : kept.Says n.plain := by
  have hpass := obstacle?_of_keep? h
  cases n with
  | scalar span content =>
      rw [keep?, Option.map_eq_some_iff] at h
      obtain ⟨content', hcontent, rfl⟩ := h
      cases content with
      | text s =>
          cases hcontent
          exact says_text span s
      | moment s =>
          cases hcontent
          exact says_text span s
      | int i =>
          obtain ⟨-, hsame⟩ := Option.ite_none_right_eq_some.mp hcontent
          cases hsame
          exact says_int span i
      | null | bool | real =>
          cases hcontent
          exact says_other (by simp [Node.asText]) (by simp [Node.asCount]) hpass
      | wide | overflow | unreadable => cases hcontent
  | list span items =>
      rw [keep?, Option.map_eq_some_iff] at h
      obtain ⟨items', -, rfl⟩ := h
      exact says_other (by simp [Node.asText]) (by simp [Node.asCount]) hpass
  | table span entries =>
      rw [keep?] at h
      -- a table whose first key is the one for moments is kept as a text
      rw [Node.plain]
      split at h
      · rename_i hmoment
        obtain ⟨m, hm, rfl⟩ := Option.map_eq_some_iff.mp h
        rw [if_pos hmoment, hm]
        exact says_text span m.text
      · rename_i hmoment
        obtain ⟨entries', -, rfl⟩ := Option.map_eq_some_iff.mp h
        rw [if_neg hmoment]
        exact says_other (by simp [Node.asText]) (by simp [Node.asCount]) hpass

theorem forall₂_says_of_keepItems? : ∀ {items kept : List Node}, keepItems? items = some kept →
    List.Forall₂ Node.Says kept (items.map Node.plain)
  | [], _, h => by
      cases h
      exact .nil
  | item :: rest, _, h => by
      rw [keepItems?] at h
      split at h
      · rename_i kept more hitem hrest
        cases h
        exact .cons (says_of_keep? hitem) (forall₂_says_of_keepItems? hrest)
      · cases h

theorem forall₂_says_of_keepEntries? : ∀ {entries kept : List (Key × Node)},
    keepEntries? entries = some kept → List.Forall₂ (EntryHolds Node.Says) kept
      (entries.map fun e => (e.1.text, e.2.plain))
  | [], _, h => by
      cases h
      exact .nil
  | (key, value) :: rest, _, h => by
      rw [keepEntries?] at h
      split at h
      · rename_i kept more hvalue hrest
        cases h
        exact .cons ⟨rfl, says_of_keep? hvalue⟩ (forall₂_says_of_keepEntries? hrest)
      · cases h

theorem obstacle?_of_forall₂_says {entries : List (Key × Node)} {members : List (String × Plain)}
    (h : List.Forall₂ (EntryHolds Node.Says) entries members) :
    ∀ e ∈ entries, e.2.obstacle? = none := by
  induction h with
  | nil => exact List.forall_mem_nil _
  | cons h _ ih => exact List.forall_mem_cons.mpr ⟨h.2.obstacle, ih⟩

/-- What is kept as a table was a table, and its entries say what its members were read as. -/
theorem forall₂_says_of_table {n : Node} {span : Text.Span} {entries : List (Key × Node)}
    (h : keep? n = some (.table span entries)) :
    List.Forall₂ (EntryHolds Node.Says) entries n.members := by
  cases n with
  | scalar | list => simp [keep?] at h
  | table place written =>
      rw [keep?] at h
      split at h
      · simp at h
      · obtain ⟨kept, hkept, heq⟩ := Option.map_eq_some_iff.mp h
        cases heq
        exact forall₂_says_of_keepEntries? hkept

/-- What is kept as a list was a list, and its elements say what they were read as. -/
theorem forall₂_says_of_list {n : Node} {span : Text.Span} {items : List Node}
    (h : keep? n = some (.list span items)) : List.Forall₂ Node.Says items n.elements := by
  cases n with
  | scalar => simp [keep?] at h
  | list place written =>
      rw [keep?] at h
      obtain ⟨kept, hkept, heq⟩ := Option.map_eq_some_iff.mp h
      cases heq
      exact forall₂_says_of_keepItems? hkept
  | table place written =>
      rw [keep?] at h
      split at h
      · simp at h
      · simp at h

end Toml

end SchemaCodegen.Document
