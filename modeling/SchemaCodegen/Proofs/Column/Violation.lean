import Mathlib.Data.List.Chain
import SchemaCodegen.Column.Stream

/-!
# The first violation of a stream

A place of a stream violates it if the item there is a failure, or a column
whose ordinal does not exceed that of the column before it; zero stands before
the first column. The valid streams are those without such a place. Reading a
stream through the ordering adapter gives all its columns if it is valid and
the fault of its first violation otherwise, so that nothing after the first
violation is ever looked at.
-/

namespace SchemaCodegen

/-- The ordinal of the last column of a stream, `previous` if it has none. -/
def lastOrdinal (previous : Nat) : List StreamItem → Nat
  | [] => previous
  | .ok c :: rest => lastOrdinal c.ordinal rest
  | .error _ :: rest => lastOrdinal previous rest

/-- What is wrong with an item that must exceed the ordinal `previous`. -/
def itemFault (previous : Nat) : StreamItem → Option StreamError
  | .error e => some e
  | .ok c => if c.ordinal ≤ previous then some (.outOfOrder previous c.ordinal) else none

/-- What is wrong at a place, for a stream that stands after the ordinal
`previous`. There is nothing wrong with a place past the end. -/
def violationAfter (previous : Nat) (items : List StreamItem) (k : Nat) : Option StreamError :=
  items[k]?.bind (itemFault (lastOrdinal previous (items.take k)))

def violationAt (items : List StreamItem) (k : Nat) : Option StreamError :=
  violationAfter 0 items k

/-- Place `k` is the first one to violate the stream, for the reason `cause`. -/
structure FirstViolation (items : List StreamItem) (k : Nat) (cause : StreamError) : Prop where
  here : violationAt items k = some cause
  earlier : ∀ j < k, violationAt items j = none

/-- The ordinals of columns increase strictly, from above zero. -/
def Ascending (columns : List Column) : Prop :=
  List.IsChain (· < ·) (0 :: columns.map Column.ordinal)

instance (columns : List Column) : Decidable (Ascending columns) :=
  inferInstanceAs (Decidable (List.IsChain (· < ·) (0 :: columns.map Column.ordinal)))

/-! ## Places of a stream and of its tail -/

@[simp]
theorem violationAfter_zero (previous : Nat) (item : StreamItem) (rest : List StreamItem) :
    violationAfter previous (item :: rest) 0 = itemFault previous item := rfl

@[simp] theorem violationAfter_nil (previous k : Nat) : violationAfter previous [] k = none := rfl

theorem itemFault_ok_eq_none {previous : Nat} {c : Column} :
    itemFault previous (.ok c) = none ↔ previous < c.ordinal := by
  by_cases h : c.ordinal ≤ previous
  · simp [itemFault, h]
  · simp [itemFault, h, Nat.not_le.mp h]

/-- A place looks at the items up to its own only. -/
theorem violationAt_congr {items others : List StreamItem} {n k : Nat}
    (h : items.take n = others.take n) (hk : k < n) :
    violationAt items k = violationAt others k := by
  have hitem : items[k]? = others[k]? := by
    rw [← List.getElem?_take_of_lt hk, h, List.getElem?_take_of_lt hk]
  have htake : items.take k = others.take k := by
    rw [← Nat.min_eq_left (Nat.le_of_lt hk), ← List.take_take, h, List.take_take]
  unfold violationAt violationAfter
  rw [hitem, htake]

/-- Streams that agree up to the first violation of one have it in common. -/
theorem FirstViolation.congr {items others : List StreamItem} {k : Nat} {cause : StreamError}
    (h : FirstViolation items k cause) (hsame : items.take (k + 1) = others.take (k + 1)) :
    FirstViolation others k cause where
  here := by
    rw [← violationAt_congr hsame (Nat.lt_succ_self k)]
    exact h.here
  earlier := by
    intro j hj
    rw [← violationAt_congr hsame (Nat.lt_succ_of_lt hj)]
    exact h.earlier j hj

/-! ## Reading through the ordering adapter -/

/-- A stream without a violation is read to its end. -/
theorem collect_orderedAfter_of_none {previous : Nat} {items : List StreamItem}
    (h : ∀ k, violationAfter previous items k = none) :
    ∃ columns, collect (orderedAfter previous items) = .ok columns := by
  induction items generalizing previous with
  | nil => exact ⟨[], rfl⟩
  | cons item rest ih =>
      cases item with
      | error e => exact absurd (h 0) (Option.some_ne_none e)
      | ok c =>
          have hlt : previous < c.ordinal := itemFault_ok_eq_none.mp (h 0)
          have hrest : ∀ k, violationAfter c.ordinal rest k = none := by
            intro k
            exact h (k + 1)
          obtain ⟨columns, hread⟩ := ih hrest
          refine ⟨c :: columns, ?_⟩
          rw [orderedAfter, if_neg (Nat.not_le.mpr hlt), collect, hread]
          rfl

/-- A stream with a violation is read as the fault of the first one. -/
theorem collect_orderedAfter_of_first {previous : Nat} {items : List StreamItem} {k : Nat}
    {cause : StreamError} (here : violationAfter previous items k = some cause)
    (earlier : ∀ j < k, violationAfter previous items j = none) :
    collect (orderedAfter previous items) = .error cause := by
  induction items generalizing previous k with
  | nil =>
      rw [violationAfter_nil] at here
      cases here
  | cons item rest ih =>
      cases k with
      | zero =>
          cases item with
          | error e =>
              cases here
              rfl
          | ok c =>
              rw [violationAfter_zero, itemFault] at here
              by_cases hle : c.ordinal ≤ previous
              · rw [if_pos hle] at here
                cases here
                rw [orderedAfter, if_pos hle, collect]
              · rw [if_neg hle] at here
                cases here
      | succ k =>
          have hfirst := earlier 0 (Nat.succ_pos k)
          cases item with
          | error e => exact absurd hfirst (Option.some_ne_none e)
          | ok c =>
              have hlt : previous < c.ordinal := itemFault_ok_eq_none.mp hfirst
              -- the places of the tail are those of the stream, moved down by one
              have hrest : collect (orderedAfter c.ordinal rest) = .error cause := by
                apply ih here
                intro j hj
                exact earlier (j + 1) (Nat.succ_lt_succ hj)
              rw [orderedAfter, if_neg (Nat.not_le.mpr hlt), collect, hrest]
              rfl

/-- A place that violates a stream is preceded by, or is, the first one. -/
theorem exists_firstViolation {items : List StreamItem} {k : Nat} {cause : StreamError}
    (h : violationAt items k = some cause) : ∃ j reason, FirstViolation items j reason := by
  induction k using Nat.strongRecOn generalizing cause with
  | ind k ih =>
      by_cases hall : ∀ j < k, violationAt items j = none
      · exact ⟨k, cause, h, hall⟩
      · simp only [not_forall] at hall
        obtain ⟨j, hj, hsome⟩ := hall
        obtain ⟨reason, hreason⟩ := Option.ne_none_iff_exists'.mp hsome
        exact ih j hj hreason

theorem violationAt_eq_none_or_first (items : List StreamItem) :
    (∀ k, violationAt items k = none) ∨ ∃ k cause, FirstViolation items k cause := by
  by_cases h : ∀ k, violationAt items k = none
  · exact Or.inl h
  · simp only [not_forall] at h
    obtain ⟨k, hsome⟩ := h
    obtain ⟨cause, hcause⟩ := Option.ne_none_iff_exists'.mp hsome
    exact Or.inr (exists_firstViolation hcause)

theorem collectOrdered_of_first {items : List StreamItem} {k : Nat} {cause : StreamError}
    (h : FirstViolation items k cause) : collectOrdered items = .error cause :=
  collect_orderedAfter_of_first h.here h.earlier

/-- **A stream is read as a failure exactly when it has a first violation**,
and the failure is the fault found there. -/
theorem collectOrdered_eq_error_iff {items : List StreamItem} {cause : StreamError} :
    collectOrdered items = .error cause ↔ ∃ k, FirstViolation items k cause := by
  constructor
  · intro h
    rcases violationAt_eq_none_or_first items with hnone | ⟨k, reason, hfirst⟩
    · obtain ⟨columns, hread⟩ := collect_orderedAfter_of_none hnone
      rw [collectOrdered, ordered, hread] at h
      cases h
    · rw [collectOrdered_of_first hfirst] at h
      cases h
      exact ⟨k, hfirst⟩
  · rintro ⟨k, h⟩
    exact collectOrdered_of_first h

/-- **A stream is read to its end exactly when no place violates it.** -/
theorem exists_collectOrdered_eq_ok_iff {items : List StreamItem} :
    (∃ columns, collectOrdered items = .ok columns) ↔ ∀ k, violationAt items k = none := by
  constructor
  · rintro ⟨columns, h⟩
    rcases violationAt_eq_none_or_first items with hnone | ⟨k, cause, hfirst⟩
    · exact hnone
    · rw [collectOrdered_of_first hfirst] at h
      cases h
  · exact collect_orderedAfter_of_none

/-- Columns in ascending order are read as they are. -/
theorem collect_orderedAfter_map_ok {previous : Nat} {columns : List Column}
    (h : List.IsChain (· < ·) (previous :: columns.map Column.ordinal)) :
    collect (orderedAfter previous (columns.map .ok)) = .ok columns := by
  induction columns generalizing previous with
  | nil => rfl
  | cons c rest ih =>
      rw [List.map_cons, List.isChain_cons_cons] at h
      rw [List.map_cons, orderedAfter, if_neg (Nat.not_le.mpr h.1), collect, ih h.2]
      rfl

theorem collectOrdered_map_ok {columns : List Column} (h : Ascending columns) :
    collectOrdered (columns.map .ok) = .ok columns :=
  collect_orderedAfter_map_ok h

/-- What is read to its end are columns in ascending order. -/
theorem eq_map_ok_of_collect {previous : Nat} {items : List StreamItem} {columns : List Column}
    (h : collect (orderedAfter previous items) = .ok columns) :
    items = columns.map .ok ∧
      List.IsChain (· < ·) (previous :: columns.map Column.ordinal) := by
  induction items generalizing previous columns with
  | nil =>
      cases h
      exact ⟨rfl, List.isChain_singleton previous⟩
  | cons item rest ih =>
      cases item with
      | error e => cases h
      | ok c =>
          by_cases hle : c.ordinal ≤ previous
          · rw [orderedAfter, if_pos hle] at h
            cases h
          · rw [orderedAfter, if_neg hle, collect] at h
            cases hread : collect (orderedAfter c.ordinal rest) with
            | error e =>
                rw [hread] at h
                cases h
            | ok later =>
                rw [hread] at h
                cases h
                obtain ⟨hrest, hchain⟩ := ih hread
                exact ⟨by rw [hrest]; rfl,
                  List.isChain_cons_cons.mpr ⟨Nat.lt_of_not_le hle, hchain⟩⟩

/-- **The valid streams are the columns in ascending order.** -/
theorem forall_violationAt_eq_none_iff {items : List StreamItem} :
    (∀ k, violationAt items k = none) ↔
      ∃ columns, items = columns.map .ok ∧ Ascending columns := by
  rw [← exists_collectOrdered_eq_ok_iff]
  constructor
  · rintro ⟨columns, hread⟩
    exact ⟨columns, eq_map_ok_of_collect hread⟩
  · rintro ⟨columns, rfl, hascending⟩
    exact ⟨columns, collectOrdered_map_ok hascending⟩

/-- Up to a place nothing is wrong exactly if the items before it are columns in ascending
order. -/
theorem forall_lt_violationAt_eq_none_iff {items : List StreamItem} {k : Nat} :
    (∀ j < k, violationAt items j = none) ↔
      ∃ columns, items.take k = columns.map .ok ∧ Ascending columns := by
  have htake : items.take k = (items.take k).take k := by rw [List.take_take, Nat.min_self]
  rw [← forall_violationAt_eq_none_iff]
  constructor
  · intro h j
    by_cases hj : j < k
    · rw [← violationAt_congr htake hj]
      exact h j hj
    · have hpast : (items.take k)[j]? = none := by
        rw [List.getElem?_eq_none_iff, List.length_take]
        omega
      rw [violationAt, violationAfter, hpast]
      rfl
  · intro h j hj
    rw [violationAt_congr htake hj]
    exact h j

theorem lastOrdinal_map_ok (previous : Nat) (columns : List Column) :
    lastOrdinal previous (columns.map .ok) =
      (columns.map Column.ordinal).getLast?.getD previous := by
  induction columns generalizing previous with
  | nil => rfl
  | cons c rest ih =>
      simp only [List.map_cons, lastOrdinal, ih, List.getLast?_cons]
      rfl

/-- Another column with the same ordinal keeps the order. -/
theorem ascending_set {columns : List Column} (h : Ascending columns) {i : Nat}
    (hi : i < columns.length) {other : Column} (hother : other.ordinal = columns[i].ordinal) :
    Ascending (columns.set i other) := by
  have hsame : (columns.set i other).map Column.ordinal = columns.map Column.ordinal := by
    rw [List.map_set, hother, ← List.getElem_map Column.ordinal, List.set_getElem_self]
    rwa [List.length_map]
  rw [Ascending, hsame]
  exact h

end SchemaCodegen
