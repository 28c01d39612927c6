import SchemaCodegen.Proofs.Column.Violation
import SchemaCodegen.Proofs.Emission.Consumption

/-!
# Pulling through the ordering adapter

What the adapter is going to deliver is a list: the longest start of the stream
that consists of columns in ascending order, and behind it, if the stream goes
on, the one fault of the next item. Every pull takes the head off that list, and
an empty list stays empty. So the answer to each pull can be read off its number,
a second adapter has nothing to object to, and draining succeeds exactly for the
streams that are all columns in ascending order.
-/

namespace SchemaCodegen

/-! ## Where a stream is cut -/

/-- The ordinal of the last of some columns, zero if there are none. -/
def lastOf (columns : List Column) : Nat := (columns.map Column.ordinal).getLast?.getD 0

/-- The columns at the start of a stream, as many as are in ascending order. -/
structure LongestAscending (items : List StreamItem) (columns : List Column) : Prop where
  leads : columns.map .ok <+: items
  ascending : Ascending columns
  longest : ∀ more : List Column, more.map .ok <+: items → Ascending more →
    more.length ≤ columns.length

/-- How a stream goes on behind the columns at its start: not at all, with a failure, or with a
column that does not follow. -/
inductive Ending (items : List StreamItem) (columns : List Column) : Option StreamError → Prop
  | exhausted (h : items = columns.map .ok) : Ending items columns none
  | failure (cause : StreamError) (rest : List StreamItem)
      (h : items = columns.map .ok ++ .error cause :: rest) : Ending items columns (some cause)
  | disordered (c : Column) (rest : List StreamItem)
      (h : items = columns.map .ok ++ .ok c :: rest) (hle : c.ordinal ≤ lastOf columns) :
      Ending items columns (some (.outOfOrder (lastOf columns) c.ordinal))

/-- Some columns, and behind them a failure if there is one. -/
def answers {ε : Type} (columns : List Column) (ending : Option ε) : List (Except ε Column) :=
  columns.map .ok ++ (ending.map .error).toList

/-- A valid stream is its own longest ascending start. -/
theorem longestAscending_of_ascending {columns : List Column} (h : Ascending columns) :
    LongestAscending (columns.map .ok) columns where
  leads := List.prefix_refl _
  ascending := h
  longest := by
    intro more hmore _
    simpa using hmore.length_le

/-- The columns before the first violation are the longest ascending start. -/
theorem FirstViolation.longestAscending {items : List StreamItem} {k : Nat} {cause : StreamError}
    (h : FirstViolation items k cause) {columns : List Column}
    (htake : items.take k = columns.map .ok) (hascending : Ascending columns)
    (hk : columns.length = k) : LongestAscending items columns where
  leads := htake ▸ List.take_prefix k items
  ascending := hascending
  longest := by
    intro more hmore hmore'
    by_contra hlong
    -- a longer ascending start would make the violation disappear
    have hnone : ∀ j < more.length, violationAt items j = none := by
      apply forall_lt_violationAt_eq_none_iff.mpr
      refine ⟨more, ?_, hmore'⟩
      rw [List.prefix_iff_eq_take] at hmore
      rw [hmore, List.length_map]
    have hhere := h.here
    rw [hnone k (by omega)] at hhere
    cases hhere

theorem FirstViolation.ending {items : List StreamItem} {k : Nat} {cause : StreamError}
    (h : FirstViolation items k cause) {columns : List Column}
    (htake : items.take k = columns.map .ok) : Ending items columns (some cause) := by
  have hhere := h.here
  rw [violationAt, violationAfter, Option.bind_eq_some_iff, htake, lastOrdinal_map_ok] at hhere
  obtain ⟨item, hitem, hfault⟩ := hhere
  change itemFault (lastOf columns) item = some cause at hfault
  obtain ⟨hk, hget⟩ := List.getElem?_eq_some_iff.mp hitem
  have hsplit : items = columns.map .ok ++ item :: items.drop (k + 1) := by
    rw [← htake, ← hget, ← List.drop_eq_getElem_cons hk, List.take_append_drop]
  cases item with
  | error e =>
      cases hfault
      exact .failure cause _ hsplit
  | ok c =>
      by_cases hle : c.ordinal ≤ lastOf columns
      · rw [itemFault, if_pos hle] at hfault
        cases hfault
        exact .disordered c _ hsplit hle
      · rw [itemFault, if_neg hle] at hfault
        cases hfault

theorem exists_cut (items : List StreamItem) :
    ∃ columns ending, LongestAscending items columns ∧ Ending items columns ending := by
  rcases violationAt_eq_none_or_first items with hnone | ⟨k, cause, hfirst⟩
  · obtain ⟨columns, rfl, hascending⟩ := forall_violationAt_eq_none_iff.mp hnone
    exact ⟨columns, none, longestAscending_of_ascending hascending, .exhausted rfl⟩
  · obtain ⟨columns, htake, hascending⟩ := forall_lt_violationAt_eq_none_iff.mp hfirst.earlier
    have hk : columns.length = k := by
      have hlength := congrArg List.length htake
      have hhere : k < items.length := by
        by_contra hpast
        have hend := hfirst.here
        rw [violationAt, violationAfter, List.getElem?_eq_none (Nat.le_of_not_lt hpast)] at hend
        cases hend
      rw [List.length_take, List.length_map] at hlength
      omega
    exact ⟨columns, some cause, hfirst.longestAscending htake hascending hk, hfirst.ending htake⟩

/-! ## What the adapter lets through -/

/-- Columns in ascending order pass, and the adapter goes on behind the last of them. -/
theorem orderedAfter_map_ok_append {previous : Nat} {columns : List Column}
    (h : List.IsChain (· < ·) (previous :: columns.map Column.ordinal)) (rest : List StreamItem) :
    orderedAfter previous (columns.map .ok ++ rest) =
      columns.map .ok ++
        orderedAfter ((columns.map Column.ordinal).getLast?.getD previous) rest := by
  induction columns generalizing previous with
  | nil => rfl
  | cons c columns ih =>
      rw [List.map_cons, List.isChain_cons_cons] at h
      simp only [List.map_cons, List.cons_append, orderedAfter, if_neg (Nat.not_le.mpr h.1),
        ih h.2, List.getLast?_cons]
      rfl

theorem orderedAfter_of_fault {previous : Nat} {item : StreamItem} {cause : StreamError}
    (h : itemFault previous item = some cause) (rest : List StreamItem) :
    orderedAfter previous (item :: rest) = [.error cause] := by
  cases item with
  | error e =>
      cases h
      rfl
  | ok c =>
      by_cases hle : c.ordinal ≤ previous
      · rw [itemFault, if_pos hle] at h
        cases h
        rw [orderedAfter, if_pos hle]
      · rw [itemFault, if_neg hle] at h
        cases h

/-- **A stream is cut behind its longest ascending start.** -/
theorem Ending.ordered_eq {items : List StreamItem} {columns : List Column}
    {ending : Option StreamError} (h : Ending items columns ending)
    (hascending : Ascending columns) : ordered items = answers columns ending := by
  cases h with
  | exhausted h =>
      have hpass := orderedAfter_map_ok_append hascending []
      rw [List.append_nil] at hpass
      rw [ordered, h, hpass]
      rfl
  | failure cause rest h =>
      rw [ordered, h, orderedAfter_map_ok_append hascending, orderedAfter_of_fault rfl]
      rfl
  | disordered c rest h hle =>
      have hfault : itemFault (lastOf columns) (.ok c) =
          some (.outOfOrder (lastOf columns) c.ordinal) := if_pos hle
      rw [ordered, h, orderedAfter_map_ok_append hascending]
      exact congrArg _ (orderedAfter_of_fault hfault rest)

/-- What has passed an adapter passes a second one. -/
theorem ordered_answers {columns : List Column} (h : Ascending columns)
    (ending : Option StreamError) : ordered (answers columns ending) = answers columns ending := by
  cases ending with
  | none => exact (Ending.exhausted (List.append_nil _)).ordered_eq h
  | some cause => exact (Ending.failure cause [] rfl).ordered_eq h

/-! ## Pulls -/

namespace OrderedStream

/-- What the adapter is still going to deliver. -/
def remaining (s : OrderedStream) : List StreamItem :=
  if s.failed then [] else orderedAfter s.previous s.rest

/-- A pull delivers the head of what remains, and the rest remains. -/
theorem next_eq (s : OrderedStream) :
    s.next.1 = s.remaining.head? ∧ s.next.2.remaining = s.remaining.tail := by
  obtain ⟨rest, previous, failed⟩ := s
  cases failed with
  | true => exact ⟨rfl, rfl⟩
  | false =>
      rcases rest with _ | ⟨e | c, rest⟩
      · exact ⟨rfl, rfl⟩
      · exact ⟨rfl, rfl⟩
      · by_cases hle : c.ordinal ≤ previous
        · rw [next_of_le hle]
          simp [remaining, orderedAfter, hle]
        · rw [next_of_not_le hle]
          simp [remaining, orderedAfter, hle]

/-- **The answer to each pull is told by its number.** The induction is on the
number of pulls; the state varies, and the answers move up by one place with each
step. -/
theorem pulls_eq (n : Nat) (s : OrderedStream) :
    s.pulls n = (List.range n).map fun k => s.remaining[k]? := by
  induction n generalizing s with
  | zero => rfl
  | succ n ih =>
      obtain ⟨hhead, htail⟩ := s.next_eq
      rw [pulls, ih, hhead, htail, List.range_succ_eq_map, List.map_cons, List.map_map,
        List.head?_eq_getElem?]
      simp

end OrderedStream

theorem Context.pulls_eq (context : Context) (n : Nat) (items : List StreamItem) :
    context.pulls n items =
      (List.range n).map fun k => ((ordered items).map context.report)[k]? := by
  rw [Context.pulls, OrderedStream.pulls_eq, List.map_map]
  apply List.map_congr_left
  intro k _
  rw [List.getElem?_map]
  rfl

theorem Context.map_report_answers (context : Context) (columns : List Column)
    (ending : Option StreamError) :
    (answers columns ending).map context.report =
      answers columns (ending.map (GenerationError.stream context.table)) := by
  cases ending <;> simp [answers, Context.report]

/-! ## Draining -/

theorem drain_start_eq_ok_iff {items : List StreamItem} {columns : List Column} :
    (OrderedStream.start items).drain = .ok columns ↔
      items = columns.map .ok ∧ Ascending columns := by
  rw [OrderedStream.start, drain_eq_collect]
  constructor
  · exact eq_map_ok_of_collect
  · rintro ⟨rfl, hascending⟩
    exact collectOrdered_map_ok hascending

theorem Context.drain_eq_ok_iff (context : Context) {items : List StreamItem}
    {columns : List Column} :
    context.drain items = .ok columns ↔ items = columns.map .ok ∧ Ascending columns := by
  rw [← drain_start_eq_ok_iff, Context.drain, Context.drainStream]
  cases (OrderedStream.start items).drain <;> simp [Context.report]

/-- **The ordering adapter is exact, and a second one changes nothing.** It
delivers the columns of the longest ascending start of the stream, then the fault
of the next item, if there is one, and nothing from then on, however often it is
pulled. Draining gives the columns of a stream that is valid throughout, and only
of such a stream. -/
theorem ordering_adapter_exact (items : List StreamItem) :
    ∃ columns ending, LongestAscending items columns ∧ Ending items columns ending ∧
      ordered items = answers columns ending ∧
      (∀ n, (OrderedStream.start items).pulls n =
        (List.range n).map fun k => (answers columns ending)[k]?) ∧
      ordered (ordered items) = ordered items ∧
      (∀ n, (OrderedStream.start (ordered items)).pulls n =
        (OrderedStream.start items).pulls n) ∧
      ∀ context : Context,
        (∀ drained, context.drain items = .ok drained ↔
          items = drained.map .ok ∧ Ascending drained) ∧
        ∀ n, context.pulls n items = (List.range n).map fun k =>
          (answers columns (ending.map (GenerationError.stream context.table)))[k]? := by
  -- the answers are in order themselves, so that a second adapter passes them on
  obtain ⟨columns, ending, hlongest, hending⟩ := exists_cut items
  have hordered := hending.ordered_eq hlongest.ascending
  have hpulls : ∀ s n, (OrderedStream.start s).pulls n =
      (List.range n).map fun k => (ordered s)[k]? := by
    intro s n
    exact OrderedStream.pulls_eq n (.start s)
  have htwice : ordered (ordered items) = ordered items := by
    rw [hordered, ordered_answers hlongest.ascending]
  refine ⟨columns, ending, hlongest, hending, hordered, ?_, htwice, ?_, ?_⟩
  · intro n
    rw [hpulls, hordered]
  · intro n
    rw [hpulls, hpulls, htwice]
  · intro context
    refine ⟨fun drained => context.drain_eq_ok_iff, ?_⟩
    intro n
    rw [context.pulls_eq, hordered, context.map_report_answers]

end SchemaCodegen
