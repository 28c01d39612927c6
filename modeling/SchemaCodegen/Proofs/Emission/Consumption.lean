import SchemaCodegen.Emission.Configured
import SchemaCodegen.Proofs.Layout.Rendering

/-!
# Pulling a stream and draining it

Eight emitters pull their columns one at a time, and what they have built after
a pull depends on all pulls before. Two drain the stream first. The loop that
pulls is a fold over the drained columns, from any state of the ordering
adapter, so the two ways of reading fail alike, and the source of every target
is a function of the drained columns: `Configured.source`.
-/

namespace SchemaCodegen

/-! ## One pull -/

namespace OrderedStream

variable {previous : Nat} {c : Column}

theorem next_of_error (e : StreamError) (rest : List StreamItem) (previous : Nat) :
    next ⟨.error e :: rest, previous, false⟩ = (some (.error e), ⟨rest, previous, true⟩) := rfl

/-- The adapter stops at a column that does not exceed the ordinal before it. -/
theorem next_of_le (h : c.ordinal ≤ previous) (rest : List StreamItem) :
    next ⟨.ok c :: rest, previous, false⟩ =
      (some (.error (.outOfOrder previous c.ordinal)), ⟨rest, previous, true⟩) := by
  simp [next, h]

theorem next_of_not_le (h : ¬c.ordinal ≤ previous) (rest : List StreamItem) :
    next ⟨.ok c :: rest, previous, false⟩ = (some (.ok c), ⟨rest, c.ordinal, false⟩) := by
  simp [next, h]

theorem drain_of_end {stream later : OrderedStream} (h : stream.next = (none, later)) :
    stream.drain = .ok [] := by
  rw [drain]
  split
  · rfl
  · rename_i hnext
    rw [h] at hnext
    cases hnext
  · rename_i hnext
    rw [h] at hnext
    cases hnext

theorem drain_of_failure {stream later : OrderedStream} {cause : StreamError}
    (h : stream.next = (some (.error cause), later)) : stream.drain = .error cause := by
  rw [drain]
  split <;> rename_i hnext <;> rw [h] at hnext <;> cases hnext
  rfl

theorem drain_of_column {stream later : OrderedStream}
    (h : stream.next = (some (.ok c), later)) : stream.drain = later.drain.map (c :: ·) := by
  rw [drain]
  split <;> rename_i hnext <;> rw [h] at hnext <;> cases hnext
  rfl

end OrderedStream

section Pull

variable {β : Type} (context : Context) (take : β → Column → β) (built : β)

theorem pullInto_of_end {stream later : OrderedStream} (h : stream.next = (none, later)) :
    context.pullInto take built stream = .ok built := by
  rw [Context.pullInto]
  split
  · rfl
  · rename_i item rest hnext
    rw [h] at hnext
    cases hnext

theorem pullInto_of_failure {stream later : OrderedStream} {cause : StreamError}
    (h : stream.next = (some (.error cause), later)) :
    context.pullInto take built stream = .error (.stream context.table cause) := by
  rw [Context.pullInto]
  split
  · rename_i rest hnext
    rw [h] at hnext
    cases hnext
  · rename_i item rest hnext
    rw [h] at hnext
    cases hnext
    rfl

theorem pullInto_of_column {stream later : OrderedStream} {c : Column}
    (h : stream.next = (some (.ok c), later)) :
    context.pullInto take built stream = context.pullInto take (take built c) later := by
  rw [Context.pullInto]
  split
  · rename_i rest hnext
    rw [h] at hnext
    cases hnext
  · rename_i item rest hnext
    rw [h] at hnext
    cases hnext
    rfl

end Pull

/-! ## All pulls -/

/-- Draining what is left of a stream collects its items up to the first violation. -/
theorem drain_eq_collect (previous : Nat) (items : List StreamItem) :
    OrderedStream.drain ⟨items, previous, false⟩ = collect (orderedAfter previous items) := by
  induction items generalizing previous with
  | nil => exact OrderedStream.drain_of_end rfl
  | cons item rest ih =>
      cases item with
      | error e =>
          exact OrderedStream.drain_of_failure (OrderedStream.next_of_error e rest previous)
      | ok c =>
          by_cases hle : c.ordinal ≤ previous
          · rw [OrderedStream.drain_of_failure (OrderedStream.next_of_le hle rest), orderedAfter,
              if_pos hle]
            rfl
          · rw [OrderedStream.drain_of_column (OrderedStream.next_of_not_le hle rest), ih,
              orderedAfter, if_neg hle, collect]

theorem Context.drain_eq (context : Context) (items : List StreamItem) :
    context.drain items = context.report (collectOrdered items) :=
  congrArg context.report (drain_eq_collect 0 items)

/-- The loop over what is left of a stream folds the columns that draining it
would give, and fails as draining it would. The induction is on the items that
are left; the ordinal of the last column and what is built so far vary. -/
theorem pullInto_eq_foldl {β : Type} (context : Context) (take : β → Column → β) (built : β)
    (previous : Nat) (items : List StreamItem) :
    context.pullInto take built ⟨items, previous, false⟩ =
      (context.report (collect (orderedAfter previous items))).map (·.foldl take built) := by
  induction items generalizing built previous with
  | nil =>
      have hnext : OrderedStream.next ⟨[], previous, false⟩ = (none, ⟨[], previous, false⟩) := rfl
      exact pullInto_of_end context take built hnext
  | cons item rest ih =>
      cases item with
      | error e =>
          exact pullInto_of_failure context take built (OrderedStream.next_of_error e rest previous)
      | ok c =>
          -- the adapter hands the column on only above the ordinal before it
          by_cases hle : c.ordinal ≤ previous
          · rw [pullInto_of_failure context take built (OrderedStream.next_of_le hle rest),
              orderedAfter, if_pos hle]
            rfl
          · rw [pullInto_of_column context take built (OrderedStream.next_of_not_le hle rest), ih,
              orderedAfter, if_neg hle, collect]
            cases collect (orderedAfter c.ordinal rest) <;> rfl

/-- **Pulling into a state is draining and then folding.** -/
theorem pullInto_start (context : Context) {β : Type} (take : β → Column → β) (built : β)
    (items : List StreamItem) :
    context.pullInto take built (.start items) =
      (context.drain items).map (·.foldl take built) := by
  rw [context.drain_eq]
  exact pullInto_eq_foldl context take built 0 items

/-- A loop that appends one entry per column appends them all, in order. -/
theorem foldl_append_entry {β δ : Type} (hold : List β → δ) (entry : Column → β)
    {take : δ → Column → δ} (h : ∀ entries c, take (hold entries) c = hold (entries ++ [entry c]))
    (entries : List β) (columns : List Column) :
    columns.foldl take (hold entries) = hold (entries ++ columns.map entry) := by
  induction columns generalizing entries with
  | nil => simp
  | cons c rest ih =>
      simp [h, ih]

end SchemaCodegen
