import SchemaCodegen.Column.Basic

/-!
# Column streams

A provider delivers the columns of a table one by one, and any item may be a failure instead. A
valid stream has columns only, with strictly increasing ordinals above zero. The ordering
adapter passes the valid start of a stream on, reports the first violation, and then ends.
-/

namespace SchemaCodegen

inductive StreamError where
  /-- A row, counted from one, that is no column. -/
  | scan (row : Nat) (message : String)
  /-- A column whose ordinal does not exceed that of the column before it. -/
  | outOfOrder (previous found : Nat)
  | tableNotFound (table : String)
  /-- A failure that the provider words itself. -/
  | provider (message : String)
deriving DecidableEq, Repr

def StreamError.message : StreamError → String
  | .scan row message => s!"failed to scan column row {row}: {message}"
  | .outOfOrder previous found => s!"column ordinal {found} does not follow {previous}"
  | .tableNotFound table => s!"table '{table}' not found"
  | .provider message => message

abbrev StreamItem := Except StreamError Column

/-- The items that a stream yields through the ordering adapter, after a column with the ordinal
`previous`. -/
def orderedAfter (previous : Nat) : List StreamItem → List StreamItem
  | [] => []
  | .error e :: _ => [.error e]
  | .ok c :: rest =>
    if c.ordinal ≤ previous then [.error (.outOfOrder previous c.ordinal)]
    else .ok c :: orderedAfter c.ordinal rest

def ordered (items : List StreamItem) : List StreamItem := orderedAfter 0 items

/-- All columns of a stream, or its first failure. -/
def collect : List StreamItem → Except StreamError (List Column)
  | [] => .ok []
  | .error e :: _ => .error e
  | .ok c :: rest => (collect rest).map (c :: ·)

/-- All columns of a valid stream, or the first violation. -/
def collectOrdered (items : List StreamItem) : Except StreamError (List Column) :=
  collect (ordered items)

/-- The ordering adapter as a machine that is pulled item by item. -/
structure OrderedStream where
  /-- What the stream has not delivered yet. -/
  rest : List StreamItem
  /-- The ordinal of the last column, zero before the first. -/
  previous : Nat
  /-- Whether a failure has been delivered. -/
  failed : Bool

namespace OrderedStream

def start (items : List StreamItem) : OrderedStream := ⟨items, 0, false⟩

/-- The next item, if there is one, and the adapter after it. -/
def next (s : OrderedStream) : Option StreamItem × OrderedStream :=
  if s.failed then (none, s)
  else
    match s.rest with
    | [] => (none, s)
    | .error e :: rest => (some (.error e), ⟨rest, s.previous, true⟩)
    | .ok c :: rest =>
      if c.ordinal ≤ s.previous then
        (some (.error (.outOfOrder s.previous c.ordinal)), ⟨rest, s.previous, true⟩)
      else (some (.ok c), ⟨rest, c.ordinal, false⟩)

/-- An item that is delivered is taken off the stream. -/
theorem rest_length_lt {s later : OrderedStream} {item : StreamItem}
    (h : s.next = (some item, later)) : later.rest.length < s.rest.length := by
  obtain ⟨rest, previous, failed⟩ := s
  unfold next at h
  split at h
  · cases h
  · cases rest with
    | nil => cases h
    | cons first rest =>
        cases first with
        | error e =>
            cases h
            exact Nat.lt_succ_self _
        | ok c =>
            simp only at h
            split at h <;> cases h <;> exact Nat.lt_succ_self _

/-- All columns that are left, or the first failure. -/
def drain (s : OrderedStream) : Except StreamError (List Column) :=
  match _h : s.next with
  | (none, _) => .ok []
  | (some (.ok column), later) => later.drain.map (column :: ·)
  | (some (.error cause), _) => .error cause
termination_by s.rest.length
decreasing_by exact rest_length_lt _h

/-- The answers to a number of pulls; `none` stands for the end of the stream. -/
def pulls : Nat → OrderedStream → List (Option StreamItem)
  | 0, _ => []
  | n + 1, s => s.next.1 :: pulls n s.next.2

end OrderedStream

end SchemaCodegen
