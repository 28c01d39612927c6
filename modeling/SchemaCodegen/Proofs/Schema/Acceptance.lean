import Mathlib.Tactic.MkIffOfInductiveProp
import SchemaCodegen.Proofs.Document.Filling
import SchemaCodegen.Proofs.Document.Kept
import SchemaCodegen.Proofs.Text.Occurrence
import SchemaCodegen.Schema.Basic

/-!
# What is accepted as a row

A row is a column if it gives an ordinal, a name and a type once each, and a
nullability, a largest length, a key mark and a comment at most once each, all
of the right kind and the integers of 32 bits. Whatever else the row has in it,
and in which order, makes no difference. A list of the first values in the order
of the fields is as good as the table, and a moment is as good as its text, also
where a table stands for it. No other row is accepted.
-/

namespace SchemaCodegen.Row

open Document

/-! ## The fields -/

def fields : List (TypedSlot Draft) :=
  [⟨Nat, "ordinal_position", [], Draft.ordinal, fun v d => { d with ordinal := some v },
    Node.asCount⟩,
   ⟨String, "column_name", [], Draft.name, fun v d => { d with name := some v }, Node.asText⟩,
   ⟨Nullability, "is_nullable", [], Draft.nullable, fun v d => { d with nullable := some v },
    Node.asName Nullability.ofName⟩,
   ⟨Nat, "character_maximum_length", [], Draft.maxLength, fun v d => { d with maxLength := some v },
    Node.asCount⟩,
   ⟨String, "data_type", [], Draft.rawType, fun v d => { d with rawType := some v }, Node.asText⟩,
   ⟨String, "column_key", [], Draft.keyMark, fun v d => { d with keyMark := some v }, Node.asText⟩,
   ⟨String, "column_comment", [], Draft.comment, fun v d => { d with comment := some v },
    Node.asText⟩]

def fieldNames : List String := fields.map TypedSlot.name

theorem shape_madeOf : shape.MadeOf fields where
  slots_eq := rfl
  apart := by
    simp only [fields, List.pairwise_cons, List.forall_mem_cons, List.not_mem_nil,
      false_implies, implies_true, List.Pairwise.nil, and_true]
    and_intros
    all_goals
      constructor
      · simp [TypedSlot.names]
      · intro v d
        rfl
      · intro v d
        rfl
  get_put := by
    simp [fields]
  ext := by
    rintro ⟨ordinal, name, nullable, maxLength, rawType, keyMark, comment⟩ d h
    simp only [fields, List.forall_mem_cons] at h
    obtain ⟨rfl, rfl, rfl, rfl, rfl, rfl, rfl, -⟩ := h
    rfl
  blank := by
    simp [fields, shape]

theorem complete_eq_ok_iff {absent : Nat → String → Cause} {d : Draft} {c : Column} :
    complete absent d = .ok c ↔
      d.ordinal = some c.ordinal ∧ d.name = some c.name ∧ d.nullable.getD .no = c.nullable ∧
        d.maxLength = c.maxLength ∧ d.rawType = some c.rawType ∧
        Text.occursIn "PRI" (d.keyMark.getD "") = c.isKey ∧ d.comment = c.comment := by
  obtain ⟨ordinal, name, nullable, maxLength, rawType, keyMark, comment⟩ := d
  obtain ⟨cordinal, cname, cnullable, cmaxLength, crawType, cisKey, ccomment⟩ := c
  rw [complete]
  cases ordinal with
  | none => simp [required, bind, Except.bind]
  | some ordinal =>
      cases name with
      | none => simp [required, bind, Except.bind]
      | some name =>
          cases rawType with
          | none => simp [required, bind, Except.bind]
          | some rawType =>
              simp [required, bind, Except.bind, pure, Except.pure, Column.new, Column.withKeyMark]

/-! ## What members give -/

/-- What a row says of the field of a name. -/
abbrev said (name : String) (members : List (String × Plain)) : List Plain :=
  given [name] members

/-- Members give a column: each value stands under its name exactly once, or not at all if it has
its default. -/
@[mk_iff]
structure Gives (members : List (String × Plain)) (c : Column) : Prop where
  ordinal : said "ordinal_position" members = [.int c.ordinal] ∧ c.ordinal < 2 ^ 32
  name : said "column_name" members = [.text c.name]
  nullable : said "is_nullable" members = [] ∧ c.nullable = .no ∨
    ∃ s, said "is_nullable" members = [.text s] ∧ Text.equalAsciiFolded s c.nullable.name = true
  maxLength : said "character_maximum_length" members = [] ∧ c.maxLength = none ∨
    ∃ k : Nat, said "character_maximum_length" members = [.int k] ∧ k < 2 ^ 32 ∧
      c.maxLength = some k
  rawType : said "data_type" members = [.text c.rawType]
  isKey : said "column_key" members = [] ∧ c.isKey = false ∨
    ∃ mark, said "column_key" members = [.text mark] ∧
      (c.isKey = true ↔ "PRI".toList <:+: mark.toList)
  comment : said "column_comment" members = [] ∧ c.comment = none ∨
    ∃ s, said "column_comment" members = [.text s] ∧ c.comment = some s

/-- A mark is spelt like its name up to the case of ASCII letters. -/
theorem ofName_eq_ok_iff {s : String} {mark : Nullability} :
    Nullability.ofName s = .ok mark ↔ Text.equalAsciiFolded s mark.name = true := by
  have hyes : Text.equalAsciiFolded s "YES" = Text.equalAsciiFolded s "yes" :=
    congrArg (s.toList.map Text.lowerAscii == ·) (by decide)
  have hno : Text.equalAsciiFolded s "NO" = Text.equalAsciiFolded s "no" :=
    congrArg (s.toList.map Text.lowerAscii == ·) (by decide)
  have happart : Text.equalAsciiFolded s "yes" = true → Text.equalAsciiFolded s "no" = false := by
    intro h
    rw [Text.equalAsciiFolded, beq_iff_eq] at h
    rw [Text.equalAsciiFolded, h]
    decide
  rw [Nullability.ofName]
  cases hfirst : Text.equalAsciiFolded s "yes" with
  | true => cases mark <;> simp [Nullability.name, hyes, hno, hfirst, happart hfirst]
  | false =>
      cases hsecond : Text.equalAsciiFolded s "no" <;>
        cases mark <;> simp [Nullability.name, hyes, hno, hfirst, hsecond]

theorem asName_eq_ok_iff {kept : Node} {r : Plain} (h : kept.Says r) {mark : Nullability} :
    kept.asName Nullability.ofName = .ok mark ↔
      ∃ s, r = .text s ∧ Text.equalAsciiFolded s mark.name = true := by
  simp only [← h.asText, ← ofName_eq_ok_iff]
  rw [Node.asName]
  cases kept.asText with
  | error fault => simp
  | ok s =>
      simp only [Except.ok.injEq, exists_eq_left']
      cases Nullability.ofName s <;> simp

section Reads

variable {entries : List (Key × Node)} {members : List (String × Plain)}
  (h : List.Forall₂ (EntryHolds Node.Says) entries members) {name : String}
include h

theorem reads_text_iff {get : Draft → Option String} {put : String → Draft → Draft}
    {after : Option String} :
    let f : TypedSlot Draft := ⟨String, name, [], get, put, Node.asText⟩
    f.Reads (f.nodes entries) none after ↔
      said name members = [] ∧ after = none ∨
        ∃ s, said name members = [.text s] ∧ after = some s := by
  intro f
  rw [f.reads_iff_of_forall₂ (f.forall₂_nodes h) fun hnode _ => hnode.asText]
  simp [f, TypedSlot.names]

theorem reads_count_iff {get : Draft → Option Nat} {put : Nat → Draft → Draft}
    {after : Option Nat} :
    let f : TypedSlot Draft := ⟨Nat, name, [], get, put, Node.asCount⟩
    f.Reads (f.nodes entries) none after ↔
      said name members = [] ∧ after = none ∨
        ∃ k : Nat, said name members = [.int k] ∧ k < 2 ^ 32 ∧ after = some k := by
  intro f
  rw [f.reads_iff_of_forall₂ (f.forall₂_nodes h) fun hnode _ => hnode.asCount]
  simp [f, TypedSlot.names]

theorem reads_mark_iff {get : Draft → Option Nullability} {put : Nullability → Draft → Draft}
    {after : Option Nullability} :
    let f : TypedSlot Draft := ⟨Nullability, name, [], get, put, Node.asName Nullability.ofName⟩
    f.Reads (f.nodes entries) none after ↔
      said name members = [] ∧ after = none ∨
        ∃ mark s, said name members = [.text s] ∧
          Text.equalAsciiFolded s mark.name = true ∧ after = some mark := by
  intro f
  rw [f.reads_iff_of_forall₂ (f.forall₂_nodes h) fun hnode _ => asName_eq_ok_iff hnode]
  simp [f, TypedSlot.names]

end Reads

/-! ## Components and their defaults -/

variable {values : List Plain}

theorem exists_nullable_iff {nullable : Nullability} :
    (∃ after : Option Nullability,
      (values = [] ∧ after = none ∨ ∃ mark s, values = [.text s] ∧
        Text.equalAsciiFolded s mark.name = true ∧ after = some mark) ∧
        after.getD .no = nullable) ↔
      values = [] ∧ nullable = .no ∨
        ∃ s, values = [.text s] ∧ Text.equalAsciiFolded s nullable.name = true := by
  constructor
  · rintro ⟨_, ⟨hnone, rfl⟩ | ⟨mark, s, hone, hmark, rfl⟩, rfl⟩
    · exact Or.inl ⟨hnone, rfl⟩
    · exact Or.inr ⟨s, hone, hmark⟩
  · rintro (⟨hnone, rfl⟩ | ⟨s, hone, hmark⟩)
    · exact ⟨none, Or.inl ⟨hnone, rfl⟩, rfl⟩
    · exact ⟨some nullable, Or.inr ⟨nullable, s, hone, hmark, rfl⟩, rfl⟩

theorem exists_isKey_iff {isKey : Bool} :
    (∃ after : Option String,
      (values = [] ∧ after = none ∨ ∃ s, values = [.text s] ∧ after = some s) ∧
        Text.occursIn "PRI" (after.getD "") = isKey) ↔
      values = [] ∧ isKey = false ∨
        ∃ mark, values = [.text mark] ∧ (isKey = true ↔ "PRI".toList <:+: mark.toList) := by
  have hempty : Text.occursIn "PRI" "" = false := by decide
  constructor
  · rintro ⟨_, ⟨hnone, rfl⟩ | ⟨mark, hone, rfl⟩, rfl⟩
    · exact Or.inl ⟨hnone, hempty⟩
    · exact Or.inr ⟨mark, hone, Text.occursIn_iff⟩
  · rintro (⟨hnone, rfl⟩ | ⟨mark, hone, hkey⟩)
    · exact ⟨none, Or.inl ⟨hnone, rfl⟩, hempty⟩
    · refine ⟨some mark, Or.inr ⟨mark, hone, rfl⟩, ?_⟩
      rw [← Text.occursIn_iff] at hkey
      exact (Bool.eq_iff_iff.mpr hkey).symm

theorem keepRow_eq_ok_iff {n kept : Node} :
    Schema.keepRow n = .ok kept ↔ Toml.keep? n = some kept := by
  rw [Schema.keepRow]
  cases Toml.keep? n <;> simp

/-- **A table is decoded to the column that its members give.** -/
theorem column_eq_ok_iff {span : Text.Span} {entries : List (Key × Node)}
    {members : List (String × Plain)}
    (h : List.Forall₂ (EntryHolds Node.Says) entries members) {c : Column} :
    column (.table span entries) = .ok c ↔ Gives members c := by
  rw [column, shape_madeOf.decode_table_eq_ok_iff]
  simp only [fields, List.forall_mem_cons, reads_text_iff h, reads_count_iff h, reads_mark_iff h]
  constructor
  · rintro ⟨d, ⟨⟨hordinal, hname, hnullable, hlength, htype, hmark, hcomment, -⟩, -⟩, hcomplete⟩
    obtain ⟨hordinal', hname', hnullable', hlength', htype', hkey, hcomment'⟩ :=
      complete_eq_ok_iff.mp hcomplete
    exact
      { ordinal := by simpa [hordinal'] using hordinal
        name := by simpa [hname'] using hname
        nullable := exists_nullable_iff.mp ⟨_, hnullable, hnullable'⟩
        maxLength := by simpa [hlength'] using hlength
        rawType := by simpa [htype'] using htype
        isKey := exists_isKey_iff.mp ⟨_, hmark, hkey⟩
        comment := by simpa [hcomment'] using hcomment }
  · intro hgives
    obtain ⟨nullable, hnullable, hnullable'⟩ := exists_nullable_iff.mpr hgives.nullable
    obtain ⟨mark, hmark, hkey⟩ := exists_isKey_iff.mpr hgives.isKey
    refine ⟨⟨c.ordinal, c.name, nullable, c.maxLength, c.rawType, mark, c.comment⟩,
      ⟨⟨?_, ?_, hnullable, hgives.maxLength, ?_, hmark, hgives.comment, List.forall_mem_nil _⟩, ?_⟩,
      ?_⟩
    · exact Or.inr ⟨c.ordinal, hgives.ordinal.1, hgives.ordinal.2, rfl⟩
    · exact Or.inr ⟨_, hgives.name, rfl⟩
    · exact Or.inr ⟨_, hgives.rawType, rfl⟩
    · intro e he _
      exact Toml.obstacle?_of_forall₂_says h e he
    · exact complete_eq_ok_iff.mpr ⟨rfl, rfl, hnullable', rfl, rfl, hkey, rfl⟩

/-- Members give the same column in any order, and whatever is said under other names. -/
theorem gives_congr {members others : List (String × Plain)} {c : Column}
    (hperm : (others.filter (fieldNames.contains ·.1)).Perm
      (members.filter (fieldNames.contains ·.1))) : Gives others c ↔ Gives members c := by
  have hsaid : ∀ name ∈ fieldNames, (said name others).Perm (said name members) := by
    intro name hname
    exact given_perm_of_known (by simpa using hname) hperm
  rw [gives_iff, gives_iff]
  simp only [← List.perm_nil, ← List.perm_singleton,
    (hsaid "ordinal_position" (by decide)).congr_left, (hsaid "column_name" (by decide)).congr_left,
    (hsaid "is_nullable" (by decide)).congr_left,
    (hsaid "character_maximum_length" (by decide)).congr_left,
    (hsaid "data_type" (by decide)).congr_left, (hsaid "column_key" (by decide)).congr_left,
    (hsaid "column_comment" (by decide)).congr_left]

/-- **A list is decoded like the table that gives its elements by name.** -/
theorem column_list_eq_ok_iff {span : Text.Span} {items : List Node} {values : List Plain}
    (h : List.Forall₂ Node.Says items values) (hlength : values.length ≤ fieldNames.length)
    {c : Column} : column (.list span items) = .ok c ↔ Gives (fieldNames.zip values) c := by
  have hcomplete : ∀ absent absent' draft record,
      shape.complete absent draft = .ok record → shape.complete absent' draft = .ok record := by
    intro absent absent' draft record h
    exact complete_eq_ok_iff.mpr (complete_eq_ok_iff.mp h)
  obtain ⟨entries, hnames, rfl, hentries⟩ := exists_entries h hlength
  have htable : column (.table ⟨0, 0⟩ entries) = .ok c ↔ Gives (fieldNames.zip values) c :=
    column_eq_ok_iff hentries
  exact (shape_madeOf.decode_list_eq_ok_iff hcomplete hnames).trans htable

/-- What is accepted is a table or a list, whose fifth value is the last that cannot be left out. -/
theorem table_or_list_of_column {kept : Node} {c : Column} (h : column kept = .ok c) :
    (∃ place entries, kept = .table place entries) ∨
      ∃ place items, kept = .list place items ∧ 5 ≤ items.length ∧ items.length ≤ 7 := by
  cases kept with
  | scalar place content => cases h
  | table place entries => exact Or.inl ⟨place, entries, rfl⟩
  | list place items =>
      obtain ⟨hlength, absent, draft, hfill, hcomplete⟩ := Shape.exists_of_decode_list h
      refine Or.inr ⟨place, items, rfl, ?_, hlength⟩
      obtain ⟨-, -, -, -, htype, -, -⟩ := complete_eq_ok_iff.mp hcomplete
      have hfifth : fields[4]? = some fields[4] := rfl
      rw [shape_madeOf.slots_eq] at hfill
      rcases shape_madeOf.fillItems_eq_ok (List.Subset.refl _) shape_madeOf.apart hfill hfifth with
        ⟨-, hkept⟩ | ⟨value, -, hvalue, -, -⟩
      · cases hkept.symm.trans htype
      · exact (List.getElem?_eq_some_iff.mp hvalue).1

/-! ## The format -/

/-- Members are a column that is allowed: the three values without a default stand in them exactly
once and the others at most once, all of the right kind and in range. -/
structure Admissible (members : List (String × Plain)) : Prop where
  ordinal : ∃ k : Nat, said "ordinal_position" members = [.int k] ∧ k < 2 ^ 32
  name : ∃ s, said "column_name" members = [.text s]
  nullable : said "is_nullable" members = [] ∨
    ∃ s, said "is_nullable" members = [.text s] ∧
      (Text.equalAsciiFolded s "YES" = true ∨ Text.equalAsciiFolded s "NO" = true)
  maxLength : said "character_maximum_length" members = [] ∨
    ∃ k : Nat, said "character_maximum_length" members = [.int k] ∧ k < 2 ^ 32
  rawType : ∃ s, said "data_type" members = [.text s]
  keyMark : said "column_key" members = [] ∨ ∃ s, said "column_key" members = [.text s]
  comment : said "column_comment" members = [] ∨ ∃ s, said "column_comment" members = [.text s]

theorem Gives.admissible {members : List (String × Plain)} {c : Column} (h : Gives members c) :
    Admissible members where
  ordinal := ⟨c.ordinal, h.ordinal⟩
  name := ⟨_, h.name⟩
  nullable := by
    rcases h.nullable with ⟨hnone, -⟩ | ⟨s, hone, hmark⟩
    · exact Or.inl hnone
    · refine Or.inr ⟨s, hone, ?_⟩
      cases hc : c.nullable with
      | yes =>
          rw [hc] at hmark
          exact Or.inl hmark
      | no =>
          rw [hc] at hmark
          exact Or.inr hmark
  maxLength := by
    rcases h.maxLength with ⟨hnone, -⟩ | ⟨k, hone, hlt, -⟩
    · exact Or.inl hnone
    · exact Or.inr ⟨k, hone, hlt⟩
  rawType := ⟨_, h.rawType⟩
  keyMark := h.isKey.imp And.left fun hmark => hmark.imp fun _ => And.left
  comment := h.comment.imp And.left fun hs => hs.imp fun _ => And.left

theorem Admissible.exists_gives {members : List (String × Plain)} (h : Admissible members) :
    ∃ c, Gives members c := by
  obtain ⟨⟨ordinal, hordinal⟩, ⟨name, hname⟩, hnullable, hlength, ⟨rawType, htype⟩, hmark,
    hcomment⟩ := h
  obtain ⟨nullable, hnullable'⟩ : ∃ nullable : Nullability,
      said "is_nullable" members = [] ∧ nullable = .no ∨
        ∃ s, said "is_nullable" members = [.text s] ∧
          Text.equalAsciiFolded s nullable.name = true := by
    rcases hnullable with hnone | ⟨s, hone, hyes | hno⟩
    · exact ⟨.no, Or.inl ⟨hnone, rfl⟩⟩
    · exact ⟨.yes, Or.inr ⟨s, hone, hyes⟩⟩
    · exact ⟨.no, Or.inr ⟨s, hone, hno⟩⟩
  obtain ⟨maxLength, hlength'⟩ : ∃ maxLength : Option Nat,
      said "character_maximum_length" members = [] ∧ maxLength = none ∨
        ∃ k : Nat, said "character_maximum_length" members = [.int k] ∧ k < 2 ^ 32 ∧
          maxLength = some k := by
    rcases hlength with hnone | ⟨k, hone, hlt⟩
    · exact ⟨none, Or.inl ⟨hnone, rfl⟩⟩
    · exact ⟨some k, Or.inr ⟨k, hone, hlt, rfl⟩⟩
  obtain ⟨isKey, hmark'⟩ : ∃ isKey : Bool,
      said "column_key" members = [] ∧ isKey = false ∨
        ∃ mark, said "column_key" members = [.text mark] ∧
          (isKey = true ↔ "PRI".toList <:+: mark.toList) := by
    rcases hmark with hnone | ⟨mark, hone⟩
    · exact ⟨false, Or.inl ⟨hnone, rfl⟩⟩
    · exact ⟨Text.occursIn "PRI" mark, Or.inr ⟨mark, hone, Text.occursIn_iff⟩⟩
  obtain ⟨comment, hcomment'⟩ : ∃ comment : Option String,
      said "column_comment" members = [] ∧ comment = none ∨
        ∃ s, said "column_comment" members = [.text s] ∧ comment = some s := by
    rcases hcomment with hnone | ⟨s, hone⟩
    · exact ⟨none, Or.inl ⟨hnone, rfl⟩⟩
    · exact ⟨some s, Or.inr ⟨s, hone, rfl⟩⟩
  -- every field has its value, given or by default
  exact ⟨⟨ordinal, name, nullable, maxLength, rawType, isKey, comment⟩,
    hordinal, hname, hnullable', hlength', htype, hmark', hcomment'⟩

/-- **Rows are accepted exactly in their format.** A table that is kept as a row is accepted if its
members are admissible, as the column that they give. Neither their order nor what is said under
unknown names makes a difference, and a list of the first values is accepted as the same column as
their table. What is kept as neither, as a moment is, and a list of fewer than five or more than
seven values are refused. -/
theorem accepted_in_format {n : Node} {place : Text.Span} {entries : List (Key × Node)}
    (hkept : Schema.keepRow n = .ok (.table place entries)) :
    ((∃ c, column (.table place entries) = .ok c) ↔ Admissible n.members) ∧
    (∀ c, column (.table place entries) = .ok c ↔ Gives n.members c) ∧
    (∀ (n' : Node) (place' : Text.Span) (entries' : List (Key × Node)),
      Schema.keepRow n' = .ok (.table place' entries') →
      (n'.members.filter (fieldNames.contains ·.1)).Perm
        (n.members.filter (fieldNames.contains ·.1)) →
      ∀ c, column (.table place' entries') = .ok c ↔ column (.table place entries) = .ok c) ∧
    (∀ (n' : Node) (place' : Text.Span) (items : List Node),
      Schema.keepRow n' = .ok (.list place' items) → n'.elements.length ≤ fieldNames.length →
      n.members = fieldNames.zip n'.elements →
      ∀ c, column (.list place' items) = .ok c ↔ column (.table place entries) = .ok c) ∧
    ∀ kept c, column kept = .ok c → (∃ place entries, kept = .table place entries) ∨
      ∃ place items, kept = .list place items ∧ 5 ≤ items.length ∧ items.length ≤ 7 := by
  have htable : ∀ {n : Node} {place : Text.Span} {entries : List (Key × Node)},
      Schema.keepRow n = .ok (.table place entries) →
      ∀ c, column (.table place entries) = .ok c ↔ Gives n.members c := by
    intro n place entries hkept c
    exact column_eq_ok_iff (Toml.forall₂_says_of_table (keepRow_eq_ok_iff.mp hkept))
  refine ⟨?_, htable hkept, ?_, ?_, fun kept c => table_or_list_of_column⟩
  · simp only [htable hkept]
    exact ⟨fun ⟨c, hgives⟩ => hgives.admissible, Admissible.exists_gives⟩
  · intro n' place' entries' hkept' hperm c
    rw [htable hkept', htable hkept, gives_congr hperm]
  · intro n' place' items hkept' hlength hmembers c
    rw [htable hkept, hmembers]
    exact column_list_eq_ok_iff (Toml.forall₂_says_of_list (keepRow_eq_ok_iff.mp hkept')) hlength

/-- A row with a moment for a name and the largest length, the same row in reverse with more in it,
the list of its values, and rows whose length is too large and whose ordinal is no integer. -/
theorem accepted_at_the_edges :
    let entry (name : String) (content : Scalar) : Key × Node :=
      (⟨name, ⟨0, 0⟩, 0⟩, .scalar ⟨0, 0⟩ content)
    let row (ordinal : Scalar) (length : Int) : List (Key × Node) :=
      [entry "ordinal_position" ordinal, entry "column_name" (.moment "1979-05-27"),
       entry "is_nullable" (.text "yes"), entry "character_maximum_length" (.int length),
       entry "data_type" (.text "varchar"), entry "column_key" (.text "UNI,PRI")]
    let accepts (n : Node) (c : Column) : Prop :=
      ∃ kept, Schema.keepRow n = .ok kept ∧ column kept = .ok c
    let c : Column := ⟨0, "1979-05-27", .yes, some 4294967295, "varchar", true, none⟩
    accepts (.table ⟨0, 0⟩ (row (.int 0) 4294967295)) c ∧
      accepts (.table ⟨0, 0⟩ (entry "note" (.bool true) :: (row (.int 0) 4294967295).reverse)) c ∧
      accepts (.list ⟨0, 0⟩ ((row (.int 0) 4294967295).map Prod.snd)) c ∧
      (∀ c, ¬ accepts (.table ⟨0, 0⟩ (row (.int 0) 4294967296)) c) ∧
      ∀ c, ¬ accepts (.table ⟨0, 0⟩ (row (.bool true) 1)) c := by
  intro entry row accepts c
  let kept (ordinal : Scalar) (length : Int) : List (Key × Node) :=
    (row ordinal length).set 1 (entry "column_name" (.text "1979-05-27"))
  have hrow : Schema.keepRow (.table ⟨0, 0⟩ (row (.int 0) 4294967295)) =
      .ok (.table ⟨0, 0⟩ (kept (.int 0) 4294967295)) := rfl
  have hreversed : Schema.keepRow
      (.table ⟨0, 0⟩ (entry "note" (.bool true) :: (row (.int 0) 4294967295).reverse)) =
      .ok (.table ⟨0, 0⟩ (entry "note" (.bool true) :: (kept (.int 0) 4294967295).reverse)) := rfl
  have hlist : Schema.keepRow (.list ⟨0, 0⟩ ((row (.int 0) 4294967295).map Prod.snd)) =
      .ok (.list ⟨0, 0⟩ ((kept (.int 0) 4294967295).map Prod.snd)) := rfl
  obtain ⟨-, haccepted, hsame, halike, -⟩ := accepted_in_format hrow
  have haccept : column (.table ⟨0, 0⟩ (kept (.int 0) 4294967295)) = .ok c := by
    rw [haccepted]
    exact
      { ordinal := ⟨rfl, by decide⟩
        name := rfl
        nullable := Or.inr ⟨"yes", rfl, by decide⟩
        maxLength := Or.inr ⟨4294967295, rfl, by decide, rfl⟩
        rawType := rfl
        isKey := Or.inr ⟨"UNI,PRI", rfl, iff_of_true rfl ⟨"UNI,".toList, [], by decide⟩⟩
        comment := Or.inl ⟨rfl, rfl⟩ }
  refine ⟨⟨_, hrow, haccept⟩, ⟨_, hreversed, ?_⟩, ⟨_, hlist, ?_⟩, ?_, ?_⟩
  · have hperm := List.reverse_perm (Node.table ⟨0, 0⟩ (row (.int 0) 4294967295)).members
    exact (hsame _ _ _ hreversed hperm c).mpr haccept
  · exact (halike _ _ _ hlist (by decide) rfl c).mpr haccept
  · rintro c' ⟨node, hnode, hcolumn⟩
    have hlong : Schema.keepRow (.table ⟨0, 0⟩ (row (.int 0) 4294967296)) =
        .ok (.table ⟨0, 0⟩ (kept (.int 0) 4294967296)) := rfl
    cases hlong.symm.trans hnode
    have hadmissible := (accepted_in_format hlong).1.mp ⟨c', hcolumn⟩
    rcases hadmissible.maxLength with hnone | ⟨k, hone, hlt⟩
    · cases hnone
    · have hk : (4294967296 : Int) = k := Plain.int.inj (List.cons.inj hone).1
      omega
  · rintro c' ⟨node, hnode, hcolumn⟩
    have hbool : Schema.keepRow (.table ⟨0, 0⟩ (row (.bool true) 1)) =
        .ok (.table ⟨0, 0⟩ (kept (.bool true) 1)) := rfl
    cases hbool.symm.trans hnode
    have hadmissible := (accepted_in_format hbool).1.mp ⟨c', hcolumn⟩
    obtain ⟨k, hone, -⟩ := hadmissible.ordinal
    cases hone

end SchemaCodegen.Row
