import SchemaCodegen.Proofs.Emission.Surroundings
import SchemaCodegen.Proofs.Nesting.Names
import SchemaCodegen.Proofs.TypeMap.Correspondence

/-!
# What the fields of a schema say

The field of a schema is a chain of calls. It starts with the calls of the
column's type and goes on with those that the options and the column ask for,
each at most once and in a fixed order. A reader that cuts a text at its dots and
parentheses finds exactly these calls. Which missing values a schema takes can be
told from its calls alone, so that it can be told from the options, the column,
and whether the type says anything at all.
-/

namespace SchemaCodegen.Zod

open TypeScript

/-! ## Reading chains -/

/-- The call of a method, with the text between its parentheses. -/
structure Call where
  method : String
  argument : String
deriving DecidableEq, Repr

def Call.text (k : Call) : String := "." ++ k.method ++ "(" ++ k.argument ++ ")"

def callsText (calls : List Call) : String := String.join (calls.map Call.text)

@[simp] theorem callsText_append (calls later : List Call) :
    callsText (calls ++ later) = callsText calls ++ callsText later := by
  simp [callsText]

/-- A reader of calls: behind a call, in the name of a method, or in its parentheses with some more
open inside. -/
inductive CallReader where
  | behind (calls : List Call)
  | method (calls : List Call) (name : List Char)
  | argument (calls : List Call) (name : List Char) (depth : Nat) (read : List Char)
  | failed

/-- Reads one more character. A call ends where its own parenthesis is closed. -/
def CallReader.next : CallReader → Char → CallReader
  | .behind calls, c => if c = '.' then .method calls [] else .failed
  | .method calls name, c =>
    if c = '(' then .argument calls name 0 [] else .method calls (name ++ [c])
  | .argument calls name depth read, c =>
    if c = ')' ∧ depth = 0 then .behind (calls ++ [⟨String.ofList name, String.ofList read⟩])
    else if c = '(' then .argument calls name (depth + 1) (read ++ [c])
    else if c = ')' then .argument calls name (depth - 1) (read ++ [c])
    else .argument calls name depth (read ++ [c])
  | .failed, _ => .failed

/-- The calls of a reader that is behind one. -/
def CallReader.calls? : CallReader → Option (List Call)
  | .behind calls => some calls
  | _ => none

/-- The calls that an expression makes on `z`, from first to last. -/
def callsOf (text : String) : Option (List Call) :=
  match text.toList with
  | 'z' :: cs => (cs.foldl CallReader.next (.behind [])).calls?
  | _ => none

theorem eq_behind_of_callsOf {text : String} {calls : List Call} (h : callsOf text = some calls) :
    ∃ cs, text.toList = 'z' :: cs ∧ cs.foldl CallReader.next (.behind []) = .behind calls := by
  unfold callsOf at h
  split at h
  · rename_i cs htext
    refine ⟨cs, htext, ?_⟩
    unfold CallReader.calls? at h
    split at h
    · rename_i found hfound
      cases h
      exact hfound
    · cases h
  · cases h

/-- A method and an argument without brackets. -/
structure Call.Plain (k : Call) : Prop where
  method : BracketFree k.method
  argument : BracketFree k.argument

instance (k : Call) : Decidable k.Plain :=
  decidable_of_iff (BracketFree k.method ∧ BracketFree k.argument)
    ⟨fun h => ⟨h.1, h.2⟩, fun h => ⟨h.method, h.argument⟩⟩

theorem foldl_method {calls : List Call} {cs : List Char} (h : '(' ∉ cs) (name : List Char) :
    cs.foldl CallReader.next (.method calls name) = .method calls (name ++ cs) := by
  induction cs generalizing name with
  | nil => simp
  | cons c cs ih =>
      rw [List.mem_cons, not_or] at h
      rw [List.foldl_cons, CallReader.next, if_neg (Ne.symm h.1), ih h.2]
      simp

theorem foldl_argument {calls : List Call} {name cs : List Char} (hopen : '(' ∉ cs)
    (hclose : ')' ∉ cs) (read : List Char) :
    cs.foldl CallReader.next (.argument calls name 0 read) =
      .argument calls name 0 (read ++ cs) := by
  induction cs generalizing read with
  | nil => simp
  | cons c cs ih =>
      rw [List.mem_cons, not_or] at hopen hclose
      rw [List.foldl_cons, CallReader.next, if_neg (fun h => hclose.1 h.1.symm),
        if_neg (Ne.symm hopen.1), if_neg (Ne.symm hclose.1), ih hopen.2 hclose.2]
      simp

/-- A call that was written is read. -/
theorem foldl_call {k : Call} (h : k.Plain) (calls : List Call) :
    k.text.toList.foldl CallReader.next (.behind calls) = .behind (calls ++ [k]) := by
  have hmethod : '(' ∉ k.method.toList := by
    intro hmem
    exact absurd (h.method '(' hmem) (by decide)
  have hopen : '(' ∉ k.argument.toList := by
    intro hmem
    exact absurd (h.argument '(' hmem) (by decide)
  have hclose : ')' ∉ k.argument.toList := by
    intro hmem
    exact absurd (h.argument ')' hmem) (by decide)
  have htext : k.text.toList =
      '.' :: (k.method.toList ++ '(' :: (k.argument.toList ++ [')'])) := by
    simp [Call.text]
  rw [htext, List.foldl_cons, List.foldl_append, CallReader.next, if_pos rfl,
    foldl_method hmethod, List.foldl_cons, List.foldl_append, CallReader.next, if_pos rfl,
    foldl_argument hopen hclose]
  simp [CallReader.next]

/-- Calls behind an expression are read behind its own. -/
theorem callsOf_append {text : String} {calls added : List Call} (h : callsOf text = some calls)
    (hadded : ∀ k ∈ added, k.Plain) :
    callsOf (text ++ callsText added) = some (calls ++ added) := by
  have hread : ∀ calls, (callsText added).toList.foldl CallReader.next (.behind calls) =
      .behind (calls ++ added) := by
    induction added with
    | nil => simp [callsText]
    | cons k added ih =>
        obtain ⟨hk, hrest⟩ := List.forall_mem_cons.mp hadded
        intro calls
        have hsplit : callsText (k :: added) = k.text ++ callsText added := by simp [callsText]
        simp [hsplit, foldl_call hk, ih hrest]
  obtain ⟨cs, htext, hcalls⟩ := eq_behind_of_callsOf h
  have hchars : (text ++ callsText added).toList = 'z' :: (cs ++ (callsText added).toList) := by
    simp [htext]
  rw [callsOf, hchars]
  simp only [List.foldl_append, hcalls, hread, CallReader.calls?]

/-! ## Missing values -/

/-- A value that is not there. -/
inductive Missing where
  | null
  | undefined
deriving DecidableEq, Repr

/-- Whether a call lets a schema take a missing value. -/
def Call.admits (k : Call) : Missing → Bool
  | .null => ["any", "nullable", "nullish"].contains k.method
  | .undefined => ["any", "optional", "nullish"].contains k.method

/-- Whether a schema takes a missing value: one of its calls admits it, and none takes it back. -/
def takes (calls : List Call) (v : Missing) : Bool := calls.any (·.admits v)

/-- Whether a call refines a plain string. -/
def Call.refines (k : Call) : Bool := ["trim", "max"].contains k.method

/-- The calls of a type: they refine nothing, and take missing values only if the type says nothing
about its values. -/
structure IsBase (type : String) (calls : List Call) : Prop where
  read : callsOf ("z." ++ type) = some calls
  null : takes calls .null = true → type = TypeTable.zod.unknown
  undefined : takes calls .undefined = true → type = TypeTable.zod.unknown
  unrefined : ∀ k ∈ calls, k.refines = false

instance (type : String) (calls : List Call) : Decidable (IsBase type calls) :=
  decidable_of_iff
    (callsOf ("z." ++ type) = some calls ∧
      (takes calls .null = true → type = TypeTable.zod.unknown) ∧
      (takes calls .undefined = true → type = TypeTable.zod.unknown) ∧
      ∀ k ∈ calls, k.refines = false)
    ⟨fun h => ⟨h.1, h.2.1, h.2.2.1, h.2.2.2⟩, fun h => ⟨h.read, h.null, h.undefined, h.unrefined⟩⟩

theorem exists_isBase (engine : Engine) (raw : String) :
    ∃ calls ∈ callsOf ("z." ++ TypeTable.zod.mapType engine raw),
      IsBase (TypeTable.zod.mapType engine raw) calls := by
  refine TypeTable.mapType_of_scalar (t := .zod)
    (P := fun type => ∃ calls ∈ callsOf ("z." ++ type), IsBase type calls) ?_ ?_ engine raw
  · decide +kernel
  · intro engine
    cases engine <;> decide +kernel

/-! ## The calls that the options ask for -/

/-- A call without arguments, on a condition. -/
def calledIf (condition : Bool) (method : String) : List Call :=
  if condition then [⟨method, ""⟩] else []

/-- A call with the largest length, if there is one and on a condition. -/
def boundedIf (condition : Bool) (length : Option Nat) : List Call :=
  if condition then length.toList.map fun k => ⟨"max", toString k⟩ else []

/-- What refines the type of a column, which is done to plain strings only. -/
def refinements (o : ZodOptions) (type : String) (c : Column) : List Call :=
  calledIf (o.trim && type == "string()") "trim" ++
    boundedIf (o.maxValue && type == "string()") c.maxLength

/-- What admits missing values. -/
def marks (o : ZodOptions) (c : Column) : List Call :=
  if o.nullish then [⟨"nullish", ""⟩]
  else calledIf (o.nullable || c.isNullable) "nullable" ++ calledIf o.allOptional "optional"

/-- What is called on the type of a column. -/
def added (o : ZodOptions) (type : String) (c : Column) : List Call :=
  refinements o type c ++ marks o c

@[simp] theorem text_callIf (chain : CallChain) (condition : Bool) (method : String) :
    (chain.callIf condition method).text = chain.text ++ callsText (calledIf condition method) := by
  cases condition with
  | false => simp [CallChain.callIf, calledIf, callsText]
  | true => simp [CallChain.callIf, CallChain.call, calledIf, callsText, Call.text,
      String.append_assoc]

theorem text_callWith_max (chain : CallChain) (condition : Bool) (length : Option Nat) :
    (chain.callWith "max" (if condition then length.map toString else none)).text =
      chain.text ++ callsText (boundedIf condition length) := by
  cases condition with
  | false => simp [CallChain.callWith, boundedIf, callsText]
  | true =>
      cases length with
      | none => simp [CallChain.callWith, boundedIf, callsText]
      | some k => simp [CallChain.callWith, CallChain.call, boundedIf, callsText, Call.text,
          String.append_assoc]

@[simp] theorem text_refine (o : ZodOptions) (type : String) (c : Column) (chain : CallChain) :
    (refine o type c chain).text = chain.text ++ callsText (refinements o type c) := by
  rw [refine, fieldBound, text_callWith_max, text_callIf, refinements, callsText_append,
    String.append_assoc]
  rfl

@[simp] theorem text_admitMissing (o : ZodOptions) (c : Column) (chain : CallChain) :
    (admitMissing o c chain).text = chain.text ++ callsText (marks o c) := by
  rw [admitMissing, marks]
  split
  · exact text_callIf chain true "nullish"
  · simp [String.append_assoc]

/-- **The field of a column is its type and the calls that the options ask for.** -/
theorem text_fieldChain (engine : Engine) (o : ZodOptions) (c : Column) :
    (fieldChain engine o c).text =
      "z." ++ TypeTable.zod.mapType engine c.rawType ++
        callsText (added o (TypeTable.zod.mapType engine c.rawType) c) := by
  simp [fieldChain, added, String.append_assoc]

theorem plain_of_mem_added {o : ZodOptions} {type : String} {c : Column} :
    ∀ k ∈ added o type c, k.Plain := by
  have hmax : BracketFree "max" := by decide
  have hcalled : ∀ method ∈ plainMethods, ∀ condition, ∀ k ∈ calledIf condition method,
      k.Plain := by
    decide
  have hbounded : ∀ condition, ∀ k ∈ boundedIf condition c.maxLength, k.Plain := by
    intro condition k hk
    rw [boundedIf, List.mem_ite_nil_right, List.mem_map] at hk
    obtain ⟨-, length, -, rfl⟩ := hk
    exact ⟨hmax, bracketFree_toString length⟩
  have hmarks : ∀ k ∈ marks o c, k.Plain := by
    rw [marks]
    split
    · decide
    · rw [List.forall_mem_append]
      exact ⟨hcalled "nullable" (by decide) _, hcalled "optional" (by decide) _⟩
  simp only [added, refinements, List.forall_mem_append]
  exact ⟨⟨hcalled "trim" (by decide) _, hbounded _⟩, hmarks⟩

/-! ## What a field takes -/

@[simp] theorem takes_append (calls later : List Call) (v : Missing) :
    takes (calls ++ later) v = (takes calls v || takes later v) := List.any_append

/-- Refinements take nothing that is missing. -/
@[simp] theorem takes_refinements (o : ZodOptions) (type : String) (c : Column) (v : Missing) :
    takes (refinements o type c) v = false := by
  have hcalled : ∀ condition, takes (calledIf condition "trim") v = false := by
    cases v <;> decide
  have hbounded : ∀ condition, takes (boundedIf condition c.maxLength) v = false := by
    intro condition
    cases condition with
    | false => rfl
    | true => cases c.maxLength <;> cases v <;> rfl
  simp [refinements, hcalled, hbounded]

theorem takes_marks (o : ZodOptions) (c : Column) :
    takes (marks o c) .null = (o.nullish || o.nullable || c.isNullable) ∧
      takes (marks o c) .undefined = (o.nullish || o.allOptional) := by
  rw [marks]
  cases o.nullish <;> cases o.nullable <;> cases c.isNullable <;> cases o.allOptional <;> decide

/-- Only plain strings are refined. -/
theorem refinements_of_ne {o : ZodOptions} {type : String} {c : Column} (h : type ≠ "string()") :
    refinements o type c = [] := by
  have hother : (type == "string()") = false := beq_false_of_ne h
  simp only [refinements, hother, Bool.and_false]
  rfl

theorem refines_of_mem_marks {o : ZodOptions} {c : Column} :
    ∀ k ∈ marks o c, k.refines = false := by
  rw [marks]
  cases o.nullish <;> cases (o.nullable || c.isNullable) <;> cases o.allOptional <;> decide

/-- A field line, in the block of its schema. -/
theorem indentedLines_eq_field (engine : Engine) (o : ZodOptions) (isLast : Bool) (c : Column) :
    (Configured.typescriptZod o).indentedLines engine isLast c =
      ["  " ++ Naming.typescriptProperty c.name ++ ": " ++ (fieldChain engine o c).text ++ "," ++
        fieldComment o c] := by
  rw [fieldChain_text]
  show ["  " ++ (_ ++ ": " ++ _ ++ "," ++ _)] = _
  simp only [String.append_assoc]
  rfl

theorem source_eq_fields (context : Context) (o : ZodOptions) (columns : List Column) :
    (Configured.typescriptZod o).source context columns =
      unlines (schemaHeader context.typeName ::
        (columns.map fun c => "  " ++ Naming.typescriptProperty c.name ++ ": " ++
          (fieldChain context.engine o c).text ++ "," ++ fieldComment o c) ++
        "\x7d).strict();" ::
          if o.exportAllTypes then ["", inferredAlias context.typeName] else []) := by
  have hopening : (Configured.typescriptZod o).openingLines context columns.isEmpty =
      [schemaHeader context.typeName] := by
    show ["" ++ _] = _
    simp
  have hclosing : (Configured.typescriptZod o).closingLines context columns.isEmpty =
      "\x7d).strict();" ::
        if o.exportAllTypes then ["", inferredAlias context.typeName] else [] := by
    rw [Configured.closingLines, Configured.ending]
    cases o.exportAllTypes with
    | false => rfl
    | true =>
        show ["" ++ _, "", "" ++ _] = _
        simp only [String.empty_append]
        rfl
  have hfields : ∀ line : Column → String,
      (columns.mapIdx fun i c => (Configured.typescriptZod o).gapLines (i == 0) ++ [line c]).flatten =
        columns.map line := by
    intro line
    rw [List.map_eq_flatMap, List.flatMap_def, map_eq_mapIdx]
    rfl
  rw [Configured.source_eq_unlines _ rfl, hopening, hclosing]
  simp [indentedLines_eq_field, hfields]

/-- **The fields of a schema say what the options mean.** A field is the type of its column and the
calls that the options ask for, and these are the calls that are read in it. Only a plain string is
refined. Unless its type says nothing about values, a field takes `null` exactly if the options or
the column admit it, and a value that is not given exactly if the options do. A unit has one such
field per column, each on a line of its own between the same lines. -/
theorem fields_say_options (context : Context) (o : ZodOptions) :
    (∀ c : Column,
      let type := TypeTable.zod.mapType context.engine c.rawType
      let field := (fieldChain context.engine o c).text
      field = "z." ++ type ++ callsText (added o type c) ∧
      ∃ base, callsOf ("z." ++ type) = some base ∧ callsOf field = some (base ++ added o type c) ∧
        (∀ k ∈ base ++ added o type c, k.refines = true → type = "string()") ∧
        (type ≠ "any()" →
          (takes (base ++ added o type c) .null = true ↔
            o.nullish = true ∨ o.nullable = true ∨ c.isNullable = true) ∧
          (takes (base ++ added o type c) .undefined = true ↔
            o.nullish = true ∨ o.allOptional = true))) ∧
    ∀ items source, (Configured.typescriptZod o).generate context items = .ok source ↔
      ∃ columns, items = columns.map .ok ∧ Ascending columns ∧
        source = unlines (schemaHeader context.typeName ::
          (columns.map fun c => "  " ++ Naming.typescriptProperty c.name ++ ": " ++
            (fieldChain context.engine o c).text ++ "," ++ fieldComment o c) ++
          "\x7d).strict();" ::
            if o.exportAllTypes then ["", inferredAlias context.typeName] else []) := by
  constructor
  · intro c type field
    obtain ⟨base, hread, hbase⟩ := exists_isBase context.engine c.rawType
    have hfield : field = "z." ++ type ++ callsText (added o type c) :=
      text_fieldChain context.engine o c
    have htakes : ∀ v,
        takes (base ++ added o type c) v = (takes base v || takes (marks o c) v) := by
      intro v
      simp [added]
    refine ⟨hfield, base, hread, ?_, ?_, ?_⟩
    · rw [hfield]
      exact callsOf_append hread plain_of_mem_added
    -- neither the type nor the marks bring in a call that refines
    · intro k hk hrefines
      by_contra hother
      rw [added, refinements_of_ne hother, List.nil_append, List.mem_append] at hk
      rcases hk with hk | hk
      · rw [hbase.unrefined k hk] at hrefines
        cases hrefines
      · rw [refines_of_mem_marks k hk] at hrefines
        cases hrefines
    · intro hsays
      have hnull : takes base .null = false := Bool.eq_false_iff.mpr fun h => hsays (hbase.null h)
      have hundefined : takes base .undefined = false :=
        Bool.eq_false_iff.mpr fun h => hsays (hbase.undefined h)
      obtain ⟨hmarks, hmarks'⟩ := takes_marks o c
      rw [htakes, htakes, hnull, hundefined, hmarks, hmarks']
      simp [or_assoc]
  · intro items source
    rw [Configured.generate_eq_ok_iff_source]
    simp only [source_eq_fields]

/-- A plain string, an identifier and an array with lengths, and a document, all of them optional:
only the first is refined. -/
theorem only_plain_strings_refined :
    let o : ZodOptions :=
      { ZodOptions.table.unset with trim := true, maxValue := true, allOptional := true }
    let columns := [((Column.new 1 "name" "varchar(50)").withMaxLength 50).asNullable,
      (Column.new 2 "external_id" "uuid").withMaxLength 36,
      ((Column.new 3 "tags" "text[]").withMaxLength 10).asNullable, Column.new 5 "payload" "jsonb"]
    (Configured.typescriptZod o).generate ⟨"keys", "Keys", .postgres⟩ (columns.map .ok) =
        .ok (unlines ["export const KeysSchema = z.object(\x7b",
          "  name: z.string().trim().max(50).nullable().optional(),",
          "  externalId: z.string().uuid().optional(),",
          "  tags: z.array(z.string()).nullable().optional(),", "  payload: z.any().optional(),",
          "\x7d).strict();"]) ∧
      ∃ calls, callsOf "z.array(z.string()).nullable().optional()" = some calls ∧
        takes calls .null = true ∧ ∀ k ∈ calls, k.refines = false := by
  intro o columns
  obtain ⟨hfields, hunits⟩ := fields_say_options ⟨"keys", "Keys", .postgres⟩ o
  let tags := ((Column.new 3 "tags" "text[]").withMaxLength 10).asNullable
  have htype : TypeTable.zod.mapType .postgres tags.rawType = "array(z.string())" := by
    decide +kernel
  have hfield : (fieldChain .postgres o tags).text =
      "z.array(z.string()).nullable().optional()" := by
    decide +kernel
  obtain ⟨-, base, -, hcalls, hrefined, htakes⟩ := hfields tags
  rw [hfield] at hcalls
  rw [htype] at hcalls hrefined htakes
  refine ⟨(hunits _ _).mpr ⟨columns, rfl, by decide, by decide +kernel⟩, _, hcalls, ?_, ?_⟩
  · exact (htakes (by decide)).1.mpr (Or.inr (Or.inr rfl))
  · intro k hk
    cases hrefines : k.refines with
    | false => rfl
    | true => exact absurd (hrefined k hk hrefines) (by decide)

end SchemaCodegen.Zod
