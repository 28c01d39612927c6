import SchemaCodegen.Document.Content

/-!
# Decoding records

A record is decoded from a table, whose entries are visited in the order of the text, or from a
list, which holds the fields in their own order. Entries that name no field are passed over, and
no field may be given twice. What has been read so far is a draft; when everything is read, the
draft is completed, which fails if a field without a default was not given.
-/

namespace SchemaCodegen.Document

def Node.asText (n : Node) : Except Fault String :=
  match n with
  | .scalar _ (.text s) => .ok s
  | n => .error (n.mismatch "a string")

/-- The largest integer of a count. -/
def maxCount : Nat := Nat.pow 2 32 - 1

/-- The count of a node, an integer of 32 bits. -/
def Node.asCount (n : Node) : Except Fault Nat :=
  match n with
  | .scalar _ (.int i) =>
    if 0 ≤ i ∧ i ≤ maxCount then .ok i.toNat else .error (n.fault (.outOfRange i "u32"))
  | n => .error (n.mismatch "u32")

/-- The member of a closed set that a node names. -/
def Node.asName {α : Type} (ofName : String → Except UnknownName α) (n : Node) :
    Except Fault α :=
  match n.asText with
  | .error fault => .error fault
  | .ok name =>
    match ofName name with
    | .ok member => .ok member
    | .error unknown => .error (n.fault (.unknownName unknown))

/-- Decodes several nodes, from first to last. -/
def decodeAll {α : Type} (decode : Node → Except Fault α) : List Node → Except Fault (List α)
  | [] => .ok []
  | node :: rest =>
    match decode node with
    | .error fault => .error fault
    | .ok value => (decodeAll decode rest).map (value :: ·)

def Node.asList {α : Type} (decode : Node → Except Fault α) (n : Node) :
    Except Fault (List α) :=
  match n with
  | .list _ items => decodeAll decode items
  | n => .error (n.mismatch "a sequence")

/-- A field of a record under construction. -/
structure Slot (δ : Type) where
  /-- The field's own name. -/
  name : String
  /-- Other names under which it may be given. -/
  aliases : List String
  isFilled : δ → Bool
  fill : Node → δ → Except Fault δ

/-- The slot of an optional component of a draft. -/
def Slot.of {δ α : Type} (name : String) (aliases : List String) (get : δ → Option α)
    (put : α → δ → δ) (decode : Node → Except Fault α) : Slot δ where
  name := name
  aliases := aliases
  isFilled draft := (get draft).isSome
  fill node draft :=
    match decode node with
    | .ok value => .ok (put value draft)
    | .error fault => .error fault

/-- How a record is decoded by way of a draft. -/
structure Shape (δ α : Type) where
  /-- The record's name in messages. -/
  name : String
  slots : List (Slot δ)
  /-- The draft before anything is read. -/
  blank : δ
  /-- Completes a draft; `absent` says what it means that the field of an index and a name was not
  given. -/
  complete : (absent : Nat → String → Cause) → δ → Except Cause α
  /-- What it means that a list has more elements than there are fields. -/
  surplus : Node → (items extra : List Node) → Fault

namespace Shape

variable {δ α : Type}

def slot? (s : Shape δ α) (key : String) : Option (Slot δ) :=
  s.slots.find? fun slot => slot.name == key || slot.aliases.contains key

/-- Fills the slots that entries of the table `owner` name. -/
def fillEntries (s : Shape δ α) (owner : Node) (draft : δ) :
    List (Key × Node) → Except Fault δ
  | [] => .ok draft
  | (key, node) :: rest =>
    match s.slot? key.text with
    | none =>
      match node.obstacle? with
      | none => fillEntries s owner draft rest
      | some fault => .error fault
    | some slot =>
      if slot.isFilled draft then .error (owner.faultAtKey key (.repeated slot.name))
      else
        match slot.fill node draft with
        | .ok filled => fillEntries s owner filled rest
        | .error fault => .error fault

/-- Fills slots in order from the elements of a list, as far as both go. -/
def fillItems (draft : δ) : List (Slot δ) → List Node → Except Fault δ
  | slot :: slots, item :: items =>
    match slot.fill item draft with
    | .ok filled => fillItems filled slots items
    | .error fault => .error fault
  | _, _ => .ok draft

def lengthExpected (s : Shape δ α) : String :=
  s.name ++ " with " ++ toString s.slots.length ++ " elements"

/-- The completed draft, or the fault of the node that lacks a field. -/
def finish (s : Shape δ α) (owner : Node) (absent : Nat → String → Cause) (draft : δ) :
    Except Fault α :=
  match s.complete absent draft with
  | .ok record => .ok record
  | .error cause => .error (owner.faultAtEnd cause)

def decode (s : Shape δ α) (n : Node) : Except Fault α :=
  match n with
  | .table _ entries =>
    match s.fillEntries n s.blank entries with
    | .error fault => .error fault
    | .ok draft => s.finish n (fun _ name => .missing name) draft
  | .list _ items =>
    match fillItems s.blank s.slots items with
    | .error fault => .error fault
    | .ok draft =>
      match s.finish n (fun index _ => .wrongLength index s.lengthExpected) draft with
      | .error fault => .error fault
      | .ok record =>
        match items.drop s.slots.length with
        | [] => .ok record
        | extra => .error (s.surplus n items extra)
  | .scalar _ _ => .error (n.mismatch s.name)

end Shape

/-- The value of a field without a default. -/
def required {α : Type} (absent : Nat → String → Cause) (index : Nat) (name : String) :
    Option α → Except Cause α
  | some value => .ok value
  | none => .error (absent index name)

end SchemaCodegen.Document
