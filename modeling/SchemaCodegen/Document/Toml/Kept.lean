import SchemaCodegen.Document.Moment
import SchemaCodegen.Document.Node

/-!
# Kept values

A TOML value that is kept for later forgets part of its kind: a moment becomes the text of its
normal spelling. A table whose first key is that of moments is taken for the moment that it holds,
whatever else stands in it. Integers must fit into 64 bits with a sign.
-/

namespace SchemaCodegen.Document.Toml

def keepScalar? : Scalar → Option Scalar
  | .int i => if -Int.pow 2 63 ≤ i ∧ i < Int.pow 2 63 then some (.int i) else none
  | .moment s => some (.text s)
  | .wide | .overflow _ | .unreadable => none
  | content => some content

def startsWithMoment : List (Key × Node) → Bool
  | [] => false
  | (key, _) :: _ => key.text == momentKey

def firstMoment? : List (Key × Node) → Option Moment
  | (_, .scalar _ (.text s)) :: _ => Moment.ofChars? s.toList
  | _ => none

mutual

def keep? : Node → Option Node
  | .scalar span content => (keepScalar? content).map (.scalar span)
  | .list span items => (keepItems? items).map (.list span)
  | .table span entries =>
    if startsWithMoment entries then (firstMoment? entries).map (.scalar span <| .text ·.text)
    else (keepEntries? entries).map (.table span)

def keepItems? : List Node → Option (List Node)
  | [] => some []
  | item :: rest =>
    match keep? item, keepItems? rest with
    | some kept, some more => some (kept :: more)
    | _, _ => none

def keepEntries? : List (Key × Node) → Option (List (Key × Node))
  | [] => some []
  | (key, value) :: rest =>
    match keep? value, keepEntries? rest with
    | some kept, some more => some ((key, kept) :: more)
    | _, _ => none

end

/-- Whether all entries of a document can be kept. -/
def canKeepRoot : Node → Bool
  | .table _ entries => (keepEntries? entries).isSome
  | n => (keep? n).isSome

end SchemaCodegen.Document.Toml
