import Mathlib.Data.List.Nodup
import SchemaCodegen.Document.Format
import SchemaCodegen.Document.Shape
import SchemaCodegen.Proofs.Document.Entries

/-!
# Documents without places

A document tree says what a text holds, and not where. The trees here are those
that readers never refuse: no number is too large, and every text is whole. A
node holds a tree if it differs from it in places only, and in the order in
which tables list their members. Whatever a reader asks of the node is then
answered by the tree.
-/

namespace SchemaCodegen.Document

open SchemaCodegen.Number

/-- A document. -/
inductive Tree where
  | null
  | bool (b : Bool)
  | int (i : Int)
  | real (x : Binary64) (finite : x.isFinite = true)
  | text (s : String)
  | list (items : List Tree)
  | table (members : List (String × Tree))

/-- The members of a table, in their order. -/
abbrev Members := List (String × Tree)

namespace Tree

mutual

/-- The value of a tree. Of several members of one key the last counts. -/
def value : Tree → Value
  | null => .null
  | bool b => .bool b
  | int i => .int i
  | real x _ => .real x
  | text s => .text s
  | list items => .list (values items)
  | table members => .object (sortEntries (memberValues members))

def values : List Tree → List Value
  | [] => []
  | item :: rest => item.value :: values rest

def memberValues : Members → List (String × Value)
  | [] => []
  | (key, tree) :: rest => (key, tree.value) :: memberValues rest

end

theorem memberValues_eq (members : Members) :
    memberValues members = members.map fun m => (m.1, m.2.value) := by
  induction members with
  | nil => rfl
  | cons m rest ih =>
      obtain ⟨key, tree⟩ := m
      rw [memberValues, ih]
      rfl

end Tree

/-! ## The order of members -/

variable {α : Type}

/-- The same entries in another order, in which those of one key keep theirs. -/
structure Rearranged (written entries : List (String × α)) : Prop where
  perm : written.Perm entries
  under : ∀ key, written.filter (·.1 == key) = entries.filter (·.1 == key)

theorem Rearranged.refl (entries : List (String × α)) : Rearranged entries entries :=
  ⟨List.Perm.refl _, fun _ => rfl⟩

theorem Rearranged.trans {written between entries : List (String × α)}
    (h : Rearranged written between) (h' : Rearranged between entries) :
    Rearranged written entries :=
  ⟨h.perm.trans h'.perm, fun key => (h.under key).trans (h'.under key)⟩

/-- Entries with distinct keys may come in any order. -/
theorem Rearranged.of_nodup {written entries : List (String × α)}
    (hkeys : (entries.map Prod.fst).Nodup) (h : written.Perm entries) :
    Rearranged written entries where
  perm := h
  under key := by
    have hfilter := h.filter (·.1 == key)
    have hcount : (entries.filter (·.1 == key)).length ≤ 1 := by
      have hle := List.nodup_iff_count_le_one.mp hkeys key
      rwa [List.count, List.countP_map, List.countP_eq_length_filter] at hle
    -- at most one entry has the key, and one entry has one order
    rcases hlist : entries.filter (·.1 == key) with _ | ⟨entry, _ | ⟨next, rest⟩⟩
    · rw [hlist] at hfilter ⊢
      exact List.perm_nil.mp hfilter
    · rw [hlist] at hfilter ⊢
      exact List.perm_singleton.mp hfilter
    · simp only [hlist, List.length_cons] at hcount
      omega

theorem Rearranged.sortEntries_eq {written members : Members}
    (h : Rearranged written members) :
    sortEntries (Tree.memberValues written) = sortEntries (Tree.memberValues members) := by
  apply sortEntries_congr
  intro key
  simp only [Tree.memberValues_eq, List.filter_map]
  exact congrArg (List.map _) (h.under key)

/-- What members give under some names, in their order. -/
def given (names : List String) (members : List (String × α)) : List α :=
  (members.filter fun m => names.contains m.1).map Prod.snd

theorem given_cons_of_mem {names : List String} {key : String} (h : key ∈ names)
    (value : α) (rest : List (String × α)) :
    given names ((key, value) :: rest) = value :: given names rest := by
  rw [given, List.filter_cons, if_pos (List.contains_iff_mem.mpr h)]
  rfl

theorem given_cons_of_notMem {names : List String} {key : String} (h : key ∉ names)
    (value : α) (rest : List (String × α)) :
    given names ((key, value) :: rest) = given names rest := by
  rw [given, List.filter_cons, if_neg fun hmem => h (List.contains_iff_mem.mp hmem)]
  rfl

/-- What is given under known names is told by the entries under known names. -/
theorem given_filter {names known : List String} (h : names ⊆ known)
    (entries : List (String × α)) :
    given names (entries.filter (known.contains ·.1)) = given names entries := by
  rw [given, given, List.filter_filter]
  congr 2
  funext e
  by_cases he : e.1 ∈ names
  · simp [he, h he]
  · simp [he]

theorem given_perm_of_known {names known : List String} (h : names ⊆ known)
    {entries others : List (String × α)}
    (hperm : (others.filter (known.contains ·.1)).Perm (entries.filter (known.contains ·.1))) :
    (given names others).Perm (given names entries) := by
  rw [← given_filter h others, ← given_filter h entries]
  exact (hperm.filter _).map _

theorem Rearranged.given_perm {written members : List (String × α)}
    (h : Rearranged written members) (names : List String) :
    (given names written).Perm (given names members) :=
  (h.perm.filter _).map _

/-! ## Nodes and trees -/

mutual

/-- A node holds a tree. -/
inductive Holds : Node → Tree → Prop
  | null (span : Text.Span) : Holds (.scalar span .null) .null
  | bool (span : Text.Span) (b : Bool) : Holds (.scalar span (.bool b)) (.bool b)
  | int (span : Text.Span) (i : Int) : Holds (.scalar span (.int i)) (.int i)
  | real (span : Text.Span) (x : Binary64) (finite : x.isFinite = true) :
      Holds (.scalar span (.real x)) (.real x finite)
  | text (span : Text.Span) (s : String) : Holds (.scalar span (.text s)) (.text s)
  | list (span : Text.Span) {items : List Node} {trees : List Tree} (h : HoldAll items trees) :
      Holds (.list span items) (.list trees)
  | table (span : Text.Span) {entries : List (Key × Node)} {written members : Members}
      (h : HoldMembers entries written) (order : Rearranged written members) :
      Holds (.table span entries) (.table members)

inductive HoldAll : List Node → List Tree → Prop
  | nil : HoldAll [] []
  | cons {node : Node} {tree : Tree} {nodes : List Node} {trees : List Tree} (h : Holds node tree)
      (rest : HoldAll nodes trees) : HoldAll (node :: nodes) (tree :: trees)

inductive HoldMembers : List (Key × Node) → Members → Prop
  | nil : HoldMembers [] []
  | cons (key : Key) {node : Node} {tree : Tree} {entries : List (Key × Node)}
      {members : Members} (h : Holds node tree) (rest : HoldMembers entries members) :
      HoldMembers ((key, node) :: entries) ((key.text, tree) :: members)

end

theorem Holds.rearrange {n : Node} {written members : Members}
    (h : Holds n (.table written)) (order : Rearranged written members) :
    Holds n (.table members) := by
  cases h with
  | table span h first => exact .table span h (first.trans order)

theorem holdAll_iff {nodes : List Node} {trees : List Tree} :
    HoldAll nodes trees ↔ List.Forall₂ Holds nodes trees := by
  constructor
  · intro h
    cases h with
    | nil => exact .nil
    | cons h rest => exact .cons h (holdAll_iff.mp rest)
  · intro h
    cases h with
    | nil => exact .nil
    | cons h rest => exact .cons h (holdAll_iff.mpr rest)

/-- An entry holds what stands under the same name. -/
def EntryHolds {ρ : Type} (holds : Node → ρ → Prop) (e : Key × Node) (m : String × ρ) : Prop :=
  e.1.text = m.1 ∧ holds e.2 m.2

theorem holdMembers_iff {entries : List (Key × Node)} {members : Members} :
    HoldMembers entries members ↔ List.Forall₂ (EntryHolds Holds) entries members := by
  constructor
  · intro h
    cases h with
    | nil => exact .nil
    | cons key h rest => exact .cons ⟨rfl, h⟩ (holdMembers_iff.mp rest)
  · intro h
    cases h with
    | nil => exact .nil
    | @cons e m entries members h rest =>
        obtain ⟨key, node⟩ := e
        obtain ⟨name, tree⟩ := m
        obtain ⟨rfl, hnode⟩ := h
        exact .cons key hnode (holdMembers_iff.mpr rest)

/-- Nodes are the entries of a table once they are put under names. -/
theorem exists_entries {ρ : Type} {holds : Node → ρ → Prop} {nodes : List Node} {values : List ρ}
    (h : List.Forall₂ holds nodes values) {names : List String}
    (hlength : values.length ≤ names.length) :
    ∃ entries : List (Key × Node), entries.map (·.1.text) <+: names ∧
      entries.map Prod.snd = nodes ∧
        List.Forall₂ (EntryHolds holds) entries (names.zip values) := by
  induction h generalizing names with
  | nil => exact ⟨[], List.nil_prefix, rfl, by simp⟩
  | @cons node value nodes values h _ ih =>
      cases names with
      | nil => cases hlength
      | cons name names =>
          obtain ⟨entries, hnames, hnodes, hentries⟩ := ih (Nat.le_of_succ_le_succ hlength)
          refine ⟨(⟨name, ⟨0, 0⟩, 0⟩, node) :: entries, ?_, congrArg (node :: ·) hnodes,
            .cons ⟨rfl, h⟩ hentries⟩
          exact List.cons_prefix_cons.mpr ⟨rfl, hnames⟩

/-! ## Checking -/

mutual

/-- Whether a node holds a tree, the members of its tables in their order. -/
def Tree.isHeldBy : Tree → Node → Bool
  | .null, .scalar _ .null => true
  | .bool b, .scalar _ (.bool c) => b == c
  | .int i, .scalar _ (.int j) => i == j
  | .real x _, .scalar _ (.real y) => x == y
  | .text s, .scalar _ (.text t) => s == t
  | .list trees, .list _ nodes => Tree.areHeldBy trees nodes
  | .table members, .table _ entries => Tree.membersHeldBy members entries
  | _, _ => false

def Tree.areHeldBy : List Tree → List Node → Bool
  | [], [] => true
  | tree :: trees, node :: nodes => tree.isHeldBy node && Tree.areHeldBy trees nodes
  | _, _ => false

def Tree.membersHeldBy : Members → List (Key × Node) → Bool
  | [], [] => true
  | (name, tree) :: members, (key, node) :: entries =>
    name == key.text && tree.isHeldBy node && Tree.membersHeldBy members entries
  | _, _ => false

end

mutual

theorem Tree.holds_of_isHeldBy : ∀ {t : Tree} {n : Node}, t.isHeldBy n = true → Holds n t
  | .null, .scalar _ .null, _ => .null _
  | .bool b, .scalar _ (.bool c), h => by
      obtain rfl := eq_of_beq h
      exact .bool _ _
  | .int b, .scalar _ (.int c), h => by
      obtain rfl := eq_of_beq h
      exact .int _ _
  | .real b _, .scalar _ (.real c), h => by
      obtain rfl := eq_of_beq h
      exact .real _ _ _
  | .text b, .scalar _ (.text c), h => by
      obtain rfl := eq_of_beq h
      exact .text _ _
  | .list trees, .list _ nodes, h => .list _ (Tree.holdAll_of_areHeldBy h)
  | .table members, .table _ entries, h =>
      .table _ (Tree.holdMembers_of_membersHeldBy h) (.refl _)

theorem Tree.holdAll_of_areHeldBy : ∀ {trees : List Tree} {nodes : List Node},
    Tree.areHeldBy trees nodes = true → HoldAll nodes trees
  | [], [], _ => .nil
  | tree :: trees, node :: nodes, h => by
      rw [areHeldBy, Bool.and_eq_true] at h
      exact .cons (Tree.holds_of_isHeldBy h.1) (Tree.holdAll_of_areHeldBy h.2)

theorem Tree.holdMembers_of_membersHeldBy : ∀ {members : Members}
    {entries : List (Key × Node)}, Tree.membersHeldBy members entries = true →
    HoldMembers entries members
  | [], [], _ => .nil
  | (name, tree) :: members, (key, node) :: entries, h => by
      simp only [membersHeldBy, Bool.and_eq_true, beq_iff_eq] at h
      obtain ⟨⟨rfl, hnode⟩, hrest⟩ := h
      exact .cons key (Tree.holds_of_isHeldBy hnode) (Tree.holdMembers_of_membersHeldBy hrest)

end

/-- Whether a text is read as a node that holds a tree. -/
def Format.reads (format : Format) (text : String) (t : Tree) : Bool :=
  (format.read? text).any t.isHeldBy

theorem Format.exists_holds {format : Format} {text : String} {t : Tree}
    (h : format.reads text t = true) : ∃ n, format.read? text = some n ∧ Holds n t := by
  obtain ⟨n, hread, hheld⟩ := (Option.any_eq_true _ _).mp h
  exact ⟨n, hread, Tree.holds_of_isHeldBy hheld⟩

mutual

/-- Whether two nodes are the same, places included. -/
def Node.same : Node → Node → Bool
  | .scalar place content, .scalar place' content' => place == place' && content == content'
  | .list place items, .list place' items' => place == place' && Node.allSame items items'
  | .table place entries, .table place' entries' =>
    place == place' && Node.entriesSame entries entries'
  | _, _ => false

def Node.allSame : List Node → List Node → Bool
  | [], [] => true
  | item :: items, item' :: items' => item.same item' && Node.allSame items items'
  | _, _ => false

def Node.entriesSame : List (Key × Node) → List (Key × Node) → Bool
  | [], [] => true
  | (key, value) :: entries, (key', value') :: entries' =>
    key == key' && value.same value' && Node.entriesSame entries entries'
  | _, _ => false

end

mutual

theorem Node.eq_of_same : ∀ {n n' : Node}, n.same n' = true → n = n'
  | .scalar .., .scalar .., h => by
      rw [same, Bool.and_eq_true, beq_iff_eq, beq_iff_eq] at h
      rw [h.1, h.2]
  | .list .., .list .., h => by
      rw [same, Bool.and_eq_true, beq_iff_eq] at h
      rw [h.1, Node.eq_of_allSame h.2]
  | .table .., .table .., h => by
      rw [same, Bool.and_eq_true, beq_iff_eq] at h
      rw [h.1, Node.eq_of_entriesSame h.2]

theorem Node.eq_of_allSame : ∀ {items items' : List Node},
    Node.allSame items items' = true → items = items'
  | [], [], _ => rfl
  | _ :: _, _ :: _, h => by
      rw [allSame, Bool.and_eq_true] at h
      rw [Node.eq_of_same h.1, Node.eq_of_allSame h.2]

theorem Node.eq_of_entriesSame : ∀ {entries entries' : List (Key × Node)},
    Node.entriesSame entries entries' = true → entries = entries'
  | [], [], _ => rfl
  | (_, _) :: _, (_, _) :: _, h => by
      simp only [entriesSame, Bool.and_eq_true, beq_iff_eq] at h
      rw [h.1.1, Node.eq_of_same h.1.2, Node.eq_of_entriesSame h.2]

end

theorem Format.read?_eq_of_same {format : Format} {text : String} {n : Node}
    (h : (format.read? text).any n.same = true) : format.read? text = some n := by
  obtain ⟨n', hread, hsame⟩ := (Option.any_eq_true _ _).mp h
  rw [hread, Node.eq_of_same hsame]

/-! ## What a reader finds -/

mutual

theorem Holds.ofNode_eq {n : Node} {t : Tree} (h : Holds n t) : Value.ofNode n = .ok t.value := by
  cases h with
  | real _ x finite =>
      rw [Value.ofNode, Value.ofScalar, if_pos finite]
      rfl
  | list _ h =>
      rw [Value.ofNode, h.ofItems_eq]
      rfl
  | table _ h order =>
      rw [Value.ofNode, h.ofEntries_eq, Tree.value, ← order.sortEntries_eq]
      rfl
  | _ => rfl

theorem HoldAll.ofItems_eq {nodes : List Node} {trees : List Tree} (h : HoldAll nodes trees) :
    Value.ofItems nodes = .ok (Tree.values trees) := by
  cases h with
  | nil => rfl
  | cons h rest =>
      rw [Value.ofItems, h.ofNode_eq, rest.ofItems_eq]
      rfl

theorem HoldMembers.ofEntries_eq {entries : List (Key × Node)} {members : Members}
    (h : HoldMembers entries members) :
    Value.ofEntries entries = .ok (Tree.memberValues members) := by
  cases h with
  | nil => rfl
  | cons key h rest =>
      rw [Value.ofEntries, h.ofNode_eq, rest.ofEntries_eq]
      rfl

end

mutual

/-- A tree never keeps a reader from passing over it. -/
theorem Holds.obstacle?_eq_none {n : Node} {t : Tree} (h : Holds n t) : n.obstacle? = none := by
  cases h with
  | list _ h => exact h.firstObstacle?_eq_none
  | table _ h _ => exact h.entryObstacle?_eq_none
  | _ => rfl

theorem HoldAll.firstObstacle?_eq_none {nodes : List Node} {trees : List Tree}
    (h : HoldAll nodes trees) : Node.firstObstacle? nodes = none := by
  cases h with
  | nil => rfl
  | cons h rest =>
      rw [Node.firstObstacle?, h.obstacle?_eq_none, rest.firstObstacle?_eq_none]
      rfl

theorem HoldMembers.entryObstacle?_eq_none {entries : List (Key × Node)}
    {members : Members} (h : HoldMembers entries members) :
    Node.entryObstacle? entries = none := by
  cases h with
  | nil => rfl
  | cons _ h rest =>
      rw [Node.entryObstacle?, h.obstacle?_eq_none, rest.entryObstacle?_eq_none]
      rfl

end

theorem HoldMembers.obstacle?_eq_none {entries : List (Key × Node)}
    {members : Members} (h : HoldMembers entries members) :
    ∀ e ∈ entries, e.2.obstacle? = none := by
  cases h with
  | nil => exact List.forall_mem_nil _
  | cons _ h rest => exact List.forall_mem_cons.mpr ⟨h.obstacle?_eq_none, rest.obstacle?_eq_none⟩

/-- Only texts are read as texts. -/
theorem Holds.asText_eq_ok_iff {n : Node} {t : Tree} (h : Holds n t) {s : String} :
    n.asText = .ok s ↔ t = .text s := by
  cases h <;> simp [Node.asText]

theorem Node.asText_eq_ok_iff {n : Node} {s : String} :
    n.asText = .ok s ↔ ∃ span, n = .scalar span (.text s) := by
  unfold Node.asText
  split
  · simp
  · rename_i hother
    refine iff_of_false (by simp) ?_
    rintro ⟨span, rfl⟩
    exact hother span s rfl

theorem decodeAll_cons_eq_ok_iff {decode : Node → Except Fault α} {node : Node}
    {rest : List Node} {values : List α} :
    decodeAll decode (node :: rest) = .ok values ↔
      ∃ first others, values = first :: others ∧ decode node = .ok first ∧
        decodeAll decode rest = .ok others := by
  rw [decodeAll]
  cases decode node with
  | error fault => simp
  | ok first => cases decodeAll decode rest <;> simp [Except.map, eq_comm]

theorem HoldAll.asText_eq_ok_iff {nodes : List Node} {trees : List Tree} (h : HoldAll nodes trees)
    {texts : List String} :
    decodeAll Node.asText nodes = .ok texts ↔ trees = texts.map .text := by
  cases h with
  | nil => cases texts <;> simp [decodeAll]
  | cons h rest =>
      rw [decodeAll_cons_eq_ok_iff]
      simp only [h.asText_eq_ok_iff, rest.asText_eq_ok_iff]
      cases texts with
      | nil => simp
      | cons s texts => simp

/-- Only lists of texts are read as lists of texts. -/
theorem Holds.asTexts_eq_ok_iff {n : Node} {t : Tree} (h : Holds n t) {texts : List String} :
    n.asList Node.asText = .ok texts ↔ t = .list (texts.map .text) := by
  cases h with
  | list _ h =>
      rw [Node.asList, h.asText_eq_ok_iff, Tree.list.injEq]
  | _ => simp [Node.asList]

end SchemaCodegen.Document
