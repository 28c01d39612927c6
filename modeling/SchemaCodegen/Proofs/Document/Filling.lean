import Mathlib.Data.List.Pairwise
import SchemaCodegen.Proofs.Document.Tree

/-!
# Filling drafts

A record whose fields keep out of each other's way is decoded field by field.
What a table's entries make of a draft can be read off the entries under the
names of each field: there is none, and the field stays as it was, or there is
one, and the field was empty and holds its content. Neither the order of the
entries nor those without a field play a part. A list that holds the fields in
their own order does what the table of the same entries does.
-/

namespace SchemaCodegen.Document

/-- A field of a record: a slot whose component in drafts can be seen. -/
structure TypedSlot (δ : Type) where
  Content : Type
  name : String
  aliases : List String
  get : δ → Option Content
  put : Content → δ → δ
  decode : Node → Except Fault Content

variable {δ α : Type}

namespace TypedSlot

variable (f : TypedSlot δ)

def slot : Slot δ := .of f.name f.aliases f.get f.put f.decode

/-- All names under which the field may be given. -/
def names : List String := f.name :: f.aliases

/-- The values under the names of the field, in the order of the entries. -/
def nodes (entries : List (Key × Node)) : List Node :=
  given f.names (entries.map fun e => (e.1.text, e.2))

/-- The component after values were given for the field. None may be given once there is one. -/
def Reads : List Node → Option f.Content → Option f.Content → Prop
  | [], before, after => after = before
  | node :: rest, before, after =>
    before = none ∧ ∃ content, f.decode node = .ok content ∧ Reads rest (some content) after

theorem isFilled_eq_false_iff {d : δ} : f.slot.isFilled d = false ↔ f.get d = none := by
  show (f.get d).isSome = false ↔ f.get d = none
  rw [Option.isSome_eq_false_iff, Option.isNone_iff_eq_none]

theorem fill_eq (node : Node) (d : δ) : f.slot.fill node d = (f.decode node).map (f.put · d) := by
  simp only [slot, Slot.of]
  cases f.decode node <;> rfl

/-- Two fields share neither names nor components. -/
structure Apart (f g : TypedSlot δ) : Prop where
  names : ∀ name ∈ f.names, name ∉ g.names
  get_put : ∀ content d, g.get (f.put content d) = g.get d
  get_put' : ∀ content d, f.get (g.put content d) = f.get d

instance : Std.Symm (@Apart δ) where
  symm _ _ h :=
    { names := fun name hg hf => h.names name hf hg
      get_put := h.get_put'
      get_put' := h.get_put }

theorem nodes_cons_of_mem {key : Key} (h : key.text ∈ f.names) (node : Node)
    (rest : List (Key × Node)) : f.nodes ((key, node) :: rest) = node :: f.nodes rest :=
  given_cons_of_mem h node _

theorem nodes_cons_of_notMem {key : Key} (h : key.text ∉ f.names) (node : Node)
    (rest : List (Key × Node)) : f.nodes ((key, node) :: rest) = f.nodes rest :=
  given_cons_of_notMem h node _

/-- A field that was empty is given at most once. -/
theorem reads_none_iff {nodes : List Node} {after : Option f.Content} :
    f.Reads nodes none after ↔
      nodes = [] ∧ after = none ∨
        ∃ node content, nodes = [node] ∧ f.decode node = .ok content ∧ after = some content := by
  rcases nodes with _ | ⟨node, _ | ⟨next, rest⟩⟩
  · simp [Reads]
  · simp [Reads]
  · simp [Reads]

end TypedSlot

namespace Shape

theorem fillEntries_of_slot {s : Shape δ α} {key : Key} {slot : Slot δ}
    (h : s.slot? key.text = some slot) (owner node : Node) (draft : δ)
    (rest : List (Key × Node)) :
    s.fillEntries owner draft ((key, node) :: rest) =
      if slot.isFilled draft then .error (owner.faultAtKey key (.repeated slot.name))
      else (slot.fill node draft).bind fun filled => s.fillEntries owner filled rest := by
  simp only [fillEntries, h]
  cases slot.fill node draft <;> rfl

theorem fillEntries_of_unknown {s : Shape δ α} {key : Key} (h : s.slot? key.text = none)
    (owner node : Node) (draft : δ) (rest : List (Key × Node)) :
    s.fillEntries owner draft ((key, node) :: rest) =
      node.obstacle?.elim (s.fillEntries owner draft rest) .error := by
  simp only [fillEntries, h]
  cases node.obstacle? <;> rfl

theorem finish_eq_ok_iff {s : Shape δ α} {owner : Node} {absent : Nat → String → Cause} {draft : δ}
    {record : α} :
    s.finish owner absent draft = .ok record ↔ s.complete absent draft = .ok record := by
  rw [finish]
  cases s.complete absent draft <;> simp

theorem exists_of_decode_list {s : Shape δ α} {place : Text.Span} {items : List Node} {record : α}
    (h : s.decode (.list place items) = .ok record) :
    items.length ≤ s.slots.length ∧
      ∃ absent draft, fillItems s.blank s.slots items = .ok draft ∧
        s.complete absent draft = .ok record := by
  rw [decode] at h
  cases hfill : fillItems s.blank s.slots items with
  | error fault =>
      rw [hfill] at h
      cases h
  | ok draft =>
      rw [hfill] at h
      simp only at h
      split at h
      · cases h
      · rename_i found hfinish
        split at h
        · rename_i hextra
          cases h
          exact ⟨List.drop_eq_nil_iff.mp hextra, _, draft, rfl, finish_eq_ok_iff.mp hfinish⟩
        · cases h

/-- A shape has the given fields, and a draft is nothing but their components. -/
structure MadeOf (s : Shape δ α) (fields : List (TypedSlot δ)) : Prop where
  slots_eq : s.slots = fields.map TypedSlot.slot
  apart : fields.Pairwise TypedSlot.Apart
  get_put : ∀ f ∈ fields, ∀ content d, f.get (f.put content d) = some content
  ext : ∀ d d', (∀ f ∈ fields, f.get d = f.get d') → d = d'
  blank : ∀ f ∈ fields, f.get s.blank = none

namespace MadeOf

variable {s : Shape δ α} {fields : List (TypedSlot δ)} (hs : s.MadeOf fields)

include hs

theorem apart_of_ne {f g : TypedSlot δ} (hf : f ∈ fields) (hg : g ∈ fields) (h : f ≠ g) :
    f.Apart g :=
  hs.apart.forall hf hg h

theorem eq_of_mem_names {f g : TypedSlot δ} (hf : f ∈ fields) (hg : g ∈ fields) {name : String}
    (hname : name ∈ f.names) (hname' : name ∈ g.names) : f = g := by
  by_contra hne
  exact (hs.apart_of_ne hf hg hne).names name hname hname'

/-! ## The slot of a key -/

theorem slot?_eq (key : String) :
    s.slot? key = (fields.find? fun f => f.names.contains key).map TypedSlot.slot := by
  rw [Shape.slot?, hs.slots_eq, List.find?_map]
  congr 2
  funext f
  show (f.name == key || f.aliases.contains key) = f.names.contains key
  rw [TypedSlot.names, List.contains_cons, Bool.beq_comm]

theorem slot?_eq_none_iff {key : String} :
    s.slot? key = none ↔ ∀ f ∈ fields, key ∉ f.names := by
  rw [hs.slot?_eq, Option.map_eq_none_iff, List.find?_eq_none]
  simp only [List.contains_iff_mem]

theorem exists_of_slot? {key : String} {slot : Slot δ} (h : s.slot? key = some slot) :
    ∃ f ∈ fields, key ∈ f.names ∧ f.slot = slot := by
  rw [hs.slot?_eq, Option.map_eq_some_iff] at h
  obtain ⟨f, hfound, rfl⟩ := h
  have hkey : f.names.contains key = true := by simpa using List.find?_some hfound
  exact ⟨f, List.mem_of_find?_eq_some hfound, List.contains_iff_mem.mp hkey, rfl⟩

theorem slot?_of_mem {f : TypedSlot δ} (hf : f ∈ fields) {key : String} (hkey : key ∈ f.names) :
    s.slot? key = some f.slot := by
  cases hslot : s.slot? key with
  | none => exact absurd hkey (hs.slot?_eq_none_iff.mp hslot f hf)
  | some slot =>
      obtain ⟨g, hg, hkey', rfl⟩ := hs.exists_of_slot? hslot
      rw [hs.eq_of_mem_names hf hg hkey hkey']

/-! ## Tables -/

/-- An entry under a field's name finds the field empty and fills it. -/
theorem fillEntries_cons_iff {f : TypedSlot δ} (hf : f ∈ fields) {key : Key}
    (hkey : key.text ∈ f.names) {owner node : Node} {rest : List (Key × Node)} {draft filled : δ} :
    s.fillEntries owner draft ((key, node) :: rest) = .ok filled ↔
      f.get draft = none ∧ ∃ content, f.decode node = .ok content ∧
        s.fillEntries owner (f.put content draft) rest = .ok filled := by
  rw [fillEntries_of_slot (hs.slot?_of_mem hf hkey), f.fill_eq]
  cases hfilled : f.slot.isFilled draft with
  | true =>
      have hget : f.get draft ≠ none := by
        intro hempty
        rw [f.isFilled_eq_false_iff.mpr hempty] at hfilled
        cases hfilled
      simp [hget]
  | false =>
      rw [f.isFilled_eq_false_iff] at hfilled
      cases f.decode node <;> simp [hfilled, Except.map, Except.bind]

/-- The other fields do not notice. -/
theorem reads_cons_iff {f : TypedSlot δ} (hf : f ∈ fields) {key : Key} (hkey : key.text ∈ f.names)
    {node : Node} {rest : List (Key × Node)} {draft filled : δ} :
    (∀ g ∈ fields, g.Reads (g.nodes ((key, node) :: rest)) (g.get draft) (g.get filled)) ↔
      f.get draft = none ∧ ∃ content, f.decode node = .ok content ∧
        ∀ g ∈ fields, g.Reads (g.nodes rest) (g.get (f.put content draft)) (g.get filled) := by
  have hother : ∀ g ∈ fields, g ≠ f → ∀ content,
      (g.Reads (g.nodes ((key, node) :: rest)) (g.get draft) (g.get filled) ↔
        g.Reads (g.nodes rest) (g.get (f.put content draft)) (g.get filled)) := by
    intro g hg hne content
    have hapart := hs.apart_of_ne hf hg (Ne.symm hne)
    rw [g.nodes_cons_of_notMem (hapart.names _ hkey), hapart.get_put]
  -- the field of the key takes the value, all others read on as if the entry were not there
  constructor
  · intro h
    have hread := h f hf
    rw [f.nodes_cons_of_mem hkey] at hread
    obtain ⟨hempty, content, hcontent, hrest⟩ := hread
    refine ⟨hempty, content, hcontent, ?_⟩
    intro g hg
    by_cases hgf : g = f
    · subst hgf
      rw [hs.get_put g hg]
      exact hrest
    · exact (hother g hg hgf content).mp (h g hg)
  · rintro ⟨hempty, content, hcontent, h⟩ g hg
    by_cases hgf : g = f
    · subst hgf
      have hrest := h g hg
      rw [hs.get_put g hg] at hrest
      rw [g.nodes_cons_of_mem hkey]
      exact ⟨hempty, content, hcontent, hrest⟩
    · exact (hother g hg hgf content).mpr (h g hg)

/-- **Entries fill a draft exactly if those of each field are read** and the others can be passed
over. -/
theorem fillEntries_eq_ok_iff {owner : Node} {entries : List (Key × Node)} {draft filled : δ} :
    s.fillEntries owner draft entries = .ok filled ↔
      (∀ f ∈ fields, f.Reads (f.nodes entries) (f.get draft) (f.get filled)) ∧
        ∀ e ∈ entries, (∀ f ∈ fields, e.1.text ∉ f.names) → e.2.obstacle? = none := by
  induction entries generalizing draft with
  | nil =>
      constructor
      · rintro ⟨⟩
        exact ⟨fun f _ => rfl, fun e he => by cases he⟩
      · rintro ⟨hreads, -⟩
        exact congrArg Except.ok (hs.ext _ _ fun f hf => (hreads f hf).symm)
  | cons e rest ih =>
      obtain ⟨key, node⟩ := e
      rw [List.forall_mem_cons]
      -- an entry goes to the field that has its key, or is passed over
      by_cases hknown : ∃ f ∈ fields, key.text ∈ f.names
      · obtain ⟨f, hf, hkey⟩ := hknown
        have hpass : (∀ g ∈ fields, key.text ∉ g.names) → node.obstacle? = none :=
          fun h => absurd hkey (h f hf)
        rw [hs.fillEntries_cons_iff hf hkey, hs.reads_cons_iff hf hkey]
        simp only [ih]
        constructor
        · rintro ⟨hempty, content, hcontent, hreads, hrest⟩
          exact ⟨⟨hempty, content, hcontent, hreads⟩, hpass, hrest⟩
        · rintro ⟨⟨hempty, content, hcontent, hreads⟩, -, hrest⟩
          exact ⟨hempty, content, hcontent, hreads, hrest⟩
      · have hunknown : ∀ f ∈ fields, key.text ∉ f.names :=
          fun f hf hkey => hknown ⟨f, hf, hkey⟩
        have hreads : (∀ f ∈ fields,
              f.Reads (f.nodes ((key, node) :: rest)) (f.get draft) (f.get filled)) ↔
            ∀ f ∈ fields, f.Reads (f.nodes rest) (f.get draft) (f.get filled) := by
          refine forall₂_congr fun f hf => ?_
          rw [f.nodes_cons_of_notMem (hunknown f hf)]
        rw [hreads, fillEntries_of_unknown (hs.slot?_eq_none_iff.mpr hunknown)]
        cases node.obstacle? with
        | none => simp [ih]
        | some fault =>
            constructor
            · rintro ⟨⟩
            · rintro ⟨-, hpass, -⟩
              cases hpass hunknown

theorem decode_table_eq_ok_iff {span : Text.Span} {entries : List (Key × Node)} {record : α} :
    s.decode (.table span entries) = .ok record ↔
      ∃ draft, ((∀ f ∈ fields, f.Reads (f.nodes entries) none (f.get draft)) ∧
          ∀ e ∈ entries, (∀ f ∈ fields, e.1.text ∉ f.names) → e.2.obstacle? = none) ∧
        s.complete (fun _ name => .missing name) draft = .ok record := by
  have hfill : ∀ draft, s.fillEntries (.table span entries) s.blank entries = .ok draft ↔
      (∀ f ∈ fields, f.Reads (f.nodes entries) none (f.get draft)) ∧
        ∀ e ∈ entries, (∀ f ∈ fields, e.1.text ∉ f.names) → e.2.obstacle? = none := by
    intro draft
    rw [hs.fillEntries_eq_ok_iff]
    refine and_congr_left fun _ => forall₂_congr fun f hf => ?_
    rw [hs.blank f hf]
  simp only [← hfill]
  rw [Shape.decode]
  cases s.fillEntries (.table span entries) s.blank entries with
  | error fault => simp
  | ok draft =>
      simp only [Except.ok.injEq, exists_eq_left', finish_eq_ok_iff]

/-! ## Lists -/

/-- Elements are read like entries under the names of the fields. The induction is on the fields
that are left; the draft is still empty there. -/
theorem fillItems_eq_fillEntries {owner : Node} {left : List (TypedSlot δ)} (hleft : left ⊆ fields)
    (hapart : left.Pairwise TypedSlot.Apart) {draft : δ} (hempty : ∀ f ∈ left, f.get draft = none)
    {entries : List (Key × Node)} (hkeys : entries.map (·.1.text) <+: left.map TypedSlot.name) :
    fillItems draft (left.map TypedSlot.slot) (entries.map Prod.snd) =
      s.fillEntries owner draft entries := by
  induction left generalizing draft entries with
  | nil =>
      cases List.map_eq_nil_iff.mp (List.prefix_nil.mp hkeys)
      rfl
  | cons f left ih =>
      cases entries with
      | nil => rfl
      | cons e entries =>
          obtain ⟨key, node⟩ := e
          obtain ⟨hkey, hrest⟩ := List.cons_prefix_cons.mp hkeys
          obtain ⟨hfirst, hlater⟩ := List.pairwise_cons.mp hapart
          obtain ⟨hf, hleft⟩ := List.cons_subset.mp hleft
          have hmem : key.text ∈ f.names := by
            show key.text ∈ f.name :: f.aliases
            rw [← hkey]
            exact List.mem_cons_self ..
          have hnone : f.slot.isFilled draft = false :=
            f.isFilled_eq_false_iff.mpr (hempty f (List.mem_cons_self ..))
          simp only [List.map_cons, fillEntries_of_slot (hs.slot?_of_mem hf hmem), fillItems,
            f.fill_eq, hnone]
          cases f.decode node with
          | error fault => rfl
          | ok content =>
              apply ih hleft hlater _ hrest
              intro g hg
              rw [(hfirst g hg).get_put]
              exact hempty g (List.mem_cons_of_mem _ hg)

omit hs in
/-- Elements do not reach a field that they are not for. -/
theorem get_of_fillItems {g : TypedSlot δ} {left : List (TypedSlot δ)}
    (hapart : ∀ f ∈ left, g.Apart f) {draft filled : δ} {items : List Node}
    (h : fillItems draft (left.map TypedSlot.slot) items = .ok filled) :
    g.get filled = g.get draft := by
  induction left generalizing draft items with
  | nil =>
      cases h
      rfl
  | cons f left ih =>
      obtain ⟨hf, hleft⟩ := List.forall_mem_cons.mp hapart
      cases items with
      | nil =>
          cases h
          rfl
      | cons node items =>
          rw [List.map_cons, fillItems, f.fill_eq] at h
          cases hcontent : f.decode node with
          | error fault =>
              rw [hcontent] at h
              cases h
          | ok content =>
              rw [hcontent] at h
              rw [ih hleft h, hf.get_put']

/-- The field at an index holds what it reads in the element there, and stays as it was if there is
none. -/
theorem fillItems_eq_ok {left : List (TypedSlot δ)} (hleft : left ⊆ fields)
    (hapart : left.Pairwise TypedSlot.Apart) {draft filled : δ} {items : List Node}
    (h : fillItems draft (left.map TypedSlot.slot) items = .ok filled) {index : Nat}
    {f : TypedSlot δ} (hf : left[index]? = some f) :
    items[index]? = none ∧ f.get filled = f.get draft ∨
      ∃ node content, items[index]? = some node ∧ f.decode node = .ok content ∧
        f.get filled = some content := by
  induction left generalizing draft items index with
  | nil => cases hf
  | cons g left ih =>
      obtain ⟨hg, hrest⟩ := List.cons_subset.mp hleft
      obtain ⟨hfirst, hlater⟩ := List.pairwise_cons.mp hapart
      cases items with
      | nil =>
          cases h
          exact Or.inl ⟨rfl, rfl⟩
      | cons node items =>
          rw [List.map_cons, fillItems, g.fill_eq] at h
          cases hcontent : g.decode node with
          | error fault =>
              rw [hcontent] at h
              cases h
          | ok content =>
              rw [hcontent] at h
              cases index with
              | zero =>
                  have hfield : g = f := Option.some.inj hf
                  subst hfield
                  -- later elements leave the field alone
                  have hkept := get_of_fillItems hfirst h
                  rw [hs.get_put g hg] at hkept
                  exact Or.inr ⟨node, content, rfl, hcontent, hkept⟩
              | succ index =>
                  have hmem : f ∈ left := List.mem_of_getElem? hf
                  have hfound := ih hrest hlater h hf
                  rwa [(hfirst f hmem).get_put] at hfound

/-- The list of the entries' values is decoded like the table, if its entries are the first fields
and it does not matter to completion how a missing field is reported. -/
theorem decode_list_eq_ok_iff
    (hcomplete : ∀ absent absent' draft record,
      s.complete absent draft = .ok record → s.complete absent' draft = .ok record)
    {entries : List (Key × Node)} (hkeys : entries.map (·.1.text) <+: fields.map TypedSlot.name)
    {span place : Text.Span} {record : α} :
    s.decode (.list place (entries.map Prod.snd)) = .ok record ↔
      s.decode (.table span entries) = .ok record := by
  have hfill : fillItems s.blank (fields.map TypedSlot.slot) (entries.map Prod.snd) =
      s.fillEntries (.table span entries) s.blank entries :=
    hs.fillItems_eq_fillEntries (List.Subset.refl _) hs.apart hs.blank hkeys
  have hlength : entries.length ≤ fields.length := by
    simpa using hkeys.length_le
  have hdrop : (entries.map Prod.snd).drop s.slots.length = [] := by
    simp only [List.drop_eq_nil_iff, hs.slots_eq, List.length_map]
    exact hlength
  rw [Shape.decode, Shape.decode, hdrop, hs.slots_eq, hfill]
  cases s.fillEntries (.table span entries) s.blank entries with
  | error fault => simp
  | ok draft =>
      -- the two differ in how they report a missing field, and completion does not fail
      constructor
      · intro h
        cases hfinish : s.finish (.list place (entries.map Prod.snd))
            (fun index _ => .wrongLength index s.lengthExpected) draft with
        | error fault =>
            simp only [hfinish] at h
            cases h
        | ok found =>
            simp only [hfinish] at h
            cases h
            exact finish_eq_ok_iff.mpr (hcomplete _ _ _ _ (finish_eq_ok_iff.mp hfinish))
      · intro h
        have hfinish := hcomplete _ (fun index _ => .wrongLength index s.lengthExpected) _ _
          (finish_eq_ok_iff.mp h)
        simp only [finish_eq_ok_iff.mpr hfinish]

/-- **A list in the order of the fields is decoded like a table**, in which each tree stands under
the name of its field. -/
theorem exists_table_of_list
    (hcomplete : ∀ absent absent' draft record,
      s.complete absent draft = .ok record → s.complete absent' draft = .ok record)
    {n : Node} {trees : List Tree} (h : Holds n (.list trees))
    (hlength : trees.length = fields.length) :
    ∃ table, Holds table (.table ((fields.map TypedSlot.name).zip trees)) ∧
      ∀ record, s.decode n = .ok record ↔ s.decode table = .ok record := by
  rcases h with ⟨⟩
  rename_i place items hitems
  rw [← List.length_map TypedSlot.name] at hlength
  obtain ⟨entries, hnames, rfl, hentries⟩ :=
    exists_entries (holdAll_iff.mp hitems) (Nat.le_of_eq hlength)
  exact ⟨.table ⟨0, 0⟩ entries, .table _ (holdMembers_iff.mpr hentries) (Rearranged.refl _),
    fun _ => hs.decode_list_eq_ok_iff hcomplete hnames⟩

end MadeOf

end Shape

/-! ## What is given to a field -/

namespace TypedSlot

variable {ρ : Type} {holds : Node → ρ → Prop}

theorem forall₂_nodes {entries : List (Key × Node)} {members : List (String × ρ)}
    (h : List.Forall₂ (EntryHolds holds) entries members) (f : TypedSlot δ) :
    List.Forall₂ holds (f.nodes entries) (given f.names members) := by
  induction h with
  | nil => exact .nil
  | @cons e m entries members h _ ih =>
      obtain ⟨key, node⟩ := e
      obtain ⟨name, value⟩ := m
      obtain ⟨rfl, hnode⟩ := h
      by_cases hkey : key.text ∈ f.names
      · rw [f.nodes_cons_of_mem hkey, given_cons_of_mem hkey]
        exact .cons hnode ih
      · rw [f.nodes_cons_of_notMem hkey, given_cons_of_notMem hkey]
        exact ih

/-- What a field reads in nodes is told by what they hold, if its decoder can tell no more. -/
theorem reads_iff_of_forall₂ (f : TypedSlot δ) {nodes : List Node} {values : List ρ}
    (h : List.Forall₂ holds nodes values) {means : ρ → f.Content → Prop}
    (hdecode : ∀ {n r}, holds n r → ∀ {content}, f.decode n = .ok content ↔ means r content)
    {after : Option f.Content} :
    f.Reads nodes none after ↔
      values = [] ∧ after = none ∨
        ∃ r content, values = [r] ∧ means r content ∧ after = some content := by
  rw [f.reads_none_iff]
  rcases h with _ | ⟨hnode, _ | ⟨-, -⟩⟩
  · simp
  · simp [hdecode hnode]
  · simp

end TypedSlot

/-- What a field is given by entries depends on the members that they hold, in any order. -/
theorem HoldMembers.reads_iff {entries : List (Key × Node)} {written members : Members}
    (h : HoldMembers entries written) (order : Rearranged written members) (f : TypedSlot δ)
    {means : Tree → f.Content → Prop}
    (hdecode : ∀ {n t}, Holds n t → ∀ {content}, f.decode n = .ok content ↔ means t content)
    {after : Option f.Content} :
    f.Reads (f.nodes entries) none after ↔
      given f.names members = [] ∧ after = none ∨
        ∃ t content, given f.names members = [t] ∧ means t content ∧ after = some content := by
  have hperm := order.given_perm f.names
  have hnodes : List.Forall₂ Holds (f.nodes entries) (given f.names written) :=
    TypedSlot.forall₂_nodes (holdMembers_iff.mp h) f
  rw [f.reads_iff_of_forall₂ hnodes hdecode]
  simp only [← List.perm_nil, ← List.perm_singleton, hperm.congr_left]

variable {entries : List (Key × Node)} {written members : Members}
  {name : String} {aliases : List String}

theorem HoldMembers.reads_text_iff (h : HoldMembers entries written)
    (order : Rearranged written members) {get : δ → Option String} {put : String → δ → δ}
    {after : Option String} :
    let f : TypedSlot δ := ⟨String, name, aliases, get, put, Node.asText⟩
    f.Reads (f.nodes entries) none after ↔
      given (name :: aliases) members = [] ∧ after = none ∨
        ∃ s, given (name :: aliases) members = [.text s] ∧ after = some s := by
  intro f
  rw [h.reads_iff order f fun hnode _ => hnode.asText_eq_ok_iff]
  simp [f, TypedSlot.names]

theorem HoldMembers.reads_texts_iff (h : HoldMembers entries written)
    (order : Rearranged written members) {get : δ → Option (List String)}
    {put : List String → δ → δ} {after : Option (List String)} :
    let f : TypedSlot δ := ⟨List String, name, aliases, get, put, Node.asList Node.asText⟩
    f.Reads (f.nodes entries) none after ↔
      given (name :: aliases) members = [] ∧ after = none ∨
        ∃ texts, given (name :: aliases) members = [.list (texts.map .text)] ∧
          after = some texts := by
  intro f
  rw [h.reads_iff order f fun hnode _ => hnode.asTexts_eq_ok_iff]
  simp [f, TypedSlot.names]

theorem HoldMembers.reads_value_iff (h : HoldMembers entries written)
    (order : Rearranged written members) {get : δ → Option Value} {put : Value → δ → δ}
    {after : Option Value} :
    let f : TypedSlot δ := ⟨Value, name, aliases, get, put, Value.ofNode⟩
    f.Reads (f.nodes entries) none after ↔
      given (name :: aliases) members = [] ∧ after = none ∨
        ∃ t, given (name :: aliases) members = [t] ∧ after = some t.value := by
  intro f
  have hdecode : ∀ {n t}, Holds n t → ∀ {content}, Value.ofNode n = .ok content ↔
      t.value = content := by
    intro n t hnode content
    simp [hnode.ofNode_eq]
  rw [h.reads_iff order f hdecode]
  simp [f, TypedSlot.names]

end SchemaCodegen.Document
