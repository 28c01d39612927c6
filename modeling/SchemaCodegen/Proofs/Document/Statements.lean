import SchemaCodegen.Document.Format
import SchemaCodegen.Proofs.Document.Quotations
import SchemaCodegen.Proofs.Document.Spellings

/-!
# Where TOML texts are written

Every text in the tree of a TOML document, be it a value or a key, is spelt out at the
place that the tree gives for it. The tables under construction hold the keys and the
values of the statements and nothing else, the statements those of their parts, and
the parts those of the tokens. Each step of the reader keeps this.
-/

namespace SchemaCodegen.Document

open SchemaCodegen.Text

namespace Toml

/-! ## Texts in what is assembled -/

variable {P : Span → String → Prop}

theorem entryNodes_eq_map (entries : Entries) :
    entryNodes entries = entries.map fun entry => (entry.1, entry.2.node) := by
  induction entries with
  | nil => rfl
  | cons entry rest ih => rw [entryNodes, ih, List.map_cons]

theorem elementNodes_eq_map (elements : List (Span × Entries)) (later : List Node) :
    elementNodes elements later =
      (elements.map fun element => .table element.1 (entryNodes element.2)).reverse ++ later := by
  induction elements generalizing later with
  | nil => rfl
  | cons element rest ih =>
      rw [elementNodes, ih, List.map_cons, List.reverse_cons, List.append_assoc]
      rfl

def Entries.TextsAre (P : Span → String → Prop) (entries : Entries) : Prop :=
  ∀ entry ∈ entries, P entry.1.span entry.1.text ∧ entry.2.node.TextsAre P

structure Setting.TextsAre (P : Span → String → Prop) (s : Setting) : Prop where
  path : ∀ key ∈ s.path, P key.span key.text
  value : s.value.TextsAre P

theorem textsAre_entryNodes {entries : Entries} {span : Span} :
    (Node.table span (entryNodes entries)).TextsAre P ↔ entries.TextsAre P := by
  rw [Node.textsAre_table, entryNodes_eq_map]
  exact List.forall_mem_map

@[simp] theorem textsAre_table {span : Span} {origin : Origin} {entries : Entries} :
    (Draft.table span origin entries).node.TextsAre P ↔ entries.TextsAre P :=
  textsAre_entryNodes

theorem textsAre_tables {span : Span} {elements : List (Span × Entries)} :
    (Draft.tables span elements).node.TextsAre P ↔
      ∀ element ∈ elements, Entries.TextsAre P element.2 := by
  rw [Draft.node, Node.textsAre_list, elementNodes_eq_map, List.append_nil]
  simp only [List.mem_reverse, List.forall_mem_map, textsAre_entryNodes]

theorem forall_mem_of_reverse_eq {path parents : List Key} {last : Key} {Q : Key → Prop}
    (h : path.reverse = last :: parents) (hpath : ∀ key ∈ path, Q key) :
    Q last ∧ ∀ key ∈ parents.reverse, Q key := by
  have hall : ∀ key ∈ path.reverse, Q key := fun key hkey => hpath key (List.mem_reverse.mp hkey)
  rw [h] at hall
  obtain ⟨hlast, hparents⟩ := List.forall_mem_cons.mp hall
  exact ⟨hlast, fun key hkey => hparents key (List.mem_reverse.mp hkey)⟩

namespace Entries

variable {entries entries' : Entries} {key : Key} {draft : Draft}

theorem TextsAre.find? (h : entries.TextsAre P) (hfind : entries.find? key = some draft) :
    draft.node.TextsAre P := by
  obtain ⟨entry, hentry, rfl⟩ := Option.map_eq_some_iff.mp hfind
  exact (h entry (List.mem_of_find?_eq_some hentry)).2

theorem TextsAre.push (h : entries.TextsAre P) (hkey : P key.span key.text)
    (hdraft : draft.node.TextsAre P) : (entries.push key draft).TextsAre P :=
  List.forall_mem_append.mpr ⟨h, List.forall_mem_singleton.mpr ⟨hkey, hdraft⟩⟩

theorem TextsAre.replace (h : entries.TextsAre P) (hdraft : draft.node.TextsAre P) :
    (entries.replace key draft).TextsAre P := by
  intro entry hentry
  obtain ⟨old, hold, rfl⟩ := List.mem_map.mp hentry
  split
  · exact ⟨(h old hold).1, hdraft⟩
  · exact h old hold

theorem TextsAre.erase (h : entries.TextsAre P) : (entries.erase key).TextsAre P :=
  fun entry hentry => h entry (List.mem_filter.mp hentry).1

/-- A change at the end of a path keeps the texts as they have to be if the change does. -/
theorem TextsAre.modify {isDotted : Bool} {change : Origin → Entries → Option Entries}
    {path : List Key} {origin : Origin}
    (hchange : ∀ {origin inner inner'}, Entries.TextsAre P inner →
      change origin inner = some inner' → Entries.TextsAre P inner')
    (hpath : ∀ key ∈ path, P key.span key.text) (hentries : entries.TextsAre P)
    (h : modify isDotted change path origin entries = some entries') : entries'.TextsAre P := by
  induction path generalizing origin entries entries' with
  | nil => exact hchange hentries h
  | cons key path ih =>
      obtain ⟨hkey, hpath⟩ := List.forall_mem_cons.mp hpath
      rw [Entries.modify] at h
      split at h
      · obtain ⟨inner, hinner, rfl⟩ := Option.map_eq_some_iff.mp h
        exact hentries.push hkey (textsAre_table.mpr (ih hpath (List.forall_mem_nil _) hinner))
      · rename_i hfind
        split at h
        · cases h
        · obtain ⟨inner, hinner, rfl⟩ := Option.map_eq_some_iff.mp h
          have hold := textsAre_table.mp (hentries.find? hfind)
          exact hentries.replace (textsAre_table.mpr (ih hpath hold hinner))
      · rename_i hfind
        obtain ⟨inner, hinner, rfl⟩ := Option.map_eq_some_iff.mp h
        have hold := textsAre_tables.mp (hentries.find? hfind)
        obtain ⟨hlast, hearlier⟩ := List.forall_mem_cons.mp hold
        refine hentries.replace (textsAre_tables.mpr ?_)
        exact List.forall_mem_cons.mpr ⟨ih hpath hlast hinner, hearlier⟩
      · cases h

theorem TextsAre.set {s : Setting} (hentries : entries.TextsAre P) (hs : s.TextsAre P)
    (h : entries.set s = some entries') : entries'.TextsAre P := by
  unfold Entries.set at h
  split at h
  · cases h
  · rename_i key parents hpath
    obtain ⟨hkey, hparents⟩ := forall_mem_of_reverse_eq hpath hs.path
    refine hentries.modify ?_ hparents h
    intro origin inner inner' hinner hchange
    split at hchange
    · cases hchange
    split at hchange
    · cases hchange
    · cases hchange
      exact hinner.push hkey hs.value

theorem TextsAre.setAll {settings : List Setting} (hentries : entries.TextsAre P)
    (hs : ∀ s ∈ settings, s.TextsAre P) (h : entries.setAll settings = some entries') :
    entries'.TextsAre P := by
  induction settings generalizing entries with
  | nil =>
      cases h
      exact hentries
  | cons s settings ih =>
      obtain ⟨hs, hrest⟩ := List.forall_mem_cons.mp hs
      obtain ⟨next, hset, h⟩ := Option.bind_eq_some_iff.mp h
      exact ih (hentries.set hs hset) hrest h

theorem TextsAre.setTable {header : Header} {settings : List Setting}
    (hentries : entries.TextsAre P) (hkey : P key.span key.text)
    (hs : ∀ s ∈ settings, s.TextsAre P)
    (h : entries.setTable header key settings = some entries') : entries'.TextsAre P := by
  have hnew : ∀ {inner}, Entries.setAll [] settings = some inner → Entries.TextsAre P inner :=
    fun hinner => TextsAre.setAll (List.forall_mem_nil _) hs hinner
  unfold Entries.setTable at h
  split at h
  · obtain ⟨inner, hinner, rfl⟩ := Option.map_eq_some_iff.mp h
    exact hentries.push hkey (textsAre_table.mpr (hnew hinner))
  · rename_i hfind
    obtain ⟨inner, hinner, rfl⟩ := Option.map_eq_some_iff.mp h
    have hold := textsAre_table.mp (hentries.find? hfind)
    exact hentries.erase.push hkey (textsAre_table.mpr (hold.setAll hs hinner))
  · obtain ⟨inner, hinner, rfl⟩ := Option.map_eq_some_iff.mp h
    exact hentries.push hkey
      (textsAre_tables.mpr (List.forall_mem_singleton.mpr (hnew hinner)))
  · rename_i hfind
    obtain ⟨inner, hinner, rfl⟩ := Option.map_eq_some_iff.mp h
    have hold := textsAre_tables.mp (hentries.find? hfind)
    exact hentries.replace
      (textsAre_tables.mpr (List.forall_mem_cons.mpr ⟨hnew hinner, hold⟩))
  · cases h

theorem TextsAre.addSection {header : Header} {settings : List Setting}
    (hentries : entries.TextsAre P) (hpath : ∀ key ∈ header.path, P key.span key.text)
    (hs : ∀ s ∈ settings, s.TextsAre P) (h : entries.addSection header settings = some entries') :
    entries'.TextsAre P := by
  unfold Entries.addSection at h
  split at h
  · cases h
  · rename_i key parents hreverse
    obtain ⟨hkey, hparents⟩ := forall_mem_of_reverse_eq hreverse hpath
    exact hentries.modify (fun hinner hchange => hinner.setTable hkey hs hchange) hparents h

theorem TextsAre.addSections {sections : List (Header × List Setting)}
    (hentries : entries.TextsAre P)
    (hsections : ∀ part ∈ sections, (∀ key ∈ part.1.path, P key.span key.text) ∧
      ∀ s ∈ part.2, s.TextsAre P)
    (h : entries.addSections sections = some entries') : entries'.TextsAre P := by
  induction sections generalizing entries with
  | nil =>
      cases h
      exact hentries
  | cons first rest ih =>
      obtain ⟨⟨hpath, hs⟩, hrest⟩ := List.forall_mem_cons.mp hsections
      obtain ⟨next, hadd, h⟩ := Option.bind_eq_some_iff.mp h
      exact ih (hentries.addSection hpath hs hadd) hrest h

end Entries

def Statement.TextsAre (P : Span → String → Prop) : Statement → Prop
  | .setting s => s.TextsAre P
  | .header h => ∀ key ∈ h.path, P key.span key.text

theorem textsAre_sections {statements : List Statement}
    (h : ∀ statement ∈ statements, statement.TextsAre P) :
    (∀ s ∈ (sections statements).1, s.TextsAre P) ∧
      ∀ part ∈ (sections statements).2, (∀ key ∈ part.1.path, P key.span key.text) ∧
        ∀ s ∈ part.2, s.TextsAre P := by
  induction statements with
  | nil => exact ⟨List.forall_mem_nil _, List.forall_mem_nil _⟩
  | cons statement rest ih =>
      obtain ⟨hfirst, hrest⟩ := List.forall_mem_cons.mp h
      obtain ⟨hsettings, htables⟩ := ih hrest
      cases statement with
      | setting s => exact ⟨List.forall_mem_cons.mpr ⟨hfirst, hsettings⟩, htables⟩
      | header header =>
          exact ⟨List.forall_mem_nil _, List.forall_mem_cons.mpr ⟨⟨hfirst, hsettings⟩, htables⟩⟩

theorem textsAre_assembleTable {settings : List Setting} {entries : List (Key × Node)}
    {span : Span} (hs : ∀ s ∈ settings, s.TextsAre P) (h : assembleTable settings = some entries) :
    (Node.table span entries).TextsAre P := by
  obtain ⟨drafts, hset, rfl⟩ := Option.map_eq_some_iff.mp h
  exact textsAre_entryNodes.mpr (Entries.TextsAre.setAll (List.forall_mem_nil _) hs hset)

theorem textsAre_assemble {statements : List Statement} {entries : List (Key × Node)}
    {span : Span} (hs : ∀ statement ∈ statements, statement.TextsAre P)
    (h : assemble statements = some entries) : (Node.table span entries).TextsAre P := by
  obtain ⟨hsettings, htables⟩ := textsAre_sections hs
  obtain ⟨drafts, hdrafts, rfl⟩ := Option.map_eq_some_iff.mp h
  obtain ⟨first, hset, hadd⟩ := Option.bind_eq_some_iff.mp hdrafts
  have hfirst := Entries.TextsAre.setAll (List.forall_mem_nil _) hsettings hset
  exact textsAre_entryNodes.mpr (hfirst.addSections htables hadd)

/-! ## Texts in what is read -/

def Part.TextsAre (P : Span → String → Prop) : Part → Prop
  | .token t => ∀ s, t.lexeme.Says s → P t.span s
  | .value n => n.TextsAre P

variable {parts : List Part}

theorem Part.TextsAre.keyOf? {part : Part} {key : Key} (h : part.TextsAre P)
    (hkey : keyOf? part = some key) : P key.span key.text := by
  unfold Toml.keyOf? at hkey
  split at hkey
  · split at hkey
    · rename_i hchars
      cases hkey
      exact h _ (.word hchars)
    · cases hkey
  · cases hkey
    exact h _ (.text _ _)
  · cases hkey

theorem textsAre_keysOf? {path : List Key} (h : ∀ part ∈ parts, part.TextsAre P)
    (hpath : keysOf? parts = some path) : ∀ key ∈ path, P key.span key.text := by
  induction parts using keysOf?.induct generalizing path with
  | case1 => cases hpath
  | case2 part =>
      obtain ⟨key, hkey, rfl⟩ := Option.map_eq_some_iff.mp hpath
      exact List.forall_mem_singleton.mpr ((List.forall_mem_singleton.mp h).keyOf? hkey)
  | case3 part point rest hpoint key path' hrest hkey ih =>
      rw [keysOf?, if_pos hpoint, hkey, hrest] at hpath
      cases hpath
      obtain ⟨hpart, htail⟩ := List.forall_mem_cons.mp h
      exact List.forall_mem_cons.mpr
        ⟨hpart.keyOf? hkey, ih (List.forall_mem_cons.mp htail).2 hrest⟩
  | case4 part point rest hpoint hnone =>
      rw [keysOf?, if_pos hpoint] at hpath
      split at hpath
      · rename_i key path' hkey hrest
        exact (hnone key path' hkey hrest).elim
      · cases hpath
  | case5 part point rest hpoint =>
      rw [keysOf?, if_neg hpoint] at hpath
      cases hpath

theorem textsAre_pathOf? {path : List Key} (h : ∀ part ∈ parts, part.TextsAre P)
    (hpath : pathOf? parts = some path) : ∀ key ∈ path, P key.span key.text :=
  textsAre_keysOf? h (Option.filter_eq_some_iff.mp hpath).1

theorem textsAre_valueOf? {node : Node} (h : ∀ part ∈ parts, part.TextsAre P)
    (hnode : valueOf? parts = some node) : node.TextsAre P := by
  unfold valueOf? at hnode
  split at hnode
  · cases hnode
    exact h _ List.mem_cons_self
  · cases hnode
    apply Node.textsAre_scalar
    rintro _ ⟨⟩
    exact h _ List.mem_cons_self _ (.text _ _)
  · obtain ⟨⟨chars, stop⟩, -, hscalar⟩ := Option.bind_eq_some_iff.mp hnode
    obtain ⟨content, hcontent, rfl⟩ := Option.map_eq_some_iff.mp hscalar
    apply Node.textsAre_scalar
    rintro s rfl
    exact absurd hcontent (scalarOf?_ne_text chars s)
  · cases hnode

theorem trimLineEnds_subset (parts : List Part) : trimLineEnds parts ⊆ parts := by
  intro part hpart
  have hkept := (List.dropWhile_sublist _).subset (List.mem_reverse.mp hpart)
  exact (List.dropWhile_sublist _).subset (List.mem_reverse.mp hkept)

theorem textsAre_settingOf? {s : Setting} (h : ∀ part ∈ parts, part.TextsAre P)
    (hs : settingOf? parts = some s) : s.TextsAre P := by
  unfold settingOf? at hs
  split at hs
  · cases hs
  · rename_i mark value hvalue
    have hafter : ∀ part ∈ trimLineEnds value, part.TextsAre P := by
      intro part hpart
      have hkept : part ∈ mark :: value := List.mem_cons_of_mem _ (trimLineEnds_subset _ hpart)
      rw [← hvalue] at hkept
      exact h part ((List.dropWhile_sublist _).subset hkept)
    have hbefore : ∀ part ∈ trimLineEnds (parts.takeWhile (!isMarkPart '=' ·)),
        part.TextsAre P := fun part hpart =>
      h part ((List.takeWhile_sublist _).subset (trimLineEnds_subset _ hpart))
    split at hs
    · rename_i path node hpath hnode
      cases hs
      exact ⟨textsAre_pathOf? hbefore hpath, textsAre_valueOf? hafter hnode⟩
    · cases hs

theorem subset_of_mem_chunks {chunk : List Part} (h : chunk ∈ chunks parts) : chunk ⊆ parts := by
  induction parts generalizing chunk with
  | nil =>
      cases List.mem_singleton.mp h
      exact List.nil_subset _
  | cons part rest ih =>
      rw [chunks] at h
      split at h
      · rcases List.mem_cons.mp h with rfl | h
        · exact List.nil_subset _
        · exact List.subset_cons_of_subset _ (ih h)
      · split at h
        · cases List.mem_singleton.mp h
          exact List.cons_subset_cons _ (List.nil_subset _)
        · rename_i hchunks
          rcases List.mem_cons.mp h with rfl | h
          · exact List.cons_subset_cons _ (ih (hchunks ▸ List.mem_cons_self))
          · exact List.subset_cons_of_subset _ (ih (hchunks ▸ List.mem_cons_of_mem _ h))

theorem subset_of_mem_elements {element : List Part} (h : element ∈ elements parts) :
    element ⊆ parts := by
  have hmem : element ∈ (chunks parts).map trimLineEnds := by
    simp only [elements] at h
    split at h
    · exact List.dropLast_subset _ h
    · exact h
  obtain ⟨chunk, hchunk, rfl⟩ := List.mem_map.mp hmem
  exact List.Subset.trans (trimLineEnds_subset chunk) (subset_of_mem_chunks hchunk)

theorem forall_mem_of_mapM {α β : Type} {f : α → Option β} {xs : List α} {ys : List β}
    {Q : β → Prop} (hf : ∀ x ∈ xs, ∀ y, f x = some y → Q y) (h : xs.mapM f = some ys) :
    ∀ y ∈ ys, Q y := by
  induction xs generalizing ys with
  | nil =>
      cases h
      exact List.forall_mem_nil _
  | cons x xs ih =>
      obtain ⟨hx, hxs⟩ := List.forall_mem_cons.mp hf
      rw [List.mapM_cons] at h
      obtain ⟨y, hy, h⟩ := Option.bind_eq_some_iff.mp h
      obtain ⟨rest, hrest, h⟩ := Option.bind_eq_some_iff.mp h
      cases h
      exact List.forall_mem_cons.mpr ⟨hx y hy, ih hxs hrest⟩

theorem textsAre_closedValue? {isTable : Bool} {span : Span} {node : Node}
    (h : ∀ part ∈ parts, part.TextsAre P) (hnode : closedValue? isTable span parts = some node) :
    node.TextsAre P := by
  have helements : ∀ element ∈ elements parts, ∀ part ∈ element, part.TextsAre P :=
    fun element helement part hpart => h part (subset_of_mem_elements helement hpart)
  unfold closedValue? at hnode
  split at hnode
  · obtain ⟨settings, hsettings, htable⟩ := Option.bind_eq_some_iff.mp hnode
    obtain ⟨entries, hentries, rfl⟩ := Option.map_eq_some_iff.mp htable
    refine textsAre_assembleTable (forall_mem_of_mapM ?_ hsettings) hentries
    exact fun element helement s hs => textsAre_settingOf? (helements element helement) hs
  · obtain ⟨items, hitems, rfl⟩ := Option.map_eq_some_iff.mp hnode
    refine Node.textsAre_list.mpr (forall_mem_of_mapM ?_ hitems)
    exact fun element helement n hn => textsAre_valueOf? (helements element helement) hn

theorem textsAre_headerOf? {isElement : Bool} {first last : Part} {statement : Statement}
    (h : ∀ part ∈ parts, part.TextsAre P)
    (hstatement : headerOf? isElement first last parts = some statement) :
    statement.TextsAre P := by
  unfold headerOf? at hstatement
  split at hstatement
  · obtain ⟨keys, hkeys, rfl⟩ := Option.map_eq_some_iff.mp hstatement
    exact textsAre_pathOf? h hkeys
  · cases hstatement

theorem textsAre_headerLine? {first : Part} {statement : Statement}
    (h : ∀ part ∈ parts, part.TextsAre P)
    (hstatement : headerLine? first parts = some statement) : statement.TextsAre P := by
  have hinner : ∀ part ∈ parts.dropLast, part.TextsAre P :=
    fun part hpart => h part (List.dropLast_subset _ hpart)
  have hinmost : ∀ part ∈ parts.tail.dropLast.dropLast, part.TextsAre P := fun part hpart =>
    h part (List.mem_of_mem_tail (List.dropLast_subset _ (List.dropLast_subset _ hpart)))
  unfold headerLine? at hstatement
  split at hstatement
  · split at hstatement
    · split at hstatement
      · split at hstatement
        · exact textsAre_headerOf? hinmost hstatement
        · cases hstatement
      · exact textsAre_headerOf? hinner hstatement
    · cases hstatement
  · cases hstatement

theorem textsAre_statementOf? {statement : Statement} (h : ∀ part ∈ parts, part.TextsAre P)
    (hstatement : statementOf? parts = some statement) : statement.TextsAre P := by
  unfold statementOf? at hstatement
  split at hstatement
  · cases hstatement
  · split at hstatement
    · exact textsAre_headerLine? (List.forall_mem_cons.mp h).2 hstatement
    · obtain ⟨s, hs, rfl⟩ := Option.map_eq_some_iff.mp hstatement
      exact textsAre_settingOf? h hs

structure Reading.TextsAre (P : Span → String → Prop) (r : Reading) : Prop where
  statements : ∀ statement ∈ r.statements, statement.TextsAre P
  line : ∀ part ∈ r.line, part.TextsAre P
  frames : ∀ frame ∈ r.frames, ∀ part ∈ frame.parts, part.TextsAre P

namespace Reading

variable {r r' : Reading}

theorem TextsAre.endLine (hr : r.TextsAre P) (h : r.endLine = some r') : r'.TextsAre P := by
  unfold Reading.endLine at h
  split at h
  · cases h
    exact ⟨hr.statements, hr.line, hr.frames⟩
  · obtain ⟨statement, hstatement, rfl⟩ := Option.map_eq_some_iff.mp h
    have hline : ∀ part ∈ r.line.reverse, part.TextsAre P :=
      fun part hpart => hr.line part (List.mem_reverse.mp hpart)
    exact ⟨List.forall_mem_cons.mpr ⟨textsAre_statementOf? hline hstatement, hr.statements⟩,
      List.forall_mem_nil _, List.forall_mem_nil _⟩

theorem TextsAre.add {part : Part} (hr : r.TextsAre P) (hpart : part.TextsAre P) :
    (r.add part).TextsAre P := by
  obtain ⟨hstatements, hline, hframes⟩ := hr
  unfold Reading.add
  split
  · exact ⟨hstatements, List.forall_mem_cons.mpr ⟨hpart, hline⟩, hframes⟩
  · rename_i hopen
    rw [hopen] at hframes
    obtain ⟨hfirst, hrest⟩ := List.forall_mem_cons.mp hframes
    exact ⟨hstatements, hline, List.forall_mem_cons.mpr
      ⟨List.forall_mem_cons.mpr ⟨hpart, hfirst⟩, hrest⟩⟩

variable {isTable : Bool} {t : Token}

theorem TextsAre.push (hr : r.TextsAre P) (h : r.push isTable t = some r') : r'.TextsAre P := by
  unfold Reading.push at h
  split at h
  · cases h
    exact ⟨hr.statements, hr.line,
      List.forall_mem_cons.mpr ⟨List.forall_mem_nil _, hr.frames⟩⟩
  · cases h

theorem TextsAre.close (hr : r.TextsAre P) (h : r.close isTable t = some r') :
    r'.TextsAre P := by
  obtain ⟨hstatements, hline, hframes⟩ := hr
  unfold Reading.close at h
  split at h
  · cases h
  · rename_i frame rest hopen
    rw [hopen] at hframes
    obtain ⟨hfirst, hrest⟩ := List.forall_mem_cons.mp hframes
    split at h
    · obtain ⟨node, hnode, rfl⟩ := Option.map_eq_some_iff.mp h
      have hparts : ∀ part ∈ frame.parts.reverse, part.TextsAre P :=
        fun part hpart => hfirst part (List.mem_reverse.mp hpart)
      have hvalue : (Part.value node).TextsAre P := textsAre_closedValue? hparts hnode
      exact TextsAre.add ⟨hstatements, hline, hrest⟩ hvalue
    · cases h

/-- What a step adds to the texts is the text of the token. -/
theorem TextsAre.step (hr : r.TextsAre P) (ht : ∀ s, t.lexeme.Says s → P t.span s)
    (h : r.step t = some r') : r'.TextsAre P := by
  have hadd : (r.add (.token t)).TextsAre P := hr.add ht
  unfold Reading.step at h
  split at h
  · split at h
    · exact hr.push h
    · exact hr.push h
    · exact hr.close h
    · exact hr.close h
    · exact hr.endLine h
    · cases h
      exact hadd
  · split at h
    · exact hr.endLine h
    · cases h
      exact ⟨hadd.statements, hadd.line, hadd.frames⟩
    · cases h
      exact hadd

end Reading

/-- A run over tokens reads no texts but theirs. -/
theorem Reading.TextsAre.run {r r' : Reading} {ts : List Token}
    (hts : ∀ t ∈ ts, ∀ s, t.lexeme.Says s → P t.span s) (hr : r.TextsAre P)
    (h : ts.foldlM Reading.step r = some r') : r'.TextsAre P := by
  induction ts generalizing r with
  | nil =>
      cases h
      exact hr
  | cons t ts ih =>
      obtain ⟨ht, hts⟩ := List.forall_mem_cons.mp hts
      rw [List.foldlM_cons] at h
      obtain ⟨next, hstep, hrest⟩ := Option.bind_eq_some_iff.mp h
      exact ih hts (hr.step ht hstep) hrest

/-- **Every text of a TOML document is written where its tree says.** -/
theorem writtenAt_of_read? {source : String} {root : Node} (h : read? source = some root) :
    root.TextsAre (WrittenAt source.toList) := by
  obtain ⟨ts, htokens, hroot⟩ := Option.bind_eq_some_iff.mp h
  obtain ⟨r, hrun, hroot⟩ := Option.bind_eq_some_iff.mp hroot
  obtain ⟨statements, hstatements, hroot⟩ := Option.bind_eq_some_iff.mp hroot
  obtain ⟨entries, hentries, rfl⟩ := Option.map_eq_some_iff.mp hroot
  have hts : ∀ t ∈ ts, ∀ s, t.lexeme.Says s → WrittenAt source.toList t.span s :=
    fun t ht s hs => writtenAt_of_sourceTokens htokens ht hs
  have hstart : Reading.start.TextsAre (WrittenAt source.toList) :=
    ⟨List.forall_mem_nil _, List.forall_mem_nil _, List.forall_mem_nil _⟩
  have hread := hstart.run hts hrun
  refine textsAre_assemble ?_ hentries
  unfold Reading.statements? at hstatements
  split at hstatements
  · obtain ⟨final, hend, rfl⟩ := Option.map_eq_some_iff.mp hstatements
    intro statement hstatement
    exact (hread.endLine hend).statements statement (List.mem_reverse.mp hstatement)
  · cases hstatements

end Toml

/-! ## Both formats -/

/-- A text is written at the span in one of the ways of the format. -/
def Format.WrittenAt : Format → List Char → Span → String → Prop
  | .json => Json.WrittenAt
  | .toml => Toml.WrittenAt

/-- Every text of a document is written where its tree says. -/
theorem Format.writtenAt_of_read? {format : Format} {source : String} {root : Node}
    (h : format.read? source = some root) : root.TextsAre (format.WrittenAt source.toList) := by
  cases format with
  | json => exact Json.writtenAt_of_read? h
  | toml => exact Toml.writtenAt_of_read? h

end SchemaCodegen.Document
