import SchemaCodegen.Document.Json.Reader
import SchemaCodegen.Proofs.Text.Occurrence

/-!
# Where JSON texts are written

Every text in the tree of a JSON document, be it a value or a key, stands between
double quotes at the place that the tree gives for it, and literally so unless it
is written with escapes. Tokens have the property by the way they are cut off, and
each step of the reader keeps it, as nothing but tokens ever gets into the tree.
-/

namespace SchemaCodegen.Document

open SchemaCodegen.Text

/-- A text that a tree holds, as a value or as a key, at its place. -/
inductive Node.Has : Node → Span → String → Prop where
  | text (span : Span) (s : String) : Has (.scalar span (.text s)) span s
  | item {place span : Span} {items : List Node} {item : Node} {s : String}
      (hmem : item ∈ items) (h : Has item span s) : Has (.list place items) span s
  | key {place : Span} {entries : List (Key × Node)} {key : Key} {value : Node}
      (hmem : (key, value) ∈ entries) : Has (.table place entries) key.span key.text
  | value {place span : Span} {entries : List (Key × Node)} {key : Key} {value : Node} {s : String}
      (hmem : (key, value) ∈ entries) (h : Has value span s) : Has (.table place entries) span s

/-- All texts of a tree are as `P` says. -/
def Node.TextsAre (P : Span → String → Prop) (n : Node) : Prop := ∀ span s, n.Has span s → P span s

variable {P : Span → String → Prop}

@[simp] theorem Node.textsAre_list {place : Span} {items : List Node} :
    (Node.list place items).TextsAre P ↔ ∀ item ∈ items, item.TextsAre P := by
  constructor
  · intro h item hmem span s hhas
    exact h span s (.item hmem hhas)
  · intro h span s hhas
    cases hhas with
    | item hmem hitem => exact h _ hmem span s hitem

@[simp] theorem Node.textsAre_table {place : Span} {entries : List (Key × Node)} :
    (Node.table place entries).TextsAre P ↔
      ∀ e ∈ entries, P e.1.span e.1.text ∧ e.2.TextsAre P := by
  constructor
  · intro h e hmem
    exact ⟨h _ _ (.key hmem), fun span s hhas => h span s (.value hmem hhas)⟩
  · intro h span s hhas
    cases hhas with
    | key hmem => exact (h _ hmem).1
    | value hmem hvalue => exact (h _ hmem).2 span s hvalue

theorem Node.textsAre_scalar {place : Span} {content : Scalar}
    (h : ∀ s, content = .text s → P place s) : (Node.scalar place content).TextsAre P := by
  intro span s hhas
  cases hhas
  exact h _ rfl

namespace Json

/-! ## Quoted texts -/

/-- A text is written between double quotes at the span, and literally unless there is a backslash
in it. -/
def WrittenAt (source : List Char) (span : Span) (s : String) : Prop :=
  ∃ body, StandsAt (inQuotes body) source span.start ∧ span.length = byteCount (inQuotes body) ∧
    ('\\' ∉ body → body = s.toList)

/-- The pieces of a text are its characters up to the quote unless a backslash is among them. -/
theorem pieces_eq_some {cs : List Char} {ps : List Piece} {count : Nat}
    (h : pieces cs = some (ps, count)) :
    ∃ body after, cs = body ++ '"' :: after ∧ count = body.length + 1 ∧
      ('\\' ∉ body → ps = body.map .char) := by
  induction cs using pieces.induct generalizing ps count with
  | case1 => cases h
  | case2 rest =>
      cases h
      exact ⟨[], rest, rfl, rfl, fun _ => rfl⟩
  -- an escape puts a backslash into the body, so that nothing is said about the pieces
  | case3 a b c d cs n rest count' hrest hdigits ih =>
      simp only [pieces, hdigits, hrest] at h
      cases h
      obtain ⟨body, after, rfl, rfl, -⟩ := ih hrest
      exact ⟨'\\' :: 'u' :: a :: b :: c :: d :: body, after, rfl, rfl, fun h => absurd (by simp) h⟩
  | case4 a b c d cs hnone ih =>
      rw [pieces] at h
      split at h
      · rename_i n rest count' hdigits hrest
        exact (hnone n rest count' hdigits hrest).elim
      · cases h
  | case5 e cs hunit c rest count' hrest hescaped ih =>
      rw [pieces, hescaped, hrest] at h
      · cases h
        obtain ⟨body, after, rfl, rfl, -⟩ := ih hrest
        exact ⟨'\\' :: e :: body, after, rfl, rfl, fun h => absurd (by simp) h⟩
      · exact hunit
  | case6 e cs hunit hnone ih =>
      rw [pieces] at h
      · split at h
        · rename_i c rest count' hescaped hrest
          exact (hnone c rest count' hescaped hrest).elim
        · cases h
      · exact hunit
  | case7 c cs hquote hunit hescape hcontrol =>
      rw [pieces, if_pos hcontrol] at h
      · cases h
      · exact hquote
      · exact hunit
      · exact hescape
  | case8 c cs hquote hunit hescape hcontrol ih =>
      rw [pieces, if_neg hcontrol, Option.map_eq_some_iff] at h
      · obtain ⟨⟨rest, count'⟩, hrest, heq⟩ := h
        cases heq
        obtain ⟨body, after, rfl, rfl, hchars⟩ := ih hrest
        refine ⟨c :: body, after, rfl, rfl, ?_⟩
        intro hplain
        simp [hchars fun hmem => hplain (List.mem_cons_of_mem c hmem)]
      · exact hquote
      · exact hunit
      · exact hescape

theorem joinPieces?_chars (cs : List Char) : joinPieces? (cs.map .char) = some cs := by
  induction cs with
  | nil => rfl
  | cons c cs ih => simp [joinPieces?, ih]

/-- A lexeme says a text. -/
def Lexeme.Says (l : Lexeme) (s : String) : Prop := l = .text (some s) ∨ l = .scalar (.text s)

theorem number_ne_text (negative : Bool) (l : Number.Literal) (s : String) :
    number negative l ≠ .text s := by
  simp only [number]
  split
  · simp
  · split
    · simp
    · split
      · simp
      · simp

theorem scalarOf?_ne_text (word : List Char) (s : String) : scalarOf? word ≠ some (.text s) := by
  intro h
  unfold scalarOf? at h
  split at h
  · cases h
  split at h
  · cases h
  split at h
  · cases h
  unfold numberOf? at h
  split at h
  split at h
  · split at h
    · cases h
    · exact number_ne_text _ _ s (Option.some.inj h)
  · cases h

/-- A lexeme that says a text starts with a quote. -/
theorem Lexeme.Says.quoted {c : Char} {cs : List Char} {found : Lexeme} {s : String} {count : Nat}
    (hs : found.Says s) (h : lexeme c cs = some (found, count)) :
    ∃ body, c :: cs.take count = inQuotes body ∧ ('\\' ∉ body → body = s.toList) := by
  unfold lexeme at h
  split at h
  · cases h
    rcases hs with hs | hs
    · cases hs
    · cases hs
  · split at h
    · rename_i hquote
      subst hquote
      obtain ⟨⟨ps, count'⟩, hpieces, heq⟩ := Option.map_eq_some_iff.mp h
      cases heq
      rcases hs with hs | hs
      · simp only [Lexeme.text.injEq, Option.map_eq_some_iff] at hs
        obtain ⟨content, hcontent, rfl⟩ := hs
        obtain ⟨body, after, rfl, rfl, hchars⟩ := pieces_eq_some hpieces
        refine ⟨body, ?_, ?_⟩
        · have hlength : body.length + 1 = (body ++ ['"']).length := by simp
          rw [inQuotes, List.append_cons, hlength, List.take_left]
        · intro hplain
          rw [hchars hplain, joinPieces?_chars, Option.some.injEq] at hcontent
          simp [hcontent]
      · cases hs
    · obtain ⟨content, hcontent, heq⟩ := Option.map_eq_some_iff.mp h
      cases heq
      rcases hs with hs | hs
      · cases hs
      · cases hs
        exact absurd hcontent (scalarOf?_ne_text _ s)

/-- The token of a text stands where its span says. -/
theorem token_stands {place : Nat} {cs : List Char} {ts : List Token} {t : Token} {s : String}
    (h : tokens place cs = some ts) (ht : t ∈ ts) (hs : t.lexeme.Says s) :
    ∃ start body, StandsAt (inQuotes body) cs start ∧
      t.span = ⟨place + start, byteCount (inQuotes body)⟩ ∧ ('\\' ∉ body → body = s.toList) := by
  induction place, cs using tokens.induct generalizing ts with
  | case1 place =>
      rw [tokens] at h
      cases h
      cases ht
  | case2 place c cs hspace ih =>
      rw [tokens, if_pos hspace] at h
      obtain ⟨start, body, hstands, hspan, hliteral⟩ := ih h ht
      refine ⟨_, body, hstands.behind [c], ?_, hliteral⟩
      rw [hspan, byteCount, byteCount, Nat.add_zero, Nat.add_assoc]
  | case3 place c cs hspace hlexeme =>
      rw [tokens, if_neg hspace, hlexeme] at h
      cases h
  | case4 place c cs hspace found count hlexeme width =>
      rename_i ih
      rw [tokens, if_neg hspace, hlexeme] at h
      obtain ⟨rest, hrest, rfl⟩ := Option.map_eq_some_iff.mp h
      rcases List.mem_cons.mp ht with rfl | hlater
      · obtain ⟨body, hbody, hliteral⟩ := hs.quoted hlexeme
        refine ⟨0, body, ⟨[], cs.drop count, ?_, rfl⟩, ?_, hliteral⟩
        · simp [← hbody]
        · rw [← hbody]
          rfl
      · obtain ⟨start, body, hstands, hspan, hliteral⟩ := ih hrest hlater
        have hstands := hstands.behind (c :: cs.take count)
        rw [List.cons_append, List.take_append_drop] at hstands
        refine ⟨_, body, hstands, ?_, hliteral⟩
        rw [hspan, Nat.add_assoc]

/-! ## Texts in trees -/

variable {r r' : Reading} {node : Node} {t : Token}

def Frame.TextsAre (P : Span → String → Prop) : Frame → Prop
  | .list _ items => ∀ item ∈ items, item.TextsAre P
  | .table _ entries _ => ∀ e ∈ entries, P e.1.span e.1.text ∧ e.2.TextsAre P
  | .entry key span _ => ∀ s, key = some s → P span s

def Expected.TextsAre (P : Span → String → Prop) : Expected → Prop
  | .colon content span => ∀ s, content = some s → P span s
  | .nothing root => root.TextsAre P
  | .value | .firstItem | .key | .firstKey | .separator => True

structure Reading.TextsAre (P : Span → String → Prop) (r : Reading) : Prop where
  frames : ∀ frame ∈ r.frames, frame.TextsAre P
  expected : r.expected.TextsAre P

namespace Reading

theorem TextsAre.supply (hr : r.TextsAre P) (hnode : node.TextsAre P)
    (h : r.supply node = some r') : r'.TextsAre P := by
  obtain ⟨frames, depth, expected⟩ := r
  obtain ⟨hframes, -⟩ := hr
  simp only [Reading.supply] at h hframes
  split at h
  · cases h
    exact ⟨hframes, hnode⟩
  · cases h
    obtain ⟨hitems, hrest⟩ := List.forall_mem_cons.mp hframes
    exact ⟨List.forall_mem_cons.mpr ⟨List.forall_mem_cons.mpr ⟨hnode, hitems⟩, hrest⟩, trivial⟩
  · rename_i key span _ _ _ _ _
    cases h
    obtain ⟨hkey, htail⟩ := List.forall_mem_cons.mp hframes
    obtain ⟨hentries, hrest⟩ := List.forall_mem_cons.mp htail
    have hentry : P span key ∧ node.TextsAre P := ⟨hkey key rfl, hnode⟩
    exact ⟨List.forall_mem_cons.mpr ⟨List.forall_mem_cons.mpr ⟨hentry, hentries⟩, hrest⟩, trivial⟩
  · cases h
    obtain ⟨-, htail⟩ := List.forall_mem_cons.mp hframes
    obtain ⟨hentries, hrest⟩ := List.forall_mem_cons.mp htail
    exact ⟨List.forall_mem_cons.mpr ⟨hentries, hrest⟩, trivial⟩
  · cases h

theorem TextsAre.close {mark : Char} {span : Span} (hr : r.TextsAre P)
    (h : r.close mark span = some r') : r'.TextsAre P := by
  obtain ⟨frames, depth, expected⟩ := r
  obtain ⟨hframes, hexpected⟩ := hr
  have hunreadable : ∀ place, (Node.scalar place .unreadable).TextsAre P :=
    fun place => Node.textsAre_scalar fun s h => by cases h
  simp only [Reading.close] at h hframes hexpected
  split at h
  · obtain ⟨hitems, hrest⟩ := List.forall_mem_cons.mp hframes
    refine TextsAre.supply ⟨hrest, hexpected⟩ ?_ h
    split
    · rw [Node.textsAre_list]
      exact fun item hmem => hitems item (List.mem_reverse.mp hmem)
    · exact hunreadable _
  · obtain ⟨hentries, hrest⟩ := List.forall_mem_cons.mp hframes
    refine TextsAre.supply ⟨hrest, hexpected⟩ ?_ h
    split
    · rw [Node.textsAre_table]
      exact fun e hmem => hentries e (List.mem_reverse.mp hmem)
    · exact hunreadable _
  · cases h

variable (hr : r.TextsAre P) (ht : ∀ s, t.lexeme.Says s → P t.span s)
include hr ht

theorem TextsAre.startValue (h : r.startValue t = some r') : r'.TextsAre P := by
  unfold Reading.startValue at h
  split at h
  · cases h
    exact ⟨List.forall_mem_cons.mpr ⟨List.forall_mem_nil _, hr.frames⟩, trivial⟩
  · cases h
    exact ⟨List.forall_mem_cons.mpr ⟨List.forall_mem_nil _, hr.frames⟩, trivial⟩
  · cases h
  · rename_i s hlexeme
    refine hr.supply (Node.textsAre_scalar ?_) h
    rintro _ ⟨⟩
    exact ht s (Or.inl hlexeme)
  · exact hr.supply (Node.textsAre_scalar fun s heq => by cases heq) h
  · rename_i content hlexeme
    refine hr.supply (Node.textsAre_scalar ?_) h
    rintro s rfl
    exact ht s (Or.inr hlexeme)

/-- What a step adds to the texts is the text of the token. -/
theorem TextsAre.step (h : r.step t = some r') : r'.TextsAre P := by
  -- a token adds its text as a value or as a key; marks move texts that are there already
  have hkey : ∀ {content}, t.lexeme = .text content →
      ∀ s, content = some s → P t.span s := by
    rintro _ hlexeme s rfl
    exact ht s (Or.inl hlexeme)
  unfold Reading.step at h
  split at h
  · exact hr.startValue ht h
  · exact hr.close h
  · exact hr.startValue ht h
  · rename_i hlexeme
    cases h
    exact ⟨hr.frames, hkey hlexeme⟩
  · rename_i hlexeme
    cases h
    exact ⟨hr.frames, hkey hlexeme⟩
  · exact hr.close h
  · rename_i hexpected _
    cases h
    have hcontent := hr.expected
    rw [hexpected] at hcontent
    exact ⟨List.forall_mem_cons.mpr ⟨hcontent, hr.frames⟩, trivial⟩
  · unfold Reading.afterComma at h
    split at h
    · cases h
      exact ⟨hr.frames, trivial⟩
    · cases h
      exact ⟨hr.frames, trivial⟩
    · cases h
  · exact hr.close h
  · cases h

end Reading

/-- A run over tokens reads no texts but theirs. -/
theorem Reading.TextsAre.run {ts : List Token} (hts : ∀ t ∈ ts, ∀ s, t.lexeme.Says s → P t.span s)
    (hr : r.TextsAre P) (h : ts.foldlM Reading.step r = some r') : r'.TextsAre P := by
  induction ts generalizing r with
  | nil =>
      cases h
      exact hr
  | cons t ts ih =>
      obtain ⟨ht, hts⟩ := List.forall_mem_cons.mp hts
      rw [List.foldlM_cons] at h
      obtain ⟨next, hstep, hrest⟩ := Option.bind_eq_some_iff.mp h
      exact ih hts (hr.step ht hstep) hrest

/-- **Every text of a JSON document is written where its tree says.** -/
theorem writtenAt_of_read? {source : String} {root : Node} (h : read? source = some root) :
    root.TextsAre (WrittenAt source.toList) := by
  obtain ⟨ts, htokens, hroot⟩ := Option.bind_eq_some_iff.mp h
  obtain ⟨r, hrun, hroot⟩ := Option.bind_eq_some_iff.mp hroot
  have hts : ∀ t ∈ ts, ∀ s, t.lexeme.Says s → WrittenAt source.toList t.span s := by
    intro t ht s hs
    obtain ⟨start, body, hstands, hspan, hliteral⟩ := token_stands htokens ht hs
    rw [hspan, Nat.zero_add]
    exact ⟨body, hstands, rfl, hliteral⟩
  have hstart : Reading.start.TextsAre (WrittenAt source.toList) :=
    ⟨List.forall_mem_nil _, trivial⟩
  have hread := hstart.run hts hrun
  unfold Reading.root? at hroot
  split at hroot
  · rename_i hexpected
    cases hroot
    have hall := hread.expected
    rw [hexpected] at hall
    exact hall
  · cases hroot

end Json

end SchemaCodegen.Document
