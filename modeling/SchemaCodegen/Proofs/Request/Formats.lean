import SchemaCodegen.Proofs.Request.Acceptance

/-!
# Requests in both formats

A request may be written in JSON or in TOML. Where the two readers deliver the
same document, each with its own places and its own order of members, the
requests are the same, with the same options down to the last nested value, or
there is no request in either format. What is not allowed is refused in both
with the same message.
-/

namespace SchemaCodegen.Request

open Document

variable {json toml : Source} {n n' : Node} {members : Members}

/-- Nodes that hold the same table are decoded alike. -/
theorem ofNode_eq_ok_congr (h : Holds n (.table members)) (h' : Holds n' (.table members))
    (r : Request) : ofNode n = .ok r ↔ ofNode n' = .ok r := by
  rw [ofNode_eq_ok_iff h, ofNode_eq_ok_iff h']

/-- **JSON and TOML requests mean the same.** Either both are accepted as one
request, or both are refused; and if one is refused for what it says, so is the
other, with the same message. -/
theorem formats_agree (hjson : Format.json.read? json.text = some n)
    (h : Holds n (.table members)) (htoml : Format.toml.read? toml.text = some n')
    (h' : Holds n' (.table members)) :
    ((∃ r, ofSource json .json = .ok r ∧ ofSource toml .toml = .ok r) ∨
      (∃ failure, ofSource json .json = .error failure) ∧
        ∃ failure, ofSource toml .toml = .error failure) ∧
    ∀ message, (∃ span, ofSource json .json = .error (.invalid json message span)) ↔
      ∃ span, ofSource toml .toml = .error (.invalid toml message span) := by
  have hsame : ∀ r, ofSource json .json = .ok r ↔ ofSource toml .toml = .ok r := by
    intro r
    rw [ofSource_eq_ok_iff hjson, ofSource_eq_ok_iff htoml, ofNode_eq_ok_congr h h']
  refine ⟨?_, ?_⟩
  · cases hread : ofSource json .json with
    | ok r => exact Or.inl ⟨r, rfl, (hsame r).mp hread⟩
    | error failure =>
        cases hread' : ofSource toml .toml with
        | ok r =>
            have haccepted := (hsame r).mpr hread'
            rw [hread] at haccepted
            cases haccepted
        | error failure' => exact Or.inr ⟨⟨_, rfl⟩, _, rfl⟩
  · intro message
    rw [ofSource_eq_invalid_iff hjson, ofSource_eq_invalid_iff htoml]
    simp only [ofNode_eq_ok_congr h h']

/-- A request with nested options, which the two texts give in different orders, and one with a
blank style. -/
theorem nested_options_agree :
    let options : Document.Tree :=
      .table [("b", .list [.int 1, .text "x"]), ("a", .table [("c", .bool true)])]
    let request : Request := ⟨"java", "dto", ⟨"", ""⟩, ["users"], options.value⟩
    let json : Source := ⟨"request.json",
      "\x7b\"options\": \x7b\"b\": [1, \"x\"], \"a\": \x7b\"c\": true\x7d\x7d, " ++
        "\"tableNames\": [\"users\"], \"style\": \"dto\", \"language\": \"java\"\x7d"⟩
    let toml : Source := ⟨"request.toml",
      "language = \"java\"\nstyle = \"dto\"\ntableNames = [\"users\"]\n" ++
        "[options]\nb = [1, \"x\"]\n[options.a]\nc = true\n"⟩
    let blankJson : Source := ⟨"request.json",
      "\x7b\"language\": \"java\", \"style\": \" \", \"tableNames\": []\x7d"⟩
    let blankToml : Source := ⟨"request.toml",
      "language = \"java\"\nstyle = \" \"\ntableNames = []\n"⟩
    ofSource json .json = .ok request ∧ ofSource toml .toml = .ok request ∧
      (∃ span, ofSource blankJson .json =
        .error (.invalid blankJson "style must not be empty" span)) ∧
      ∃ span, ofSource blankToml .toml =
        .error (.invalid blankToml "style must not be empty" span) := by
  intro options request json toml blankJson blankToml
  let members : Members :=
    [("language", .text "java"), ("style", .text "dto"), ("tableNames", .list [.text "users"]),
     ("options", options)]
  let blank : Members :=
    [("language", .text "java"), ("style", .text " "), ("tableNames", .list [])]
  have hjson : Format.json.reads json.text (.table members.reverse) = true := by decide +kernel
  have htoml : Format.toml.reads toml.text (.table members) = true := by decide +kernel
  have hblankJson : Format.json.reads blankJson.text (.table blank) = true := by decide +kernel
  have hblankToml : Format.toml.reads blankToml.text (.table blank) = true := by decide +kernel
  obtain ⟨n, hread, h⟩ := Format.exists_holds hjson
  obtain ⟨n', hread', h'⟩ := Format.exists_holds htoml
  obtain ⟨_, hreadBlank, hblank⟩ := Format.exists_holds hblankJson
  obtain ⟨_, hreadBlank', hblank'⟩ := Format.exists_holds hblankToml
  have horder : Rearranged members.reverse members :=
    .of_nodup (by decide) members.reverse_perm
  have hgives : Gives members request :=
    ⟨rfl, rfl, Or.inl ⟨rfl, rfl⟩, Or.inl ⟨rfl, rfl⟩, rfl, Or.inr ⟨_, rfl, rfl⟩⟩
  have haccepted : ofSource json .json = .ok request :=
    (ofSource_eq_ok_iff hread).mpr
      ⟨(ofNode_eq_ok_iff (h.rearrange horder)).mpr hgives, by decide, by decide, by decide⟩
  have hrefused : ∃ span, ofSource blankJson .json =
      .error (.invalid blankJson "style must not be empty" span) :=
    (ofSource_eq_invalid_iff hreadBlank).mpr
      ⟨⟨"java", " ", ⟨"", ""⟩, [], .null⟩, "style", (ofNode_eq_ok_iff hblank).mpr
        ⟨rfl, rfl, Or.inl ⟨rfl, rfl⟩, Or.inl ⟨rfl, rfl⟩, rfl, Or.inl ⟨rfl, rfl⟩⟩, by decide⟩
  refine ⟨haccepted, ?_, hrefused,
    ((formats_agree hreadBlank hblank hreadBlank' hblank').2 _).mp hrefused⟩
  rcases (formats_agree hread (h.rearrange horder) hread' h').1 with
    ⟨r, haccepted', hsame⟩ | ⟨⟨failure, hfailed⟩, -⟩
  · rw [haccepted] at haccepted'
    cases haccepted'
    exact hsame
  · rw [haccepted] at hfailed
    cases hfailed

end SchemaCodegen.Request
