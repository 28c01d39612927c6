import SchemaCodegen.Naming.Member
import SchemaCodegen.Proofs.Text.Literals

/-!
# Characters of names

A name in another case has the characters of the name, or forms of them in the
other case. Some characters are no form of any other one: punctuation and digits,
for instance. Such a character is in the Pascal-case or camel-case form of a name
only if it is in the name. That nothing else maps to it is a fact about the
tables of the case maps; everything around the maps keeps characters.
-/

namespace SchemaCodegen

namespace Text

/-! ## Case maps -/

/-- Whether a code point lies between the images of the two ends of the run. -/
def Shift.Reaches (s : Shift) (code : Nat) : Prop :=
  s.target ≤ code ∧ code ≤ s.target + (s.run.last - s.run.first)

instance (s : Shift) (code : Nat) : Decidable (s.Reaches code) :=
  inferInstanceAs (Decidable (_ ∧ _))

/-- No other character has `d` among its forms in another case. -/
structure Caseless (d : Char) : Prop where
  lower : ∀ s ∈ lowerShifts, ¬s.Reaches d.toNat
  upper : ∀ s ∈ upperShifts, ¬s.Reaches d.toNat
  expansion : ∀ entry ∈ upperExpansions, d ∉ entry.2.map Char.ofNat
  /-- The forms that no table lists, and the null character, which stands for a code point that
  is no character. -/
  special : d ∉ ['σ', 'ς', 'i', Char.ofNat 0x0307, Char.ofNat 0]

instance (d : Char) : Decidable (Caseless d) :=
  decidable_of_iff
    ((∀ s ∈ lowerShifts, ¬s.Reaches d.toNat) ∧ (∀ s ∈ upperShifts, ¬s.Reaches d.toNat) ∧
      (∀ entry ∈ upperExpansions, d ∉ entry.2.map Char.ofNat) ∧
      d ∉ ['σ', 'ς', 'i', Char.ofNat 0x0307, Char.ofNat 0])
    ⟨fun ⟨hlower, hupper, hexpansion, hspecial⟩ => ⟨hlower, hupper, hexpansion, hspecial⟩,
     fun h => ⟨h.lower, h.upper, h.expansion, h.special⟩⟩

/-- The line feed, and signs that names, types and statements are told apart by. -/
def separatingSigns : List Char :=
  ['\n', '#', '_', '(', ')', '<', '>', '[', ']', '\x7b', '\x7d']

theorem caseless_of_mem {d : Char} (h : d ∈ separatingSigns) : Caseless d := by
  have hall : separatingSigns.all (decide <| Caseless ·) = true := by decide +kernel
  exact of_decide_eq_true (List.all_eq_true.mp hall d h)

theorem eq_toNat_of_ofNat {d : Char} (hd : d ≠ Char.ofNat 0) {n : Nat} (h : d = Char.ofNat n) :
    d.toNat = n := by
  by_cases hvalid : n.isValidChar
  · rw [h, Char.ofNat, dif_pos hvalid]
    rfl
  · rw [Char.ofNat, dif_neg hvalid] at h
    exact absurd h hd

theorem shifted_reaches {shifts : List Shift} {n : Nat} (h : shifted shifts n ≠ n) :
    ∃ s ∈ shifts, n ≤ s.run.last ∧ s.Reaches (shifted shifts n) := by
  unfold shifted at h ⊢
  cases hfind : shifts.find? (·.run.mem n) with
  | none =>
      rw [hfind] at h
      exact absurd rfl h
  | some s =>
      have hrun := List.find?_some (p := fun s : Shift => s.run.mem n) hfind
      simp only [Run.mem, Bool.and_eq_true, decide_eq_true_eq] at hrun
      refine ⟨s, List.mem_of_find?_eq_some hfind, hrun.1.2, ?_, ?_⟩
      · exact Nat.le_add_right _ _
      · exact Nat.add_le_add_left (Nat.sub_le_sub_right hrun.1.2 _) _

/-- A character that comes from another one lies among the images of a shift. -/
theorem eq_or_reaches {shifts : List Shift} {c d : Char} (hd : d ≠ Char.ofNat 0)
    (h : d = Char.ofNat (shifted shifts c.toNat)) :
    d = c ∨ ∃ s ∈ shifts, c.toNat ≤ s.run.last ∧ s.Reaches d.toNat := by
  by_cases hsame : shifted shifts c.toNat = c.toNat
  · rw [hsame, Char.ofNat_toNat] at h
    exact .inl h
  · rw [eq_toNat_of_ofNat hd h]
    exact .inr (shifted_reaches hsame)

namespace Caseless

variable {d : Char} (hd : Caseless d)
include hd

theorem ne_special {e : Char} (he : e ∈ ['σ', 'ς', 'i', Char.ofNat 0x0307, Char.ofNat 0]) :
    d ≠ e := by
  rintro rfl
  exact hd.special he

theorem ne_shifted {shifts : List Shift} (hshifts : ∀ s ∈ shifts, ¬s.Reaches d.toNat) {c : Char}
    (h : d ≠ c) : d ≠ Char.ofNat (shifted shifts c.toNat) := by
  intro heq
  rcases eq_or_reaches (hd.ne_special (by simp)) heq with hsame | ⟨s, hs, -, hreaches⟩
  · exact h hsame
  · exact hshifts s hs hreaches

theorem not_mem_lowerChar {c : Char} (h : d ≠ c) : d ∉ lowerChar c := by
  unfold lowerChar
  split
  · simp only [List.mem_cons, List.not_mem_nil, or_false, not_or]
    exact ⟨hd.ne_special (by simp), hd.ne_special (by simp)⟩
  · rw [List.mem_singleton]
    exact hd.ne_shifted hd.lower h

theorem not_mem_upperChar {c : Char} (h : d ≠ c) : d ∉ upperChar c := by
  unfold upperChar
  split
  · rename_i form hlookup
    obtain ⟨before, after, hsplit, -⟩ := List.lookup_eq_some_iff.mp hlookup
    apply hd.expansion (c.toNat, form)
    rw [hsplit]
    exact List.mem_append_right _ (List.mem_cons_self ..)
  · rw [List.mem_singleton]
    exact hd.ne_shifted hd.upper h

theorem not_mem_lowerChars {cs : List Char} (h : d ∉ cs) (before : List Char) :
    d ∉ lowerChars before cs := by
  induction cs generalizing before with
  | nil => exact h
  | cons c cs ih =>
      rw [List.mem_cons, not_or] at h
      obtain ⟨hc, hcs⟩ := h
      rw [lowerChars, List.mem_append]
      rintro (hform | hrest)
      · split at hform
        · rw [List.mem_singleton] at hform
          split at hform
          · exact hd.ne_special (by simp) hform
          · exact hd.ne_special (by simp) hform
        · exact hd.not_mem_lowerChar hc hform
      · exact ih hcs (c :: before) hrest

theorem not_mem_upperFirst {cs : List Char} (h : d ∉ cs) : d ∉ upperFirst cs := by
  cases cs with
  | nil => exact h
  | cons c cs =>
      rw [List.mem_cons, not_or] at h
      obtain ⟨hc, hcs⟩ := h
      rw [upperFirst, List.mem_append, not_or]
      exact ⟨hd.not_mem_upperChar hc, hcs⟩

theorem not_mem_lowerFirst {cs : List Char} (h : d ∉ cs) : d ∉ lowerFirst cs := by
  cases cs with
  | nil => exact h
  | cons c cs =>
      rw [List.mem_cons, not_or] at h
      obtain ⟨hc, hcs⟩ := h
      rw [lowerFirst, List.mem_append, not_or]
      exact ⟨hd.not_mem_lowerChar hc, hcs⟩

end Caseless

/-! ## Segments -/

/-- What stands in a segment stands in the text. -/
theorem mem_of_mem_segments {isSeparator : Char → Bool} {cs word : List Char}
    (hword : word ∈ segments isSeparator cs) {c : Char} (hc : c ∈ word) : c ∈ cs := by
  fun_induction segments isSeparator cs generalizing word with
  | case1 => cases hword
  | case2 first cs hfirst ih => exact List.mem_cons_of_mem first (ih hword hc)
  | case3 first hfirst =>
      rw [List.mem_singleton] at hword
      rwa [hword] at hc
  | case4 first hfirst second cs opening rest hsecond hsegments ih =>
      -- the first character goes in front of the first segment of what follows
      rw [hsegments] at ih
      simp only [hsecond, hsegments] at hword
      rcases List.mem_cons.mp hword with rfl | hword
      · rcases List.mem_cons.mp hc with rfl | hc
        · exact List.mem_cons_self
        · exact List.mem_cons_of_mem first (ih List.mem_cons_self hc)
      · exact List.mem_cons_of_mem first (ih (List.mem_cons_of_mem _ hword) hc)
  | case5 first hfirst second cs hjoin ih =>
      split at hword
      · rename_i opening rest hsecond hsegments
        exact (hjoin opening rest hsecond hsegments).elim
      · rcases List.mem_cons.mp hword with rfl | hword
        · rw [List.mem_singleton] at hc
          rw [hc]
          exact List.mem_cons_self
        · exact List.mem_cons_of_mem first (ih hword hc)

end Text

/-! ## Names -/

namespace Naming

variable {d : Char} (hd : Text.Caseless d)
include hd

theorem not_mem_normalizePart {part : List Char} (h : d ∉ part) : d ∉ normalizePart part := by
  unfold normalizePart
  split
  · exact h
  · exact hd.not_mem_lowerChars h []

theorem not_mem_capitalPart {part : List Char} (h : d ∉ part) : d ∉ capitalPart part :=
  hd.not_mem_upperFirst (not_mem_normalizePart hd h)

theorem not_mem_smallPart {part : List Char} (h : d ∉ part) : d ∉ smallPart part :=
  hd.not_mem_lowerFirst (not_mem_normalizePart hd h)

theorem not_mem_flatMap_capitalPart {cs : List Char} {chosen : List (List Char)}
    (hchosen : ∀ part ∈ chosen, part ∈ parts cs) (h : d ∉ cs) :
    d ∉ chosen.flatMap capitalPart := by
  intro hmem
  obtain ⟨part, hpart, hform⟩ := List.mem_flatMap.mp hmem
  apply not_mem_capitalPart hd _ hform
  intro hin
  exact h (Text.mem_of_mem_segments (hchosen part hpart) hin)

theorem not_mem_pascal {name : String} (h : d ∉ name.toList) : d ∉ (pascal name).toList := by
  rw [pascal, String.toList_ofList]
  exact not_mem_flatMap_capitalPart hd (fun _ hpart => hpart) h

theorem not_mem_camel {name : String} (h : d ∉ name.toList) : d ∉ (camel name).toList := by
  rw [camel, String.toList_ofList, camelChars]
  cases hparts : parts name.toList with
  | nil => exact List.not_mem_nil
  | cons first rest =>
      have hfirst : first ∈ parts name.toList := by simp [hparts]
      have hrest : ∀ part ∈ rest, part ∈ parts name.toList := by
        intro part hpart
        simp [hparts, hpart]
      rw [List.mem_append]
      rintro (hmem | hmem)
      · apply not_mem_smallPart hd _ hmem
        intro hin
        exact h (Text.mem_of_mem_segments hfirst hin)
      · exact not_mem_flatMap_capitalPart hd hrest h hmem

theorem not_mem_javaField (hne : d ≠ '_') {column : String} (h : d ∉ column.toList) :
    d ∉ (javaField column).toList := by
  have hname := not_mem_camel hd h
  simp only [javaField]
  split
  · rw [String.toList_append, List.mem_append, not_or]
    exact ⟨hname, by simpa using hne⟩
  · exact hname

theorem not_mem_csharpProperty (hne : d ≠ '@') {column : String} (h : d ∉ column.toList)
    (inCamelCase : Bool) : d ∉ (csharpProperty column inCamelCase).toList := by
  have hname := not_mem_camel hd h
  simp only [csharpProperty]
  split
  · split
    · rw [String.toList_append, List.mem_append, not_or]
      exact ⟨by simpa using hne, hname⟩
    · exact hname
  · exact not_mem_pascal hd h

theorem not_mem_typescriptProperty (hne : d ≠ '"' ∧ d ≠ '\\') {column : String}
    (h : d ∉ column.toList) : d ∉ (typescriptProperty column).toList := by
  have hname := not_mem_camel hd h
  simp only [typescriptProperty]
  split
  · exact hname
  · rwa [Text.mem_literal_iff hne]

end Naming

end SchemaCodegen
