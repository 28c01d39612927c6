import SchemaCodegen.Proofs.Naming.Characters

/-!
# Lower case and ASCII

The lower-case form of a text may have ASCII letters that come from other
characters: the sign of the kelvin gives a `k`, and a capital `İ` an `i` with a
dot behind it. For every other letter the two ways to ignore case agree. A text
of such letters is at the start of the lower-case form of a name exactly if the
name starts with it up to the case of ASCII letters.
-/

namespace SchemaCodegen.Text

/-- The characters of a text with ASCII capitals in lower case. -/
def asciiFolded (s : String) : List Char := s.toList.map lowerAscii

/-- Outside ASCII no character has `d` as its lower-case form. -/
structure AsciiSourced (d : Char) : Prop where
  ascii : d.toNat < 128
  sources : ∀ s ∈ lowerShifts, s.Reaches d.toNat → s.run.last < 128
  /-- A null character stands for a code point that is no character. -/
  present : d ≠ Char.ofNat 0

instance (d : Char) : Decidable (AsciiSourced d) :=
  decidable_of_iff
    (d.toNat < 128 ∧ (∀ s ∈ lowerShifts, s.Reaches d.toNat → s.run.last < 128) ∧
      d ≠ Char.ofNat 0)
    ⟨fun ⟨hascii, hsources, hpresent⟩ => ⟨hascii, hsources, hpresent⟩,
     fun h => ⟨h.ascii, h.sources, h.present⟩⟩

/-! ## Single characters -/

/-- The only shift of a table that starts within ASCII decides there. -/
theorem find?_of_ascii {shifts rest : List Shift} {first : Shift} (hsplit : shifts = first :: rest)
    (hbeyond : ∀ s ∈ rest, 128 ≤ s.run.first) {n : Nat} (h : n < 128) :
    shifts.find? (·.run.mem n) = if first.run.mem n then some first else none := by
  have hnone : rest.find? (·.run.mem n) = none := by
    apply List.find?_eq_none.mpr
    intro s hs hmem
    have hfirst := hbeyond s hs
    simp only [Run.mem, Bool.and_eq_true, decide_eq_true_eq] at hmem
    omega
  rw [hsplit, List.find?_cons, hnone]
  cases first.run.mem n <;> rfl

def capitalShift : Shift := ⟨⟨0x0041, 0x005A, 1⟩, 0x0061⟩

theorem mem_capitalShift_iff (c : Char) :
    capitalShift.run.mem c.toNat = true ↔ 'A' ≤ c ∧ c ≤ 'Z' := by
  have hbounds : 'A' ≤ c ∧ c ≤ 'Z' ↔ 65 ≤ c.toNat ∧ c.toNat ≤ 90 := Iff.rfl
  rw [hbounds]
  simp only [Run.mem, Bool.and_eq_true, decide_eq_true_eq]
  simp [capitalShift, Nat.mod_one]

/-- Each table has one run within ASCII, which stands first, and expansions have none. -/
theorem tables_beyond_ascii :
    (∀ r ∈ uppercase.tail, 128 ≤ r.first) ∧ (∀ r ∈ lowercase.tail, 128 ≤ r.first) ∧
    (∀ s ∈ lowerShifts.tail, 128 ≤ s.run.first) ∧ (∀ s ∈ upperShifts.tail, 128 ≤ s.run.first) ∧
    ∀ entry ∈ upperExpansions, 128 ≤ entry.1 := by
  decide +kernel

theorem lowerChar_of_ascii {c : Char} (h : c.toNat < 128) : lowerChar c = [lowerAscii c] := by
  have hne : c ≠ 'İ' := by
    rintro rfl
    exact absurd h (by decide)
  obtain ⟨-, -, hbeyond, -, -⟩ := tables_beyond_ascii
  have hsplit : lowerShifts = capitalShift :: lowerShifts.tail := rfl
  rw [lowerChar, if_neg hne, shifted, find?_of_ascii hsplit hbeyond h, lowerAscii]
  by_cases hcapital : capitalShift.run.mem c.toNat = true
  · have hfirst : 65 ≤ c.toNat := ((mem_capitalShift_iff c).mp hcapital).1
    have himage : 0x0061 + (c.toNat - 0x0041) = c.toNat + 32 := by omega
    rw [if_pos hcapital, if_pos ((mem_capitalShift_iff c).mp hcapital), ← himage]
    rfl
  · rw [if_neg hcapital, if_neg (fun h => hcapital ((mem_capitalShift_iff c).mpr h))]
    simp only [Char.ofNat_toNat]

theorem lowerAscii_of_not_ascii {c : Char} (h : ¬ c.toNat < 128) : lowerAscii c = c := by
  unfold lowerAscii
  apply if_neg
  rintro ⟨-, hle⟩
  have hle : c.toNat ≤ 'Z'.toNat := hle
  have hz : 'Z'.toNat = 90 := rfl
  omega

namespace AsciiSourced

variable {d : Char} (hd : AsciiSourced d)
include hd

theorem ne_of_not_ascii {c : Char} (h : ¬ c.toNat < 128) : d ≠ c := by
  rintro rfl
  exact h hd.ascii

theorem ne_shifted {c : Char} (h : ¬ c.toNat < 128) :
    d ≠ Char.ofNat (shifted lowerShifts c.toNat) := by
  intro heq
  rcases eq_or_reaches hd.present heq with hsame | ⟨s, hs, hlast, hreaches⟩
  · exact hd.ne_of_not_ascii h hsame
  · have hbound := hd.sources s hs hreaches
    omega

end AsciiSourced

/-- A word of characters that come from ASCII alone. It does not end in an `i`, which may also come
from a capital `İ`, with a dot behind it. -/
structure AsciiWord (word : List Char) : Prop where
  sourced : ∀ d ∈ word, AsciiSourced d
  last : word.getLast? ≠ some 'i'

-- stated with `all`, because a quantifier over letters may be decided over all characters
instance (word : List Char) : Decidable (AsciiWord word) :=
  decidable_of_iff
    (word.all (decide <| AsciiSourced ·) = true ∧ word.getLast? ≠ some 'i')
    ⟨fun ⟨hsourced, hlast⟩ =>
      ⟨fun d hd => of_decide_eq_true (List.all_eq_true.mp hsourced d hd), hlast⟩,
     fun h => ⟨List.all_eq_true.mpr fun d hd => decide_eq_true (h.sourced d hd), h.last⟩⟩

theorem AsciiWord.tail {d : Char} {word : List Char} (h : AsciiWord (d :: word)) :
    AsciiWord word where
  sourced := (List.forall_mem_cons.mp h.sourced).2
  last := by
    intro hlast
    apply h.last
    cases word with
    | nil => cases hlast
    | cons e word => rwa [List.getLast?_cons_cons]

/-! ## Starts of texts -/

theorem lowerChars_cons_of_ascii {c : Char} (hc : c.toNat < 128) (before cs : List Char) :
    lowerChars before (c :: cs) = lowerAscii c :: lowerChars (c :: before) cs := by
  have hsigma : c ≠ 'Σ' := by
    rintro rfl
    exact absurd hc (by decide)
  rw [lowerChars, if_neg hsigma, lowerChar_of_ascii hc, List.singleton_append]

/-- What a text with something outside ASCII in front has in lower case starts with no word of
ASCII characters: `İ` leaves a dot behind its letter. -/
theorem not_prefix_lowerChars {d : Char} {lead : List Char} (hword : AsciiWord (d :: lead))
    {c : Char} (hc : ¬ c.toNat < 128) (before cs : List Char) :
    ¬ d :: lead <+: lowerChars before (c :: cs) := by
  have hdot : ¬ (Char.ofNat 0x0307).toNat < 128 := by decide
  obtain ⟨hd, hlead⟩ := List.forall_mem_cons.mp hword.sourced
  rw [lowerChars]
  split
  · -- a capital sigma becomes one of the two small ones
    split
    · rw [List.singleton_append, List.cons_prefix_cons]
      exact fun h => hd.ne_of_not_ascii (by decide) h.1
    · rw [List.singleton_append, List.cons_prefix_cons]
      exact fun h => hd.ne_of_not_ascii (by decide) h.1
  · unfold lowerChar
    split
    · rw [List.cons_append, List.cons_prefix_cons]
      rintro ⟨rfl, hrest⟩
      cases lead with
      | nil => exact hword.last rfl
      | cons e lead =>
          rw [List.singleton_append, List.cons_prefix_cons] at hrest
          exact (hlead e List.mem_cons_self).ne_of_not_ascii hdot hrest.1
    · rw [List.singleton_append, List.cons_prefix_cons]
      exact fun h => hd.ne_shifted hc h.1

/-- **A word of ASCII characters starts a text in lower case exactly if it starts it up to the
case of ASCII letters.** The induction is on the word. -/
theorem AsciiWord.prefix_lowerChars_iff {lead : List Char} (hword : AsciiWord lead)
    (before cs : List Char) : lead <+: lowerChars before cs ↔ lead <+: cs.map lowerAscii := by
  induction lead generalizing before cs with
  | nil => simp
  | cons d lead ih =>
      have hd := hword.sourced d List.mem_cons_self
      cases cs with
      | nil => simp [lowerChars]
      | cons c cs =>
          rw [List.map_cons]
          by_cases hc : c.toNat < 128
          · simp [lowerChars_cons_of_ascii hc, ih hword.tail]
          · have hsecond : ¬ d :: lead <+: lowerAscii c :: cs.map lowerAscii := by
              rw [lowerAscii_of_not_ascii hc, List.cons_prefix_cons]
              exact fun h => hd.ne_of_not_ascii hc h.1
            exact iff_of_false (not_prefix_lowerChars hword hc before cs) hsecond

end SchemaCodegen.Text
