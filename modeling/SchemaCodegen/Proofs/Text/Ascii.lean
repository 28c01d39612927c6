import SchemaCodegen.Proofs.Text.Folding

/-!
# ASCII letters in the tables

Within ASCII the tables know the twenty-six capitals and the twenty-six small
letters and nothing else: each table starts with the run of one of them, and
everything behind it lies beyond ASCII. So the case maps agree there with those
of the standard library, and so does what counts as a letter in either case.
-/

namespace SchemaCodegen.Text

def IsAscii (cs : List Char) : Prop := ∀ c ∈ cs, c.toNat < 128

/-! ## Forms of the standard library -/

/-- What the standard library's case maps make of a character, as it is within ASCII. -/
structure AsciiForms (c : Char) : Prop where
  lowerAscii_eq : lowerAscii c = c.toLower
  shifted_eq : c.isLower = true → Char.ofNat (0x0041 + (c.toNat - 0x0061)) = c.toUpper
  toUpper_eq_self : c.isLower = false → c.toUpper = c
  toLower_eq_self : c.isUpper = false → c.toLower = c
  isUpper_of_isLower : c.isLower = true → c.toUpper.isUpper = true
  toLower_ascii : c.toLower.toNat < 128
  toUpper_ascii : c.toUpper.toNat < 128
  isUpper_toLower : c.toLower.isUpper = false
  isLower_toUpper : c.toUpper.isLower = false
  toLower_toLower : c.toLower.toLower = c.toLower
  toLower_toUpper : c.toUpper.toLower = c.toLower
  /-- The character between words is no letter. -/
  underscore_iff : (c.toLower = '_' ↔ c = '_') ∧ (c.toUpper = '_' ↔ c = '_')

instance (c : Char) : Decidable (AsciiForms c) :=
  decidable_of_iff
    (lowerAscii c = c.toLower ∧
      (c.isLower = true → Char.ofNat (0x0041 + (c.toNat - 0x0061)) = c.toUpper) ∧
      (c.isLower = false → c.toUpper = c) ∧ (c.isUpper = false → c.toLower = c) ∧
      (c.isLower = true → c.toUpper.isUpper = true) ∧
      c.toLower.toNat < 128 ∧ c.toUpper.toNat < 128 ∧
      c.toLower.isUpper = false ∧ c.toUpper.isLower = false ∧
      c.toLower.toLower = c.toLower ∧ c.toUpper.toLower = c.toLower ∧
      (c.toLower = '_' ↔ c = '_') ∧ (c.toUpper = '_' ↔ c = '_'))
    ⟨fun ⟨h1, h2, h3, h4, h5, h6, h7, h8, h9, h10, h11, h12⟩ =>
      ⟨h1, h2, h3, h4, h5, h6, h7, h8, h9, h10, h11, h12⟩,
     fun ⟨h1, h2, h3, h4, h5, h6, h7, h8, h9, h10, h11, h12⟩ =>
      ⟨h1, h2, h3, h4, h5, h6, h7, h8, h9, h10, h11, h12⟩⟩

theorem asciiForms {c : Char} (hc : c.toNat < 128) : AsciiForms c := by
  have hcodes : ∀ n < 128, AsciiForms (Char.ofNat n) := by decide
  have hcode := hcodes c.toNat hc
  rwa [Char.ofNat_toNat] at hcode

theorem isUpper_iff_codes (c : Char) : c.isUpper = true ↔ 0x0041 ≤ c.toNat ∧ c.toNat ≤ 0x005A := by
  change decide (c.val ≥ 65 ∧ c.val ≤ 90) = true ↔ _
  rw [decide_eq_true_eq]
  exact Iff.rfl

theorem isLower_iff_codes (c : Char) : c.isLower = true ↔ 0x0061 ≤ c.toNat ∧ c.toNat ≤ 0x007A := by
  change (decide (c.val ≥ 97) && decide (c.val ≤ 122)) = true ↔ _
  rw [Bool.and_eq_true, decide_eq_true_eq, decide_eq_true_eq]
  exact Iff.rfl

/-! ## Tables -/

/-- The only run of a class that starts within ASCII decides there. -/
theorem contains_of_ascii {runs rest : RunSet} {first : Run} (hsplit : runs = first :: rest)
    (hbeyond : ∀ r ∈ rest, 128 ≤ r.first) {c : Char} (hc : c.toNat < 128) :
    runs.contains c = first.mem c.toNat := by
  have hnone : rest.any (·.mem c.toNat) = false := by
    rw [List.any_eq_false]
    intro r hr hmem
    have hfirst := hbeyond r hr
    simp only [Run.mem, Bool.and_eq_true, decide_eq_true_eq] at hmem
    omega
  rw [hsplit, RunSet.contains, List.any_cons, hnone, Bool.or_false]

theorem uppercase_contains_of_ascii {c : Char} (hc : c.toNat < 128) :
    uppercase.contains c = c.isUpper := by
  have hsplit : uppercase = ⟨0x0041, 0x005A, 1⟩ :: uppercase.tail := rfl
  obtain ⟨hbeyond, -⟩ := tables_beyond_ascii
  rw [contains_of_ascii hsplit hbeyond hc, Bool.eq_iff_iff, isUpper_iff_codes]
  simp [Run.mem, Nat.mod_one]

theorem lowercase_contains_of_ascii {c : Char} (hc : c.toNat < 128) :
    lowercase.contains c = c.isLower := by
  have hsplit : lowercase = ⟨0x0061, 0x007A, 1⟩ :: lowercase.tail := rfl
  obtain ⟨-, hbeyond, -⟩ := tables_beyond_ascii
  rw [contains_of_ascii hsplit hbeyond hc, Bool.eq_iff_iff, isLower_iff_codes]
  simp [Run.mem, Nat.mod_one]

theorem lowerChar_eq_toLower {c : Char} (hc : c.toNat < 128) : lowerChar c = [c.toLower] := by
  rw [lowerChar_of_ascii hc, (asciiForms hc).lowerAscii_eq]

def smallShift : Shift := ⟨⟨0x0061, 0x007A, 1⟩, 0x0041⟩

theorem mem_smallShift (c : Char) : smallShift.run.mem c.toNat = c.isLower := by
  rw [Bool.eq_iff_iff, isLower_iff_codes]
  simp only [Run.mem, Bool.and_eq_true, decide_eq_true_eq]
  simp [smallShift, Nat.mod_one]

theorem upperChar_eq_toUpper {c : Char} (hc : c.toNat < 128) : upperChar c = [c.toUpper] := by
  obtain ⟨-, -, -, hbeyond, hkeys⟩ := tables_beyond_ascii
  have hnone : upperExpansions.lookup c.toNat = none := by
    rw [List.lookup_eq_none_iff]
    intro entry hentry
    have hkey := hkeys entry hentry
    rw [bne_iff_ne]
    omega
  have hsplit : upperShifts = smallShift :: upperShifts.tail := rfl
  rw [upperChar, hnone, shifted, find?_of_ascii hsplit hbeyond hc, mem_smallShift]
  cases hsmall : c.isLower with
  | true => exact congrArg ([·]) ((asciiForms hc).shifted_eq hsmall)
  | false =>
      rw [(asciiForms hc).toUpper_eq_self hsmall]
      exact congrArg ([·]) (Char.ofNat_toNat c)

/-! ## Texts -/

variable {cs : List Char}

theorem lowerChars_of_ascii (h : IsAscii cs) (before : List Char) :
    lowerChars before cs = cs.map Char.toLower := by
  induction cs generalizing before with
  | nil => rfl
  | cons c cs ih =>
      obtain ⟨hc, hcs⟩ := List.forall_mem_cons.mp h
      rw [lowerChars_cons_of_ascii hc, (asciiForms hc).lowerAscii_eq, ih hcs, List.map_cons]

theorem isAscii_map_toLower (h : IsAscii cs) : IsAscii (cs.map Char.toLower) := by
  intro d hd
  obtain ⟨c, hc, rfl⟩ := List.mem_map.mp hd
  exact (asciiForms (h c hc)).toLower_ascii

theorem isAscii_map_toUpper (h : IsAscii cs) : IsAscii (cs.map Char.toUpper) := by
  intro d hd
  obtain ⟨c, hc, rfl⟩ := List.mem_map.mp hd
  exact (asciiForms (h c hc)).toUpper_ascii

theorem mixesCases_iff :
    mixesCases cs = true ↔
      (∃ c ∈ cs, uppercase.contains c = true) ∧ ∃ c ∈ cs, lowercase.contains c = true := by
  simp only [mixesCases, Bool.and_eq_true, List.any_eq_true]

theorem mixesCases_eq_false_of_capital_free (h : IsAscii cs) (hfree : ∀ c ∈ cs, c.isUpper = false) :
    mixesCases cs = false := by
  rw [Bool.eq_false_iff, ne_eq, mixesCases_iff]
  rintro ⟨⟨c, hc, hcapital⟩, -⟩
  rw [uppercase_contains_of_ascii (h c hc), hfree c hc] at hcapital
  cases hcapital

theorem mixesCases_eq_false_of_small_free (h : IsAscii cs) (hfree : ∀ c ∈ cs, c.isLower = false) :
    mixesCases cs = false := by
  rw [Bool.eq_false_iff, ne_eq, mixesCases_iff]
  rintro ⟨-, ⟨c, hc, hsmall⟩⟩
  rw [lowercase_contains_of_ascii (h c hc), hfree c hc] at hsmall
  cases hsmall

end SchemaCodegen.Text
