import Mathlib.Data.List.Chain
import SchemaCodegen.Proofs.Naming.Characters

/-!
# The tables of the case maps

What is true of every character and its forms in another case is a fact about the
tables of the case maps. A lower-case form has no other lower-case form, the first
character of an upper-case form has no other upper-case form, and letters that
count as small or as capital stay as they are in their own case. A character that
starts an upper-case form turns into itself again when it is put into lower case
and back, unless it was there from the start.

Code points are checked as sets of bits, and shifts run by run.
-/

namespace SchemaCodegen.Text

/-! ## Sets of code points -/

/-- A single code point. -/
def Run.single (n : Nat) : Run := ⟨n, n, 1⟩

/-- The code points of a run, one by one. -/
def Run.codes (r : Run) : List Nat :=
  List.range' r.first ((r.last - r.first) / r.step + 1) r.step

theorem Run.mem_iff {r : Run} {n : Nat} :
    r.mem n = true ↔ r.first ≤ n ∧ n ≤ r.last ∧ r.step ∣ n - r.first := by
  simp only [Run.mem, Bool.and_eq_true, decide_eq_true_eq, beq_iff_eq, and_assoc,
    Nat.dvd_iff_mod_eq_zero]

theorem Run.mem_single {n m : Nat} : (Run.single n).mem m = true ↔ m = n := by
  simp only [Run.mem_iff, Run.single, Nat.one_dvd, and_true]
  omega

theorem Run.mem_codes {r : Run} {n : Nat} (h : r.mem n = true) : n ∈ r.codes := by
  obtain ⟨hfirst, hlast, hstep⟩ := Run.mem_iff.mp h
  refine List.mem_range'.mpr ⟨(n - r.first) / r.step, ?_, ?_⟩
  · exact Nat.lt_succ_of_le (Nat.div_le_div_right (Nat.sub_le_sub_right hlast _))
  · rw [Nat.mul_div_cancel' hstep]
    omega

/-- The set of some numbers, as the bits of one number. -/
def bits (codes : List Nat) : Nat := codes.foldr (fun n set => 1 <<< n ||| set) 0

theorem testBit_bits {codes : List Nat} {n : Nat} (h : n ∈ codes) :
    (bits codes).testBit n = true := by
  induction codes with
  | nil => cases h
  | cons m codes ih =>
      rw [bits, List.foldr_cons, Nat.testBit_or, Nat.one_shiftLeft, Nat.testBit_two_pow,
        Bool.or_eq_true, decide_eq_true_eq]
      rcases List.mem_cons.mp h with rfl | hrest
      · exact .inl rfl
      · exact .inr (ih hrest)

/-- No code point is in both classes. -/
def RunSet.Apart (s t : RunSet) : Prop :=
  bits (s.flatMap Run.codes) &&& bits (t.flatMap Run.codes) = 0

instance (s t : RunSet) : Decidable (s.Apart t) := inferInstanceAs (Decidable (_ = _))

theorem RunSet.contains_iff {s : RunSet} {c : Char} :
    s.contains c = true ↔ ∃ r ∈ s, r.mem c.toNat = true :=
  List.any_eq_true

theorem RunSet.mem_eq_false {s : RunSet} {c : Char} (h : s.contains c = false) {r : Run}
    (hr : r ∈ s) : r.mem c.toNat = false := by
  rw [Bool.eq_false_iff] at h ⊢
  exact fun hmem => h (RunSet.contains_iff.mpr ⟨r, hr, hmem⟩)

theorem RunSet.testBit_of_contains {s : RunSet} {c : Char} (h : s.contains c = true) :
    (bits (s.flatMap Run.codes)).testBit c.toNat = true := by
  obtain ⟨r, hr, hmem⟩ := RunSet.contains_iff.mp h
  exact testBit_bits (List.mem_flatMap.mpr ⟨r, hr, Run.mem_codes hmem⟩)

theorem RunSet.Apart.contains_eq_false {s t : RunSet} (h : s.Apart t) {c : Char}
    (hc : s.contains c = true) : t.contains c = false := by
  rw [Bool.eq_false_iff]
  intro ht
  have hboth := Nat.testBit_and (bits (s.flatMap Run.codes)) (bits (t.flatMap Run.codes)) c.toNat
  rw [h, testBit_of_contains hc, testBit_of_contains ht, Nat.zero_testBit] at hboth
  cases hboth

/-- A code point of a class that has the null character in it gives a character of the class, as
the null character stands for a code point that is no character. -/
theorem RunSet.contains_ofNat {s : RunSet} (hnull : s.contains (Char.ofNat 0) = true) {r : Run}
    (hr : r ∈ s) {n : Nat} (h : r.mem n = true) : s.contains (Char.ofNat n) = true := by
  by_cases hd : Char.ofNat n = Char.ofNat 0
  · rwa [hd]
  · rw [RunSet.contains_iff, eq_toNat_of_ofNat hd rfl]
    exact ⟨r, hr, h⟩

/-! ## Shifts of runs -/

/-- What a shift makes of the code points of a run. -/
def Shift.along (s : Shift) (r : Run) : Run :=
  ⟨s.target + (r.first - s.run.first), s.target + (r.last - s.run.first), r.step⟩

/-- The images of a shift. -/
def Shift.image (s : Shift) : Run := s.along s.run

/-- Whether all code points of `q` are code points of `r`. -/
def Run.covers (r q : Run) : Bool :=
  Nat.ble r.first q.first && Nat.ble q.last r.last && Nat.beq ((q.first - r.first) % r.step) 0 &&
    (Nat.beq q.first q.last || Nat.beq (q.step % r.step) 0)

theorem Run.covers_iff {r q : Run} :
    r.covers q = true ↔ r.first ≤ q.first ∧ q.last ≤ r.last ∧ r.step ∣ q.first - r.first ∧
      (q.first = q.last ∨ r.step ∣ q.step) := by
  simp only [Run.covers, Bool.and_eq_true, Bool.or_eq_true, Nat.ble_eq, Nat.beq_eq,
    and_assoc, Nat.dvd_iff_mod_eq_zero]

theorem Run.mem_of_covers {r q : Run} (h : r.covers q = true) {n : Nat} (hn : q.mem n = true) :
    r.mem n = true := by
  obtain ⟨hfirst, hlast, hoffset, hstep⟩ := Run.covers_iff.mp h
  obtain ⟨hlow, hhigh, hdvd⟩ := Run.mem_iff.mp hn
  refine Run.mem_iff.mpr ⟨by omega, by omega, ?_⟩
  have hinner : r.step ∣ n - q.first := by
    rcases hstep with hone | hstep
    · have hzero : n - q.first = 0 := by omega
      rw [hzero]
      exact Nat.dvd_zero _
    · exact Nat.dvd_trans hstep hdvd
  have hsum : n - r.first = (n - q.first) + (q.first - r.first) := by omega
  rw [hsum]
  exact Nat.dvd_add hinner hoffset

theorem Shift.along_mem {s : Shift} {r : Run} (hfirst : s.run.first ≤ r.first) {n : Nat}
    (hn : r.mem n = true) : (s.along r).mem (s.target + (n - s.run.first)) = true := by
  obtain ⟨hlow, hhigh, hdvd⟩ := Run.mem_iff.mp hn
  refine Run.mem_iff.mpr ⟨?_, ?_, ?_⟩
  · simp only [Shift.along]
    omega
  · simp only [Shift.along]
    omega
  · have hoffset : s.target + (n - s.run.first) - (s.along r).first = n - r.first := by
      simp only [Shift.along]
      omega
    rw [hoffset]
    exact hdvd

/-- The runs of a table come one after the other. -/
def Shift.Precedes (s t : Shift) : Prop := s.run.first ≤ s.run.last ∧ s.run.last < t.run.first

instance : DecidableRel Shift.Precedes := fun _ _ => inferInstanceAs (Decidable (_ ∧ _))

instance : Trans Shift.Precedes Shift.Precedes Shift.Precedes where
  trans := fun ⟨hs, hst⟩ ⟨ht, htu⟩ => ⟨hs, Nat.lt_trans hst (Nat.lt_of_le_of_lt ht htu)⟩

theorem shifted_of_mem {shifts : List Shift} (hshifts : shifts.IsChain Shift.Precedes) {s : Shift}
    (hs : s ∈ shifts) {n : Nat} (hn : s.run.mem n = true) :
    shifted shifts n = s.target + (n - s.run.first) := by
  have hfind : shifts.find? (·.run.mem n) = some s := by
    rw [List.isChain_iff_pairwise] at hshifts
    induction shifts with
    | nil => cases hs
    | cons t shifts ih =>
        obtain ⟨hlater, hrest⟩ := List.pairwise_cons.mp hshifts
        rcases List.mem_cons.mp hs with rfl | hin
        · exact List.find?_cons_of_pos hn
        · -- the run of `t` ends before the run of `s` starts
          have hafter := (hlater s hin).2
          have hbound := (Run.mem_iff.mp hn).1
          have hmiss : t.run.mem n = false := by
            rw [Bool.eq_false_iff, ne_eq, Run.mem_iff]
            omega
          rw [List.find?_cons, hmiss]
          exact ih hrest hin
  rw [shifted, hfind]

theorem shifted_cases (shifts : List Shift) (n : Nat) :
    shifted shifts n = n ∨ ∃ s ∈ shifts, s.image.mem (shifted shifts n) = true := by
  unfold shifted
  cases hfind : shifts.find? (·.run.mem n) with
  | none => exact .inl rfl
  | some s =>
      have hrun : s.run.mem n = true := List.find?_some (p := fun s : Shift => s.run.mem n) hfind
      exact .inr ⟨s, List.mem_of_find?_eq_some hfind, Shift.along_mem (Nat.le_refl _) hrun⟩

theorem shifted_eq_self {shifts : List Shift} {n : Nat} (h : ∀ s ∈ shifts, s.run.mem n = false) :
    shifted shifts n = n := by
  have hnone : shifts.find? (·.run.mem n) = none := by
    rw [List.find?_eq_none]
    intro s hs
    rw [h s hs]
    exact Bool.false_ne_true
  rw [shifted, hnone]

/-! ## The tables -/

/-- The code points that have a list of characters as their upper-case form. -/
def expanded : RunSet := upperExpansions.map fun entry => Run.single entry.1

/-- The code points with a lower-case form of their own. -/
def lowered : RunSet := Run.single 0x0130 :: lowerShifts.map (·.run)

/-- The code points with an upper-case form of their own. -/
def raised : RunSet := expanded ++ upperShifts.map (·.run)

/-- The code points of lower-case forms that come from no shift, and the null character. -/
def specialForms : List Nat := [0, 0x0069, 0x0307, 0x03C2, 0x03C3]

def lowerForms : RunSet := specialForms.map Run.single ++ lowerShifts.map Shift.image

/-- The code points that upper-case forms start with, and the null character. -/
def upperForms : RunSet :=
  Run.single 0 :: upperExpansions.map (fun entry => Run.single (entry.2.headD 0)) ++
    upperShifts.map Shift.image

/-- The images of `s` come back when they are put into lower case and back. The way back is often
the shift itself, so that it is tried first. -/
def comesBack (s : Shift) : Bool :=
  lowerShifts.any fun down => down.run.covers s.image &&
    (s :: upperShifts).any fun up => up.run.covers (down.along s.image) &&
      Nat.beq (up.along (down.along s.image)).first s.image.first

theorem tables_apart :
    lowercase.Apart lowered ∧ uppercase.Apart raised ∧ lowerForms.Apart lowered ∧
    upperForms.Apart raised ∧ RunSet.Apart (upperShifts.map (·.run)) expanded := by
  decide +kernel

/-- The runs of the tables follow one another, the images are code points of characters, and no
form is empty. -/
theorem tables_ordered :
    lowerShifts.IsChain Shift.Precedes ∧ upperShifts.IsChain Shift.Precedes ∧
    (∀ s ∈ lowerShifts, s.image.last < 0xD800 ∨
      0xDFFF < s.image.first ∧ s.image.last < 0x110000) ∧
    (∀ s ∈ lowerShifts, s.run.mem 0x0130 = false ∧ s.run.mem 0x02BC = false) ∧
    (∀ entry ∈ upperExpansions, entry.2 ≠ []) := by
  decide +kernel

/-- All shifts lead back, and an expansion starts with the image of one, but for an apostrophe. -/
theorem tables_lead_back :
    upperShifts.all comesBack = true ∧
    (upperExpansions.all fun entry => Nat.beq (entry.2.headD 0) 0x02BC ||
      upperShifts.any fun s => s.image.covers (Run.single (entry.2.headD 0))) = true := by
  decide +kernel

/-! ## Lower case -/

variable {c d : Char} {cs before : List Char}

theorem lowerChar_of_not_lowered (h : lowered.contains c = false) : lowerChar c = [c] := by
  have hne : c ≠ 'İ' := by
    rintro rfl
    cases RunSet.mem_eq_false h List.mem_cons_self
  have hshifts : ∀ s ∈ lowerShifts, s.run.mem c.toNat = false := fun s hs =>
    RunSet.mem_eq_false h (List.mem_cons_of_mem _ (List.mem_map_of_mem hs))
  rw [lowerChar, if_neg hne, shifted_eq_self hshifts, Char.ofNat_toNat]

theorem lowerChar_of_lowercase (h : lowercase.contains c = true) : lowerChar c = [c] :=
  lowerChar_of_not_lowered (tables_apart.1.contains_eq_false h)

theorem lowerChar_of_lowerForms (h : lowerForms.contains c = true) : lowerChar c = [c] := by
  obtain ⟨-, -, hforms, -, -⟩ := tables_apart
  exact lowerChar_of_not_lowered (hforms.contains_eq_false h)

theorem lowerForms_of_special (h : d.toNat ∈ specialForms) : lowerForms.contains d = true :=
  RunSet.contains_iff.mpr
    ⟨_, List.mem_append_left _ (List.mem_map_of_mem h), Run.mem_single.mpr rfl⟩

/-- A form is the character itself, which has no other, or the tables list it. -/
theorem eq_or_lowerForms_of_mem (h : d ∈ lowerChar c) :
    lowerChar c = [c] ∧ d = c ∨ lowerForms.contains d = true := by
  unfold lowerChar at h ⊢
  split at h
  · simp only [List.mem_cons, List.not_mem_nil, or_false] at h
    rcases h with rfl | rfl
    · exact .inr (lowerForms_of_special (by decide))
    · exact .inr (lowerForms_of_special (by decide))
  · rename_i hne
    rw [List.mem_singleton] at h
    rcases shifted_cases lowerShifts c.toNat with hsame | ⟨s, hs, himage⟩
    · rw [hsame, Char.ofNat_toNat] at h
      rw [if_neg hne, hsame, Char.ofNat_toNat]
      exact .inl ⟨rfl, h⟩
    · rw [h]
      exact .inr (RunSet.contains_ofNat (lowerForms_of_special (by decide))
        (List.mem_append_right _ (List.mem_map_of_mem hs)) himage)

theorem lowerChar_of_mem_lowerChar (h : d ∈ lowerChar c) : lowerChar d = [d] := by
  rcases eq_or_lowerForms_of_mem h with ⟨hself, rfl⟩ | hform
  · exact hself
  · exact lowerChar_of_lowerForms hform

theorem lowerChar_ne_nil (c : Char) : lowerChar c ≠ [] := by
  unfold lowerChar
  split
  · exact List.cons_ne_nil _ _
  · exact List.cons_ne_nil _ _

theorem lowerChar_sigma : lowerChar 'Σ' = ['σ'] := by decide

/-- Characters that are in lower case already stay in front of a text. -/
theorem lowerChars_append_of_self (h : ∀ c ∈ cs, lowerChar c = [c]) (before rest : List Char) :
    lowerChars before (cs ++ rest) = cs ++ lowerChars (cs.reverse ++ before) rest := by
  induction cs generalizing before with
  | nil => rfl
  | cons c cs ih =>
      obtain ⟨hc, hcs⟩ := List.forall_mem_cons.mp h
      have hsigma : c ≠ 'Σ' := by
        rintro rfl
        rw [lowerChar_sigma] at hc
        exact absurd hc (by decide)
      rw [List.cons_append, lowerChars, if_neg hsigma, hc, ih hcs, List.reverse_cons,
        List.append_assoc]
      rfl

theorem lowerChars_eq_self (h : ∀ c ∈ cs, lowerChar c = [c]) (before : List Char) :
    lowerChars before cs = cs := by
  have hall := lowerChars_append_of_self h before []
  rwa [lowerChars, List.append_nil] at hall

theorem lowerChars_nil_cons (c : Char) (cs : List Char) :
    lowerChars [] (c :: cs) = lowerChar c ++ lowerChars [c] cs := by
  rw [lowerChars]
  split
  · -- no word ends at the start of a text, so that a capital sigma there is an ordinary one
    rename_i hsigma
    rw [hsigma, lowerChar_sigma]
    rfl
  · rfl

theorem lowerChar_of_mem_lowerChars (h : d ∈ lowerChars before cs) : lowerChar d = [d] := by
  induction cs generalizing before with
  | nil => cases h
  | cons c cs ih =>
      rw [lowerChars, List.mem_append] at h
      rcases h with hform | hrest
      · split at hform
        · rw [List.mem_singleton] at hform
          rw [hform]
          split
          · exact lowerChar_of_lowerForms (lowerForms_of_special (by decide))
          · exact lowerChar_of_lowerForms (lowerForms_of_special (by decide))
        · exact lowerChar_of_mem_lowerChar hform
      · exact ih hrest

/-! ## Upper case -/

variable {u : Char}

theorem lookup_eq_none_of_not_expanded (h : expanded.contains c = false) :
    upperExpansions.lookup c.toNat = none := by
  rw [List.lookup_eq_none_iff]
  intro entry hentry
  have hkey := RunSet.mem_eq_false h (List.mem_map_of_mem hentry)
  rw [bne_iff_ne]
  intro heq
  exact Bool.false_ne_true (hkey.symm.trans (Run.mem_single.mpr heq))

theorem upperChar_of_not_raised (h : raised.contains c = false) : upperChar c = [c] := by
  have hshifts : ∀ s ∈ upperShifts, s.run.mem c.toNat = false := fun s hs =>
    RunSet.mem_eq_false h (List.mem_append_right _ (List.mem_map_of_mem hs))
  rw [raised, RunSet.contains, List.any_append, Bool.or_eq_false_iff] at h
  rw [upperChar, lookup_eq_none_of_not_expanded h.1]
  simp only [shifted_eq_self hshifts, Char.ofNat_toNat]

theorem upperChar_of_uppercase (h : uppercase.contains c = true) : upperChar c = [c] := by
  obtain ⟨-, hcapitals, -⟩ := tables_apart
  exact upperChar_of_not_raised (hcapitals.contains_eq_false h)

theorem upperChar_of_upperForms (h : upperForms.contains c = true) : upperChar c = [c] := by
  obtain ⟨-, -, -, hforms, -⟩ := tables_apart
  exact upperChar_of_not_raised (hforms.contains_eq_false h)

theorem mem_upperExpansions {form : List Nat} (h : upperExpansions.lookup c.toNat = some form) :
    (c.toNat, form) ∈ upperExpansions := by
  obtain ⟨earlier, later, hsplit, -⟩ := List.lookup_eq_some_iff.mp h
  rw [hsplit]
  exact List.mem_append_right _ List.mem_cons_self

theorem upperChar_ne_nil (c : Char) : upperChar c ≠ [] := by
  obtain ⟨-, -, -, -, hforms⟩ := tables_ordered
  unfold upperChar
  split
  · rename_i form hlookup
    rw [ne_eq, List.map_eq_nil_iff]
    exact hforms _ (mem_upperExpansions hlookup)
  · exact List.cons_ne_nil _ _

theorem upperFirst_append (hcs : cs ≠ []) (ds : List Char) :
    upperFirst (cs ++ ds) = upperFirst cs ++ ds := by
  obtain ⟨c, cs, rfl⟩ := List.exists_cons_of_ne_nil hcs
  rw [List.cons_append, upperFirst, upperFirst, List.append_assoc]

theorem null_mem_upperForms : upperForms.contains (Char.ofNat 0) = true :=
  RunSet.contains_iff.mpr ⟨Run.single 0, List.mem_cons_self, rfl⟩

/-- An upper-case form starts with the character itself, or with one that the tables list. -/
theorem head?_upperChar (h : (upperChar c).head? = some u) :
    u = c ∧ upperChar c = [c] ∨ upperForms.contains u = true := by
  unfold upperChar at h ⊢
  split at h
  · rename_i form hlookup
    have hentry := mem_upperExpansions hlookup
    cases form with
    | nil => cases h
    | cons n rest =>
        rw [List.map_cons, List.head?_cons, Option.some_inj] at h
        right
        rw [← h]
        apply RunSet.contains_ofNat null_mem_upperForms (r := Run.single n) _
          (Run.mem_single.mpr rfl)
        exact List.mem_append_left _ (List.mem_cons_of_mem _ (List.mem_map.mpr ⟨_, hentry, rfl⟩))
  -- without an expansion the form is one character, from a shift or the character itself
  · rename_i hlookup
    rw [List.head?_cons, Option.some_inj] at h
    rcases shifted_cases upperShifts c.toNat with hsame | ⟨s, hs, himage⟩
    · left
      rw [hsame, Char.ofNat_toNat] at h
      subst h
      simp only [hsame, Char.ofNat_toNat, and_self]
    · right
      rw [← h]
      exact RunSet.contains_ofNat null_mem_upperForms
        (List.mem_append_right _ (List.mem_map_of_mem hs)) himage

theorem upperChar_of_head? (h : (upperChar c).head? = some u) : upperChar u = [u] := by
  rcases head?_upperChar h with ⟨rfl, hsame⟩ | hform
  · exact hsame
  · exact upperChar_of_upperForms hform

/-! ## There and back -/

theorem lowerChar_of_mem {s : Shift} (hs : s ∈ lowerShifts) (hc : s.run.mem c.toNat = true) :
    lowerChar c = [Char.ofNat (s.target + (c.toNat - s.run.first))] := by
  obtain ⟨hchain, -, -, hbeside, -⟩ := tables_ordered
  have hne : c ≠ 'İ' := by
    rintro rfl
    exact Bool.false_ne_true ((hbeside s hs).1.symm.trans hc)
  rw [lowerChar, if_neg hne, shifted_of_mem hchain hs hc]

theorem upperChar_of_mem {s : Shift} (hs : s ∈ upperShifts) (hc : s.run.mem c.toNat = true) :
    upperChar c = [Char.ofNat (s.target + (c.toNat - s.run.first))] := by
  obtain ⟨-, -, -, -, hkeys⟩ := tables_apart
  have hexpanded : expanded.contains c = false :=
    hkeys.contains_eq_false (RunSet.contains_iff.mpr ⟨s.run, List.mem_map_of_mem hs, hc⟩)
  rw [upperChar, lookup_eq_none_of_not_expanded hexpanded]
  simp only [shifted_of_mem tables_ordered.2.1 hs hc]

theorem toNat_ofNat_of_image {s : Shift} (hs : s ∈ lowerShifts) {n : Nat}
    (hn : s.image.mem n = true) : (Char.ofNat n).toNat = n := by
  obtain ⟨-, -, hcodes, -⟩ := tables_ordered
  obtain ⟨hlow, hhigh, -⟩ := Run.mem_iff.mp hn
  have hvalid : n.isValidChar := by
    rcases hcodes s hs with hbelow | ⟨habove, hbelow⟩
    · exact .inl (by omega)
    · exact .inr ⟨by omega, by omega⟩
  rw [Char.ofNat, dif_pos hvalid]
  rfl

theorem exists_way_back {s : Shift} (hs : s ∈ upperShifts) {n : Nat} (hn : s.image.mem n = true) :
    ∃ down ∈ lowerShifts, ∃ up ∈ upperShifts, down.run.mem n = true ∧
      up.run.mem (down.target + (n - down.run.first)) = true ∧
      up.target + (down.target + (n - down.run.first) - up.run.first) = n := by
  have hback := List.all_eq_true.mp tables_lead_back.1 s hs
  simp only [comesBack, List.any_eq_true, Bool.and_eq_true, Nat.beq_eq] at hback
  obtain ⟨down, hdown, hcovers, up, hup, hcoversUp, hfirst⟩ := hback
  -- both shifts move the whole run, so that only its first code point has to come back
  have hstart := (Run.covers_iff.mp hcovers).1
  have hstartUp := (Run.covers_iff.mp hcoversUp).1
  have hlow := (Run.mem_iff.mp hn).1
  refine ⟨down, hdown, up, ?_, Run.mem_of_covers hcovers hn,
    Run.mem_of_covers hcoversUp (Shift.along_mem hstart hn), ?_⟩
  · rcases List.mem_cons.mp hup with rfl | hup
    · exact hs
    · exact hup
  · simp only [Shift.along, Shift.image] at hfirst hstart hstartUp hlow ⊢
    omega

theorem upperFirst_lowerChar_of_image {s : Shift} (hs : s ∈ upperShifts)
    (hu : s.image.mem u.toNat = true) : upperFirst (lowerChar u) = [u] := by
  obtain ⟨down, hdown, up, hup, hmem, hmemUp, hback⟩ := exists_way_back hs hu
  have hcode := toNat_ofNat_of_image hdown (Shift.along_mem (Nat.le_refl _) hmem)
  rw [lowerChar_of_mem hdown hmem, upperFirst, List.append_nil,
    upperChar_of_mem hup (by rwa [hcode]), hcode, hback, Char.ofNat_toNat]

/-- What the upper-case form of a small letter starts with comes back when it is put into lower
case and back. -/
theorem upperFirst_lowerChar_of_head? (hc : lowerChar c = [c])
    (h : (upperChar c).head? = some u) : upperFirst (lowerChar u) = [u] := by
  have hupper := upperChar_of_head? h
  have hsettled (hu : lowerChar u = [u]) : upperFirst (lowerChar u) = [u] := by
    rw [hu, upperFirst, List.append_nil, hupper]
  rcases head?_upperChar h with ⟨rfl, -⟩ | hform
  · exact hsettled hc
  · obtain ⟨r, hr, hmem⟩ := RunSet.contains_iff.mp hform
    rw [upperForms, List.mem_append, List.mem_cons] at hr
    rcases hr with (rfl | hexpansion) | himage
    · -- the null character
      apply hsettled
      apply lowerChar_of_lowerForms (lowerForms_of_special _)
      rw [Run.mem_single.mp hmem]
      exact List.mem_cons_self
    · obtain ⟨entry, hentry, rfl⟩ := List.mem_map.mp hexpansion
      have hhead := List.all_eq_true.mp tables_lead_back.2 entry hentry
      rw [Bool.or_eq_true, Nat.beq_eq, List.any_eq_true] at hhead
      rcases hhead with happostrophe | ⟨s, hs, hcovers⟩
      · -- an apostrophe has no case
        apply hsettled
        obtain ⟨-, -, -, hbeside, -⟩ := tables_ordered
        have hcode : u.toNat = 0x02BC := (Run.mem_single.mp hmem).trans happostrophe
        have hne : u ≠ 'İ' := by
          rintro rfl
          cases hcode
        rw [lowerChar, if_neg hne, shifted_eq_self, Char.ofNat_toNat]
        intro s hs
        rw [hcode]
        exact (hbeside s hs).2
      · exact upperFirst_lowerChar_of_image hs (Run.mem_of_covers hcovers hmem)
    · obtain ⟨s, hs, rfl⟩ := List.mem_map.mp himage
      exact upperFirst_lowerChar_of_image hs hmem

end SchemaCodegen.Text
