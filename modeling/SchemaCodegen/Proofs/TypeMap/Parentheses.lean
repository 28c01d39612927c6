import Mathlib.Data.List.Infix
import SchemaCodegen.TypeMap.Basic

/-!
# Parentheses in type names

What is left of a name without its arguments is read off in one pass that counts
how deep it is. A closing parenthesis with nothing open does not count, so that
the depth behind a text is not a matter of how many of each kind it has. For a
text that closes no more than it finds open it is: such a text is passed over as
a whole where something is open already, and the pass goes on behind it at the
depth at which it came to it.
-/

namespace SchemaCodegen.TypeName

/-! ## Depth -/

/-- The depth behind a text that is read at the depth `depth`. -/
def depthAfter : Nat → List Char → Nat
  | depth, [] => depth
  | depth, c :: cs =>
    if c = '(' then depthAfter (depth + 1) cs
    else if c = ')' then depthAfter (depth - 1) cs
    else depthAfter depth cs

/-- What follows a text is read at the depth that the text leaves. -/
@[simp] theorem outsideParens_append (depth : Nat) (cs ds : List Char) :
    outsideParens depth (cs ++ ds) =
      outsideParens depth cs ++ outsideParens (depthAfter depth cs) ds := by
  induction cs generalizing depth with
  | nil => rfl
  | cons c cs ih =>
      rw [List.cons_append, outsideParens, outsideParens, depthAfter]
      by_cases hopen : c = '('
      · simp only [if_pos hopen, ih]
      by_cases hclose : c = ')'
      · simp only [if_neg hopen, if_pos hclose, ih]
      · simp only [if_neg hopen, if_neg hclose, ih]
        split
        · rfl
        · rfl

/-- Nothing is added to a name when its arguments are taken out. -/
theorem outsideParens_sublist (depth : Nat) (cs : List Char) :
    (outsideParens depth cs).Sublist cs := by
  induction cs generalizing depth with
  | nil => exact List.Sublist.refl _
  | cons c cs ih =>
      rw [outsideParens]
      split
      · exact (ih _).cons c
      · split
        · exact (ih _).cons c
        · split
          · exact (ih _).cons_cons c
          · exact (ih _).cons c

theorem parens_not_mem_outsideParens (depth : Nat) (cs : List Char) :
    '(' ∉ outsideParens depth cs ∧ ')' ∉ outsideParens depth cs := by
  induction cs generalizing depth with
  | nil => exact ⟨List.not_mem_nil, List.not_mem_nil⟩
  | cons c cs ih =>
      rw [outsideParens]
      by_cases hopen : c = '('
      · rw [if_pos hopen]
        exact ih _
      by_cases hclose : c = ')'
      · rw [if_neg hopen, if_pos hclose]
        exact ih _
      · rw [if_neg hopen, if_neg hclose]
        split
        · simp only [List.mem_cons, not_or]
          exact ⟨⟨Ne.symm hopen, (ih _).1⟩, Ne.symm hclose, (ih _).2⟩
        · exact ih _

/-- A text without parentheses stays as a whole or goes as a whole. -/
theorem outsideParens_of_free {cs : List Char} (hopen : '(' ∉ cs) (hclose : ')' ∉ cs)
    (depth : Nat) :
    outsideParens depth cs = (if depth = 0 then cs else []) ∧ depthAfter depth cs = depth := by
  induction cs with
  | nil => simp [outsideParens, depthAfter]
  | cons c cs ih =>
      rw [List.mem_cons, not_or] at hopen hclose
      obtain ⟨hrest, hdepth⟩ := ih hopen.2 hclose.2
      rw [outsideParens, depthAfter, if_neg (Ne.symm hopen.1), if_neg (Ne.symm hclose.1),
        if_neg (Ne.symm hopen.1), if_neg (Ne.symm hclose.1), hrest]
      refine ⟨?_, hdepth⟩
      split
      · rfl
      · rfl

/-- A map of characters that keeps parentheses apart from the others goes through. -/
theorem outsideParens_map {f : Char → Char} (hopen : ∀ c, f c = '(' ↔ c = '(')
    (hclose : ∀ c, f c = ')' ↔ c = ')') (depth : Nat) (cs : List Char) :
    outsideParens depth (cs.map f) = (outsideParens depth cs).map f := by
  induction cs generalizing depth with
  | nil => rfl
  | cons c cs ih =>
      simp only [List.map_cons, outsideParens, hopen, hclose, ih]
      split
      · rfl
      · split
        · rfl
        · split
          · rfl
          · rfl

/-! ## Texts that close what is open -/

/-- No start of the text closes more than the `slack` that is open before it and what it has
opened itself. -/
def ClosesWithin (slack : Nat) (cs : List Char) : Prop :=
  ∀ lead, lead <+: cs → lead.count ')' ≤ slack + lead.count '('

theorem ClosesWithin.of_open {slack : Nat} {cs : List Char} (h : ClosesWithin slack ('(' :: cs)) :
    ClosesWithin (slack + 1) cs := by
  intro lead hlead
  have hbound := h ('(' :: lead) (List.cons_prefix_cons.mpr ⟨rfl, hlead⟩)
  rw [List.count_cons_self, List.count_cons_of_ne (by decide)] at hbound
  omega

theorem ClosesWithin.of_close {slack : Nat} {cs : List Char} (h : ClosesWithin slack (')' :: cs)) :
    ∃ left, slack = left + 1 ∧ ClosesWithin left cs := by
  have hbounds : ∀ lead, lead <+: cs → lead.count ')' + 1 ≤ slack + lead.count '(' := by
    intro lead hlead
    have hbound := h (')' :: lead) (List.cons_prefix_cons.mpr ⟨rfl, hlead⟩)
    rwa [List.count_cons_self, List.count_cons_of_ne (by decide)] at hbound
  have hpos : 1 ≤ slack := by simpa using hbounds [] List.nil_prefix
  refine ⟨slack - 1, by omega, ?_⟩
  intro lead hlead
  have hbound := hbounds lead hlead
  omega

theorem ClosesWithin.of_other {slack : Nat} {c : Char} {cs : List Char} (hopen : c ≠ '(')
    (hclose : c ≠ ')') (h : ClosesWithin slack (c :: cs)) : ClosesWithin slack cs := by
  intro lead hlead
  have hbound := h (c :: lead) (List.cons_prefix_cons.mpr ⟨rfl, hlead⟩)
  rwa [List.count_cons_of_ne hclose, List.count_cons_of_ne hopen] at hbound

/-- The depth behind a text that closes no more than is open is a matter of counting. -/
theorem depthAfter_of_closesWithin {depth : Nat} {cs : List Char} (h : ClosesWithin depth cs) :
    depthAfter depth cs + cs.count ')' = depth + cs.count '(' := by
  induction cs generalizing depth with
  | nil => rfl
  | cons c cs ih =>
      rw [depthAfter]
      by_cases hopen : c = '('
      · subst hopen
        have hrest := ih h.of_open
        rw [if_pos rfl, List.count_cons_self, List.count_cons_of_ne (by decide)]
        omega
      by_cases hclose : c = ')'
      · subst hclose
        obtain ⟨left, rfl, hleft⟩ := h.of_close
        have hrest := ih hleft
        rw [if_neg hopen, if_pos rfl, Nat.add_sub_cancel, List.count_cons_self,
          List.count_cons_of_ne (by decide)]
        omega
      · rw [if_neg hopen, if_neg hclose, List.count_cons_of_ne hclose, List.count_cons_of_ne hopen]
        exact ih (h.of_other hopen hclose)

/-- A text is passed over where one more is open than it may close. -/
theorem outsideParens_of_closesWithin {slack : Nat} {cs : List Char} (h : ClosesWithin slack cs) :
    outsideParens (slack + 1) cs = [] := by
  induction cs generalizing slack with
  | nil => rfl
  | cons c cs ih =>
      rw [outsideParens]
      by_cases hopen : c = '('
      · subst hopen
        rw [if_pos rfl]
        exact ih h.of_open
      by_cases hclose : c = ')'
      · subst hclose
        obtain ⟨left, rfl, hleft⟩ := h.of_close
        rw [if_neg hopen, if_pos rfl, Nat.add_sub_cancel]
        exact ih hleft
      · rw [if_neg hopen, if_neg hclose, if_neg (Nat.succ_ne_zero slack)]
        exact ih (h.of_other hopen hclose)

/-! ## Balanced texts -/

/-- Parentheses that close only what is open, and leave nothing open. -/
structure Balanced (cs : List Char) : Prop where
  prefixes : ∀ lead, lead <+: cs → lead.count ')' ≤ lead.count '('
  settled : cs.count ')' = cs.count '('

instance (cs : List Char) : Decidable (Balanced cs) :=
  decidable_of_iff
    ((∀ lead ∈ cs.inits, lead.count ')' ≤ lead.count '(') ∧ cs.count ')' = cs.count '(')
    ⟨fun h => ⟨fun lead hlead => h.1 lead ((List.mem_inits lead cs).mpr hlead), h.2⟩,
      fun h => ⟨fun lead hlead => h.prefixes lead ((List.mem_inits lead cs).mp hlead), h.settled⟩⟩

namespace Balanced

variable {cs : List Char} (h : Balanced cs)
include h

theorem closesWithin (slack : Nat) : ClosesWithin slack cs := by
  intro lead hlead
  have hbound := h.prefixes lead hlead
  omega

theorem depthAfter_eq (depth : Nat) : depthAfter depth cs = depth := by
  have hdepth := depthAfter_of_closesWithin (h.closesWithin depth)
  rw [h.settled] at hdepth
  exact Nat.add_right_cancel hdepth

theorem outsideParens_append (ds : List Char) :
    outsideParens 0 (cs ++ ds) = outsideParens 0 cs ++ outsideParens 0 ds := by
  simp [h.depthAfter_eq]

/-- A balanced text in parentheses leaves nothing of itself, at any depth. -/
theorem outsideParens_group (depth : Nat) (ds : List Char) :
    outsideParens depth ('(' :: (cs ++ ')' :: ds)) = outsideParens depth ds := by
  rw [outsideParens, if_pos rfl, TypeName.outsideParens_append,
    outsideParens_of_closesWithin (h.closesWithin depth), h.depthAfter_eq, List.nil_append,
    outsideParens, if_neg (by decide), if_pos rfl, Nat.add_sub_cancel]

end Balanced

end SchemaCodegen.TypeName
