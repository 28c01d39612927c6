import SchemaCodegen.CommandLine.Store

/-!
# Writing one file

A path is followed through directories, and a write puts a text under the name
that the path leads to. All directories on the way are there already, so that a
write creates none: afterwards every path leads where it led before. The name
holds the text, and every other name holds what it held.
-/

namespace SchemaCodegen.CommandLine.Store

/-! ## Files under names -/

theorem lookup_put_self (name : List String) (content : Content)
    (files : List (List String × Content)) :
    (put name content files).lookup name = some content := by
  induction files with
  | nil => simp [put]
  | cons file rest ih =>
      by_cases h : file.1 = name
      · simp [put, h]
      · have hne : (name == file.1) = false := beq_eq_false_iff_ne.mpr (Ne.symm h)
        rw [put, if_neg h, List.lookup_cons, hne]
        exact ih

theorem lookup_put_of_ne {name other : List String} (h : other ≠ name) (content : Content)
    (files : List (List String × Content)) :
    (put name content files).lookup other = files.lookup other := by
  have hother : (other == name) = false := beq_eq_false_iff_ne.mpr h
  induction files with
  | nil => rw [put, List.lookup_cons, hother]
  | cons file rest ih =>
      by_cases hname : file.1 = name
      · have hfile : (other == file.1) = false := by rw [hname, hother]
        rw [put, if_pos hname, List.lookup_cons, hother, List.lookup_cons, hfile]
      · rw [put, if_neg hname, List.lookup_cons, List.lookup_cons, ih]

/-- The names after a write are those before it and the one that is written. -/
theorem any_put (p : List String → Bool) (name : List String) (content : Content)
    (files : List (List String × Content)) :
    (put name content files).any (fun file => p file.1) =
      (p name || files.any fun file => p file.1) := by
  induction files with
  | nil => rfl
  | cons file rest ih =>
      by_cases hname : file.1 = name
      · rw [put, if_pos hname, List.any_cons, List.any_cons, hname]
        cases p name <;> rfl
      · simp only [put, if_neg hname, List.any_cons, ih, Bool.or_left_comm]

/-! ## Directories -/

/-- Every name above the given one is a directory. -/
def LiesInDirectories (s : Store) (name : List String) : Prop :=
  ∀ above, above <+: name → above ≠ name → s.isDirectory above = true

theorem liesInDirectories_root (s : Store) : s.LiesInDirectories [] := by
  intro above habove hne
  exact absurd (List.prefix_nil.mp habove) hne

/-- Going up keeps to directories. -/
theorem LiesInDirectories.dropLast {s : Store} {name : List String} (h : s.LiesInDirectories name) :
    s.LiesInDirectories name.dropLast := by
  intro above habove hne
  apply h above (habove.trans (List.dropLast_prefix name))
  rintro rfl
  exact hne (habove.eq_of_length_le (List.dropLast_prefix above).length_le)

/-- A name in a directory lies below directories only. -/
theorem LiesInDirectories.child {s : Store} {name : List String} (h : s.LiesInDirectories name)
    (hname : s.isDirectory name = true) (part : String) : s.LiesInDirectories (name ++ [part]) := by
  intro above habove hne
  rcases List.prefix_concat_iff.mp habove with heq | habove
  · exact absurd heq hne
  · by_cases hself : above = name
    · rw [hself]
      exact hname
    · exact h above habove hself

/-- A walk passes through directories only. The induction is on the parts that are left, and the
invariant is that the place reached so far lies in directories. -/
theorem liesInDirectories_of_walk {s : Store} {here parts name : List String}
    (hhere : s.LiesInDirectories here) (h : s.walk here parts = some name) :
    s.LiesInDirectories name := by
  induction parts generalizing here with
  | nil =>
      obtain rfl : here = name := Option.some.inj h
      exact hhere
  | cons part rest ih =>
      rw [walk] at h
      split at h
      · cases h
      · rename_i hdirectory
        have hdirectory : s.isDirectory here = true := by simpa using hdirectory
        split at h
        · exact ih hhere h
        · split at h
          · split at h
            · cases h
            · exact ih hhere.dropLast h
          · exact ih (hhere.child hdirectory part) h

theorem liesInDirectories_of_resolve {s : Store} {path : String} {name : List String}
    (h : s.resolve path = some name) : s.LiesInDirectories name := by
  unfold resolve at h
  split at h
  · cases h
  · cases h
  · exact liesInDirectories_of_walk s.liesInDirectories_root h

/-- A file in existing directories adds no directory. -/
theorem isDirectory_put {s : Store} {name : List String} (h : s.LiesInDirectories name)
    (content : Content) (parts : List String) :
    isDirectory ⟨put name content s.files⟩ parts = s.isDirectory parts := by
  simp only [isDirectory, any_put fun file => parts.isPrefixOf file && file != parts]
  cases habove : parts.isPrefixOf name && name != parts with
  | false => rw [Bool.false_or]
  | true =>
      rw [Bool.and_eq_true, List.isPrefixOf_iff_prefix, bne_iff_ne] at habove
      have hparts : s.isDirectory parts = true := h parts habove.1 (Ne.symm habove.2)
      rw [isDirectory] at hparts
      rw [Bool.true_or, Bool.or_true, hparts]

/-- Where a walk leads depends on the directories alone. -/
theorem walk_congr {s t : Store} (h : ∀ parts, t.isDirectory parts = s.isDirectory parts)
    (here parts : List String) : t.walk here parts = s.walk here parts := by
  induction parts generalizing here with
  | nil => rfl
  | cons part rest ih => simp only [walk, h, ih]

theorem resolve_congr {s t : Store} (h : ∀ parts, t.isDirectory parts = s.isDirectory parts)
    (path : String) : t.resolve path = s.resolve path := by
  unfold resolve
  split
  · rfl
  · rfl
  · exact walk_congr h [] _

/-! ## Writes -/

/-- A text can be written to a path that leads to a name which is no directory. -/
def Writable (s : Store) (path : String) : Prop :=
  ∃ name, s.resolve path = some name ∧ s.isDirectory name = false

/-- What is left of a store after a text was written to a path. -/
structure Wrote (s : Store) (path text : String) (saved : Store) : Prop where
  /-- Every path leads where it led. -/
  paths : ∀ other, saved.resolve other = s.resolve other
  /-- The path leads to the text. -/
  written : saved.text? path = some text
  /-- Every other name holds what it held. -/
  others : ∀ name, s.resolve path ≠ some name → saved.files.lookup name = s.files.lookup name

/-- The files at all other paths are as they were. -/
theorem Wrote.content?_eq {s saved : Store} {path text : String} (h : s.Wrote path text saved)
    {other : String} (hne : s.resolve path ≠ s.resolve other) :
    saved.content? other = s.content? other := by
  rw [content?, content?, h.paths]
  cases hother : s.resolve other with
  | none => rfl
  | some name =>
      rw [hother] at hne
      exact h.others name hne

theorem exists_wrote {s : Store} {path : String} (h : s.Writable path) (text : String) :
    ∃ saved, s.write? path text = some saved ∧ s.Wrote path text saved := by
  obtain ⟨name, hresolve, hfile⟩ := h
  have hname : s.LiesInDirectories name := liesInDirectories_of_resolve hresolve
  have hpaths : ∀ other, resolve ⟨put name (.text text) s.files⟩ other = s.resolve other :=
    resolve_congr (isDirectory_put hname (.text text))
  refine ⟨⟨put name (.text text) s.files⟩, ?_, hpaths, ?_, ?_⟩
  · rw [write?, hresolve]
    simp only [hfile, Bool.false_eq_true, if_false]
  · have hcontent : content? ⟨put name (.text text) s.files⟩ path = some (.text text) := by
      rw [content?, hpaths, hresolve]
      exact lookup_put_self name (.text text) s.files
    rw [text?, hcontent]
  · intro other hne
    apply lookup_put_of_ne
    rintro rfl
    exact hne hresolve

theorem write?_eq_none {s : Store} {path : String} (h : ¬ s.Writable path) (text : String) :
    s.write? path text = none := by
  unfold write?
  split
  · rfl
  · rename_i name hresolve
    split
    · rfl
    · rename_i hfile
      exact absurd ⟨name, hresolve, by simpa using hfile⟩ h

end SchemaCodegen.CommandLine.Store
