/-
  Ambient.Proofs.Source.Placing

  New files at the end of paths without steps to the directory above. Once the directories on the way
  are made, such a path leads where its steps say, so that a write changes the one file at that place,
  or is refused for another reason than that something is missing (`write_of_above`).
-/
import Ambient.Proofs.Source.Written

namespace Ambient

/-! ## Paths without steps to the directory above -/

/-- Flattened steps have none to the directory above. -/
theorem Path.not_up_mem_flattenFrom {before : List String} (hbefore : ".." ∉ before)
    (steps : List String) : ".." ∉ Path.flattenFrom before steps := by
  induction steps generalizing before with
  | nil => exact hbefore
  | cons step rest ih =>
    rw [Path.flattenFrom]
    split
    · exact ih fun h => hbefore (List.dropLast_subset _ h)
    · rename_i hstep
      refine ih fun h => ?_
      rcases List.mem_append.mp h with h | h
      · exact hbefore h
      · exact hstep (by simp [List.mem_singleton.mp h])

/-- A resolved path has no steps to the directory above. -/
theorem Path.not_up_mem_resolve (cwd path : Path) : ".." ∉ (Path.resolve cwd path).steps :=
  Path.not_up_mem_flattenFrom List.not_mem_nil _

namespace FileTree

variable {tree : FileTree} {place steps : List String}

/-! ## What is there -/

/-- A path leads to a file or a directory. -/
def Holds (tree : FileTree) (path : Path) : Prop :=
  ∃ place, tree.placeOf path = .ok place ∧ (tree.isFile place || tree.isDirectory place) = true

/-- A path, or one of its steps, is too long for the file system. -/
def IsTooLong (tree : FileTree) (path : Path) : Prop :=
  ∃ text, tree.placeOf path = .error (.refused .nameTooLong text)

theorem contains_eq_true_iff {path : Path} : tree.contains path = .ok true ↔ tree.Holds path := by
  rw [contains, Holds]
  split <;> simp_all

/-- Only paths that are too long are refused. -/
theorem contains_eq_error {path : Path} {fault : FileFault} (h : tree.contains path = .error fault) :
    ∃ text, fault = .refused .nameTooLong text ∧ tree.placeOf path = .error fault := by
  rw [contains] at h
  split at h
  · cases h
  · rename_i text hplace
    cases h
    exact ⟨text, rfl, hplace⟩
  · cases h

/-- Nothing is found at the end of a path exactly if it leads to nothing and is not too long. -/
theorem contains_eq_false_iff {path : Path} :
    tree.contains path = .ok false ↔ ¬ tree.Holds path ∧ ¬ tree.IsTooLong path := by
  constructor
  · intro h
    refine ⟨fun hholds => ?_, fun hlong => ?_⟩
    · rw [contains_eq_true_iff.mpr hholds] at h
      cases h
    · obtain ⟨text, hplace⟩ := hlong
      rw [contains, hplace] at h
      cases h
  · rintro ⟨hholds, hlong⟩
    cases h : tree.contains path with
    | error fault =>
      obtain ⟨text, rfl, hplace⟩ := contains_eq_error h
      exact (hlong ⟨text, hplace⟩).elim
    | ok present =>
      cases present with
      | false => rfl
      | true => exact (hholds (contains_eq_true_iff.mp h)).elim

/-! ## Other files -/

/-- New bytes at a place leave those at other places. -/
theorem lookup_setBytes_of_ne {other : List String} (hne : other ≠ place) (bytes : ByteArray)
    (files : List (List String × ByteArray)) :
    (setBytes place bytes files).lookup other = files.lookup other := by
  induction files with
  | nil =>
    have hother : (other == place) = false := beq_eq_false_iff_ne.mpr hne
    rw [setBytes, List.lookup_cons, hother]
  | cons entry rest ih =>
    obtain ⟨file, old⟩ := entry
    rw [setBytes]
    split
    · rename_i hfile
      have hother : (other == file) = false := by rwa [eq_of_beq hfile, beq_eq_false_iff_ne]
      rw [List.lookup_cons, List.lookup_cons, hother]
    · rw [List.lookup_cons, List.lookup_cons, ih]

/-! ## Making directories -/

/-- Making directories changes no file, and all of the steps are directories then. -/
theorem makeSteps_ok {shown : String} {after : FileTree} (hplace : tree.isDirectory place = true)
    (h : tree.makeSteps shown place steps = .ok after) :
    after.files = tree.files ∧ after.isDirectory (place ++ steps) = true := by
  induction steps generalizing tree place with
  | nil =>
    cases h
    exact ⟨rfl, by rwa [List.append_nil]⟩
  | cons step rest ih =>
    rw [makeSteps] at h
    rw [List.append_cons]
    split at h
    · cases h
    · split at h
      · rename_i hdirectory
        exact ih hdirectory h
      · split at h
        · cases h
        · -- the directory is new, and the steps after it are made in it
          have hnew : ({ tree with directories := tree.directories ++ [place ++ [step]] } :
              FileTree).isDirectory (place ++ [step]) = true := by
            simp [isDirectory]
          obtain ⟨hfiles, hmade⟩ := ih hnew h
          exact ⟨hfiles, hmade⟩

/-- Nothing is missing where directories are made. -/
theorem makeSteps_ne_missing {shown text : String} :
    tree.makeSteps shown place steps ≠ .error (.refused .missing text) := by
  induction steps generalizing tree place with
  | nil => exact fun h => nomatch h
  | cons step rest ih =>
    rw [makeSteps]
    split
    · split <;> exact fun h => nomatch h
    · split
      · exact ih
      · split
        · exact fun h => nomatch h
        · exact ih

theorem makeDirectory_ok {path : Path} {after : FileTree}
    (h : tree.makeDirectory path = .ok after) :
    after.files = tree.files ∧ after.isDirectory path.steps = true := by
  rw [makeDirectory] at h
  split at h
  · cases h
  · have hroot : tree.isDirectory [] = true := by simp [isDirectory]
    exact makeSteps_ok hroot h

theorem makeDirectory_ne_missing {path : Path} {text : String} :
    tree.makeDirectory path ≠ .error (.refused .missing text) := by
  rw [makeDirectory]
  split
  · exact fun h => nomatch h
  · exact makeSteps_ne_missing

/-! ## Places of new files -/

/-- Steps in directories lead where they say, unless one of them is too long. -/
theorem walk_of_above (hup : ".." ∉ steps)
    (habove : tree.isDirectory (place ++ steps).dropLast = true) :
    tree.walk place steps = .ok (place ++ steps) ∨
      tree.walk place steps = .error .nameTooLong := by
  induction steps generalizing place with
  | nil => exact .inl (by rw [walk, List.append_nil])
  | cons step rest ih =>
    have hstep : ¬ (step == "..") = true := fun h => hup (by simp [eq_of_beq h])
    rw [List.append_cons] at habove ⊢
    rw [walk, if_neg hstep]
    split
    · exact .inr rfl
    · split
      · rename_i hlast
        rw [List.isEmpty_iff.mp hlast, List.append_nil]
        exact .inl rfl
      · rename_i hmore
        -- the step is on the way to a directory, so it is one
        have hbegins : place ++ [step] <+: (place ++ [step] ++ rest).dropLast := by
          rw [List.dropLast_append_of_ne_nil (by simpa using hmore)]
          exact List.prefix_append _ _
        have hdirectory := isDirectory_of_prefix habove hbegins
        rw [if_pos hdirectory]
        exact ih (fun h => hup (List.mem_cons_of_mem _ h)) habove

section

variable {path : Path} (hroot : path.isAbsolute = true) (hup : ".." ∉ path.steps)
  (habove : tree.isDirectory path.steps.dropLast = true)
include hroot hup habove

/-- A path in a directory leads where its steps say, unless it is refused. -/
theorem placeOf_of_above :
    tree.placeOf path = .ok path.steps ∨
      ∃ fault, tree.placeOf path = .error fault ∧ ∀ shown, fault ≠ .refused .missing shown := by
  rw [placeOf, if_pos hroot]
  split
  · exact .inr ⟨_, rfl, fun _ => by simp⟩
  · split
    · exact .inr ⟨_, rfl, fun _ => by simp⟩
    · have hwalk : tree.walk [] path.steps = .ok path.steps ∨
          tree.walk [] path.steps = .error .nameTooLong := walk_of_above hup habove
      rcases hwalk with hwalk | hwalk
      · exact .inl (by rw [hwalk])
      · exact .inr ⟨.refused .nameTooLong path.text, by rw [hwalk], fun _ => by simp⟩

/-- A text that is written in a directory changes the file at the end of the steps and no other, or is
refused, but not because something is missing. -/
theorem write_of_above (text : String) :
    tree.write path text =
        .ok { tree with files := setBytes path.steps text.toUTF8 tree.files } ∨
      ∃ fault, tree.write path text = .error fault ∧ ∀ shown, fault ≠ .refused .missing shown := by
  rw [write]
  rcases placeOf_of_above hroot hup habove with hplace | ⟨fault, hplace, hfault⟩
  · rw [hplace]
    dsimp only [bind, Except.bind]
    split
    · exact .inr ⟨_, rfl, fun _ => by simp⟩
    · rw [if_neg (by simp [habove])]
      exact .inl rfl
  · exact .inr ⟨fault, by rw [hplace]; rfl, hfault⟩

end

end FileTree

end Ambient
