/-
  Ambient.Proofs.Source.Written

  Files after a write. A new file changes no directory, so the path that was written leads to the
  same place as before, and what is read there is the text (`exists_write`).
-/
import Ambient.Source.FileTree
import Mathlib.Tactic.Common

namespace Ambient.FileTree

variable {tree : FileTree} {place : List String} {bytes : ByteArray}

/-! ## Files -/

theorem lookup_setBytes (place : List String) (bytes : ByteArray)
    (files : List (List String × ByteArray)) :
    (setBytes place bytes files).lookup place = some bytes := by
  induction files with
  | nil => simp [setBytes]
  | cons entry rest ih =>
    obtain ⟨file, old⟩ := entry
    rw [setBytes]
    split
    · rename_i hfile
      rw [eq_of_beq hfile]
      simp
    · rename_i hfile
      have hne : (place == file) = false := by
        rw [beq_eq_false_iff_ne]
        rintro rfl
        exact hfile (beq_self_eq_true place)
      rw [List.lookup_cons, hne]
      exact ih

/-- New bytes at a place add no file but the one at that place. -/
theorem any_setBytes (test : List String → Bool) (place : List String) (bytes : ByteArray)
    (files : List (List String × ByteArray)) :
    ((setBytes place bytes files).any fun (file, _) => test file) =
      (test place || files.any fun (file, _) => test file) := by
  induction files with
  | nil => simp [setBytes]
  | cons entry rest ih =>
    obtain ⟨file, old⟩ := entry
    rw [setBytes]
    split
    · rename_i hfile
      rw [eq_of_beq hfile]
      simp
    · simp only [List.any_cons, ih]
      exact Bool.or_left_comm _ _ _

/-! ## Directories -/

/-- What a directory lies in is a directory. -/
theorem isDirectory_of_prefix {above : List String} (h : tree.isDirectory place = true)
    (hbegins : above <+: place) : tree.isDirectory above = true := by
  have htrans : ∀ {other : List String}, place.isPrefixOf other = true →
      above.isPrefixOf other = true := fun hother =>
    List.isPrefixOf_iff_prefix.mpr (hbegins.trans (List.isPrefixOf_iff_prefix.mp hother))
  simp only [isDirectory, Bool.or_eq_true, List.any_eq_true, Bool.and_eq_true, bne_iff_ne] at h ⊢
  rcases h with (hroot | ⟨directory, hmem, hdirectory⟩) | ⟨file, hmem, hfile, hne⟩
  · rw [List.isEmpty_iff.mp hroot, List.prefix_nil] at hbegins
    exact .inl (.inl (List.isEmpty_iff.mpr hbegins))
  · exact .inl (.inr ⟨directory, hmem, htrans hdirectory⟩)
  · refine .inr ⟨file, hmem, htrans hfile, ?_⟩
    -- the file would lie in itself
    rintro rfl
    exact hne (hbegins.eq_of_length_le (List.isPrefixOf_iff_prefix.mp hfile).length_le).symm

/-- The tree with new bytes at a place. -/
def put (tree : FileTree) (place : List String) (bytes : ByteArray) : FileTree :=
  { tree with files := setBytes place bytes tree.files }

/-- A new file in a directory makes no new directory. -/
theorem isDirectory_put (hparent : tree.isDirectory place.dropLast = true) (other : List String) :
    (tree.put place bytes).isDirectory other = tree.isDirectory other := by
  -- what lies on the way to the file lies on the way to its directory
  have hnew : (other.isPrefixOf place && other != place) = true →
      tree.isDirectory other = true := by
    rw [Bool.and_eq_true, bne_iff_ne, List.isPrefixOf_iff_prefix]
    rintro ⟨hbegins, hne⟩
    have hplace : place ≠ [] := by
      rintro rfl
      exact hne (List.prefix_nil.mp hbegins)
    rw [← List.dropLast_concat_getLast hplace, List.prefix_concat_iff,
      List.dropLast_concat_getLast hplace] at hbegins
    exact isDirectory_of_prefix hparent (hbegins.resolve_left hne)
  have hany := any_setBytes (fun file => other.isPrefixOf file && other != file) place bytes
    tree.files
  have hput : (tree.put place bytes).isDirectory other =
      ((other.isPrefixOf place && other != place) || tree.isDirectory other) := by
    rw [isDirectory, put, hany, isDirectory]
    exact Bool.or_left_comm _ _ _
  rw [hput]
  cases htest : other.isPrefixOf place && other != place with
  | false => rfl
  | true => rw [hnew htest, Bool.or_self]

/-! ## Places -/

/-- Steps lead to the same place if the directories are the same. -/
theorem walk_of_isDirectory {after : FileTree} {steps : List String} {target : List String}
    (hdirectories : ∀ other, after.isDirectory other = tree.isDirectory other)
    (h : tree.walk place steps = .ok target) : after.walk place steps = .ok target := by
  induction steps generalizing place with
  | nil => exact h
  | cons step rest ih =>
    -- files decide only how a walk fails, so they do not matter here
    rw [walk] at h ⊢
    split at h
    · rename_i hup
      rw [if_pos hup]
      exact ih h
    · rename_i hup
      rw [if_neg hup]
      split at h
      · cases h
      · rename_i hshort
        rw [if_neg hshort, hdirectories]
        split at h
        · rename_i hlast
          rw [if_pos hlast]
          exact h
        · rename_i hlast
          rw [if_neg hlast]
          split at h
          · rename_i hdirectory
            rw [if_pos hdirectory]
            exact ih h
          · split at h <;> cases h

theorem placeOf_of_isDirectory {after : FileTree} {path : Path} (hcwd : after.cwd = tree.cwd)
    (hdirectories : ∀ other, after.isDirectory other = tree.isDirectory other)
    (h : tree.placeOf path = .ok place) : after.placeOf path = .ok place := by
  rw [placeOf] at h ⊢
  split at h
  · cases h
  · rename_i hvalid
    rw [if_neg hvalid]
    split at h
    · cases h
    · rename_i hshort
      rw [if_neg hshort, hcwd]
      split at h
      · rename_i hwalk
        rw [walk_of_isDirectory hdirectories hwalk]
        exact h
      · cases h

/-! ## Texts -/

/-- Line breaks of a text without carriage returns stay as they are. -/
theorem unifyBreaks_of_noReturn {text : List Char} (h : '\r' ∉ text) :
    Text.unifyBreaks text = text := by
  induction text with
  | nil => rfl
  | cons c rest ih =>
    have hc : c ≠ '\r' := fun hc => h (by simp [hc])
    rw [Text.unifyBreaks.eq_4 c rest (fun _ hreturn => absurd hreturn hc)
      (fun hreturn => absurd hreturn hc), ih fun hrest => h (List.mem_cons_of_mem _ hrest)]

/-- The bytes of a text without carriage returns encode the text. -/
theorem decode_toUTF8 {text : String} (h : '\r' ∉ text.toList) :
    decode text.toUTF8 = .ok text := by
  have hbytes : String.fromUTF8? text.toUTF8 = some text := dif_pos text.isValidUTF8
  rw [decode, hbytes]
  simp only [unifyBreaks_of_noReturn h, String.ofList_toList]

/-! ## Writing and reading -/

/-- Whether a file can be written at the end of a path: the path leads to a place in a directory,
and the place is not a directory itself. -/
def IsWritable (tree : FileTree) (path : Path) : Prop :=
  ∃ place, tree.placeOf path = .ok place ∧ tree.isDirectory place = false ∧
    tree.isDirectory place.dropLast = true

/-- A text that is written is there afterwards and is read back as it was. -/
theorem exists_write {path : Path} (h : tree.IsWritable path) {text : String}
    (hreturn : '\r' ∉ text.toList) :
    ∃ after, tree.write path text = .ok after ∧ after.contains path = .ok true ∧
      after.read path = .ok text := by
  obtain ⟨place, hplace, hfree, hparent⟩ := h
  have hcwd : (tree.put place text.toUTF8).cwd = tree.cwd := rfl
  have hafter : (tree.put place text.toUTF8).placeOf path = .ok place :=
    placeOf_of_isDirectory hcwd (isDirectory_put hparent) hplace
  have hbytes : (tree.put place text.toUTF8).bytes? place = some text.toUTF8 :=
    lookup_setBytes _ _ _
  refine ⟨tree.put place text.toUTF8, ?_, ?_, ?_⟩
  · rw [write, hplace]
    simp [bind, Except.bind, hfree, hparent, put]
  · rw [contains, hafter]
    simp only [isFile, hbytes, Option.isSome_some, Bool.true_or]
  · rw [read, hafter]
    simp only [bind, Except.bind, hbytes]
    exact decode_toUTF8 hreturn

end Ambient.FileTree
