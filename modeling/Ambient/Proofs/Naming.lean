/-
  Ambient.Proofs.Naming

  Interface names named again. An interface name is its own interface name exactly if the name of the
  class begins in upper case; any other name gets a second prefix, and a third is never put before it
  (`interfaceName_again`).
-/
import Ambient.Naming

namespace Ambient.Naming

/-! ## Prefixes -/

/-- Whether a name begins with an upper-case character. -/
def beginsUpper (name : String) : Bool :=
  match name.toList with
  | [] => false
  | first :: _ => Text.isUpper first

theorem beginsUpper_of_toList {name : String} {first : Char} {rest : List Char}
    (h : name.toList = first :: rest) : beginsUpper name = Text.isUpper first := by
  rw [beginsUpper, h]

theorem toList_prefixed (name : String) : ("I" ++ name).toList = 'I' :: name.toList := by
  simp

theorem beginsUpper_prefixed (name : String) : beginsUpper ("I" ++ name) = true := by
  rw [beginsUpper_of_toList (toList_prefixed name)]
  decide

/-- An `I` before a name counts as the prefix if the name begins in upper case. -/
theorem hasInterfacePrefix_prefixed (name : String) :
    hasInterfacePrefix ("I" ++ name) = beginsUpper name := by
  rw [hasInterfacePrefix, beginsUpper, toList_prefixed]
  cases name.toList <;> simp

theorem isParameterName_prefixed (name : String) : isParameterName ("I" ++ name) = false := by
  rw [isParameterName, toList_prefixed]
  cases name.toList <;> simp

theorem interfaceName_prefixed (name : String) :
    interfaceName ("I" ++ name) = if beginsUpper name then "I" ++ name else "I" ++ ("I" ++ name) := by
  rw [interfaceName, hasInterfacePrefix_prefixed, isParameterName_prefixed, Bool.or_false]

/-- The names that stay as they are begin with an `I` or with a `T`. -/
theorem beginsUpper_of_kept {name : String}
    (h : (hasInterfacePrefix name || isParameterName name) = true) : beginsUpper name = true := by
  -- a kept name has the prefix or is the name of a parameter, `T` or one that goes on from `T`
  rcases Bool.or_eq_true_iff.mp h with hprefix | hparameter
  · unfold hasInterfacePrefix at hprefix
    split at hprefix
    · rename_i hname
      simp only [Bool.and_eq_true, beq_iff_eq] at hprefix
      rw [beginsUpper_of_toList hname, hprefix.1]
      decide
    · cases hprefix
  · unfold isParameterName at hparameter
    split at hparameter
    · rename_i hname
      rw [beginsUpper_of_toList hname]
      decide
    · rename_i hname
      simp only [Bool.and_eq_true, beq_iff_eq] at hparameter
      rw [beginsUpper_of_toList hname, hparameter.1.1]
      decide
    · cases hparameter

/-- A name stays as it is, and then it begins in upper case, or gets the prefix. -/
theorem interfaceName_kept_or_prefixed (name : String) :
    interfaceName name = name ∧ beginsUpper name = true ∨ interfaceName name = "I" ++ name := by
  rw [interfaceName]
  split
  · rename_i hkept
    exact .inl ⟨rfl, beginsUpper_of_kept hkept⟩
  · exact .inr rfl

theorem beginsUpper_interfaceName (name : String) : beginsUpper (interfaceName name) = true := by
  rcases interfaceName_kept_or_prefixed name with ⟨hkept, hupper⟩ | hprefixed
  · rw [hkept, hupper]
  · rw [hprefixed, beginsUpper_prefixed]

/-! ## Names named again -/

theorem interfaceName_interfaceName_of_upper {name : String} (h : beginsUpper name = true) :
    interfaceName (interfaceName name) = interfaceName name := by
  rcases interfaceName_kept_or_prefixed name with ⟨hkept, -⟩ | hprefixed
  · rw [hkept, hkept]
  · rw [hprefixed, interfaceName_prefixed, h]
    rfl

/-- A name that does not begin in upper case gets the prefix each time. -/
theorem interfaceName_interfaceName_of_not_upper {name : String} (h : beginsUpper name = false) :
    interfaceName (interfaceName name) = "I" ++ interfaceName name := by
  rcases interfaceName_kept_or_prefixed name with ⟨-, hupper⟩ | hprefixed
  · rw [h] at hupper
    cases hupper
  · rw [hprefixed, interfaceName_prefixed, h]
    rfl

theorem interfaceName_interfaceName_iff (name : String) :
    interfaceName (interfaceName name) = interfaceName name ↔ beginsUpper name = true := by
  cases h : beginsUpper name with
  | true => simpa using interfaceName_interfaceName_of_upper h
  | false => simp [interfaceName_interfaceName_of_not_upper h]

/-! ## Modules -/

/-- Two ways to rename the classes of a module agree if they agree on the names. -/
theorem withClasses_renamed_iff (m : Module) (f g : String → String) :
    (m.withClasses (m.classes.map fun entry => entry.renamed (f entry.name)) =
        m.withClasses (m.classes.map fun entry => entry.renamed (g entry.name))) ↔
      ∀ entry ∈ m.classes, f entry.name = g entry.name := by
  have hrenamed : ∀ (entry : ClassEntry) (a b : String),
      entry.renamed a = entry.renamed b ↔ a = b := by
    simp [ClassEntry.renamed]
  simp [Module.withClasses, List.map_inj_left, hrenamed]

theorem prefixInterfaces_prefixInterfaces (m : Module) :
    prefixInterfaces (prefixInterfaces m) = m.withClasses
      (m.classes.map fun entry => entry.renamed (interfaceName (interfaceName entry.name))) := by
  simp [prefixInterfaces, Module.withClasses, ClassEntry.renamed, Function.comp_def]

/-- A module is named again as it was exactly if the names of its classes begin in upper case. -/
theorem prefixInterfaces_prefixInterfaces_iff (m : Module) :
    prefixInterfaces (prefixInterfaces m) = prefixInterfaces m ↔
      ∀ entry ∈ m.classes, beginsUpper entry.name = true := by
  have hnames := withClasses_renamed_iff m (fun n => interfaceName (interfaceName n)) interfaceName
  simp only [interfaceName_interfaceName_iff] at hnames
  rw [prefixInterfaces_prefixInterfaces]
  exact hnames

/-- Interfaces are named again as they were exactly if the name of the class begins in upper case; a
name that does not gets one more prefix, and what was named twice stays. -/
theorem interfaceName_again (name : String) (m : Module) :
    interfaceName (interfaceName name) =
        (if beginsUpper name then interfaceName name else "I" ++ interfaceName name) ∧
      (interfaceName (interfaceName name) = interfaceName name ↔ beginsUpper name = true) ∧
      (prefixInterfaces (prefixInterfaces m) = prefixInterfaces m ↔
        ∀ entry ∈ m.classes, beginsUpper entry.name = true) ∧
      prefixInterfaces (prefixInterfaces (prefixInterfaces m)) =
        prefixInterfaces (prefixInterfaces m) := by
  refine ⟨?_, interfaceName_interfaceName_iff name, prefixInterfaces_prefixInterfaces_iff m, ?_⟩
  · cases h : beginsUpper name with
    | true => exact interfaceName_interfaceName_of_upper h
    | false => exact interfaceName_interfaceName_of_not_upper h
  · -- every name that was given by the first step begins in upper case
    refine (prefixInterfaces_prefixInterfaces_iff (prefixInterfaces m)).mpr fun entry hentry => ?_
    obtain ⟨source, -, rfl⟩ := List.mem_map.mp hentry
    exact beginsUpper_interfaceName source.name

/-- A name in lower case is named anew each of the first two times. -/
theorem interfaceName_again_lower :
    interfaceName "item" = "Iitem" ∧
      interfaceName (interfaceName "item") ≠ interfaceName "item" := by
  decide

end Ambient.Naming
