/-
  Ambient.Proofs.Config.Saving

  Configurations saved and loaded. A configuration that a document gave is written as a document
  that can be loaded, and what is loaded is the configuration, but for null in the place of three
  settings whose default is not null (`exists_save`).
-/
import Ambient.Config.File
import Ambient.Proofs.Config.Reading
import Ambient.Proofs.Json.Depth
import Ambient.Proofs.Source.Written

namespace Ambient

/-! ## Room for settings -/

namespace Config

variable {room : Nat} {data : List (String × Json)}

/-- Settings have as much room as the values of the object. -/
theorem fits_settingsOf (hdata : ∀ field ∈ data, field.2.Fits room) (names : List String) :
    ∀ field ∈ settingsOf names data, field.2.Fits room := by
  intro field hfield
  obtain ⟨-, key, hkey⟩ := mem_settingsOf hfield
  exact hdata (key, field.2) hkey

/-- A setting that is read has as much room, or is the fixed value. -/
theorem fits_getOr {settings : List (String × Json)}
    (hsettings : ∀ field ∈ settings, field.2.Fits room) (name : String) {fallback : Json}
    (hfallback : fallback.Fits room) : (Json.getOr settings name fallback).Fits room := by
  rw [Json.getOr]
  cases hfield : Json.field? name settings with
  | none => exact hfallback
  | some value => exact hsettings _ (Json.mem_of_field? hfield)

theorem fits_outputFileNameOf {settings : List (String × Json)}
    (hsettings : ∀ field ∈ settings, field.2.Fits room) : (outputFileNameOf settings).Fits room := by
  have hnull : Json.null.Fits room := ⟨rfl, Nat.zero_le _⟩
  have hname := fits_getOr hsettings "output_file_name" hnull
  rw [outputFileNameOf]
  split
  · exact ⟨rfl, Nat.zero_le _⟩
  · exact hname

end Config

namespace Rule

variable {room : Nat}

/-- Patterns have as much room as the values of the object, and the empty list needs some. -/
theorem fits_patterns {settings : List (String × Json)}
    (hsettings : ∀ field ∈ settings, field.2.Fits (room + 1)) (name : String) :
    (patterns settings name).Fits (room + 1) := by
  have hnull : Json.null.Fits (room + 1) := ⟨rfl, Nat.zero_le _⟩
  have hsetting := Config.fits_getOr hsettings name hnull
  rw [patterns]
  split
  · exact Json.fits_arr_iff.mpr (by simp)
  · exact hsetting

/-- A rule needs as much room as the entry that gives it, and some for its lists of patterns. -/
theorem fits_toJson {entry : Json} {rule : Rule} (h : ofJson entry = .ok rule)
    (hentry : entry.Fits (room + 2)) : rule.toJson.Fits (room + 2) := by
  have hkeys : (rule.fields.map (·.1)).Nodup := by
    have hnames : rule.fields.map (·.1) = ["namespace", "includeTypes", "excludeTypes",
      "includeGenericTypes", "excludeGenericTypes", "includeNested"] := rfl
    rw [hnames]
    decide
  rw [toJson_eq_obj, Json.fits_obj_iff]
  refine ⟨hkeys, ?_⟩
  have hnone : (Json.arr []).Fits (room + 1) := Json.fits_arr_iff.mpr (by simp)
  have hfalse : (Json.bool false).Fits (room + 1) := ⟨rfl, Nat.zero_le _⟩
  -- a name alone is a rule with defaults, which need no room
  cases entry with
  | str name =>
    cases h
    have hname : (Json.str name).Fits (room + 1) := ⟨rfl, Nat.zero_le _⟩
    simp [fields, hnone, hfalse, hname]
  | obj data =>
    cases h
    obtain ⟨-, hdata⟩ := Json.fits_obj_iff.mp hentry
    have hsettings := Config.fits_settingsOf hdata settingNames
    have hempty : (Json.str "").Fits (room + 1) := ⟨rfl, Nat.zero_le _⟩
    simp [fields, fits_patterns hsettings, Config.fits_getOr hsettings _ hempty,
      Config.fits_getOr hsettings _ hfalse]
  | _ => cases h

end Rule

namespace Config

variable {room : Nat} {data : List (String × Json)}

/-- The rules need as much room as the list that gives them. -/
theorem fits_rules {entries : Json} {rules : List Rule} (h : Rule.listOfJson entries = .ok rules)
    (hentries : entries.Fits (room + 3)) :
    (Json.arr (rules.map Rule.toJson)).Fits (room + 3) := by
  have hlist : (entries.orElse (.arr [])).Fits (room + 3) := by
    rw [Json.orElse]
    split
    · exact hentries
    · exact Json.fits_arr_iff.mpr (by simp)
  rw [Rule.listOfJson] at h
  split at h
  · rename_i items hitems
    rw [hitems, Json.fits_arr_iff] at hlist
    rw [Json.fits_arr_iff, List.forall_mem_map]
    intro rule hrule
    obtain ⟨entry, hentry, hread⟩ := exists_of_mem_mapM_ok h hrule
    exact Rule.fits_toJson hread (hlist entry hentry)
  · cases h

theorem toJson_eq_obj (config : Config) : config.toJson = .obj config.written := rfl

theorem nodup_keys_written (config : Config) : (config.written.map (·.1)).Nodup := by
  have hnames : config.toFields.map (·.1) = ["manifest", "manifests", "outputPath",
    "outputFileName", "outputNamespace", "baseDirectory", "includeStaticClasses", "namespaces",
    "enumStyle", "hiddenTypeMarker", "indentSize", "useTabs"] := rfl
  have hkeys : (config.toFields.map (·.1)).Nodup := by
    rw [hnames]
    decide
  exact hkeys.sublist (List.filter_sublist.map _)

theorem fits_toFields {config : Config} (h : ofFields data = .ok config)
    (hdata : ∀ field ∈ data, field.2.Fits (room + 3)) :
    ∀ field ∈ config.toFields, field.2.Fits (room + 3) := by
  have hscalar : ∀ {value : Json}, value.isWritable = true → value.depth = 0 →
      value.Fits (room + 3) := fun hwritable hdepth => ⟨hwritable, hdepth ▸ Nat.zero_le _⟩
  have hsettings := fits_settingsOf hdata settingNames
  have hset : ∀ (name : String) {fallback : Json}, fallback.isWritable = true →
      fallback.depth = 0 →
        (Json.getOr (settingsOf settingNames data) name fallback).Fits (room + 3) :=
    fun name _ hwritable hdepth => fits_getOr hsettings name (hscalar hwritable hdepth)
  rw [ofFields, ofSettings] at h
  obtain ⟨rules, hrules, h⟩ := bind_eq_ok h
  obtain ⟨style, -, h⟩ := bind_eq_ok h
  cases h
  have hnamespaces := fits_rules hrules (hset "namespaces" rfl rfl)
  simp only [toFields, List.forall_mem_cons]
  exact ⟨hset _ rfl rfl, hset _ rfl rfl, hset _ rfl rfl, fits_outputFileNameOf hsettings,
    hset _ rfl rfl, hset _ rfl rfl, hset _ rfl rfl, hnamespaces, hscalar rfl rfl, hset _ rfl rfl,
    hset _ (by decide) rfl, hset _ rfl rfl, by simp⟩

/-- What is written needs as much room as the object that was read, and some for the lists of
patterns. -/
theorem fits_toJson {config : Config} (h : ofFields data = .ok config)
    (hdata : ∀ field ∈ data, field.2.Fits (room + 3)) : config.toJson.Fits (room + 4) := by
  rw [toJson_eq_obj, Json.fits_obj_iff]
  exact ⟨nodup_keys_written config,
    fun field hfield => fits_toFields h hdata field (List.mem_filter.mp hfield).1⟩

/-- A configuration that is read gives the patterns of its rules. -/
theorem givesPatterns_of_ofFields {config : Config} (h : ofFields data = .ok config) :
    ∀ rule ∈ config.rules, rule.GivesPatterns := by
  rw [ofFields, ofSettings] at h
  obtain ⟨rules, hrules, h⟩ := bind_eq_ok h
  obtain ⟨style, -, h⟩ := bind_eq_ok h
  cases h
  exact Rule.givesPatterns_of_listOfJson hrules

end Config

/-! ## Saving and loading -/

namespace Config

/-- What is checked does not depend on the settings that null stands for a default of. -/
theorem check_settled (config : Config) : config.settled.check = config.check := rfl

/-- A configuration that gives these settings is read back as it was. -/
theorem settled_eq_self {config : Config} (hstatic : isGiven config.includeStaticClasses = true)
    (hmarker : isGiven config.hiddenMarker = true) (htabs : isGiven config.useTabs = true) :
    config.settled = config := by
  rw [settled, orDefault_of_isGiven hstatic, orDefault_of_isGiven hmarker,
    orDefault_of_isGiven htabs]

/-- A configuration that a document can hold is saved in any file that can be written, and what is
loaded from the file is the configuration with defaults in the place of null. -/
theorem exists_save_of_fits {config : Config} (hfits : config.toJson.Fits Json.maxNesting)
    (hrules : ∀ rule ∈ config.rules, rule.GivesPatterns) (hcheck : config.check = .ok ())
    {files : FileTree} {path : Path} (hpath : files.IsWritable path) :
    ∃ after, config.save files path = .ok after ∧ load after path = .ok config.settled := by
  obtain ⟨after, hwrite, hcontains, htext⟩ :=
    FileTree.exists_write hpath (Json.return_notMem_indented config.toJson)
  have hdocument : documentAt after path = .ok config.toJson := by
    rw [documentAt, htext]
    simp only [Except.mapError, bind, Except.bind, Json.isTooDeep_indented hfits,
      Json.parse_indented hfits.writable, Bool.false_eq_true, if_false]
  refine ⟨after, ?_, ?_⟩
  · rw [save, document, hwrite]
    rfl
  · rw [load, hcontains]
    simp only [Except.mapError, bind, Except.bind, hdocument, toJson_eq_obj,
      ofFields_written hrules hcheck, check_settled, hcheck, Bool.not_true, Bool.false_eq_true,
      if_false]

/-- A configuration that is read from an object and passes the check can be saved in any file that
can be written. What is loaded from the file is the configuration, except that the flag for static
classes, the marker and the flag for tabs are their defaults in the place of null; it is the
configuration itself where these are given. -/
theorem exists_save {data : Json} {config : Config} (hdata : data.Fits Json.maxNesting)
    (hread : ofJson data = .ok config) (hcheck : config.check = .ok ()) {files : FileTree}
    {path : Path} (hpath : files.IsWritable path) :
    (∃ after, config.save files path = .ok after ∧ load after path = .ok config.settled) ∧
      (isGiven config.includeStaticClasses = true → isGiven config.hiddenMarker = true →
        isGiven config.useTabs = true → config.settled = config) := by
  refine ⟨?_, settled_eq_self⟩
  cases data with
  | obj fields =>
    -- a rule takes three levels of the document, and its lists of patterns one more
    have hroom : (Json.obj fields).Fits (984 + 3 + 1) := hdata
    have hfields := (Json.fits_obj_iff.mp hroom).2
    exact exists_save_of_fits (fits_toJson hread hfields) (givesPatterns_of_ofFields hread) hcheck
      hpath
  | _ => cases hread

/-- An object with null for the marker. -/
def unmarkedData : Json :=
  .obj [("manifest", .str "a.json"), ("outputPath", .str "out"), ("namespaces", .arr [.str "A"]),
    ("hiddenTypeMarker", .null)]

/-- The configuration that the object gives. -/
def unmarked : Config where
  manifest := .str "a.json"
  outputPath := .str "out"
  rules := [{ scope := .str "A" }]
  hiddenMarker := .null

theorem ofJson_unmarkedData : ofJson unmarkedData = .ok unmarked := by
  with_unfolding_all rfl

theorem check_unmarked : unmarked.check = .ok () := by
  with_unfolding_all rfl

/-- A file beside no others can be written. -/
theorem isWritable_saved : FileTree.IsWritable {} { steps := ["saved.json"] } :=
  ⟨["saved.json"], by with_unfolding_all rfl, rfl, rfl⟩

theorem exists_save_unmarked :
    ∃ after, unmarked.save {} { steps := ["saved.json"] } = .ok after ∧
      load after { steps := ["saved.json"] } = .ok { unmarked with hiddenMarker := .str "Guid" } :=
  (exists_save ⟨by decide, by decide⟩ ofJson_unmarkedData check_unmarked isWritable_saved).1

/-- Null for the marker does not come back: the marker that is loaded is the default. -/
theorem load_unmarked_ne :
    ∃ after loaded, ofJson unmarkedData = .ok unmarked ∧ unmarked.check = .ok () ∧
      unmarked.save {} { steps := ["saved.json"] } = .ok after ∧
      load after { steps := ["saved.json"] } = .ok loaded ∧ loaded ≠ unmarked := by
  have hrules : ∀ rule ∈ unmarked.rules, rule.GivesPatterns := by
    intro rule hrule
    rw [List.mem_singleton.mp hrule]
    exact ⟨rfl, rfl, rfl, rfl⟩
  have hfits : unmarked.toJson.Fits Json.maxNesting := ⟨by decide, by decide⟩
  obtain ⟨after, hsave, hload⟩ := exists_save_of_fits hfits hrules check_unmarked isWritable_saved
  refine ⟨after, _, ofJson_unmarkedData, check_unmarked, hsave, hload, fun heq => ?_⟩
  have hmarker : Json.str defaultMarker = .null := congrArg hiddenMarker heq
  cases hmarker

end Config

end Ambient
