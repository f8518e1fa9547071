/-
  Ambient.Proofs.Config.Reading

  Configurations as objects, read back. Whatever style the keys of an object are written in, a
  setting is found under its key if no other key means it, and what is written has one key for each
  setting. What is left out when a configuration is written is null, so what is read in its place is
  the default (`ofFields_written`).
-/
import Ambient.Config.Check
import Ambient.Config.Document
import Ambient.Proofs.Config.Keys
import Ambient.Proofs.Keeping

namespace Ambient

/-! ## Settings -/

namespace Config

/-- A value, or a fixed value in place of null. -/
def orDefault (value fallback : Json) : Json :=
  if isGiven value then value else fallback

theorem orDefault_of_isGiven {value : Json} (h : isGiven value = true) (fallback : Json) :
    orDefault value fallback = value :=
  if_pos h

theorem orDefault_null (value : Json) : orDefault value .null = value := by
  cases value <;> rfl

/-- Objects in which no two keys mean the same setting. -/
def IsUnambiguous (data : List (String × Json)) : Prop :=
  (data.map (normalKey ·.1)).Nodup

/-- The only key that means a setting gives its value. -/
theorem setting?_of_mem {data : List (String × Json)} (hdata : IsUnambiguous data)
    {key name : String} {value : Json} (hmem : (key, value) ∈ data)
    (hkey : normalKey key = normalKey name) : setting? data name = some value := by
  have hfilter : (data.filter fun field => normalKey field.1 == normalKey name) =
      [(key, value)] := by
    induction data with
    | nil => cases hmem
    | cons field rest ih =>
      obtain ⟨hfirst, hrest⟩ := List.nodup_cons.mp hdata
      rcases List.mem_cons.mp hmem with rfl | hmem
      · -- no other key has the letters of this one
        have hothers : (rest.filter fun field => normalKey field.1 == normalKey name) = [] := by
          refine List.filter_eq_nil_iff.mpr fun other hother => ?_
          simp only [beq_iff_eq]
          intro hsame
          exact hfirst (List.mem_map.mpr ⟨other, hother, hsame.trans hkey.symm⟩)
        rw [List.filter_cons_of_pos (by simpa using hkey), hothers]
      · have hne : normalKey field.1 ≠ normalKey name := fun hsame =>
          hfirst (List.mem_map.mpr ⟨_, hmem, hkey.trans hsame.symm⟩)
        rw [List.filter_cons_of_neg (by simpa using hne), ih hrest hmem]
  rw [setting?, hfilter]
  rfl

/-- Without the values that are null, a setting is its value or, if that is null, absent. -/
theorem setting?_given {data : List (String × Json)} (hdata : IsUnambiguous data)
    {key name : String} {value : Json} (hmem : (key, value) ∈ data)
    (hkey : normalKey key = normalKey name) :
    setting? (data.filter fun (_, value) => isGiven value) name =
      if isGiven value then some value else none := by
  cases hgiven : isGiven value with
  | true =>
    have hkept : (key, value) ∈ data.filter fun (_, value) => isGiven value :=
      List.mem_filter.mpr ⟨hmem, hgiven⟩
    have hfiltered : IsUnambiguous (data.filter fun (_, value) => isGiven value) :=
      List.Nodup.sublist (List.filter_sublist.map _) hdata
    exact setting?_of_mem hfiltered hkept hkey
  | false =>
    -- the only field with this key is left out
    have hnone : ((data.filter fun (_, value) => isGiven value).filter
        fun field => normalKey field.1 == normalKey name) = [] := by
      refine List.filter_eq_nil_iff.mpr fun other hother hsame => ?_
      obtain ⟨hother, hkept⟩ := List.mem_filter.mp hother
      rw [beq_iff_eq, ← hkey] at hsame
      rw [List.inj_on_of_nodup_map hdata hother hmem hsame] at hkept
      exact absurd (hgiven.symm.trans hkept) (by decide)
    rw [setting?, hnone]
    rfl

/-- Objects whose keys spell names one by one. -/
def Spells (data : List (String × Json)) (names : List String) : Prop :=
  data.map (lettersOf ·.1) = names.map bareName

namespace Spells

variable {data : List (String × Json)} {names : List String}

variable (hnames : ∀ name ∈ names, isFieldName name = true)
include hnames

theorem map_normalKey (h : Spells data names) :
    data.map (normalKey ·.1) = names.map normalKey := by
  induction data generalizing names with
  | nil =>
    rw [List.map_eq_nil_iff.mp h.symm]
    rfl
  | cons field rest ih =>
    obtain ⟨first, more, rfl, hfirst, hmore⟩ := List.map_eq_cons_iff.mp h.symm
    have hkey := (normalKey_eq_iff_lettersOf (hnames first (by simp)) field.1).mpr hfirst.symm
    rw [List.map_cons, List.map_cons, hkey, ih (fun n hn => hnames n (by simp [hn])) hmore.symm]

/-- The value that stands in the place of a name has a key that means the name. -/
theorem exists_key (h : Spells data names) {name : String} {value : Json}
    (hmem : (name, value) ∈ names.zip (data.map (·.2))) :
    ∃ key, (key, value) ∈ data ∧ normalKey key = normalKey name := by
  have hkeys := h.map_normalKey hnames
  clear h hnames
  induction data generalizing names with
  | nil => cases names <;> cases hmem
  | cons field rest ih =>
    obtain ⟨first, more, rfl, hfirst, hmore⟩ := List.map_eq_cons_iff.mp hkeys.symm
    rw [List.map_cons, List.zip_cons_cons, List.mem_cons] at hmem
    rcases hmem with hhead | htail
    · obtain ⟨rfl, rfl⟩ := Prod.mk.inj hhead
      exact ⟨field.1, by simp, hfirst.symm⟩
    · obtain ⟨key, hkey, hsame⟩ := ih htail hmore.symm
      exact ⟨key, List.mem_cons_of_mem _ hkey, hsame⟩

variable (hdistinct : (names.map bareName).Nodup)
include hdistinct

theorem isUnambiguous (h : Spells data names) : IsUnambiguous data := by
  rw [IsUnambiguous, h.map_normalKey hnames]
  exact nodup_normalKey hnames hdistinct

/-- A setting is the value that stands in the place of its name. -/
theorem setting?_eq (h : Spells data names) {name : String} {value : Json}
    (hmem : (name, value) ∈ names.zip (data.map (·.2))) : setting? data name = some value := by
  obtain ⟨key, hkey, hsame⟩ := h.exists_key hnames hmem
  exact setting?_of_mem (h.isUnambiguous hnames hdistinct) hkey hsame

/-- So it is without the values that are null, if its own is not. -/
theorem setting?_given (h : Spells data names) {name : String} {value : Json}
    (hmem : (name, value) ∈ names.zip (data.map (·.2))) :
    setting? (data.filter fun (_, value) => isGiven value) name =
      if isGiven value then some value else none := by
  obtain ⟨key, hkey, hsame⟩ := h.exists_key hnames hmem
  exact Config.setting?_given (h.isUnambiguous hnames hdistinct) hkey hsame

end Spells

/-- A setting that is read, with a fixed value where it is absent. -/
theorem getOr_settingsOf {names : List String} (hnames : (names.map normalKey).Nodup) {name : String}
    (hname : name ∈ names) (data : List (String × Json)) (fallback : Json) :
    Json.getOr (settingsOf names data) name fallback = (setting? data name).getD fallback := by
  rw [Json.getOr, field?_settingsOf hnames hname]

end Config

/-! ## Rules -/

namespace Rule

/-- A rule whose lists of patterns are given. -/
structure GivesPatterns (rule : Rule) : Prop where
  includeTypes : Config.isGiven rule.includeTypes = true
  excludeTypes : Config.isGiven rule.excludeTypes = true
  includeGenericTypes : Config.isGiven rule.includeGenericTypes = true
  excludeGenericTypes : Config.isGiven rule.excludeGenericTypes = true

theorem isGiven_patterns (settings : List (String × Json)) (name : String) :
    Config.isGiven (patterns settings name) = true := by
  rw [patterns]
  split
  · rfl
  · rename_i hvalue
    cases hsetting : Json.getOr settings name .null <;> first | rfl | exact absurd hsetting hvalue

/-- A rule that is read gives its lists of patterns. -/
theorem givesPatterns_of_ofJson {entry : Json} {rule : Rule} (h : ofJson entry = .ok rule) :
    rule.GivesPatterns := by
  cases entry with
  | str name =>
    cases h
    exact ⟨rfl, rfl, rfl, rfl⟩
  | obj data =>
    cases h
    exact ⟨isGiven_patterns _ _, isGiven_patterns _ _, isGiven_patterns _ _, isGiven_patterns _ _⟩
  | _ => cases h

/-- Rules that are read give their lists of patterns. -/
theorem givesPatterns_of_listOfJson {entries : Json} {rules : List Rule}
    (h : listOfJson entries = .ok rules) : ∀ rule ∈ rules, rule.GivesPatterns := by
  intro rule hrule
  rw [listOfJson] at h
  split at h
  · obtain ⟨entry, -, hentry⟩ := exists_of_mem_mapM_ok h hrule
    exact givesPatterns_of_ofJson hentry
  · cases h

/-- The fields of a rule that is written. -/
def fields (rule : Rule) : List (String × Json) :=
  [ ("namespace", rule.scope),
    ("includeTypes", rule.includeTypes),
    ("excludeTypes", rule.excludeTypes),
    ("includeGenericTypes", rule.includeGenericTypes),
    ("excludeGenericTypes", rule.excludeGenericTypes),
    ("includeNested", rule.includeNested)]

theorem toJson_eq_obj (rule : Rule) : rule.toJson = .obj rule.fields := rfl

theorem isFieldName_settingNames : ∀ name ∈ settingNames, Config.isFieldName name = true := by
  decide

theorem nodup_bareName_settingNames : (settingNames.map Config.bareName).Nodup := by
  decide

/-- A rule is written with one key for each of its settings. -/
theorem spells_fields (rule : Rule) : Config.Spells rule.fields settingNames := by
  have hkeys : rule.fields.map (Config.lettersOf ·.1) =
      ["namespace", "includeTypes", "excludeTypes", "includeGenericTypes", "excludeGenericTypes",
        "includeNested"].map Config.lettersOf := rfl
  rw [Config.Spells, hkeys]
  decide

/-- The settings of a rule under their names. -/
def assigned (rule : Rule) : List (String × Json) :=
  settingNames.zip (rule.fields.map (·.2))

/-- The settings that are read where a rule is written. -/
def settings (rule : Rule) : List (String × Json) :=
  Config.settingsOf settingNames rule.fields

/-- A setting of a rule that is written is read as it was. -/
theorem getOr_settings {rule : Rule} {name : String} {value : Json}
    (hmem : (name, value) ∈ rule.assigned) (fallback : Json) :
    Json.getOr rule.settings name fallback = value := by
  have hnodup := Config.nodup_normalKey isFieldName_settingNames nodup_bareName_settingNames
  rw [settings, Config.getOr_settingsOf hnodup (List.of_mem_zip hmem).1,
    rule.spells_fields.setting?_eq isFieldName_settingNames nodup_bareName_settingNames hmem]
  rfl

theorem patterns_settings {rule : Rule} {name : String} {value : Json}
    (hmem : (name, value) ∈ rule.assigned) (hgiven : Config.isGiven value = true) :
    patterns rule.settings name = value := by
  rw [patterns, getOr_settings hmem]
  cases value <;> first | rfl | cases hgiven

/-- A rule that is written is read as it was. -/
theorem ofJson_toJson {rule : Rule} (h : rule.GivesPatterns) : ofJson rule.toJson = .ok rule := by
  have hscope : ("namespace", rule.scope) ∈ rule.assigned := by
    simp [assigned, settingNames, fields]
  have hinclude : ("include_types", rule.includeTypes) ∈ rule.assigned := by
    simp [assigned, settingNames, fields]
  have hexclude : ("exclude_types", rule.excludeTypes) ∈ rule.assigned := by
    simp [assigned, settingNames, fields]
  have hincludeGeneric : ("include_generic_types", rule.includeGenericTypes) ∈ rule.assigned := by
    simp [assigned, settingNames, fields]
  have hexcludeGeneric : ("exclude_generic_types", rule.excludeGenericTypes) ∈ rule.assigned := by
    simp [assigned, settingNames, fields]
  have hnested : ("include_nested", rule.includeNested) ∈ rule.assigned := by
    simp [assigned, settingNames, fields]
  rw [toJson_eq_obj, ofJson, ← settings, getOr_settings hscope,
    patterns_settings hinclude h.includeTypes, patterns_settings hexclude h.excludeTypes,
    patterns_settings hincludeGeneric h.includeGenericTypes,
    patterns_settings hexcludeGeneric h.excludeGenericTypes, getOr_settings hnested]

/-- Rules that are written are read as they were. -/
theorem listOfJson_toJson {rules : List Rule} (h : ∀ rule ∈ rules, rule.GivesPatterns) :
    listOfJson (.arr (rules.map toJson)) = .ok rules := by
  have hrules : (rules.map toJson).mapM ofJson = .ok rules := by
    rw [List.mapM_map]
    have hall : rules.mapM (ofJson ∘ toJson) = .ok (rules.map id) :=
      mapM_ok fun rule hrule => ofJson_toJson (h rule hrule)
    rwa [List.map_id] at hall
  have hlist : (Json.arr (rules.map toJson)).orElse (.arr []) = .arr (rules.map toJson) := by
    cases rules <;> rfl
  rw [listOfJson, hlist]
  exact hrules

end Rule

/-! ## Styles of enums -/

/-- The word for a style means the style. -/
theorem EnumStyle.ofJson_word (style : EnumStyle) : ofJson (.str style.word) = .ok style := by
  have hfind : (all.find? fun other => Config.normalKey other.word == Config.normalKey style.word) =
      some style := by
    cases style <;> decide +kernel
  rw [ofJson, Json.text_str, hfind]

namespace Config

/-! ## Configurations -/

theorem isFieldName_settingNames : ∀ name ∈ settingNames, isFieldName name = true := by
  decide

theorem nodup_bareName_settingNames : (settingNames.map bareName).Nodup := by
  decide

/-- A configuration is written with one key for each of its settings. -/
theorem spells_toFields (config : Config) : Spells config.toFields settingNames := by
  have hkeys : config.toFields.map (lettersOf ·.1) =
      ["manifest", "manifests", "outputPath", "outputFileName", "outputNamespace", "baseDirectory",
        "includeStaticClasses", "namespaces", "enumStyle", "hiddenTypeMarker", "indentSize",
        "useTabs"].map lettersOf := rfl
  rw [Spells, hkeys]
  decide

/-- The settings of a configuration under their names. -/
def assigned (config : Config) : List (String × Json) :=
  settingNames.zip (config.toFields.map (·.2))

/-- The settings that are written. -/
def written (config : Config) : List (String × Json) :=
  config.toFields.filter fun (_, value) => isGiven value

/-- The settings that are read from what is written. -/
def settings (config : Config) : List (String × Json) :=
  settingsOf settingNames config.written

theorem field?_settings {config : Config} {name : String} {value : Json}
    (hmem : (name, value) ∈ config.assigned) :
    Json.field? name config.settings = if isGiven value then some value else none := by
  have hnodup := nodup_normalKey isFieldName_settingNames nodup_bareName_settingNames
  rw [settings, field?_settingsOf hnodup (List.of_mem_zip hmem).1]
  exact config.spells_toFields.setting?_given isFieldName_settingNames nodup_bareName_settingNames
    hmem

/-- A setting that is written is read as it was, with the default in the place of null. -/
theorem getOr_settings {config : Config} {name : String} {value : Json}
    (hmem : (name, value) ∈ config.assigned) (fallback : Json) :
    Json.getOr config.settings name fallback = orDefault value fallback := by
  rw [Json.getOr, field?_settings hmem, orDefault]
  split <;> rfl

/-- The configuration as it is read back: of the settings that have a default other than null, those
that are null themselves take it. -/
def settled (config : Config) : Config :=
  { config with
    includeStaticClasses := orDefault config.includeStaticClasses (.bool false)
    hiddenMarker := orDefault config.hiddenMarker (.str defaultMarker)
    useTabs := orDefault config.useTabs (.bool false) }

theorem isGiven_of_isFilled {value : Json} (h : isFilled value = .ok true) : isGiven value = true := by
  cases value <;> first | rfl | cases h

theorem demand_eq_ok {condition : Bool} {fault : ConfigFault} {result : Unit}
    (h : demand condition fault = .ok result) : condition = true := by
  cases condition <;> first | rfl | cases h

/-- A configuration that is checked gives an output file and an indentation. -/
theorem isGiven_of_check {config : Config} (h : config.check = .ok ()) :
    isGiven config.outputPath = true ∧ isGiven config.outputFileName = true ∧
      isGiven config.indentSize = true := by
  rw [check] at h
  obtain ⟨single, -, h⟩ := bind_eq_ok h
  obtain ⟨_, -, h⟩ := bind_eq_ok h
  obtain ⟨_, -, h⟩ := bind_eq_ok h
  extract_lets rest at h
  -- what is demanded of several manifests does not matter here
  have hrest : rest () = .ok () := by
    split at h
    · obtain ⟨items, -, h⟩ := bind_eq_ok h
      obtain ⟨filled, -, h⟩ := bind_eq_ok h
      obtain ⟨_, -, h⟩ := bind_eq_ok h
      exact h
    · exact h
  obtain ⟨path, hpath, hrest⟩ := bind_eq_ok hrest
  obtain ⟨_, hpathDemand, hrest⟩ := bind_eq_ok hrest
  obtain ⟨name, hname, hrest⟩ := bind_eq_ok hrest
  obtain ⟨_, hnameDemand, hrest⟩ := bind_eq_ok hrest
  obtain ⟨_, -, hrest⟩ := bind_eq_ok hrest
  obtain ⟨scopes, -, hrest⟩ := bind_eq_ok hrest
  obtain ⟨_, -, hrest⟩ := bind_eq_ok hrest
  obtain ⟨negative, hnegative, -⟩ := bind_eq_ok hrest
  refine ⟨?_, ?_, ?_⟩
  · rw [demand_eq_ok hpathDemand] at hpath
    exact isGiven_of_isFilled hpath
  · rw [demand_eq_ok hnameDemand] at hname
    exact isGiven_of_isFilled hname
  · cases hsize : config.indentSize <;> first | rfl | (rw [hsize] at hnegative; cases hnegative)

/-- The style that is written is read as it was. -/
theorem enumStyleOf_settings (config : Config) :
    enumStyleOf config.settings = .ok config.enumStyle := by
  have hmem : ("enum_style", .str config.enumStyle.word) ∈ config.assigned := by
    simp [assigned, settingNames, toFields]
  have hsetting : Json.field? "enum_style" config.settings = some (.str config.enumStyle.word) :=
    field?_settings hmem
  rw [enumStyleOf, hsetting]
  exact EnumStyle.ofJson_word config.enumStyle

/-- The rules that are written are read as they were. -/
theorem listOfJson_settings {config : Config} (h : ∀ rule ∈ config.rules, rule.GivesPatterns) :
    Rule.listOfJson (Json.getOr config.settings "namespaces" .null) = .ok config.rules := by
  have hmem : ("namespaces", .arr (config.rules.map Rule.toJson)) ∈ config.assigned := by
    simp [assigned, settingNames, toFields]
  rw [getOr_settings hmem, orDefault_of_isGiven rfl]
  exact Rule.listOfJson_toJson h

theorem outputFileNameOf_settings {config : Config} (h : isGiven config.outputFileName = true) :
    outputFileNameOf config.settings = config.outputFileName := by
  have hmem : ("output_file_name", config.outputFileName) ∈ config.assigned := by
    simp [assigned, settingNames, toFields]
  rw [outputFileNameOf, getOr_settings hmem, orDefault_of_isGiven h]
  cases hname : config.outputFileName <;> first | rfl | (rw [hname] at h; cases h)

/-- The settings that are written are read as they were, with defaults in the place of null. -/
theorem ofFields_written {config : Config} (hrules : ∀ rule ∈ config.rules, rule.GivesPatterns)
    (hcheck : config.check = .ok ()) : ofFields config.written = .ok config.settled := by
  -- what the check asks for is given, and any other setting may be null
  obtain ⟨hpath, hname, hindent⟩ := isGiven_of_check hcheck
  have hmanifest : ("manifest", config.manifest) ∈ config.assigned := by
    simp [assigned, settingNames, toFields]
  have hmanifests : ("manifests", config.manifests) ∈ config.assigned := by
    simp [assigned, settingNames, toFields]
  have houtput : ("output_path", config.outputPath) ∈ config.assigned := by
    simp [assigned, settingNames, toFields]
  have hnamespace : ("output_namespace", config.outputNamespace) ∈ config.assigned := by
    simp [assigned, settingNames, toFields]
  have hbase : ("base_directory", config.baseDirectory) ∈ config.assigned := by
    simp [assigned, settingNames, toFields]
  have hstatic : ("include_static_classes", config.includeStaticClasses) ∈ config.assigned := by
    simp [assigned, settingNames, toFields]
  have hmarker : ("hidden_type_marker", config.hiddenMarker) ∈ config.assigned := by
    simp [assigned, settingNames, toFields]
  have hsize : ("indent_size", config.indentSize) ∈ config.assigned := by
    simp [assigned, settingNames, toFields]
  have htabs : ("use_tabs", config.useTabs) ∈ config.assigned := by
    simp [assigned, settingNames, toFields]
  rw [ofFields, ← settings, ofSettings, listOfJson_settings hrules, enumStyleOf_settings,
    outputFileNameOf_settings hname, getOr_settings hmanifest, getOr_settings hmanifests,
    getOr_settings houtput, getOr_settings hnamespace, getOr_settings hbase,
    getOr_settings hstatic, getOr_settings hmarker, getOr_settings hsize, getOr_settings htabs,
    orDefault_of_isGiven hpath, orDefault_of_isGiven hindent, orDefault_null, orDefault_null,
    orDefault_null, orDefault_null]
  rfl

end Config

end Ambient
