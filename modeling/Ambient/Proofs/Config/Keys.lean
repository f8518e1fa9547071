/-
  Ambient.Proofs.Config.Keys

  What the keys of a configuration mean. The step that reads one key sets the setting it means and no
  other, so after a whole object each setting has the value of the last key that means it
  (`field?_settingsOf`). For names in the snake style a key means a setting exactly if its characters
  other than separators, in lower case, are those of the name (`settingsOf_of_fieldNames`).
-/
import Ambient.Config.Keys
import Ambient.Proofs.Text.Words
import Mathlib.Data.List.Induction
import Mathlib.Data.List.Nodup

namespace Ambient

/-! ## Fields that are set -/

namespace Json

theorem field?_setField (key : String) (value : Json) (fields : List (String × Json))
    (name : String) :
    field? name (setField key value fields) =
      if key = name then some value else field? name fields := by
  induction fields with
  | nil => simp [setField, field?]
  | cons field rest ih =>
    obtain ⟨k, v⟩ := field
    rw [setField]
    by_cases hk : k = key
    · rw [if_pos (by simpa using hk), hk]
      by_cases hkey : key = name <;> simp [field?, hkey]
    · rw [if_neg (by simpa using hk), field?, field?, ih]
      by_cases hname : k = name
      · simp [hname, show key ≠ name from fun h => hk (hname.trans h.symm)]
      · simp [hname]

theorem mem_of_field? {name : String} {value : Json} {fields : List (String × Json)}
    (h : field? name fields = some value) : (name, value) ∈ fields := by
  induction fields with
  | nil => cases h
  | cons field rest ih =>
    obtain ⟨k, v⟩ := field
    rw [field?] at h
    split at h
    · rename_i hk
      cases h
      simp [beq_iff_eq.mp hk]
    · exact List.mem_cons_of_mem _ (ih h)

theorem mem_setField {key : String} {value : Json} {fields : List (String × Json)}
    {field : String × Json} (h : field ∈ setField key value fields) :
    field = (key, value) ∨ field ∈ fields := by
  induction fields with
  | nil => exact .inl (List.mem_singleton.mp h)
  | cons first rest ih =>
    obtain ⟨k, v⟩ := first
    rw [setField] at h
    split at h
    · rename_i hk
      rw [beq_iff_eq.mp hk] at h
      exact (List.mem_cons.mp h).imp_right (List.mem_cons_of_mem _)
    · rcases List.mem_cons.mp h with rfl | hrest
      · exact .inr (by simp)
      · exact (ih hrest).imp_right (List.mem_cons_of_mem _)

/-- No key is there twice after a field is set. -/
theorem nodup_keys_setField {fields : List (String × Json)} (h : (fields.map (·.1)).Nodup)
    (key : String) (value : Json) : ((setField key value fields).map (·.1)).Nodup := by
  induction fields with
  | nil => simp [setField]
  | cons first rest ih =>
    obtain ⟨k, v⟩ := first
    obtain ⟨hfirst, hrest⟩ := List.nodup_cons.mp h
    rw [setField]
    split
    · exact h
    · rename_i hk
      refine List.nodup_cons.mpr ⟨fun hmem => ?_, ih hrest⟩
      obtain ⟨field, hfield, hsame⟩ := List.mem_map.mp hmem
      rcases mem_setField hfield with rfl | hfield
      · exact hk (by simpa using hsame.symm)
      · exact hfirst (List.mem_map.mpr ⟨field, hfield, hsame⟩)

end Json

namespace Config

variable {names : List String}

/-! ## Meanings -/

theorem mem_of_meaning? {key name : String} (h : meaning? names key = some name) :
    name ∈ names ∧ normalKey name = normalKey key := by
  have hmem := List.mem_filter.mp (List.mem_of_getLast? h)
  exact ⟨hmem.1, by simpa using hmem.2⟩

theorem meaning?_eq_none_iff {key : String} :
    meaning? names key = none ↔ ∀ name ∈ names, normalKey name ≠ normalKey key := by
  rw [meaning?, List.getLast?_eq_none_iff, List.filter_eq_nil_iff]
  simp

/-- Among names that are told apart, a key means the one that it spells. -/
theorem meaning?_eq_some_iff (hnames : (names.map normalKey).Nodup) {name : String}
    (hname : name ∈ names) {key : String} :
    meaning? names key = some name ↔ normalKey key = normalKey name := by
  refine ⟨fun h => (mem_of_meaning? h).2.symm, fun hkey => ?_⟩
  cases hmeaning : meaning? names key with
  | none => exact absurd hkey.symm (meaning?_eq_none_iff.mp hmeaning name hname)
  | some other =>
    obtain ⟨hother, hsame⟩ := mem_of_meaning? hmeaning
    rw [List.inj_on_of_nodup_map hnames hother hname (hsame.trans hkey)]

/-! ## Settings -/

/-- The value of the last key that spells a name. -/
def setting? (data : List (String × Json)) (name : String) : Option Json :=
  (data.filter fun field => normalKey field.1 == normalKey name).getLast?.map (·.2)

theorem setting?_concat (data : List (String × Json)) (key : String) (value : Json)
    (name : String) :
    setting? (data ++ [(key, value)]) name =
      if normalKey key = normalKey name then some value else setting? data name := by
  by_cases hkey : normalKey key = normalKey name <;> simp [setting?, hkey]

/-- The step that reads one key. -/
theorem settingsOf_concat (names : List String) (data : List (String × Json)) (key : String)
    (value : Json) :
    settingsOf names (data ++ [(key, value)]) =
      match meaning? names key with
      | some name => Json.setField name value (settingsOf names data)
      | none => settingsOf names data := by
  rw [settingsOf, List.foldl_append]
  rfl

/-- Each setting has the value of the last key that spells its name. -/
theorem field?_settingsOf (hnames : (names.map normalKey).Nodup) {name : String}
    (hname : name ∈ names) (data : List (String × Json)) :
    Json.field? name (settingsOf names data) = setting? data name := by
  induction data using List.reverseRecOn with
  | nil => rfl
  | append_singleton data field ih =>
    obtain ⟨key, value⟩ := field
    rw [settingsOf_concat, setting?_concat, ← ih]
    cases hmeaning : meaning? names key with
    | none =>
      have hkey := meaning?_eq_none_iff.mp hmeaning name hname
      rw [if_neg (Ne.symm hkey)]
    | some other =>
      -- the key sets this setting exactly if it means it
      have hset : meaning? names key = some name ↔ normalKey key = normalKey name :=
        meaning?_eq_some_iff hnames hname
      rw [hmeaning, Option.some_inj] at hset
      simp only [Json.field?_setField, hset]

/-- What is set is one of the settings, and it has the value of a key. -/
theorem mem_settingsOf {data : List (String × Json)} {field : String × Json}
    (h : field ∈ settingsOf names data) : field.1 ∈ names ∧ ∃ key, (key, field.2) ∈ data := by
  induction data using List.reverseRecOn with
  | nil => cases h
  | append_singleton data last ih =>
    obtain ⟨key, value⟩ := last
    have hbefore : field ∈ settingsOf names data →
        field.1 ∈ names ∧ ∃ k, (k, field.2) ∈ data ++ [(key, value)] := fun hmem =>
      have ⟨hname, k, hk⟩ := ih hmem
      ⟨hname, k, List.mem_append_left _ hk⟩
    rw [settingsOf_concat] at h
    split at h
    · rename_i hmeaning
      rcases Json.mem_setField h with rfl | hmem
      · exact ⟨(mem_of_meaning? hmeaning).1, key, by simp⟩
      · exact hbefore hmem
    · exact hbefore h

theorem nodup_keys_settingsOf (names : List String) (data : List (String × Json)) :
    ((settingsOf names data).map (·.1)).Nodup := by
  induction data using List.reverseRecOn with
  | nil => exact List.nodup_nil
  | append_singleton data field ih =>
    rw [settingsOf_concat]
    split
    · exact Json.nodup_keys_setField ih _ _
    · exact ih

/-- Keys that mean no setting can be left out. -/
theorem settingsOf_filter {kept : String → Bool}
    (hkept : ∀ key, kept key = false → meaning? names key = none) (data : List (String × Json)) :
    settingsOf names (data.filter fun field => kept field.1) = settingsOf names data := by
  induction data using List.reverseRecOn with
  | nil => rfl
  | append_singleton data field ih =>
    obtain ⟨key, value⟩ := field
    rw [settingsOf_concat, List.filter_append]
    cases hkey : kept key with
    | false => simp [hkey, hkept key hkey, ih]
    | true => simp [hkey, settingsOf_concat, ih]

/-! ## Keys by their letters -/

/-- The characters of a key other than hyphens, underscores and blanks, in lower case. -/
def lettersOf (key : String) : String :=
  String.ofList (Text.lower (key.toList.filter Text.isKeyChar))

/-- A name without its underscores. -/
def bareName (name : String) : String :=
  String.ofList (name.toList.filter (· != '_'))

/-- A character of a name of a field: a small ASCII letter, a digit or an underscore. -/
def isFieldChar (c : Char) : Bool :=
  Text.isAsciiLower c || Text.isAsciiDigit c || c == '_'

/-- Whether a text is a name of a field in the snake style. -/
def isFieldName (name : String) : Bool :=
  name.toList.all isFieldChar

theorem toNat_of_isFieldChar {c : Char} (h : isFieldChar c = true) :
    48 ≤ c.toNat ∧ c.toNat ≤ 57 ∨ c.toNat = 95 ∨ 97 ≤ c.toNat ∧ c.toNat ≤ 122 := by
  have h' : (('a'.toNat ≤ c.toNat ∧ c.toNat ≤ 'z'.toNat) ∨
      ('0'.toNat ≤ c.toNat ∧ c.toNat ≤ '9'.toNat)) ∨ c = '_' := by
    simpa [isFieldChar, Text.isAsciiLower, Text.isAsciiDigit] using h
  rcases h' with (hlower | hdigit) | rfl
  · exact .inr (.inr hlower)
  · exact .inl hdigit
  · exact .inr (.inl rfl)

theorem isAsciiUpper_of_isFieldChar {c : Char} (h : isFieldChar c = true) :
    Text.isAsciiUpper c = false := by
  have hrange := toNat_of_isFieldChar h
  rw [← Bool.not_eq_true, Text.isAsciiUpper, Bool.and_eq_true, decide_eq_true_eq, decide_eq_true_eq]
  rintro ⟨hA, hZ⟩
  have hA : 65 ≤ c.toNat := hA
  have hZ : c.toNat ≤ 90 := hZ
  omega

/-- Lower case leaves the characters of names as they are, and none of them is a sigma. -/
theorem lowerChar_of_isFieldChar {c : Char} (h : isFieldChar c = true) :
    Text.lowerChar c = [c] ∧ c ≠ 'Σ' ∧ c ≠ 'σ' ∧ c ≠ 'ς' := by
  have hrange := toNat_of_isFieldChar h
  have hother : ∀ {d : Char}, 127 < d.toNat → c ≠ d := by
    rintro d hd rfl
    omega
  refine ⟨?_, hother (by decide), hother (by decide), hother (by decide)⟩
  rw [Text.lowerChar, if_pos (by omega), isAsciiUpper_of_isFieldChar h]
  rfl

theorem lowerAfter_of_isFieldChar {text : List Char} (h : ∀ c ∈ text, isFieldChar c = true)
    (before : List Char) : Text.lowerAfter before text = text := by
  induction text generalizing before with
  | nil => rfl
  | cons c rest ih =>
    obtain ⟨hlower, hsigma, -⟩ := lowerChar_of_isFieldChar (h c (by simp))
    rw [Text.lowerAfter, if_neg (by simpa using hsigma), hlower,
      ih (fun d hd => h d (by simp [hd]))]
    rfl

/-- A name has no hyphen and no blank. -/
theorem isKeyChar_of_isFieldChar {c : Char} (h : isFieldChar c = true) :
    Text.isKeyChar c = (c != '_') := by
  have hrange := toNat_of_isFieldChar h
  have hgap : Text.isWordGap c = false := by
    rw [← Bool.not_eq_true]
    intro hgap
    simp only [Text.isWordGap, Text.isBlank, Bool.or_eq_true, Bool.and_eq_true,
      decide_eq_true_eq, beq_iff_eq] at hgap
    rcases hgap with rfl | hblank
    · exact absurd hrange (by decide)
    · omega
  rw [Text.isKeyChar, hgap]
  rfl

theorem lettersOf_of_isFieldName {name : String} (h : isFieldName name = true) :
    lettersOf name = bareName name := by
  have hchars : ∀ c ∈ name.toList, isFieldChar c = true := List.all_eq_true.mp h
  have hfilter : name.toList.filter Text.isKeyChar = name.toList.filter (· != '_') :=
    List.filter_congr fun c hc => isKeyChar_of_isFieldChar (hchars c hc)
  rw [lettersOf, hfilter, Text.lower,
    lowerAfter_of_isFieldChar fun c hc => hchars c (List.mem_filter.mp hc).1]
  rfl

/-- Where a name is spelled, the form of a sigma does not matter: the words of a key and its
characters without separators spell the same names. -/
theorem normalKey_eq_bareName_iff {name : String} (h : isFieldName name = true) (key : String) :
    normalKey key = bareName name ↔ lettersOf key = bareName name := by
  have hsigma : ∀ c ∈ name.toList.filter (· != '_'), c ≠ 'σ' ∧ c ≠ 'ς' := fun c hc =>
    (lowerChar_of_isFieldChar (List.all_eq_true.mp h c (List.mem_filter.mp hc).1)).2.2
  rw [normalKey, lettersOf, bareName, String.ofList_inj, String.ofList_inj,
    ← Text.map_medial_eq_iff hsigma, Text.map_medial_filter_snakeCase,
    Text.map_medial_eq_iff hsigma]

theorem normalKey_of_isFieldName {name : String} (h : isFieldName name = true) :
    normalKey name = bareName name :=
  (normalKey_eq_bareName_iff h name).mpr (lettersOf_of_isFieldName h)

theorem normalKey_eq_iff_lettersOf {name : String} (h : isFieldName name = true) (key : String) :
    normalKey key = normalKey name ↔ lettersOf key = bareName name := by
  rw [normalKey_of_isFieldName h, normalKey_eq_bareName_iff h]

/-- Names that are different without their underscores are told apart. -/
theorem nodup_normalKey (hnames : ∀ name ∈ names, isFieldName name = true)
    (hdistinct : (names.map bareName).Nodup) : (names.map normalKey).Nodup := by
  have hbare : names.map normalKey = names.map bareName :=
    List.map_congr_left fun name hname => normalKey_of_isFieldName (hnames name hname)
  rwa [hbare]

/-- Whether a key spells one of some names. -/
def spellsOneOf (names : List String) (key : String) : Bool :=
  names.any fun name => lettersOf key == bareName name

/-- A key that spells none of the names means none of them. -/
theorem meaning?_of_not_spellsOneOf (hnames : ∀ name ∈ names, isFieldName name = true) {key : String}
    (h : spellsOneOf names key = false) : meaning? names key = none := by
  rw [spellsOneOf, List.any_eq_false] at h
  refine meaning?_eq_none_iff.mpr fun name hname hsame => h name hname ?_
  rw [beq_iff_eq, ← normalKey_eq_iff_lettersOf (hnames name hname)]
  exact hsame.symm

/-- Keys match by their letters. For names of fields that are different without their underscores,
the object gives each the value of the last key whose characters other than hyphens, underscores and
blanks, in lower case, are those of the name, and nothing where there is no such key. Nothing else is
given, and all other keys could as well be left out. -/
theorem settingsOf_of_fieldNames (hnames : ∀ name ∈ names, isFieldName name = true)
    (hdistinct : (names.map bareName).Nodup) (data : List (String × Json)) :
    (∀ name ∈ names, Json.field? name (settingsOf names data) =
        (data.filter fun field => lettersOf field.1 == bareName name).getLast?.map (·.2)) ∧
      (∀ field ∈ settingsOf names data, field.1 ∈ names) ∧
      ((settingsOf names data).map (·.1)).Nodup ∧
      settingsOf names (data.filter fun field => spellsOneOf names field.1) =
        settingsOf names data := by
  refine ⟨fun name hname => ?_, fun field hfield => (mem_settingsOf hfield).1,
    nodup_keys_settingsOf names data,
    settingsOf_filter (fun _ hkey => meaning?_of_not_spellsOneOf hnames hkey) data⟩
  have hkeys : (data.filter fun field => normalKey field.1 == normalKey name) =
      data.filter fun field => lettersOf field.1 == bareName name := by
    refine List.filter_congr fun field _ => ?_
    rw [Bool.eq_iff_iff, beq_iff_eq, beq_iff_eq, normalKey_eq_iff_lettersOf (hnames name hname)]
  rw [field?_settingsOf (nodup_normalKey hnames hdistinct) hname, setting?, hkeys]

/-- Three styles of one key, the last of which counts, and a key that means nothing. -/
theorem settingsOf_of_fieldNames_styles :
    let names := ["output_path", "use_tabs"]
    let data := [("Output-Path", Json.str "a"), ("OUTPUT_PATH", .str "b"), ("outputs", .null),
      ("output  path", .str "c")]
    (∀ name ∈ names, isFieldName name = true) ∧ (names.map bareName).Nodup ∧
      Json.field? "output_path" (settingsOf names data) = some (.str "c") ∧
      Json.field? "use_tabs" (settingsOf names data) = none := by
  intro names data
  have hnames : ∀ name ∈ names, isFieldName name = true := by decide
  have hdistinct : (names.map bareName).Nodup := by decide +kernel
  have hread := (settingsOf_of_fieldNames hnames hdistinct data).1
  refine ⟨hnames, hdistinct, ?_, ?_⟩
  · rw [hread "output_path" (by decide)]
    with_unfolding_all rfl
  · rw [hread "use_tabs" (by decide)]
    with_unfolding_all rfl

end Config

end Ambient
