/-
  Ambient.Proofs.Manifest.Translation

  What type descriptions mean. A description is a tree of shapes, and its text is made from the texts
  of its parts (`Description.text`). Reading an object that a description is written as, classifying
  the type that is read and writing its form gives that text.
-/
import Ambient.Proofs.Declaration.TypeText
import Ambient.Proofs.Manifest.Shapes
import Mathlib.Data.List.TakeWhile

namespace Ambient

/-! ## Names with markers -/

namespace Arity

variable {name : String} (h : isMarked name = false)
include h

theorem ne_marker_of_mem : ∀ c ∈ name.toList, (c != arityMarker) = true := by
  intro c hc
  rw [bne_iff_ne]
  rintro rfl
  simp [isMarked, hc] at h

/-- A name without a marker is left as it is. -/
theorem strip_of_unmarked : strip name = name := by
  rw [strip, split?, List.dropWhile_eq_nil_iff.mpr (ne_marker_of_mem h)]

/-- A marker that is put after a name that is not empty is taken off again. -/
theorem strip_mark (hne : name ≠ "") (n : Nat) : strip (mark name n) = name := by
  have hno := ne_marker_of_mem h
  have hchars : (mark name n).toList = name.toList ++ arityMarker :: (toString n).toList := by
    simp [mark]
  have hnonempty : name.toList.isEmpty = false := by simpa using hne
  rw [strip, split?, hchars, List.takeWhile_append_of_pos hno, List.dropWhile_append_of_pos hno]
  simp [hnonempty]

end Arity

namespace TypeExpr

/-- A marker that stands for the arguments of a named type does not show in its form. -/
theorem ofRef_named {name : String} {kind : TypeKind} (hkind : kind.isNamed = true) (scope : Json)
    {arguments : List TypeRef} (hname : name = "" → arguments = []) :
    ofRef (.named name kind scope arguments) =
      named (Arity.strip name) kind scope false (ofRefs arguments) := by
  have hstrip : Arity.strip (TypeRef.named name kind scope arguments).name = Arity.strip name := by
    rw [TypeRef.named]
    split
    · rename_i hmark
      simp only [Bool.and_eq_true, Bool.not_eq_true', List.isEmpty_eq_false_iff] at hmark
      rw [Arity.strip_mark hmark.2 fun he => hmark.1 (hname he), Arity.strip_of_unmarked hmark.2]
    · rfl
  rw [← hstrip]
  cases kind <;> first | rfl | cases hkind

end TypeExpr

/-! ## Descriptions -/

namespace Manifest

/-- A description of a type, by its shape. -/
inductive Description where
  | word (word : String)
  | nullable (d : Description)
  | array (d : Description)
  | list (d : Description)
  | map (key value : Description)
  | tuple (ds : List Description)
  | parameter (name : String)
  | enumerable
  /-- A declared type, with the namespace and the arguments that it is described with. -/
  | named (isEnum : Bool) (name : String) (scope : Json) (arguments : List Description)

namespace Description

/-- The words for primitive types with their texts. -/
def wordTexts : List (String × String) :=
  [("string", "string"), ("char", "string"), ("guid", "string"), ("timeonly", "string"),
   ("timespan", "string"), ("bool", "boolean"), ("boolean", "boolean"), ("byte", "number"),
   ("sbyte", "number"), ("short", "number"), ("int16", "number"), ("ushort", "number"),
   ("uint16", "number"), ("int", "number"), ("int32", "number"), ("uint", "number"),
   ("uint32", "number"), ("long", "number"), ("int64", "number"), ("ulong", "number"),
   ("uint64", "number"), ("float", "number"), ("single", "number"), ("double", "number"),
   ("decimal", "number"), ("datetime", "Date"), ("datetimeoffset", "Date"), ("dateonly", "Date"),
   ("object", "any")]

/-- The text of a word, whatever its case and the blanks around it. -/
def wordText (word : String) : String :=
  (wordTexts.lookup (String.ofList (Text.lower (Text.trim word.toList)))).getD "any"

/-- The text of a declared type with a name and the texts of its arguments: a tuple, a list or a map,
or a reference to an interface. Enums are only referred to. -/
def namedText (scopes : Scopes) (isEnum : Bool) (name : String) (scope : Json)
    (arguments : List String) : String :=
  let reference := scopes.qualify
    ((if isEnum then name else Naming.interfaceName name) ++ TypeExpr.bracketed arguments) scope
  if isEnum then reference
  else if TypeExpr.tupleNames.contains name && arguments.length != 0 then
    "[" ++ String.joinWith ", " arguments ++ "]"
  else match arguments with
    | [element] => if TypeExpr.listNames.contains name then element ++ "[]" else reference
    | [key, value] =>
      if TypeExpr.mapNames.contains name then "\x7b [key: " ++ key ++ "]: " ++ value ++ " \x7d"
      else reference
    | _ => reference

mutual

/-- The text of a description under the names of the namespaces of a run. -/
def text (scopes : Scopes) : Description → String
  | .word w => wordText w
  | .nullable d => text scopes d
  | .array d => text scopes d ++ "[]"
  | .list d => text scopes d ++ "[]"
  | .map key value => "\x7b [key: " ++ text scopes key ++ "]: " ++ text scopes value ++ " \x7d"
  | .tuple ds => "[" ++ String.joinWith ", " (texts scopes ds) ++ "]"
  | .parameter name => name
  | .enumerable => "any[]"
  | .named isEnum name scope arguments =>
    namedText scopes isEnum (Arity.strip name) scope (texts scopes arguments)

/-- The texts of some descriptions. -/
def texts (scopes : Scopes) : List Description → List String
  | [] => []
  | d :: ds => text scopes d :: texts scopes ds

end

/-- Whether the outermost shape says that there may be nothing. -/
def isNullable : Description → Bool
  | .nullable _ => true
  | _ => false

end Description

/-! ## Descriptions as values -/

/-- An object names a declared type by a key and gives no other kind for it. Its namespace can serve as
a key, and its name may be empty only where there are no arguments. -/
structure Names (fields : List (String × Json)) (key name : String) (scope : Json)
    (arguments : List Json) : Prop where
  told : Tells fields key (.str name)
  plain : Json.field? "kind" fields = none
  scope_eq : Json.getOr fields "namespace" .null = scope
  isKey : scope.isKey = true
  arguments_eq : (Json.getOr fields "arguments" .null).orElse (.arr []) = .arr arguments
  ne_empty : name = "" → arguments = []

mutual

/-- A description is written as a value: a word by itself, and any other shape as an object with the
one key of that shape, in any place among the fields. -/
inductive Written : Description → Json → Prop where
  | word (w : String) : Written (.word w) (.str w)
  | primitive {fields : List (String × Json)} {w : String}
      (h : Tells fields "primitive" (.str w)) : Written (.word w) (.obj fields)
  | nullable {fields : List (String × Json)} {d : Description} {v : Json}
      (h : Tells fields "nullable" v) (hd : Written d v) : Written (.nullable d) (.obj fields)
  | array {fields : List (String × Json)} {d : Description} {v : Json}
      (h : Tells fields "array" v) (hd : Written d v) : Written (.array d) (.obj fields)
  | list {fields : List (String × Json)} {d : Description} {v : Json}
      (h : Tells fields "list" v) (hd : Written d v) : Written (.list d) (.obj fields)
  | map {fields : List (String × Json)} {d e : Description} {v w : Json}
      (h : Tells fields "map" (.arr [v, w])) (hd : Written d v) (he : Written e w) :
      Written (.map d e) (.obj fields)
  | tuple {fields : List (String × Json)} {ds : List Description} {vs : List Json}
      (h : Tells fields "tuple" (.arr vs)) (hne : vs ≠ []) (hds : AllWritten ds vs) :
      Written (.tuple ds) (.obj fields)
  | parameter {fields : List (String × Json)} {name : String}
      (h : Tells fields "parameter" (.str name)) : Written (.parameter name) (.obj fields)
  | enumerable {fields : List (String × Json)}
      (h : Tells fields "enumerable" (.bool true)) : Written .enumerable (.obj fields)
  | named {fields : List (String × Json)} {key name : String} {scope : Json}
      {ds : List Description} {vs : List Json}
      (hkey : key ∈ ["class", "interface", "struct", "generic"])
      (h : Names fields key name scope vs) (hds : AllWritten ds vs) :
      Written (.named false name scope ds) (.obj fields)
  | enum {fields : List (String × Json)} {name : String} {scope : Json}
      {ds : List Description} {vs : List Json}
      (h : Names fields "enum" name scope vs) (hds : AllWritten ds vs) :
      Written (.named true name scope ds) (.obj fields)

/-- Descriptions are written as values one by one. -/
inductive AllWritten : List Description → List Json → Prop where
  | nil : AllWritten [] []
  | cons {d : Description} {v : Json} {ds : List Description} {vs : List Json}
      (hd : Written d v) (hds : AllWritten ds vs) : AllWritten (d :: ds) (v :: vs)

end

/-! ## Words -/

/-- The primitive type of a key has the text that the key has in the table. -/
theorem wordTexts_lookup (key : String) :
    (((Primitive.aliases.lookup key).orElse fun _ => Primitive.ofKeyword? key).map
      TypeExpr.primitiveText).getD "any" = (Description.wordTexts.lookup key).getD "any" := by
  have hknown : ∀ word ∈ Description.wordTexts.map (·.1),
      (((Primitive.aliases.lookup word).orElse fun _ => Primitive.ofKeyword? word).map
        TypeExpr.primitiveText).getD "any" = (Description.wordTexts.lookup word).getD "any" := by
    decide +kernel
  by_cases hkey : key ∈ Description.wordTexts.map (·.1)
  · exact hknown key hkey
  · -- a key that is not in the table is neither a keyword nor another word for one
    have hkeywords : ∀ p ∈ Primitive.all, p.keyword ∈ Description.wordTexts.map (·.1) := by
      decide +kernel
    have haliases : ∀ entry ∈ Primitive.aliases, entry.1 ∈ Description.wordTexts.map (·.1) := by
      decide +kernel
    have hlookup : Primitive.aliases.lookup key = none := by
      rw [List.lookup_eq_none_iff]
      intro entry hentry
      rw [bne_iff_ne]
      rintro rfl
      exact hkey (haliases entry hentry)
    have hkeyword : Primitive.ofKeyword? key = none := by
      rw [Primitive.ofKeyword?, List.find?_eq_none]
      intro p hp heq
      exact hkey (eq_of_beq heq ▸ hkeywords p hp)
    have htable : Description.wordTexts.lookup key = none := by
      rw [List.lookup_eq_none_iff]
      intro entry hentry
      rw [bne_iff_ne]
      rintro rfl
      exact hkey (List.mem_map_of_mem hentry)
    rw [hlookup, hkeyword, htable]
    rfl

theorem text_primitive (scopes : Scopes) (word name : String) :
    (TypeExpr.ofRef ((Primitive.ofWord? word).elim (.unknown name false) .ofPrimitive)).text scopes =
      Description.wordText word := by
  have hword := wordTexts_lookup (String.ofList (Text.lower (Text.trim word.toList)))
  rw [Description.wordText, ← hword]
  show _ = ((Primitive.ofWord? word).map TypeExpr.primitiveText).getD "any"
  cases Primitive.ofWord? word <;> rfl

/-! ## Named types -/

/-- The text of a named type is made from the texts of its arguments. -/
theorem text_named (scopes : Scopes) (name : String) (kind : TypeKind) (scope : Json)
    (arguments : List TypeExpr) :
    (TypeExpr.named name kind scope false arguments).text scopes =
      Description.namedText scopes (kind == .enum) name scope
        (TypeExpr.texts scopes arguments) := by
  have hreference : ∀ isEnum : Bool,
      (TypeExpr.reference name scope isEnum arguments).text scopes = scopes.qualify
        ((if isEnum then name else Naming.interfaceName name) ++
          TypeExpr.bracketed (TypeExpr.texts scopes arguments)) scope := fun _ => rfl
  unfold TypeExpr.named Description.namedText
  cases henum : kind == .enum with
  | true => simp [hreference]
  | false =>
    -- no argument, one, two or more
    match arguments with
    | [] => simp [TypeExpr.collection?, hreference, TypeExpr.texts]
    | [element] =>
      cases htuple : TypeExpr.tupleNames.contains name <;>
        cases hlist : TypeExpr.listNames.contains name <;>
        simp [-List.contains_eq_mem, TypeExpr.collection?, TypeExpr.texts, TypeExpr.text, hreference,
          htuple, hlist]
    | [key, value] =>
      cases htuple : TypeExpr.tupleNames.contains name <;>
        cases hmap : TypeExpr.mapNames.contains name <;>
        simp [-List.contains_eq_mem, TypeExpr.collection?, TypeExpr.texts, TypeExpr.text, hreference,
          htuple, hmap]
    | _ :: _ :: _ :: _ =>
      cases htuple : TypeExpr.tupleNames.contains name <;>
        simp [-List.contains_eq_mem, TypeExpr.collection?, TypeExpr.texts, TypeExpr.text, hreference,
          htuple]

/-- What is looked up to write a named type is its namespace or is looked up for an argument. -/
theorem mem_lookups_named {name : String} {kind : TypeKind} {scope : Json}
    {arguments : List TypeExpr} {other : Json}
    (h : other ∈ (TypeExpr.named name kind scope false arguments).lookups) :
    other = scope ∨ other ∈ TypeExpr.allLookups arguments := by
  have hreference : ∀ isEnum : Bool,
      other ∈ (TypeExpr.reference name scope isEnum arguments).lookups →
        other = scope ∨ other ∈ TypeExpr.allLookups arguments := by
    intro isEnum h
    simp only [TypeExpr.lookups, List.mem_append, List.mem_singleton] at h
    exact h.symm
  -- an enum is a reference; another name can stand for a collection, which looks nothing up itself
  unfold TypeExpr.named at h
  cases henum : kind == .enum with
  | true =>
    rw [henum] at h
    exact hreference true h
  | false =>
    rw [henum] at h
    cases hform : TypeExpr.collection? name arguments with
    | none =>
      simp only [hform] at h
      exact hreference false h
    | some form =>
      simp only [hform] at h
      refine .inr ?_
      rcases TypeExpr.collection?_cases hform with
        rfl | ⟨element, rfl, rfl⟩ | ⟨key, value, rfl, rfl⟩
      · exact h
      · simpa [TypeExpr.allLookups, TypeExpr.lookups] using h
      · simpa [TypeExpr.allLookups, TypeExpr.lookups] using h

/-! ## Translation -/

/-- A type that is read from a description has the text of the description, and its namespaces can be
looked up. -/
structure Translates (scopes : Scopes) (d : Description) (t : TypeRef) : Prop where
  text_eq : (TypeExpr.ofRef t).text scopes = d.text scopes
  isKey : ∀ scope ∈ (TypeExpr.ofRef t).lookups, scope.isKey = true
  isNullable_eq : (t.kind == .nullable) = d.isNullable

/-- Types that are read from descriptions have their texts, and their namespaces can be looked up. -/
structure AllTranslate (scopes : Scopes) (ds : List Description) (ts : List TypeRef) : Prop where
  texts_eq : TypeExpr.texts scopes (TypeExpr.ofRefs ts) = Description.texts scopes ds
  isKey : ∀ scope ∈ TypeExpr.allLookups (TypeExpr.ofRefs ts), scope.isKey = true

variable {scopes : Scopes} {d e : Description} {ds : List Description} {t u : TypeRef}
  {ts : List TypeRef}

theorem AllTranslate.nil : AllTranslate scopes [] [] :=
  ⟨rfl, by simp [TypeExpr.ofRefs, TypeExpr.allLookups]⟩

theorem AllTranslate.cons (ht : Translates scopes d t) (hts : AllTranslate scopes ds ts) :
    AllTranslate scopes (d :: ds) (t :: ts) := by
  constructor
  case texts_eq =>
    rw [TypeExpr.ofRefs, TypeExpr.texts, ht.text_eq, hts.texts_eq]
    rfl
  case isKey =>
    intro scope hscope
    rw [TypeExpr.ofRefs, TypeExpr.allLookups] at hscope
    rcases List.mem_append.mp hscope with hfirst | hrest
    · exact ht.isKey scope hfirst
    · exact hts.isKey scope hrest

namespace Translates

theorem word (scopes : Scopes) (word name : String) :
    Translates scopes (.word word)
      ((Primitive.ofWord? word).elim (.unknown name false) .ofPrimitive) := by
  constructor
  case text_eq => exact text_primitive scopes word name
  case isKey =>
    cases Primitive.ofWord? word <;> exact fun _ h => (nomatch h)
  case isNullable_eq => cases Primitive.ofWord? word <;> rfl

theorem nullable (h : Translates scopes d t) : Translates scopes (.nullable d) (.nullableOf t) :=
  ⟨h.text_eq, h.isKey, rfl⟩

theorem array (h : Translates scopes d t) : Translates scopes (.array d) (.arrayOf t) :=
  ⟨congrArg (· ++ "[]") h.text_eq, h.isKey, rfl⟩

/-- A named type translates the description that names it. -/
theorem named {isEnum : Bool} {kind : TypeKind} (hkind : kind.isNamed = true)
    (henum : (kind == .enum) = isEnum) {name : String} {scope : Json} (hscope : scope.isKey = true)
    (hts : AllTranslate scopes ds ts) (hname : name = "" → ts = []) :
    Translates scopes (.named isEnum name scope ds) (.named name kind scope ts) := by
  have hform := TypeExpr.ofRef_named hkind scope hname
  constructor
  case text_eq =>
    rw [hform, text_named, henum, hts.texts_eq]
    rfl
  case isKey =>
    intro other hother
    rw [hform] at hother
    rcases mem_lookups_named hother with rfl | hargument
    · exact hscope
    · exact hts.isKey other hargument
  case isNullable_eq => cases kind <;> first | rfl | cases hkind

/-- A description with the text of another one is translated by the same types. -/
theorem of_text_eq (h : Translates scopes d t) (htext : d.text scopes = e.text scopes)
    (hnullable : d.isNullable = e.isNullable) : Translates scopes e t :=
  ⟨h.text_eq.trans htext, h.isKey, h.isNullable_eq.trans hnullable⟩

theorem list (h : Translates scopes d t) :
    Translates scopes (.list d) (.named "List" .classType .null [t]) := by
  have hnamed : Translates scopes (.named false "List" .null [d])
      (.named "List" .classType .null [t]) :=
    named (by rfl) (by rfl) (by rfl) (.cons h .nil) (by simp)
  exact hnamed.of_text_eq rfl rfl

theorem map (h : Translates scopes d t) (h' : Translates scopes e u) :
    Translates scopes (.map d e) (.named "Dictionary" .classType .null [t, u]) := by
  have hnamed : Translates scopes (.named false "Dictionary" .null [d, e])
      (.named "Dictionary" .classType .null [t, u]) :=
    named (by rfl) (by rfl) (by rfl) (.cons h (.cons h' .nil)) (by simp)
  exact hnamed.of_text_eq rfl rfl

theorem tuple (h : AllTranslate scopes ds ts) (hne : ds ≠ []) :
    Translates scopes (.tuple ds) (.named "ValueTuple" .struct .null ts) := by
  have hnamed : Translates scopes (.named false "ValueTuple" .null ds)
      (.named "ValueTuple" .struct .null ts) := named (by rfl) (by rfl) (by rfl) h (by simp)
  cases ds with
  | nil => exact absurd rfl hne
  | cons d ds => exact hnamed.of_text_eq rfl rfl

theorem parameter (scopes : Scopes) (name : String) :
    Translates scopes (.parameter name) (.ofParameter name) :=
  ⟨rfl, fun _ h => (nomatch h), rfl⟩

theorem enumerable (scopes : Scopes) (name : String) :
    Translates scopes .enumerable (.unknown name true) :=
  ⟨rfl, fun _ h => (nomatch h), rfl⟩

end Translates

theorem typeOfWord_eq (word : String) :
    typeOfWord word = (Primitive.ofWord? word).elim (.unknown word false) .ofPrimitive := by
  rw [typeOfWord]
  cases Primitive.ofWord? word <;> rfl

/-- The key of a named description alone tells its kind. -/
theorem kindOf_of_absent {fields : List (String × Json)}
    (h : Json.field? "kind" fields = none) (kind : TypeKind) : kindOf fields kind = kind := by
  have hword : SymbolKind.ofWord? (Json.str "").text.lowered = none := by decide +kernel
  rw [kindOf, Json.getOr, h, Option.getD_none, hword]

/-- An object that names a declared type has a type that translates the description. -/
theorem Names.translates {fields : List (String × Json)} {key name : String} {scope : Json}
    {vs : List Json} (h : Names fields key name scope vs) {kind : TypeKind}
    (hleading : leadingKeys.lookup key = none) (hkey : key ≠ "enumerable")
    (hnaming : namingKeys.lookup key = some (.named kind)) (hkind : kind.isNamed = true)
    (hts : typesOf vs = .ok ts) (htranslate : AllTranslate scopes ds ts) :
    ∃ t, typeOf (.obj fields) = .ok t ∧
      Translates scopes (.named (kind == .enum) name scope ds) t := by
  have htype := typeOf_named h.told hleading hkey hnaming h.arguments_eq hts
  rw [kindOf_of_absent h.plain, h.scope_eq] at htype
  refine ⟨_, htype, .named hkind rfl h.isKey htranslate fun hempty => ?_⟩
  -- a name is empty only where there are no arguments
  rw [h.ne_empty hempty, typesOf] at hts
  exact (Except.ok.inj hts).symm

mutual

/-- A value that a description is written as has a type that translates the description. -/
theorem typeOf_of_written (scopes : Scopes) : ∀ (d : Description) {v : Json}, Written d v →
    ∃ t, typeOf v = .ok t ∧ Translates scopes d t
  | .word w, _, h => by
    cases h with
    | word => exact ⟨_, by rw [typeOf, typeOfWord_eq], .word scopes w w⟩
    | primitive h => exact ⟨_, typeOf_primitive h, .word scopes w "unknown"⟩
  | .nullable d, _, .nullable h hd => by
    obtain ⟨t, ht, htranslates⟩ := typeOf_of_written scopes d hd
    exact ⟨_, typeOf_nullable h ht, htranslates.nullable⟩
  | .array d, _, .array h hd => by
    obtain ⟨t, ht, htranslates⟩ := typeOf_of_written scopes d hd
    exact ⟨_, typeOf_array h ht, htranslates.array⟩
  | .list d, _, .list h hd => by
    obtain ⟨t, ht, htranslates⟩ := typeOf_of_written scopes d hd
    exact ⟨_, typeOf_list h ht, htranslates.list⟩
  | .map d e, _, .map h hd he => by
    obtain ⟨t, ht, htranslates⟩ := typeOf_of_written scopes d hd
    obtain ⟨u, hu, hutranslates⟩ := typeOf_of_written scopes e he
    exact ⟨_, typeOf_map h ht hu, htranslates.map hutranslates⟩
  | .tuple ds, _, .tuple h hne hds => by
    obtain ⟨ts, hts, htranslate⟩ := typesOf_of_written scopes ds hds
    have hnonempty : ds ≠ [] := by
      rintro rfl
      cases hds
      exact hne rfl
    exact ⟨_, typeOf_tuple h hts, .tuple htranslate hnonempty⟩
  | .parameter name, _, .parameter h => ⟨_, typeOf_parameter h, .parameter scopes name⟩
  | .enumerable, _, .enumerable h => ⟨_, typeOf_enumerable h, .enumerable scopes _⟩
  | .named isEnum name scope ds, _, h => by
    cases h with
    | named hkey h hds =>
      obtain ⟨ts, hts, htranslate⟩ := typesOf_of_written scopes ds hds
      simp only [List.mem_cons, List.not_mem_nil, or_false] at hkey
      rcases hkey with rfl | rfl | rfl | rfl
      all_goals exact h.translates rfl (by decide) rfl rfl hts htranslate
    | enum h hds =>
      obtain ⟨ts, hts, htranslate⟩ := typesOf_of_written scopes ds hds
      exact h.translates rfl (by decide) rfl rfl hts htranslate

/-- Values that descriptions are written as have types that translate the descriptions. -/
theorem typesOf_of_written (scopes : Scopes) : ∀ (ds : List Description) {vs : List Json},
    AllWritten ds vs → ∃ ts, typesOf vs = .ok ts ∧ AllTranslate scopes ds ts
  | [], _, .nil => ⟨[], by rw [typesOf], .nil⟩
  | d :: ds, _, .cons hd hds => by
    obtain ⟨t, ht, htranslates⟩ := typeOf_of_written scopes d hd
    obtain ⟨ts, hts, htranslate⟩ := typesOf_of_written scopes ds hds
    exact ⟨t :: ts, by rw [typesOf, ht, hts]; rfl, .cons htranslates htranslate⟩

end

/-- Reading a description, classifying the type that is read and writing its form gives the text that
the shapes of the description ask for, at any depth. The text of a member of that type can be null
exactly if the outermost shape says so. -/
theorem text?_of_written {d : Description} {v : Json} (h : Written d v) (scopes : Scopes) :
    ∃ t, typeOf v = .ok t ∧ t.text? scopes = .ok (d.text scopes) ∧
      ∀ name, Naming.memberType { name, type := t } (d.text scopes) =
        Naming.hostType (d.text scopes) ++ if d.isNullable then " | null" else "" := by
  obtain ⟨t, ht, htranslates⟩ := typeOf_of_written scopes d h
  refine ⟨t, ht, ?_, fun name => ?_⟩
  · have hnone : (TypeExpr.ofRef t).lookups.find?
        (fun scope => !scopes.isSingle && scope.isTruthy && !scope.isKey) = none := by
      rw [List.find?_eq_none]
      intro scope hscope
      simp [htranslates.isKey scope hscope]
    rw [TypeRef.text?, TypeExpr.text?, hnone, htranslates.text_eq]
  · rw [Naming.memberType, htranslates.isNullable_eq]
    cases d.isNullable <;> simp

/-- A list of generic types that may be nothing, with a map to enums among the arguments. -/
theorem text?_of_written_nested :
    let color : Json := .obj [("enum", .str "Color")]
    let names : Json := .obj [("map", .arr [.str "string", color])]
    let box : Json := .obj [("generic", .str "Box`1"), ("namespace", .str "Shop"),
      ("arguments", .arr [.str " Int32 ", names])]
    let text := "Shop.IBox<number, \x7b [key: string]: Color \x7d>[]"
    ∃ t, typeOf (.obj [("nullable", .obj [("list", box)])]) = .ok t ∧ t.text? {} = .ok text ∧
      Naming.memberType { name := .null, type := t } text = text ++ " | null" := by
  intro color names box text
  have hcolor : Written (.named true "Color" .null []) color :=
    .enum ⟨tells_cons (by simp), rfl, rfl, rfl, rfl, fun _ => rfl⟩ .nil
  have hnames : Written (.map (.word "string") (.named true "Color" .null [])) names :=
    .map (tells_cons (by simp)) (.word _) hcolor
  have hbox : Written (.named false "Box`1" (.str "Shop") [.word " Int32 ", .map (.word "string")
      (.named true "Color" .null [])]) box :=
    .named (by decide) ⟨tells_cons (by decide), rfl, rfl, rfl, rfl, by decide⟩
      (.cons (.word _) (.cons hnames .nil))
  have hlist : Written (.list _) (.obj [("list", box)]) := .list (tells_cons (by simp)) hbox
  have hvalue : Written (.nullable _) (.obj [("nullable", .obj [("list", box)])]) :=
    .nullable (tells_cons (by simp)) hlist
  obtain ⟨t, ht, htext, hmember⟩ := text?_of_written hvalue {}
  have heq : Description.text {} (.nullable (.list (.named false "Box`1" (.str "Shop")
      [.word " Int32 ", .map (.word "string") (.named true "Color" .null [])]))) = text := by
    decide +kernel
  rw [heq] at htext
  exact ⟨t, ht, htext, by rw [← heq, hmember]; decide +kernel⟩

end Manifest

end Ambient
