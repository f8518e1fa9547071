/-
  Ambient.Proofs.Manifest.Refusals

  How the reading of a manifest ends, whatever values stand in it. The values that are gone through
  item by item without being asked for their kind, and the infinite numbers of enums, are its flaws
  (`IsFlawed`). A manifest without flaws gives one symbol for each entry or is refused as a manifest;
  a flawed one gives no symbols, and may end with a fault that is not the manifest's
  (`symbolsOf_cases`).
-/
import Ambient.Manifest.Entry
import Ambient.Proofs.Keeping
import Mathlib.Tactic.Common

namespace Ambient.Manifest

/-! ## Ends of a reading -/

/-- The faults that leave a reading without being a fault of the manifest: a value without items is
gone through, or an infinite number is read as an integer. -/
inductive IsStray : ValueFault → Prop
  | notIterable (kind : Kind) : IsStray (.notIterable kind)
  | notFinite : IsStray .notFinite

/-- How the reading of values ends: with a result only if they have no flaw, and with a stray fault
only if they have one. A fault of the manifest is possible either way. -/
inductive Ends {α : Type} (flawed : Prop) : Except Fault α → Prop
  | result (a : α) (h : ¬ flawed) : Ends flawed (.ok a)
  | refused (cause : ManifestFault) : Ends flawed (.error (.manifest cause))
  | stray (cause : ValueFault) (hstray : IsStray cause) (h : flawed) :
      Ends flawed (.error (.value cause))

namespace Ends

variable {α β : Type} {p q : Prop} {x : Except Fault α}

theorem congr (h : Ends p x) (hiff : p ↔ q) : Ends q x := by
  rwa [← propext hiff]

/-- One reading after another has the flaws of both. -/
theorem bind {next : α → Except Fault β} (hx : Ends p x)
    (hnext : ∀ a, x = .ok a → Ends q (next a)) : Ends (p ∨ q) (x >>= next) := by
  cases hx with
  | result a h => exact (hnext a rfl).congr (by simp [h])
  | refused cause => exact refused cause
  | stray cause hstray h => exact stray cause hstray (.inl h)

/-- What is made from a result ends as the reading of the result does. -/
theorem map (h : Ends p x) (f : α → β) : Ends p (x >>= fun a => .ok (f a)) :=
  (h.bind fun a _ => result (f a) not_false).congr (by simp)

/-- The readings of some values, one after another, have the flaws of all of them. -/
theorem mapM {flawed : α → Prop} {step : α → Except Fault β} {items : List α}
    (h : ∀ item ∈ items, Ends (flawed item) (step item)) :
    Ends (∃ item ∈ items, flawed item) (items.mapM step) := by
  induction items with
  | nil => exact result [] (by simp)
  | cons first rest ih =>
    have hfirst := h first (by simp)
    have hrest := ih fun item hitem => h item (by simp [hitem])
    rw [List.mapM_cons]
    exact (hfirst.bind fun b _ => hrest.map (b :: ·)).congr (by simp)

end Ends

/-! ## Type descriptions -/

/-- Whether a value counts as given although it has no items. -/
def lacksItems (value : Json) : Bool :=
  value.isTruthy && !([Kind.arr, .obj, .str].contains value.kind)

@[simp] theorem lacksItems_arr (items : List Json) : lacksItems (.arr items) = false := by
  simp [lacksItems, Json.kind]

@[simp] theorem lacksItems_obj (fields : List (String × Json)) : lacksItems (.obj fields) = false := by
  simp [lacksItems, Json.kind]

@[simp] theorem lacksItems_str (s : String) : lacksItems (.str s) = false := by
  simp [lacksItems, Json.kind]

@[simp] theorem lacksItems_null : lacksItems .null = false := rfl

/-- What is no list, object or text lacks items if it counts as given. -/
theorem lacksItems_eq_isTruthy {value : Json} (harr : ∀ items, value ≠ .arr items)
    (hobj : ∀ fields, value ≠ .obj fields) (hstr : ∀ s, value ≠ .str s) :
    lacksItems value = value.isTruthy := by
  cases value with
  | arr items => exact (harr items rfl).elim
  | obj fields => exact (hobj fields rfl).elim
  | str s => exact (hstr s rfl).elim
  | _ => simp [lacksItems, Json.kind]

/-- The descriptions inside an object of a shape, of which its type is made. -/
def Shape.parts (fields : List (String × Json)) : Shape → List Json
  | .nullable d | .array d | .list d => [d]
  | .map (.arr [key, value]) => [key, value]
  | .tuple (.arr items) => items
  | .named _ _ =>
    match Json.field? "arguments" fields with
    | some (.arr items) => items
    | _ => []
  | _ => []

/-- Whether the arguments that an object of a shape gives have no items. -/
def Shape.lacksArguments (fields : List (String × Json)) : Shape → Bool
  | .named _ _ => lacksItems (Json.getOr fields "arguments" .null)
  | _ => false

/-- The descriptions inside a description. -/
def partsOf : Json → List Json
  | .obj fields => (Shape.ofFields fields).parts fields
  | _ => []

/-- A description has a flaw if it or a description inside it names a type whose arguments are given
but have no items. -/
inductive IsFlawedType : Json → Prop
  | arguments {fields : List (String × Json)}
      (h : (Shape.ofFields fields).lacksArguments fields = true) : IsFlawedType (.obj fields)
  | part {data d : Json} (hmem : d ∈ partsOf data) (h : IsFlawedType d) : IsFlawedType data

/-- The descriptions inside an object are parts of it. -/
theorem sizeOf_lt_of_mem_parts {fields : List (String × Json)} {d : Json}
    (h : d ∈ (Shape.ofFields fields).parts fields) : sizeOf d < sizeOf fields := by
  -- all that matters of the shape is that what it holds lies inside the object
  have hinner := @sizeOf_inner_lt fields
  generalize Shape.ofFields fields = shape at h hinner
  unfold Shape.parts at h
  split at h
  case h_1 | h_2 | h_3 =>
    rw [List.mem_singleton] at h
    exact hinner (congrArg some h.symm)
  case h_4 key value =>
    have hpair : sizeOf (Json.arr [key, value]) < sizeOf fields := hinner rfl
    have hd := List.sizeOf_lt_of_mem h
    simp only [Json.arr.sizeOf_spec] at hpair
    omega
  case h_5 items =>
    have hitems : sizeOf (Json.arr items) < sizeOf fields := hinner rfl
    have hd := List.sizeOf_lt_of_mem h
    simp only [Json.arr.sizeOf_spec] at hitems
    omega
  case h_6 =>
    split at h
    case h_1 items hfield =>
      have hitems := Json.sizeOf_field_lt hfield
      have hd := List.sizeOf_lt_of_mem h
      simp only [Json.arr.sizeOf_spec] at hitems
      omega
    case h_2 => cases h
  case h_7 => cases h

/-- What holds of a description once it holds of the descriptions inside holds of all. -/
theorem parts_induction {motive : Json → Prop}
    (step : ∀ data, (∀ d ∈ partsOf data, motive d) → motive data) (data : Json) : motive data := by
  refine step data fun d hd => ?_
  have : sizeOf d < sizeOf data := by
    cases data with
    | obj fields =>
      have := sizeOf_lt_of_mem_parts hd
      simp only [Json.obj.sizeOf_spec]
      omega
    | _ => simp [partsOf] at hd
  exact parts_induction step d
termination_by sizeOf data

/-- The flaws of an object are those of its arguments and those of its parts. -/
theorem isFlawedType_obj {fields : List (String × Json)} :
    IsFlawedType (.obj fields) ↔
      (Shape.ofFields fields).lacksArguments fields = true ∨
      ∃ d ∈ (Shape.ofFields fields).parts fields, IsFlawedType d := by
  constructor
  · rintro (h | ⟨hmem, h⟩)
    · exact .inl h
    · exact .inr ⟨_, hmem, h⟩
  · rintro (h | ⟨_, hmem, h⟩)
    · exact .arguments h
    · exact .part hmem h

/-- A value that is no object describes a type by itself. -/
theorem not_isFlawedType {data : Json} (h : ∀ fields, data ≠ .obj fields) :
    ¬ IsFlawedType data := by
  rintro (- | ⟨hmem, -⟩)
  · exact h _ rfl
  · cases data with
    | obj fields => exact h fields rfl
    | _ => simp [partsOf] at hmem

theorem typesOf_eq_mapM (data : List Json) : typesOf data = data.mapM typeOf := by
  induction data with
  | nil => rw [typesOf]; rfl
  | cons first rest ih => rw [typesOf, List.mapM_cons, ih]; rfl

/-- The types of descriptions are read as their flaws tell if each of them is. -/
theorem typesOf_ends {data : List Json} (h : ∀ d ∈ data, Ends (IsFlawedType d) (typeOf d)) :
    Ends (∃ d ∈ data, IsFlawedType d) (typesOf data) := by
  rw [typesOf_eq_mapM]
  exact Ends.mapM h

/-- The type of a description is read as its flaws tell if the types inside it are. -/
theorem typeOf_ends_of_parts {data : Json}
    (h : ∀ d ∈ partsOf data, Ends (IsFlawedType d) (typeOf d)) :
    Ends (IsFlawedType data) (typeOf data) := by
  cases data with
  | obj fields =>
    have hflawed := @isFlawedType_obj fields
    rw [partsOf] at h
    rw [typeOf]
    split
    all_goals
      rename_i hshape
      rw [hshape] at h hflawed
      refine Ends.congr ?_ hflawed.symm
    -- a named type, by what is given for its arguments
    case h_11 kind name =>
      split
      all_goals
        rename_i hfield
        simp only [Shape.lacksArguments, Shape.parts, Json.getOr, hfield, Option.getD_none,
          Option.getD_some] at h ⊢
      case h_1 | h_3 | h_4 => exact .result _ (by simp)
      case h_2 items => exact ((typesOf_ends h).map _).congr (by simp)
      case h_5 value harr hobj hstr =>
        rw [lacksItems_eq_isTruthy harr hobj hstr]
        cases value with
        | arr items => exact (harr items rfl).elim
        | _ =>
          split_ifs with htruthy
          · exact .stray _ (.notIterable _) (.inl htruthy)
          · exact .result _ (by simp [htruthy])
    all_goals simp only [Shape.lacksArguments, Shape.parts, Bool.false_eq_true, false_or] at h ⊢
    case h_1 => split <;> exact .result _ (by simp)
    case h_2 d | h_3 d | h_4 d =>
      exact ((h d (List.mem_singleton_self d)).map _).congr (by simp)
    case h_5 key value =>
      have hkey := h key (by simp)
      have hvalue := h value (by simp)
      exact (hkey.bind fun k _ => hvalue.map fun v => _).congr (by simp)
    case h_6 => exact .refused _
    case h_7 items => exact (typesOf_ends h).map _
    case h_8 ds hds =>
      cases ds with
      | arr items => exact (hds items rfl).elim
      | _ => exact .result _ (by simp)
    case h_9 | h_10 | h_12 => exact .result _ (by simp)
  | str word =>
    rw [typeOf]
    exact .result _ (not_isFlawedType (by simp))
  | _ =>
    rw [typeOf]
    · exact .result _ (not_isFlawedType (by simp))
    all_goals simp

/-- The type of a description is read as its flaws tell. -/
theorem typeOf_ends (data : Json) : Ends (IsFlawedType data) (typeOf data) :=
  parts_induction (fun _ => typeOf_ends_of_parts) data

/-! ## Members and values -/

/-- The items of a field are read as its value tells. -/
theorem listOf_ends (fields : List (String × Json)) (key : String) :
    Ends (lacksItems (Json.getOr fields key .null) = true) (listOf fields key) := by
  rw [listOf]
  generalize Json.getOr fields key .null = value
  cases value with
  | arr items => split_ifs <;> exact .result _ (by simp)
  | obj entries => split_ifs <;> exact .result _ (by simp)
  | str s => split_ifs <;> exact .result _ (by simp)
  | _ =>
    rw [lacksItems_eq_isTruthy (by simp) (by simp) (by simp)]
    split_ifs with htruthy
    · exact .stray _ (.notIterable _) htruthy
    · exact .result _ htruthy

/-- A member has the flaws of its type. -/
def IsFlawedMember (data : Json) : Prop :=
  ∃ fields name, namedFields? data = some (fields, name) ∧
    IsFlawedType (Json.getOr fields "type" (.str "object"))

theorem memberOf_ends (owner : String) (data : Json) :
    Ends (IsFlawedMember data) (memberOf owner data) := by
  rw [memberOf]
  split
  case h_1 => exact .refused _
  case h_2 fields name hnamed =>
    exact ((typeOf_ends _).map _).congr (by simp [IsFlawedMember, hnamed])

/-- An integer is read from every value but an infinite number, or the manifest is refused. -/
theorem integerOf_ends (refusal : ManifestFault) (value : Json) :
    Ends (∃ negative, value = .float (.infinity negative)) (integerOf refusal value) := by
  rw [integerOf.eq_def]
  split
  case h_3 negative => exact .stray _ .notFinite ⟨negative, rfl⟩
  case h_4 x hfinite =>
    cases x.truncate? with
    | none => exact .refused _
    | some n => exact .result n (by simpa using hfinite)
  case h_5 s =>
    cases Text.integer? s.toList with
    | none => exact .refused _
    | some n => exact .result n (by simp)
  case h_6 => exact .refused _
  all_goals exact .result _ (by simp)

/-- A value of an enum has a flaw if it is an infinite number. -/
def IsFlawedValue (data : Json) : Prop :=
  ∃ fields name, namedFields? data = some (fields, name) ∧
    ∃ negative, Json.getOr fields "value" (.int 0) = .float (.infinity negative)

theorem valueOf_ends (owner : String) (data : Json) :
    Ends (IsFlawedValue data) (valueOf owner data) := by
  rw [valueOf]
  split
  case h_1 => exact .refused _
  case h_2 fields name hnamed =>
    exact ((integerOf_ends _ _).map _).congr (by simp [IsFlawedValue, hnamed])

/-! ## Entries and documents -/

/-- A field of an entry has a flaw if its value counts as given but has no items, or one of its items
has a flaw. -/
def IsFlawedList (flawed : Json → Prop) (fields : List (String × Json)) (key : String) : Prop :=
  lacksItems (Json.getOr fields key .null) = true ∨
    ∃ items, listOf fields key = .ok items ∧ ∃ item ∈ items, flawed item

/-- The results for the items of a field are read as its flaws tell. -/
theorem listOf_mapM_ends {α : Type} {flawed : Json → Prop} {step : Json → Except Fault α}
    (h : ∀ item, Ends (flawed item) (step item)) (fields : List (String × Json)) (key : String) :
    Ends (IsFlawedList flawed fields key) (listOf fields key >>= fun items => items.mapM step) := by
  refine (listOf_ends fields key).bind fun items hitems => ?_
  have hstep : Ends (∃ item ∈ items, flawed item) (items.mapM step) := Ends.mapM fun item _ => h item
  exact hstep.congr (by simp [hitems])

/-- An entry has the flaws of its members, its values and its generic parameters. -/
def IsFlawedEntry : Json → Prop
  | .obj fields =>
    IsFlawedList IsFlawedMember fields "members" ∨ IsFlawedList IsFlawedValue fields "values" ∨
      lacksItems (Json.getOr fields "genericParameters" .null) = true
  | _ => False

theorem symbolOf_ends (data : Json) : Ends (IsFlawedEntry data) (symbolOf data) := by
  rw [symbolOf.eq_def]
  split
  case h_2 => exact .refused _
  case h_1 fields =>
    split
    case h_2 => exact .refused _
    case h_1 name hname =>
      split
      case isTrue => exact .refused _
      case isFalse =>
        dsimp only
        split
        case h_1 => exact .refused _
        case h_2 kind hkind =>
          -- up to here an entry is refused; only its lists can fail in another way
          have hmembers := listOf_mapM_ends (memberOf_ends name) fields "members"
          have hvalues := listOf_mapM_ends (valueOf_ends name) fields "values"
          have hparameters := listOf_ends fields "genericParameters"
          rw [IsFlawedEntry, ← bind_assoc]
          refine hmembers.bind fun members _ => ?_
          rw [← bind_assoc]
          exact hvalues.bind fun values _ => hparameters.map _

/-- A document has the flaws of its entries. -/
def IsFlawed (document : Json) : Prop :=
  ∃ entries, entriesOf document = .ok entries ∧ ∃ entry ∈ entries, IsFlawedEntry entry

/-- A symbol has the name of its entry. -/
theorem name_of_symbolOf {data : Json} {symbol : TypeSymbol} (h : symbolOf data = .ok symbol) :
    data.get? "name" = some (.str symbol.name) := by
  rw [symbolOf.eq_def] at h
  split at h
  case h_2 => cases h
  case h_1 fields =>
    split at h
    case h_2 => cases h
    case h_1 name hname =>
      split at h
      case isTrue => cases h
      case isFalse =>
        dsimp only at h
        split at h
        case h_1 => cases h
        case h_2 =>
          -- the lists of the entry and the flags do not matter to the name
          obtain ⟨_, -, h⟩ := bind_eq_ok h
          obtain ⟨_, -, h⟩ := bind_eq_ok h
          obtain ⟨_, -, h⟩ := bind_eq_ok h
          obtain ⟨_, -, h⟩ := bind_eq_ok h
          obtain ⟨_, -, h⟩ := bind_eq_ok h
          cases h
          exact hname

theorem symbolsOf_ends (document : Json) : Ends (IsFlawed document) (symbolsOf document) := by
  rw [symbolsOf]
  have hentries : Ends False (entriesOf document) := by
    rw [entriesOf.eq_def]
    split
    case h_1 => exact .result _ not_false
    case h_2 =>
      split
      case h_1 => exact .result _ not_false
      case h_2 => exact .refused _
    case h_3 => exact .refused _
  refine (hentries.bind (q := IsFlawed document) fun entries h => ?_).congr (by simp)
  exact (Ends.mapM fun entry _ => symbolOf_ends entry).congr (by simp [IsFlawed, h])

/-- The reading of a document, whatever values stand in it. Without flaws it gives one symbol for each
entry, in the order and with the names of the entries, or the document is refused as a manifest. With
flaws it gives no symbols: it is refused as a manifest, or ends with a stray fault. -/
theorem symbolsOf_cases (document : Json) :
    (¬ IsFlawed document ∧ ∃ entries symbols, entriesOf document = .ok entries ∧
      symbolsOf document = .ok symbols ∧
      List.Forall₂ (fun entry symbol =>
        symbolOf entry = .ok symbol ∧ entry.get? "name" = some (.str symbol.name)) entries symbols) ∨
    (∃ cause, symbolsOf document = .error (.manifest cause)) ∨
    (IsFlawed document ∧
      ∃ cause, IsStray cause ∧ symbolsOf document = .error (.value cause)) := by
  have hends := symbolsOf_ends document
  cases hread : symbolsOf document with
  | error fault =>
    rw [hread] at hends
    cases hends with
    | refused cause => exact .inr (.inl ⟨cause, rfl⟩)
    | stray cause hstray h => exact .inr (.inr ⟨h, cause, hstray, rfl⟩)
  | ok symbols =>
    rw [hread] at hends
    cases hends with
    | result _ h =>
      obtain ⟨entries, hentries, hsymbols⟩ := bind_eq_ok hread
      refine .inl ⟨h, entries, symbols, hentries, rfl, ?_⟩
      exact (forall₂_of_mapM_ok hsymbols).imp fun entry symbol h => ⟨h, name_of_symbolOf h⟩

/-- An infinite number for a value of an enum, or a number where the members are listed, ends the
reading with a fault that is not the manifest's. -/
theorem symbolsOf_stray :
    symbolsOf (.obj [("types", .arr [.obj [("name", .str "Status"), ("kind", .str "enum"),
      ("values", .arr [.obj [("name", .str "A"), ("value", .float (.infinity false))]])]])]) =
      .error (.value .notFinite) ∧
    symbolsOf (.obj [("types", .arr [.obj [("name", .str "User"), ("members", .int 5)]])]) =
      .error (.value (.notIterable .int)) := by
  constructor
  · rfl
  · rfl

end Ambient.Manifest
