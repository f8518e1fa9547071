/-
  Ambient.Proofs.Json.Depth

  Depth of documents. Each part of a document closes what it opens, so a value whose lists and
  objects stand no deeper inside each other than there is room for is written as a document that is
  not too deep to be loaded (`isTooDeep_indented`). No part of it holds a carriage return.
-/
import Ambient.Json.Nesting
import Ambient.Proofs.Json.RoundTrip

namespace Ambient.Json

open Text

/-! ## Depth of values -/

mutual

/-- How deep lists and objects stand inside each other in a value. -/
def depth : Json → Nat
  | .arr items => depths items + 1
  | .obj fields => fieldDepths fields + 1
  | _ => 0

/-- The greatest depth of some values. -/
def depths : List Json → Nat
  | [] => 0
  | value :: rest => max (depth value) (depths rest)

/-- The greatest depth of the values of some fields. -/
def fieldDepths : List (String × Json) → Nat
  | [] => 0
  | (_, value) :: rest => max (depth value) (fieldDepths rest)

end

theorem depths_le_iff {items : List Json} {room : Nat} :
    depths items ≤ room ↔ ∀ value ∈ items, value.depth ≤ room := by
  induction items with
  | nil => simp [depths]
  | cons value rest ih => simp [depths, ih]

theorem fieldDepths_le_iff {fields : List (String × Json)} {room : Nat} :
    fieldDepths fields ≤ room ↔ ∀ field ∈ fields, field.2.depth ≤ room := by
  induction fields with
  | nil => simp [fieldDepths]
  | cons field rest ih => simp [fieldDepths, ih]

/-! ## Single characters -/

/-- A character other than the backslash is passed over on its own. -/
theorem isDeeperThan_cons {room : Nat} {inString : Bool} {c : Char} (h : c ≠ '\\')
    (rest : List Char) :
    isDeeperThan room inString (c :: rest) =
      if c == '"' then isDeeperThan room (!inString) rest
      else if inString then isDeeperThan room inString rest
      else if c == '[' || c == '\x7b' then
        match room with
        | 0 => true
        | less + 1 => isDeeperThan less inString rest
      else if c == ']' || c == '\x7d' then isDeeperThan (room + 1) inString rest
      else isDeeperThan room inString rest := by
  rw [isDeeperThan.eq_def]
  split
  · rename_i heq
    cases heq
  · rename_i heq
    exact absurd (List.cons.inj heq).1 h
  · rename_i heq
    cases heq
    rfl

/-! ## Balanced texts -/

/-- A text without carriage returns that closes what it opens and is not deeper than there is room
for. -/
structure Balanced (room : Nat) (text : List Char) : Prop where
  passes : ∀ rest, isDeeperThan room false (text ++ rest) = isDeeperThan room false rest
  noReturn : '\r' ∉ text

theorem Balanced.append {room : Nat} {text more : List Char} (h : Balanced room text)
    (h' : Balanced room more) : Balanced room (text ++ more) where
  passes rest := by rw [List.append_assoc, h.passes, h'.passes]
  noReturn := by simp [h.noReturn, h'.noReturn]

/-- A character other than a carriage return that neither opens nor closes anything. -/
def isInert (c : Char) : Bool :=
  !(['\r', '\\', '"', '[', ']', '\x7b', '\x7d'].contains c)

theorem isInert_of_isAsciiDigit {c : Char} (h : isAsciiDigit c = true) : isInert c = true := by
  have hne : ∀ d, isAsciiDigit d = false → c ≠ d := fun d hd => ne_of_isAsciiDigit h hd
  simp [isInert, hne '\r' (by decide), hne '\\' (by decide), hne '"' (by decide),
    hne '[' (by decide), hne ']' (by decide), hne '\x7b' (by decide), hne '\x7d' (by decide)]

theorem Balanced.of_inert {room : Nat} {text : List Char} (h : ∀ c ∈ text, isInert c = true) :
    Balanced room text := by
  constructor
  · intro rest
    induction text with
    | nil => rfl
    | cons c text ih =>
      have hc := h c (by simp)
      simp only [isInert, List.contains_cons, List.contains_nil, Bool.or_false, Bool.not_eq_true',
        Bool.or_eq_false_iff, beq_eq_false_iff_ne, ne_eq] at hc
      obtain ⟨-, hbackslash, hquote, hopen, hclose, hbrace, hbrace'⟩ := hc
      rw [List.cons_append, isDeeperThan_cons hbackslash]
      simp [hquote, hopen, hclose, hbrace, hbrace', ih (fun d hd => h d (by simp [hd]))]
  · intro hreturn
    exact absurd (h _ hreturn) (by decide)

/-- A list or an object is one deeper than what stands in it. -/
theorem Balanced.bracketed {room : Nat} {text : List Char} (h : Balanced room text)
    {opening closing : Char}
    (hbrackets : (opening, closing) = ('[', ']') ∨ (opening, closing) = ('\x7b', '\x7d')) :
    Balanced (room + 1) (opening :: (text ++ [closing])) := by
  have hopen : ∀ more, isDeeperThan (room + 1) false (opening :: more) =
      isDeeperThan room false more := by
    intro more
    rcases hbrackets with hb | hb <;> cases hb <;> rw [isDeeperThan_cons (by decide)] <;> simp
  have hclose : ∀ rest, isDeeperThan room false (closing :: rest) =
      isDeeperThan (room + 1) false rest := by
    intro rest
    rcases hbrackets with hb | hb <;> cases hb <;> rw [isDeeperThan_cons (by decide)] <;> simp
  constructor
  · intro rest
    rw [List.cons_append, hopen, List.append_assoc, h.passes]
    exact hclose rest
  · rcases hbrackets with hb | hb <;> cases hb <;> simp [h.noReturn]

/-! ## Strings -/

/-- A character inside quotes stays inside them. -/
theorem isDeeperThan_charText (room : Nat) (c : Char) (rest : List Char) :
    isDeeperThan room true (charText c ++ rest) = isDeeperThan room true rest := by
  have hescape : ∀ letter more,
      isDeeperThan room true ('\\' :: letter :: more) = isDeeperThan room true more := by
    intro letter more
    rw [isDeeperThan]
    rfl
  have hplain : ∀ {d : Char}, d ≠ '\\' → d ≠ '"' → ∀ more,
      isDeeperThan room true (d :: more) = isDeeperThan room true more := by
    intro d hbackslash hquote more
    rw [isDeeperThan_cons hbackslash]
    simp [hquote]
  rcases charText_cases c with ⟨htext, hquote, hbackslash, -⟩ | ⟨letter, htext, -⟩ |
    ⟨htext, hcontrol⟩ <;> rw [htext]
  · -- the character stands for itself
    exact hplain hbackslash hquote rest
  · exact hescape letter rest
  · -- a backslash takes the letter with it, and four digits follow
    have hdigit : ∀ n, Nat.digitChar n ≠ '\\' ∧ Nat.digitChar n ≠ '"' :=
      fun n => ⟨by simp, by simp⟩
    obtain ⟨hdigits, -⟩ := unitValue?_control c.toNat hcontrol
    rw [hdigits]
    simp only [List.cons_append, List.nil_append]
    rw [hescape, hplain (by decide) (by decide), hplain (by decide) (by decide),
      hplain (hdigit _).1 (hdigit _).2, hplain (hdigit _).1 (hdigit _).2]

theorem return_notMem_charText (c : Char) : '\r' ∉ charText c := by
  rcases charText_cases c with ⟨htext, -, -, hplain⟩ | ⟨letter, htext, -, hletter⟩ |
    ⟨htext, hcontrol⟩ <;> rw [htext]
  · rintro hreturn
    rw [← List.mem_singleton.mp hreturn] at hplain
    exact hplain (by decide)
  · have hne : '\r' ≠ letter := by
      rintro rfl
      cases hletter
    simp [hne]
  · obtain ⟨hdigits, -⟩ := unitValue?_control c.toNat hcontrol
    rw [hdigits]
    have hdigit : ∀ n, '\r' ≠ Nat.digitChar n := fun n => by simp
    simp [hdigit]

theorem balanced_stringText (room : Nat) (s : String) : Balanced room (stringText s).toList := by
  have hchars : ∀ chars rest,
      isDeeperThan room true (stringChars chars ++ rest) = isDeeperThan room true rest := by
    intro chars rest
    induction chars with
    | nil => rfl
    | cons c chars ih =>
      rw [stringChars, List.flatMap_cons, List.append_assoc, isDeeperThan_charText]
      exact ih
  rw [toList_stringText]
  constructor
  · intro rest
    rw [List.cons_append, isDeeperThan_cons (by decide), List.append_assoc]
    show isDeeperThan room true (stringChars s.toList ++ '"' :: rest) = _
    rw [hchars, isDeeperThan_cons (by decide)]
    rfl
  · simp [stringChars, return_notMem_charText]

/-! ## Numbers -/

theorem isInert_of_mem_toDigits {n : Nat} {c : Char} (h : c ∈ Nat.toDigits 10 n) :
    isInert c = true :=
  isInert_of_isAsciiDigit (isAsciiDigit_of_mem_toDigits h)

theorem balanced_int (room : Nat) (n : Int) : Balanced room (toString n).toList := by
  refine .of_inert fun c hc => ?_
  rw [toList_int] at hc
  rcases List.mem_append.mp hc with hc | hc
  · split at hc
    · rw [List.mem_singleton.mp hc]
      decide
    · cases hc
  · exact isInert_of_mem_toDigits hc

theorem isInert_of_mem_exponentText {e : Int} {c : Char}
    (h : c ∈ (Double.exponentText e).toList) : isInert c = true := by
  obtain ⟨power, hrun, -, htext⟩ := exponentText_toList e
  rw [htext, List.mem_cons] at h
  rcases h with rfl | h
  · split <;> decide
  · exact isInert_of_isAsciiDigit (hrun.2 c h)

/-- A decimal is written with digits, a point and a signed exponent. -/
theorem all_isInert_text (d : Double.Decimal) : d.text.toList.all isInert = true := by
  have hdigits : ∀ c ∈ (toString d.digits).toList, isInert c = true := by
    intro c hc
    rw [toList_toString] at hc
    exact isInert_of_mem_toDigits hc
  have htake : ∀ n, ((toString d.digits).toList.take n).all isInert = true := fun n =>
    List.all_eq_true.mpr fun c hc => hdigits c (List.mem_of_mem_take hc)
  have hdrop : ∀ n, ((toString d.digits).toList.drop n).all isInert = true := fun n =>
    List.all_eq_true.mpr fun c hc => hdigits c (List.mem_of_mem_drop hc)
  have hzeros : ∀ n, (List.replicate n '0').all isInert = true := fun n =>
    List.all_eq_true.mpr fun c hc => by rw [List.eq_of_mem_replicate hc]; decide
  have hexponent : ∀ e, (Double.exponentText e).toList.all isInert = true := fun e =>
    List.all_eq_true.mpr fun c hc => isInert_of_mem_exponentText hc
  have hpoint : ".".toList.all isInert = true ∧ ".0".toList.all isInert = true ∧
      "0.".toList.all isInert = true ∧ "e".toList.all isInert = true ∧
      "".toList.all isInert = true := by decide
  obtain ⟨hpoint, hpoint0, h0point, hletter, hempty⟩ := hpoint
  have hall := List.all_eq_true.mpr hdigits
  rw [Double.Decimal.text]
  dsimp only
  -- every notation is put together from digits, zeros, a point and an exponent
  split_ifs <;>
    simp only [String.toList_append, String.toList_ofList, List.all_append, Bool.and_eq_true,
      htake, hdrop, hzeros, hexponent, hpoint, hpoint0, h0point, hletter, hempty, hall, and_self]

theorem balanced_numberText (room : Nat) (x : Double) : Balanced room (numberText x).toList := by
  have hsign : ∀ negative : Bool, (if negative then "-" else "").toList.all isInert = true := by
    decide
  refine .of_inert (List.all_eq_true.mp ?_)
  rw [numberText, Double.textWith.eq_def]
  split
  · decide
  · rw [String.toList_append, List.all_append, hsign]
    decide
  · rw [String.toList_append, List.all_append, hsign, Bool.true_and]
    split
    · decide
    · exact all_isInert_text _

/-! ## Lists and objects -/

theorem balanced_breakChars (room depth : Nat) : Balanced room (breakChars depth) := by
  refine .of_inert fun c hc => ?_
  rw [breakChars, List.mem_cons] at hc
  rcases hc with rfl | hc
  · decide
  · rw [List.eq_of_mem_replicate hc]
    decide

theorem balanced_rowChars {room : Nat} (depth : Nat) {parts : List String}
    (h : ∀ part ∈ parts, Balanced room part.toList) : Balanced room (rowChars depth parts) := by
  have hcomma : Balanced room [','] := .of_inert (List.all_eq_true.mp (by decide))
  induction parts with
  | nil => exact .of_inert (by simp [rowChars, String.joinWith])
  | cons first parts ih =>
    cases parts with
    | nil =>
      rw [rowChars_singleton]
      exact h first (by simp)
    | cons second parts =>
      rw [rowChars_cons_cons]
      exact (h first (by simp)).append
        (hcomma.append ((balanced_breakChars room depth).append
          (ih fun part hpart => h part (List.mem_cons_of_mem _ hpart))))

/-- Parts between brackets are one deeper than the parts. -/
theorem balanced_bracketed {room : Nat} (depth : Nat) {parts : List String}
    (h : ∀ part ∈ parts, Balanced room part.toList) {opening closing : Char}
    (hbrackets : (opening, closing) = ('[', ']') ∨ (opening, closing) = ('\x7b', '\x7d')) :
    Balanced (room + 1)
      (bracketed (String.ofList [opening]) (String.ofList [closing]) depth parts).toList := by
  by_cases hparts : parts = []
  · subst hparts
    have hnone : Balanced room [] := .of_inert (by simp)
    simpa [bracketed] using hnone.bracketed hbrackets
  · rw [toList_bracketed _ _ _ hparts, ← List.append_assoc, ← List.append_assoc]
    exact (((balanced_breakChars room _).append (balanced_rowChars _ h)).append
      (balanced_breakChars room _)).bracketed hbrackets

/-- A field is as deep as its value. -/
theorem balanced_fieldText {room depth : Nat} {field : String × Json}
    (h : Balanced room (indentedAt depth field.2).toList) :
    Balanced room (fieldText depth field).toList := by
  have hcolon : Balanced room [':', ' '] := .of_inert (List.all_eq_true.mp (by decide))
  simpa [fieldText] using ((balanced_stringText room field.1).append hcolon).append h

/-! ## Values -/

theorem indentedItems_eq_map (depth : Nat) (items : List Json) :
    indentedItems depth items = items.map (indentedAt depth) := by
  induction items with
  | nil => rfl
  | cons value rest ih => rw [indentedItems, ih, List.map_cons]

/-- The text of a value closes what it opens, at most as deep as the value is. -/
theorem balanced_indentedAt (value : Json) {room : Nat} (h : value.depth ≤ room) (depth : Nat) :
    Balanced room (indentedAt depth value).toList :=
  match value, h with
  | .null, _ => .of_inert (by simp [indentedAt]; decide)
  | .bool b, _ => by cases b <;> exact .of_inert (by simp [indentedAt]; decide)
  | .int n, _ => balanced_int room n
  | .float x, _ => balanced_numberText room x
  | .str s, _ => balanced_stringText room s
  | .arr items, h => by
    -- the brackets take one level of the room
    obtain ⟨less, rfl⟩ : ∃ less, room = less + 1 := ⟨room - 1, by rw [Json.depth] at h; omega⟩
    rw [Json.depth, Nat.add_le_add_iff_right, depths_le_iff] at h
    show Balanced _ (bracketed (String.ofList ['[']) (String.ofList [']']) _ _).toList
    refine balanced_bracketed depth ?_ (.inl rfl)
    rw [indentedItems_eq_map, List.forall_mem_map]
    exact fun value hvalue => balanced_indentedAt value (h value hvalue) (depth + 1)
  | .obj fields, h => by
    obtain ⟨less, rfl⟩ : ∃ less, room = less + 1 := ⟨room - 1, by rw [Json.depth] at h; omega⟩
    rw [Json.depth, Nat.add_le_add_iff_right, fieldDepths_le_iff] at h
    show Balanced _ (bracketed (String.ofList ['\x7b']) (String.ofList ['\x7d']) _ _).toList
    refine balanced_bracketed depth ?_ (.inr rfl)
    rw [indentedFields_eq_map, List.forall_mem_map]
    exact fun field hfield => balanced_fieldText
      (balanced_indentedAt field.2 (h field hfield) (depth + 1))
termination_by sizeOf value
decreasing_by
  · exact sizeOf_lt_arr hvalue
  · exact sizeOf_lt_obj hfield

/-! ## Documents -/

/-- A value that a document can hold where there is room for some depth. -/
structure Fits (room : Nat) (value : Json) : Prop where
  writable : isWritable value = true
  depth_le : value.depth ≤ room

theorem fits_arr_iff {room : Nat} {items : List Json} :
    Fits (room + 1) (.arr items) ↔ ∀ value ∈ items, Fits room value := by
  constructor
  · rintro ⟨hwritable, hdepth⟩ value hvalue
    rw [isWritable, areWritable_iff] at hwritable
    rw [depth, Nat.add_le_add_iff_right, depths_le_iff] at hdepth
    exact ⟨hwritable value hvalue, hdepth value hvalue⟩
  · intro h
    refine ⟨?_, ?_⟩
    · rw [isWritable, areWritable_iff]
      exact fun value hvalue => (h value hvalue).writable
    · rw [depth, Nat.add_le_add_iff_right, depths_le_iff]
      exact fun value hvalue => (h value hvalue).depth_le

theorem fits_obj_iff {room : Nat} {fields : List (String × Json)} :
    Fits (room + 1) (.obj fields) ↔
      (fields.map (·.1)).Nodup ∧ ∀ field ∈ fields, Fits room field.2 := by
  constructor
  · rintro ⟨hwritable, hdepth⟩
    rw [isWritable, Bool.and_eq_true, decide_eq_true_eq, fieldsWritable_iff] at hwritable
    rw [depth, Nat.add_le_add_iff_right, fieldDepths_le_iff] at hdepth
    exact ⟨hwritable.1, fun field hfield => ⟨hwritable.2 field hfield, hdepth field hfield⟩⟩
  · rintro ⟨hkeys, h⟩
    refine ⟨?_, ?_⟩
    · rw [isWritable, Bool.and_eq_true, decide_eq_true_eq, fieldsWritable_iff]
      exact ⟨hkeys, fun field hfield => (h field hfield).writable⟩
    · rw [depth, Nat.add_le_add_iff_right, fieldDepths_le_iff]
      exact fun field hfield => (h field hfield).depth_le

/-- What is written for a value within the limit is not too deep to be loaded. -/
theorem isTooDeep_indented {value : Json} (h : value.Fits maxNesting) :
    isTooDeep value.indented = false := by
  have hpasses := (balanced_indentedAt value h.depth_le 0).passes []
  rw [List.append_nil] at hpasses
  rw [isTooDeep, readPart, parse_indented h.writable]
  exact hpasses.trans rfl

theorem return_notMem_indented (value : Json) : '\r' ∉ value.indented.toList :=
  (balanced_indentedAt value (Nat.le_refl _) 0).noReturn

end Ambient.Json
