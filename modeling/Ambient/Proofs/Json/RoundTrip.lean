/-
  Ambient.Proofs.Json.RoundTrip

  Documents read back. A value whose objects give no key twice and whose integers are not too long
  is written, one item a line, as a document that is read as the value (`parse_indented`). The parts
  are read in the order in which they are written: the text of each part is at least as long as the
  fuel that reading it takes.
-/
import Ambient.Proofs.Json.Numerals
import Ambient.Proofs.Json.Strings

namespace Ambient.Json

open Text

/-! ## Values that documents can hold -/

mutual

/-- Whether a document can hold a value: no integer has too many digits, and no object gives a key
twice. -/
def isWritable : Json → Bool
  | .int n => (Nat.toDigits 10 n.natAbs).length ≤ maxDigits
  | .arr items => areWritable items
  | .obj fields => (fields.map (·.1)).Nodup && fieldsWritable fields
  | _ => true

/-- Whether a document can hold each of some values. -/
def areWritable : List Json → Bool
  | [] => true
  | value :: rest => isWritable value && areWritable rest

/-- Whether a document can hold the values of some fields. -/
def fieldsWritable : List (String × Json) → Bool
  | [] => true
  | (_, value) :: rest => isWritable value && fieldsWritable rest

end

theorem areWritable_iff {items : List Json} :
    areWritable items = true ↔ ∀ value ∈ items, isWritable value = true := by
  induction items with
  | nil => simp [areWritable]
  | cons value rest ih => simp [areWritable, ih]

theorem fieldsWritable_iff {fields : List (String × Json)} :
    fieldsWritable fields = true ↔ ∀ field ∈ fields, isWritable field.2 = true := by
  induction fields with
  | nil => simp [fieldsWritable]
  | cons field rest ih => simp [fieldsWritable, ih]

/-! ## Starts of values -/

/-- Whether a value can begin with a character. -/
def opensValue (c : Char) : Bool :=
  isAsciiDigit c || ['n', 't', 'f', 'N', 'I', '-', '"', '[', '\x7b'].contains c

theorem ne_of_opensValue {c d : Char} (h : opensValue c = true) (hd : opensValue d = false) :
    c ≠ d := by
  rintro rfl
  rw [hd] at h
  cases h

theorem isSpace_of_opensValue {c : Char} (h : opensValue c = true) : isSpace c = false := by
  simp [isSpace, ne_of_opensValue h (d := ' ') (by decide),
    ne_of_opensValue h (d := '\t') (by decide), ne_of_opensValue h (d := '\n') (by decide),
    ne_of_opensValue h (d := '\r') (by decide)]

/-- A text that begins as a value does. -/
def OpensValue (text : List Char) : Prop :=
  ∃ c rest, text = c :: rest ∧ opensValue c = true

theorem OpensValue.append {text : List Char} (h : OpensValue text) (more : List Char) :
    OpensValue (text ++ more) := by
  obtain ⟨c, rest, rfl, hc⟩ := h
  exact ⟨c, rest ++ more, rfl, hc⟩

theorem OpensValue.skipSpace_eq {text : List Char} (h : OpensValue text) : skipSpace text = text := by
  obtain ⟨c, rest, rfl, hc⟩ := h
  simp [skipSpace, isSpace_of_opensValue hc]

/-! ## Scalars -/

/-- A digit begins no word. -/
theorem words_of_digit {c : Char} (h : isAsciiDigit c = true) (rest : List Char) :
    (words.findSome? fun (word, value) => (afterPrefix? word (c :: rest)).map (value, ·)) = none := by
  have hne : ∀ d, isAsciiDigit d = false → d ≠ c := fun d hd => (ne_of_isAsciiDigit h hd).symm
  simp [words, afterPrefix?, hne 'n' (by decide), hne 't' (by decide), hne 'f' (by decide),
    hne 'N' (by decide), hne 'I' (by decide), hne '-' (by decide)]

theorem words_of_negative {c : Char} (h : isAsciiDigit c = true) (rest : List Char) :
    (words.findSome? fun (word, value) => (afterPrefix? word ('-' :: c :: rest)).map (value, ·)) =
      none := by
  have hne : 'I' ≠ c := (ne_of_isAsciiDigit h (by decide)).symm
  simp [words, afterPrefix?, hne]

/-- A number with its sign is read as the digits after the sign are. -/
theorem readScalar_number {c : Char} (h : isAsciiDigit c = true) (rest : List Char) (negative : Bool) :
    ∃ remaining, readScalar ((if negative then ['-'] else []) ++ c :: rest) =
      readNumber negative remaining (c :: rest) := by
  cases negative with
  | true =>
    refine ⟨(c :: rest).length + 1, ?_⟩
    show readScalar ('-' :: c :: rest) = _
    rw [readScalar, words_of_negative h]
    rfl
  | false =>
    refine ⟨(c :: rest).length, ?_⟩
    show readScalar (c :: rest) = _
    rw [readScalar, words_of_digit h]
    intro more heq
    obtain ⟨rfl, -⟩ := List.cons.inj heq
    exact absurd h (by decide)

/-- What begins neither as a string nor as a list nor as an object is a word or a number. -/
theorem readValue_scalar (fuel : Nat) {c : Char} (rest : List Char) (hquote : c ≠ '"')
    (hbracket : c ≠ '[') (hbrace : c ≠ '\x7b') :
    readValue (fuel + 1) (c :: rest) = readScalar (c :: rest) := by
  rw [readValue]
  · simp [hquote]
  · simp [hbracket]
  · simp [hbrace]

/-- What is read as a number begins with a digit. -/
theorem exists_digit_of_readNumber {negative : Bool} {remaining : Nat} {text : List Char}
    {result : Json × List Char} (h : readNumber negative remaining text = .ok result) :
    ∃ c rest, text = c :: rest ∧ isAsciiDigit c = true := by
  cases text with
  | nil => cases h
  | cons c rest =>
    refine ⟨c, rest, rfl, ?_⟩
    by_contra hdigit
    have hzero : c ≠ '0' := by
      rintro rfl
      exact hdigit (by decide)
    have hwhole : readWhole (c :: rest) = none := by
      rw [readWhole]
      · simp [hdigit]
      · exact hzero
    rw [readNumber, hwhole] at h
    cases h

/-- A text that is read as a number whatever follows it, with or without a sign. -/
def ReadsNumber (text : List Char) (value : Bool → Json) : Prop :=
  ∀ negative remaining rest, EndsNumber rest →
    readNumber negative remaining (text ++ rest) = .ok (value negative, rest)

theorem ReadsNumber.exists_digit {text : List Char} {value : Bool → Json} (h : ReadsNumber text value) :
    ∃ c rest, text = c :: rest ∧ isAsciiDigit c = true := by
  have hread := h false 0 [] (by simp [EndsNumber])
  rw [List.append_nil] at hread
  exact exists_digit_of_readNumber hread

/-- A number with its sign is read as the number. -/
theorem ReadsNumber.readScalar {text : List Char} {value : Bool → Json} (h : ReadsNumber text value)
    (negative : Bool) {rest : List Char} (hrest : EndsNumber rest) :
    readScalar ((if negative then ['-'] else []) ++ text ++ rest) = .ok (value negative, rest) := by
  obtain ⟨c, more, rfl, hc⟩ := h.exists_digit
  obtain ⟨remaining, hread⟩ := readScalar_number hc (more ++ rest) negative
  rw [List.append_assoc, List.cons_append, hread]
  exact h negative remaining rest hrest

theorem ReadsNumber.opensValue {text : List Char} {value : Bool → Json} (h : ReadsNumber text value)
    (negative : Bool) : OpensValue ((if negative then ['-'] else []) ++ text) := by
  obtain ⟨c, rest, rfl, hc⟩ := h.exists_digit
  cases negative with
  | true => exact ⟨'-', c :: rest, rfl, rfl⟩
  | false => exact ⟨c, rest, rfl, by rw [Json.opensValue, hc, Bool.true_or]⟩

/-! ### Integers -/

theorem toList_int (n : Int) :
    (toString n).toList = (if n < 0 then ['-'] else []) ++ Nat.toDigits 10 n.natAbs := by
  have htext : toString n = n.repr := rfl
  rw [htext, Int.repr_eq_if]
  split
  · rename_i h
    rw [if_neg (not_lt.mpr h), Nat.toList_repr, List.nil_append]
    congr 1
    omega
  · rename_i h
    have habs : (-n).toNat = n.natAbs := by omega
    rw [if_pos (not_le.mp h), String.toList_append, Nat.toList_repr, habs]
    rfl

theorem readsNumber_int {n : Nat} (h : (Nat.toDigits 10 n).length ≤ maxDigits) :
    ReadsNumber (Nat.toDigits 10 n) fun negative => .int (if negative then -n else n) :=
  fun negative remaining _ hrest => readNumber_int negative remaining h hrest

/-! ### Doubles -/

/-- The text of a magnitude is read as the double with the sign before it. -/
theorem readsNumber_double (x : Magnitude) :
    ReadsNumber (if x.isZero then "0.0" else ((Double.shortest x).normalize 400).text).toList
      fun negative => .float (.finite negative x) := by
  intro negative remaining rest hrest
  by_cases hzero : x.isZero = true
  · -- zero is written without a decimal
    have hx : x = Magnitude.zero := by
      obtain ⟨m, e, hcanonical⟩ := x
      have hm : m = 0 := by simpa [Magnitude.isZero] using hzero
      subst hm
      have he : e = -1074 := hcanonical.2.2.2.resolve_left (by decide)
      subst he
      rfl
    rw [if_pos hzero, hx]
    exact readNumber_point negative remaining (isWhole_toDigits 0) (isRun_toDigits 0) hrest
  · have hx : 0 < x.significand := Nat.pos_of_ne_zero (by simpa [Magnitude.isZero] using hzero)
    have hshortest := Double.ofDecimal_of_false (Double.ofDecimal_shortest hx)
    rw [if_neg hzero, readNumber_text negative remaining ?_ hrest, Double.ofDecimal_normalize,
      hshortest]
    -- a decimal without digits is read as zero
    by_contra hnone
    have hread := Double.ofDecimal_normalize false (Double.shortest x) 400
    rw [Nat.eq_zero_of_not_pos hnone, hshortest] at hread
    cases hread
    exact absurd hx (by decide)

/-! ## Rows of parts -/

/-- A line break with the spaces of a depth. -/
def breakChars (depth : Nat) : List Char :=
  '\n' :: List.replicate (2 * depth) ' '

theorem toList_lineBreak (depth : Nat) : (lineBreak depth).toList = breakChars depth := by
  simp [lineBreak, breakChars]

theorem skipSpace_breakChars (depth : Nat) (text : List Char) :
    skipSpace (breakChars depth ++ text) = skipSpace text := by
  have hspaces : ∀ c ∈ breakChars depth, isSpace c = true := by
    rintro c (_ | ⟨_, hc⟩)
    · decide
    · rw [(List.mem_replicate.mp hc).2]
      decide
  rw [skipSpace, skipSpace, List.dropWhile_append_of_pos hspaces]

/-- What stands between brackets: the parts in a row, one a line. -/
def rowChars (depth : Nat) (parts : List String) : List Char :=
  (String.joinWith ("," ++ lineBreak depth) parts).toList

theorem rowChars_cons_cons (depth : Nat) (first second : String) (parts : List String) :
    rowChars depth (first :: second :: parts) =
      first.toList ++ ',' :: (breakChars depth ++ rowChars depth (second :: parts)) := by
  simp [rowChars, String.joinWith, toList_lineBreak]

theorem rowChars_singleton (depth : Nat) (part : String) : rowChars depth [part] = part.toList := rfl

theorem toList_bracketed (opening closing : Char) (depth : Nat) {parts : List String}
    (h : parts ≠ []) :
    (bracketed (String.ofList [opening]) (String.ofList [closing]) depth parts).toList =
      opening :: (breakChars (depth + 1) ++
        (rowChars (depth + 1) parts ++ (breakChars depth ++ [closing]))) := by
  have hempty : parts.isEmpty = false := by simpa using h
  simp [bracketed, hempty, toList_lineBreak, rowChars]

/-- What ends a row of parts, or goes on with it, ends a number. -/
theorem endsNumber_comma (rest : List Char) : EndsNumber (',' :: rest) := by
  rintro c hc
  cases hc
  decide

theorem endsNumber_breakChars (depth : Nat) (rest : List Char) :
    EndsNumber (breakChars depth ++ rest) := by
  rintro c hc
  cases hc
  decide

/-! ## Fields -/

theorem setField_of_not_mem {key : String} {fields : List (String × Json)}
    (h : key ∉ fields.map (·.1)) (value : Json) :
    setField key value fields = fields ++ [(key, value)] := by
  induction fields with
  | nil => rfl
  | cons field rest ih =>
    rw [List.map_cons, List.mem_cons, not_or] at h
    rw [setField, if_neg (by simpa using Ne.symm h.1), ih h.2]
    rfl

/-- Fields whose keys are different stay as they are. -/
theorem mergeFields_of_nodup {fields : List (String × Json)} (h : (fields.map (·.1)).Nodup) :
    mergeFields fields = fields := by
  -- the induction is on the fields to come, whose keys are none of those that are there already
  have hmerge : ∀ merged : List (String × Json), ((merged ++ fields).map (·.1)).Nodup →
      fields.foldl (fun merged field => setField field.1 field.2 merged) merged =
        merged ++ fields := by
    clear h
    induction fields with
    | nil => simp
    | cons field rest ih =>
      intro merged hdistinct
      have hnew : field.1 ∉ merged.map (·.1) := by
        rw [List.map_append, List.nodup_append] at hdistinct
        exact fun hmem => hdistinct.2.2 _ hmem _ (by simp) rfl
      have hset : setField field.1 field.2 merged = merged ++ [field] :=
        setField_of_not_mem hnew field.2
      show rest.foldl _ (setField field.1 field.2 merged) = _
      rw [hset, ih]
      · simp
      · simpa using hdistinct
  exact hmerge [] h

/-! ## Values -/

/-- A text that is read as a value wherever it stands. -/
def ReadsValue (text : List Char) (value : Json) : Prop :=
  ∀ fuel rest, text.length ≤ fuel → EndsNumber rest →
    readValue fuel (text ++ rest) = .ok (value, rest)

/-- A text that begins as a value and is read as it. -/
structure Denotes (text : List Char) (value : Json) : Prop where
  opens : OpensValue text
  reads : ReadsValue text value

/-- A word or a number is read as the scalar that it denotes. -/
theorem Denotes.of_readScalar {text : List Char} {value : Json} (hopens : OpensValue text)
    (hstart : ∀ c, text.head? = some c → c ≠ '"' ∧ c ≠ '[' ∧ c ≠ '\x7b')
    (hread : ∀ rest, EndsNumber rest → readScalar (text ++ rest) = .ok (value, rest)) :
    Denotes text value where
  opens := hopens
  reads fuel rest hfuel hrest := by
    obtain ⟨c, more, rfl, -⟩ := hopens
    obtain ⟨hquote, hbracket, hbrace⟩ := hstart c rfl
    obtain ⟨fuel, rfl⟩ := Nat.exists_eq_succ_of_ne_zero
      (Nat.ne_of_gt (Nat.lt_of_lt_of_le (Nat.succ_pos _) hfuel))
    rw [← hread rest hrest]
    exact readValue_scalar fuel (more ++ rest) hquote hbracket hbrace

theorem Denotes.of_readsNumber {text : List Char} {value : Bool → Json} (h : ReadsNumber text value)
    (negative : Bool) : Denotes ((if negative then ['-'] else []) ++ text) (value negative) := by
  refine .of_readScalar (h.opensValue negative) ?_ fun rest hrest => h.readScalar negative hrest
  obtain ⟨c, rest, rfl, hc⟩ := h.exists_digit
  rintro d hd
  have hdigit : isAsciiDigit d = true ∨ d = '-' := by
    cases negative with
    | true => exact .inr (by simpa using hd.symm)
    | false =>
      have hcd : c = d := by simpa using hd
      exact .inl (hcd ▸ hc)
  refine ⟨?_, ?_, ?_⟩ <;> rintro rfl <;> revert hdigit <;> decide

/-- A word is read as the value that it stands for. -/
theorem denotes_word {word : List Char} {value : Json} (h : (word, value) ∈ words) :
    Denotes word value := by
  -- the words are spelled out, for each has to be told from those before it
  have hwords : words =
      [(['n', 'u', 'l', 'l'], .null), (['t', 'r', 'u', 'e'], .bool true),
       (['f', 'a', 'l', 's', 'e'], .bool false), (['N', 'a', 'N'], .float .nan),
       (['I', 'n', 'f', 'i', 'n', 'i', 't', 'y'], .float (.infinity false)),
       (['-', 'I', 'n', 'f', 'i', 'n', 'i', 't', 'y'], .float (.infinity true))] := rfl
  have hread : ∀ rest, readScalar (word ++ rest) = .ok (value, rest) := by
    intro rest
    rw [hwords] at h
    simp only [List.mem_cons, List.not_mem_nil, or_false, Prod.mk.injEq] at h
    rcases h with ⟨rfl, rfl⟩ | ⟨rfl, rfl⟩ | ⟨rfl, rfl⟩ | ⟨rfl, rfl⟩ | ⟨rfl, rfl⟩ | ⟨rfl, rfl⟩ <;>
      simp [readScalar, hwords, afterPrefix?]
  have hopens : ∃ c rest, word = c :: rest ∧ opensValue c = true ∧ c ≠ '"' ∧ c ≠ '[' ∧
      c ≠ '\x7b' := by
    rw [hwords] at h
    simp only [List.mem_cons, List.not_mem_nil, or_false, Prod.mk.injEq] at h
    rcases h with ⟨rfl, -⟩ | ⟨rfl, -⟩ | ⟨rfl, -⟩ | ⟨rfl, -⟩ | ⟨rfl, -⟩ | ⟨rfl, -⟩ <;>
      exact ⟨_, _, rfl, by decide, by decide, by decide, by decide⟩
  obtain ⟨c, rest, rfl, hc, hstart⟩ := hopens
  refine .of_readScalar ⟨c, rest, rfl, hc⟩ ?_ fun rest _ => hread rest
  rintro d hd
  cases hd
  exact hstart

/-- A string in quotes is read up to its closing quote. -/
theorem readString_stringText (opening : Nat) {fuel : Nat} (s : String) (rest : List Char)
    (hfuel : (stringChars s.toList).length < fuel) :
    readString opening fuel (stringChars s.toList ++ '"' :: rest) = .ok (s.toList, rest) :=
  readString_stringChars opening (Nat.lt_of_le_of_lt (length_le_stringChars _) hfuel) rest

theorem denotes_string (s : String) : Denotes (stringText s).toList (.str s) where
  opens := ⟨'"', _, toList_stringText s, rfl⟩
  reads fuel rest hfuel hrest := by
    rw [toList_stringText] at hfuel ⊢
    obtain ⟨fuel, rfl⟩ := Nat.exists_eq_succ_of_ne_zero
      (Nat.ne_of_gt (Nat.lt_of_lt_of_le (Nat.succ_pos _) hfuel))
    rw [List.cons_append, List.append_assoc, List.singleton_append, readValue,
      readString_stringText _ s rest (by simp; omega)]
    simp [bind, Except.bind]

/-! ## Lists -/

/-- A row begins as its first part does. -/
theorem opensValue_rowChars {first : String} (h : OpensValue first.toList) (depth : Nat)
    (parts : List String) : OpensValue (rowChars depth (first :: parts)) := by
  cases parts with
  | nil => exact h
  | cons second parts =>
    rw [rowChars_cons_cons]
    exact h.append _

/-- The blanks before a row are passed over. -/
theorem skipSpace_rowChars {row : List Char} (h : OpensValue row) (depth : Nat) (rest : List Char) :
    skipSpace (breakChars depth ++ (row ++ rest)) = row ++ rest := by
  rw [skipSpace_breakChars, (h.append _).skipSpace_eq]

theorem skipSpace_comma (rest : List Char) : skipSpace (',' :: rest) = ',' :: rest := rfl

theorem denotes_nil (depth : Nat) : Denotes (indentedAt depth (.arr [])).toList (.arr []) := by
  have htext : (indentedAt depth (.arr [])).toList = ['[', ']'] := by
    simp [indentedAt, indentedItems, bracketed]
  rw [htext]
  refine ⟨⟨'[', [']'], rfl, rfl⟩, fun fuel rest hfuel _ => ?_⟩
  obtain ⟨fuel, rfl⟩ := Nat.exists_eq_succ_of_ne_zero
    (Nat.ne_of_gt (Nat.lt_of_lt_of_le (Nat.succ_pos 1) hfuel))
  rfl

/-- A row of values is read as the values, up to the bracket after it. -/
theorem readItems_row {depth : Nat} {first : Json} {items : List Json}
    (h : ∀ value ∈ first :: items, Denotes (indentedAt depth value).toList value) (closing : Nat)
    {fuel : Nat} (rest : List Char)
    (hfuel : (rowChars depth (indentedItems depth (first :: items))).length < fuel) :
    readItems fuel (rowChars depth (indentedItems depth (first :: items)) ++
      (breakChars closing ++ ']' :: rest)) = .ok (first :: items, rest) := by
  obtain ⟨fuel, rfl⟩ := Nat.exists_eq_succ_of_ne_zero (Nat.ne_of_gt (Nat.zero_lt_of_lt hfuel))
  have hread := (h first (by simp)).reads
  -- after its first item a row ends at the bracket, or a comma and a row of the others follow
  induction items generalizing first fuel with
  | nil =>
    rw [indentedItems, indentedItems, rowChars_singleton] at hfuel ⊢
    rw [readItems, hread fuel _ (Nat.le_of_lt_succ hfuel) (endsNumber_breakChars closing _)]
    simp only [bind, Except.bind, skipSpace_breakChars]
    rfl
  | cons second items ih =>
    have hsecond : Denotes (indentedAt depth second).toList second := h second (by simp)
    rw [indentedItems, indentedItems, rowChars_cons_cons] at hfuel ⊢
    simp only [List.length_append, List.length_cons] at hfuel
    obtain ⟨fuel, rfl⟩ : ∃ less, fuel = less + 1 := ⟨fuel - 1, by omega⟩
    have hitems : ∀ value ∈ second :: items, Denotes (indentedAt depth value).toList value :=
      fun value hv => h value (List.mem_cons_of_mem _ hv)
    have hlength : (rowChars depth (indentedItems depth (second :: items))).length < fuel + 1 := by
      rw [indentedItems]
      omega
    have hrow := ih hitems fuel hlength hsecond.reads
    rw [indentedItems] at hrow
    have hopens := opensValue_rowChars hsecond.opens depth (indentedItems depth items)
    simp only [List.append_assoc, List.cons_append]
    rw [readItems, hread (fuel + 1) _ (by omega) (endsNumber_comma _)]
    simp only [bind, Except.bind, skipSpace_comma, skipSpace_rowChars hopens, hrow]

/-- A list is read if its items are. -/
theorem denotes_cons {first : Json} {items : List Json} {depth : Nat}
    (h : ∀ value ∈ first :: items, Denotes (indentedAt (depth + 1) value).toList value) :
    Denotes (indentedAt depth (.arr (first :: items))).toList (.arr (first :: items)) := by
  have htext : (indentedAt depth (.arr (first :: items))).toList =
      '[' :: (breakChars (depth + 1) ++
        (rowChars (depth + 1) (indentedItems (depth + 1) (first :: items)) ++
          (breakChars depth ++ [']']))) :=
    toList_bracketed '[' ']' depth (List.cons_ne_nil _ _)
  have hopens : OpensValue (rowChars (depth + 1) (indentedItems (depth + 1) (first :: items))) :=
    opensValue_rowChars (h first (by simp)).opens _ _
  rw [htext]
  refine ⟨⟨'[', _, rfl, rfl⟩, fun fuel rest hfuel _ => ?_⟩
  simp only [List.length_append, List.length_cons, List.length_nil] at hfuel
  obtain ⟨fuel, rfl⟩ : ∃ less, fuel = less + 1 := ⟨fuel - 1, by omega⟩
  have hlength : (rowChars (depth + 1) (indentedItems (depth + 1) (first :: items))).length < fuel := by
    omega
  have hread := readItems_row h depth rest hlength
  have hskip := skipSpace_rowChars hopens (depth + 1) (breakChars depth ++ ']' :: rest)
  -- the row begins as a value does, so the list is not empty
  obtain ⟨c, more, hrow, hc⟩ := hopens
  rw [hrow] at hread hskip ⊢
  have hclosing : c ≠ ']' := ne_of_opensValue hc (by decide)
  simp only [List.cons_append, List.append_assoc, List.nil_append] at hskip hread ⊢
  rw [readValue, hskip]
  split
  · rename_i heq
    exact absurd (List.cons.inj heq).1 hclosing
  · rw [hread]
    rfl

/-! ## Objects -/

/-- What is written for a field. -/
def fieldText (depth : Nat) (field : String × Json) : String :=
  stringText field.1 ++ ": " ++ indentedAt depth field.2

theorem denotes_empty (depth : Nat) : Denotes (indentedAt depth (.obj [])).toList (.obj []) := by
  have htext : (indentedAt depth (.obj [])).toList = ['\x7b', '\x7d'] := by
    simp [indentedAt, indentedFields, bracketed]
  rw [htext]
  refine ⟨⟨'\x7b', ['\x7d'], rfl, rfl⟩, fun fuel rest hfuel _ => ?_⟩
  obtain ⟨fuel, rfl⟩ := Nat.exists_eq_succ_of_ne_zero
    (Nat.ne_of_gt (Nat.lt_of_lt_of_le (Nat.succ_pos 1) hfuel))
  rfl

theorem toList_fieldText (depth : Nat) (field : String × Json) :
    (fieldText depth field).toList =
      '"' :: (stringChars field.1.toList ++ '"' :: ':' :: ' ' :: (indentedAt depth field.2).toList) := by
  simp [fieldText, toList_stringText]

theorem indentedFields_eq_map (depth : Nat) (fields : List (String × Json)) :
    indentedFields depth fields = fields.map (fieldText depth) := by
  induction fields with
  | nil => rfl
  | cons field rest ih => rw [indentedFields, ih]; rfl

/-- A field at the start of a text is read, and then what follows it. -/
theorem readFields_fieldText {depth : Nat} {field : String × Json}
    (h : Denotes (indentedAt depth field.2).toList field.2) {fuel : Nat} {rest : List Char}
    (hfuel : (fieldText depth field).toList.length ≤ fuel) (hrest : EndsNumber rest) :
    readFields (fuel + 1) ((fieldText depth field).toList ++ rest) =
      match skipSpace rest with
      | '\x7d' :: rest => .ok ([field], rest)
      | ',' :: rest => do
        let (fields, rest) ← readFields fuel (skipSpace rest)
        .ok (field :: fields, rest)
      | rest => .error (.here .expectingComma rest.length) := by
  have hskip : skipSpace (' ' :: ((indentedAt depth field.2).toList ++ rest)) =
      (indentedAt depth field.2).toList ++ rest :=
    (h.opens.append rest).skipSpace_eq
  rw [toList_fieldText] at hfuel ⊢
  simp only [List.length_append, List.length_cons] at hfuel
  simp only [List.cons_append, List.append_assoc]
  rw [readFields, readString_stringText _ field.1 _ (by simp; omega)]
  show (readValue fuel (skipSpace (' ' :: ((indentedAt depth field.2).toList ++ rest))) >>= _) = _
  rw [hskip, h.reads fuel rest (by omega) hrest, String.ofList_toList]
  rfl

/-- A row of fields is read as the fields, up to the brace after it. -/
theorem readFields_row {depth : Nat} {first : String × Json} {fields : List (String × Json)}
    (h : ∀ field ∈ first :: fields, Denotes (indentedAt depth field.2).toList field.2)
    (closing : Nat) {fuel : Nat} (rest : List Char)
    (hfuel : (rowChars depth (indentedFields depth (first :: fields))).length < fuel) :
    readFields fuel (rowChars depth (indentedFields depth (first :: fields)) ++
      (breakChars closing ++ '\x7d' :: rest)) = .ok (first :: fields, rest) := by
  simp only [indentedFields_eq_map] at hfuel ⊢
  obtain ⟨fuel, rfl⟩ := Nat.exists_eq_succ_of_ne_zero (Nat.ne_of_gt (Nat.zero_lt_of_lt hfuel))
  have hfirst := h first (by simp)
  -- after its first field a row ends at the brace, or a comma and a row of the others follow
  induction fields generalizing first fuel with
  | nil =>
    rw [List.map_singleton, rowChars_singleton] at hfuel ⊢
    rw [readFields_fieldText hfirst (Nat.le_of_lt_succ hfuel) (endsNumber_breakChars closing _),
      skipSpace_breakChars]
    rfl
  | cons second fields ih =>
    have hsecond := h second (by simp)
    rw [List.map_cons, List.map_cons, rowChars_cons_cons] at hfuel ⊢
    simp only [List.length_append, List.length_cons] at hfuel
    obtain ⟨fuel, rfl⟩ : ∃ less, fuel = less + 1 := ⟨fuel - 1, by omega⟩
    have hfields : ∀ field ∈ second :: fields, Denotes (indentedAt depth field.2).toList field.2 :=
      fun field hf => h field (List.mem_cons_of_mem _ hf)
    have hlength : (rowChars depth ((second :: fields).map (fieldText depth))).length < fuel + 1 := by
      rw [List.map_cons]
      omega
    have hrow := ih hfields fuel hlength hsecond
    rw [List.map_cons] at hrow
    have hfield : OpensValue (fieldText depth second).toList :=
      ⟨'"', _, toList_fieldText depth second, rfl⟩
    have hopens := opensValue_rowChars hfield depth (fields.map (fieldText depth))
    simp only [List.append_assoc, List.cons_append]
    rw [readFields_fieldText hfirst (by omega) (endsNumber_comma _), skipSpace_comma]
    simp only [bind, Except.bind, skipSpace_rowChars hopens, hrow]

/-- An object is read if its values are and no key is given twice. -/
theorem denotes_object {first : String × Json} {fields : List (String × Json)} {depth : Nat}
    (hkeys : ((first :: fields).map (·.1)).Nodup)
    (h : ∀ field ∈ first :: fields, Denotes (indentedAt (depth + 1) field.2).toList field.2) :
    Denotes (indentedAt depth (.obj (first :: fields))).toList (.obj (first :: fields)) := by
  have htext : (indentedAt depth (.obj (first :: fields))).toList =
      '\x7b' :: (breakChars (depth + 1) ++
        (rowChars (depth + 1) (indentedFields (depth + 1) (first :: fields)) ++
          (breakChars depth ++ ['\x7d']))) :=
    toList_bracketed '\x7b' '\x7d' depth (List.cons_ne_nil _ _)
  have hopens : OpensValue (rowChars (depth + 1) (indentedFields (depth + 1) (first :: fields))) :=
    opensValue_rowChars ⟨'"', _, toList_fieldText (depth + 1) first, rfl⟩ _ _
  rw [htext]
  refine ⟨⟨'\x7b', _, rfl, rfl⟩, fun fuel rest hfuel _ => ?_⟩
  simp only [List.length_append, List.length_cons, List.length_nil] at hfuel
  -- one step goes to the brace, and the others are enough for the row
  obtain ⟨fuel, rfl⟩ : ∃ less, fuel = less + 1 := ⟨fuel - 1, by omega⟩
  have hlength :
      (rowChars (depth + 1) (indentedFields (depth + 1) (first :: fields))).length < fuel := by
    omega
  have hread := readFields_row h depth rest hlength
  have hskip := skipSpace_rowChars hopens (depth + 1) (breakChars depth ++ '\x7d' :: rest)
  obtain ⟨c, more, hrow, hc⟩ := hopens
  rw [hrow] at hread hskip ⊢
  -- the row begins a key, so this is no empty object
  have hclosing : c ≠ '\x7d' := ne_of_opensValue hc (by decide)
  simp only [List.cons_append, List.append_assoc, List.nil_append] at hskip hread ⊢
  rw [readValue, hskip]
  split
  · rename_i heq
    exact absurd (List.cons.inj heq).1 hclosing
  · rw [hread]
    show Except.ok (Json.obj (mergeFields (first :: fields)), rest) = _
    rw [mergeFields_of_nodup hkeys]

/-! ## Documents -/

theorem sizeOf_lt_arr {value : Json} {items : List Json} (h : value ∈ items) :
    sizeOf value < sizeOf (Json.arr items) := by
  have hitems := List.sizeOf_lt_of_mem h
  rw [Json.arr.sizeOf_spec]
  omega

theorem sizeOf_lt_obj {field : String × Json} {fields : List (String × Json)} (h : field ∈ fields) :
    sizeOf field.2 < sizeOf (Json.obj fields) := by
  have hfields := List.sizeOf_lt_of_mem h
  obtain ⟨key, value⟩ := field
  rw [Prod.mk.sizeOf_spec] at hfields
  rw [Json.obj.sizeOf_spec]
  dsimp only
  omega

/-- The text of a value at any depth denotes it. -/
theorem denotes_indentedAt (value : Json) (h : isWritable value = true) (depth : Nat) :
    Denotes (indentedAt depth value).toList value :=
  match value, h with
  | .null, _ => denotes_word (by simp [words, indentedAt])
  | .bool b, _ => by cases b <;> exact denotes_word (by simp [words, indentedAt])
  | .int n, h => by
    have hread := Denotes.of_readsNumber
      (readsNumber_int (n := n.natAbs) (by simpa [isWritable] using h)) (decide (n < 0))
    simp only [decide_eq_true_eq, signed_natAbs] at hread
    show Denotes (toString n).toList _
    rw [toList_int]
    exact hread
  | .float .nan, _ => denotes_word (by simp [words, indentedAt, numberText, Double.textWith])
  | .float (.infinity negative), _ => by
    cases negative <;>
      exact denotes_word (by simp [words, indentedAt, numberText, Double.textWith])
  | .float (.finite negative x), _ => by
    have hread := Denotes.of_readsNumber (readsNumber_double x) negative
    have hsign : (if negative then "-" else "").toList = if negative then ['-'] else [] := by
      cases negative <;> rfl
    show Denotes (numberText (.finite negative x)).toList _
    rw [numberText, Double.textWith, String.toList_append, hsign]
    exact hread
  | .str s, _ => denotes_string s
  | .arr [], _ => denotes_nil depth
  | .arr (first :: items), h => by
    rw [isWritable, areWritable_iff] at h
    exact denotes_cons fun value hvalue => denotes_indentedAt value (h value hvalue) (depth + 1)
  | .obj [], _ => denotes_empty depth
  | .obj (first :: fields), h => by
    rw [isWritable, Bool.and_eq_true, decide_eq_true_eq, fieldsWritable_iff] at h
    exact denotes_object h.1 fun field hfield =>
      denotes_indentedAt field.2 (h.2 field hfield) (depth + 1)
termination_by sizeOf value
decreasing_by
  · exact sizeOf_lt_arr hvalue
  · exact sizeOf_lt_obj hfield

/-- What is written as a document is read back as it was. -/
theorem parse_indented {value : Json} (h : isWritable value = true) :
    parse value.indented = .ok value := by
  obtain ⟨hopens, hreads⟩ := denotes_indentedAt value h 0
  have hread := hreads (2 * value.indented.toList.length + 2) [] (by rw [indented]; omega)
    (by simp [EndsNumber])
  have hskip := hopens.skipSpace_eq
  obtain ⟨c, rest, htext, hc⟩ := hopens
  -- no value begins with a byte order mark
  have hmark : c ≠ Char.ofNat 0xFEFF := ne_of_opensValue hc (by decide)
  have hhead : (value.indented.toList.head? == some (Char.ofNat 0xFEFF)) = false := by
    rw [indented, htext]
    simpa using hmark
  rw [List.append_nil] at hread
  rw [parse, readDocument, hhead]
  rw [indented] at hread ⊢
  simp only [hskip, hread, bind, Except.bind, Bool.false_eq_true, if_false]
  rfl

end Ambient.Json
