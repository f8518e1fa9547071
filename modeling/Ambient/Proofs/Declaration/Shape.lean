/-
  Ambient.Proofs.Declaration.Shape

  Shapes read back from their texts. A shape is put together of words, applications, arrays, tuples and
  maps, and its text shows where each of them ends, whatever follows the text (`Shape.isReadBack`). The
  brackets behind the element of an array could also begin a tuple, so they are counted apart from the
  element.
-/
import Mathlib.Logic.Function.Iterate
import Ambient.Declaration.TypeExpr

namespace Ambient

/-! ## Words -/

namespace Text

/-- A character by which the parts of a type are told apart in its text. -/
def isTypeSign (c : Char) : Bool :=
  c == '[' || c == ']' || c == '<' || c == '>' || c == '\x7b' || c == ',' || c == ' '

/-- A sign that can follow the whole text of a type: it closes a row or separates two of its parts. -/
def isTypeEnd (c : Char) : Bool :=
  c == ',' || c == ']' || c == '>' || c == ' '

/-- Whether a text can stand for one part of a type: it has characters, and none of them is a sign. -/
def isTypeWord (word : List Char) : Bool :=
  !word.isEmpty && word.all fun c => !isTypeSign c

theorem isTypeWord_iff {word : List Char} :
    isTypeWord word = true ↔ word ≠ [] ∧ ∀ c ∈ word, isTypeSign c = false := by
  cases word <;> simp [isTypeWord]

theorem isTypeWord_append {front word : List Char} (hfront : ∀ c ∈ front, isTypeSign c = false)
    (hword : isTypeWord word = true) : isTypeWord (front ++ word) = true := by
  obtain ⟨hne, hchars⟩ := isTypeWord_iff.mp hword
  refine isTypeWord_iff.mpr ⟨by simp [hne], fun c hc => ?_⟩
  rcases List.mem_append.mp hc with hc | hc
  · exact hfront c hc
  · exact hchars c hc

theorem isTypeSign_of_isTypeEnd {c : Char} (h : isTypeEnd c = true) :
    isTypeSign c = true ∧ c ≠ '<' := by
  simp only [isTypeEnd, Bool.or_eq_true, beq_iff_eq] at h
  rcases h with ((rfl | rfl) | rfl) | rfl <;> decide

/-- A word ends before the first sign. -/
theorem word_append_inj {word word' rest rest' : List Char}
    (hword : ∀ c ∈ word, isTypeSign c = false) (hword' : ∀ c ∈ word', isTypeSign c = false)
    (hrest : ∀ c ∈ rest.head?, isTypeSign c = true) (hrest' : ∀ c ∈ rest'.head?, isTypeSign c = true)
    (h : word ++ rest = word' ++ rest') : word = word' ∧ rest = rest' := by
  have hcut : ∀ {w r : List Char}, (∀ c ∈ w, isTypeSign c = false) →
      (∀ c ∈ r.head?, isTypeSign c = true) → (w ++ r).takeWhile (fun c => !isTypeSign c) = w := by
    intro w r hw hr
    rw [List.takeWhile_append_of_pos (by simpa using hw)]
    cases r with
    | nil => simp
    | cons c _ => simp [hr c rfl]
  have hsame : word = word' := by rw [← hcut hword hrest, h, hcut hword' hrest']
  subst hsame
  exact ⟨rfl, List.append_cancel_left h⟩

end Text

/-! ## Shapes -/

/-- How a type is put together: a word and the arguments that it is applied to, an array, a tuple or a
map. A word without arguments is a leaf. -/
inductive Shape where
  | named (word : String) (arguments : List Shape)
  | array (element : Shape)
  | tuple (elements : List Shape)
  | map (key value : Shape)
  deriving Repr

namespace Shape

mutual

/-- The text of what is put together so. -/
def text : Shape → String
  | .named word arguments => word ++ TypeExpr.bracketed (texts arguments)
  | .array element => text element ++ "[]"
  | .tuple elements => "[" ++ String.joinWith ", " (texts elements) ++ "]"
  | .map key value => "\x7b [key: " ++ text key ++ "]: " ++ text value ++ " \x7d"

/-- The texts of some shapes. -/
def texts : List Shape → List String
  | [] => []
  | s :: rest => text s :: texts rest

end

mutual

/-- Whether all words of a shape are words in its text. -/
def isWorded : Shape → Bool
  | .named word arguments => Text.isTypeWord word.toList && allWorded arguments
  | .array element => isWorded element
  | .tuple elements => allWorded elements
  | .map key value => isWorded key && isWorded value

/-- Whether all words of some shapes are words in their texts. -/
def allWorded : List Shape → Bool
  | [] => true
  | s :: rest => isWorded s && allWorded rest

end

theorem allWorded_iff {shapes : List Shape} :
    allWorded shapes = true ↔ ∀ s ∈ shapes, s.isWorded = true := by
  induction shapes with
  | nil => simp [allWorded]
  | cons s rest ih => simp [allWorded, ih]

/-! ## Parts -/

/-- The shapes that a shape is put together of. -/
def parts : Shape → List Shape
  | .named _ arguments => arguments
  | .array element => [element]
  | .tuple elements => elements
  | .map key value => [key, value]

theorem sizeOf_lt_of_mem_parts {s part : Shape} (h : part ∈ s.parts) : sizeOf part < sizeOf s := by
  cases s with
  | named word arguments =>
    have hsize : sizeOf part < sizeOf arguments := List.sizeOf_lt_of_mem h
    rw [named.sizeOf_spec]
    omega
  | array element =>
    rw [List.mem_singleton.mp h, array.sizeOf_spec]
    omega
  | tuple elements =>
    have hsize : sizeOf part < sizeOf elements := List.sizeOf_lt_of_mem h
    rw [tuple.sizeOf_spec]
    omega
  | map key value =>
    have hpart : part = key ∨ part = value := by simpa [parts] using h
    rw [map.sizeOf_spec]
    rcases hpart with rfl | rfl <;> omega

theorem isWorded_of_mem_parts {s part : Shape} (hs : s.isWorded = true) (h : part ∈ s.parts) :
    part.isWorded = true := by
  cases s with
  | named word arguments =>
    simp only [isWorded, Bool.and_eq_true] at hs
    exact allWorded_iff.mp hs.2 part h
  | array element =>
    rw [List.mem_singleton.mp h]
    exact hs
  | tuple elements => exact allWorded_iff.mp hs part h
  | map key value =>
    have hpart : part = key ∨ part = value := by simpa [parts] using h
    simp only [isWorded, Bool.and_eq_true] at hs
    rcases hpart with rfl | rfl
    · exact hs.1
    · exact hs.2

/-! ## What follows -/

/-- Whether a text can follow the whole text of a type. -/
def Ends (rest : List Char) : Prop :=
  ∀ c ∈ rest.head?, Text.isTypeEnd c = true

/-- Whether a text can follow a word with its arguments: the pair of brackets that makes an array of
them may come next. -/
def Follows (rest : List Char) : Prop :=
  ∀ c ∈ rest.head?, Text.isTypeSign c = true ∧ c ≠ '<'

theorem ends_cons {c : Char} (h : Text.isTypeEnd c = true) (rest : List Char) : Ends (c :: rest) := by
  rintro d hd
  obtain rfl : c = d := Option.some.inj hd
  exact h

/-- What follows a word with its arguments does not open other arguments. -/
theorem Follows.ne_angle {rest : List Char} (h : Follows rest) (tail : List Char) :
    rest ≠ '<' :: tail := by
  rintro rfl
  exact absurd rfl (h '<' rfl).2

theorem Ends.follows {rest : List Char} (h : Ends rest) : Follows rest :=
  fun c hc => Text.isTypeSign_of_isTypeEnd (h c hc)

/-- A shape that is told from its text, whatever follows the text. -/
def IsReadBack (s : Shape) : Prop :=
  ∀ {t : Shape} {rest rest' : List Char}, t.isWorded = true → Ends rest → Ends rest' →
    s.text.toList ++ rest = t.text.toList ++ rest' → s = t ∧ rest = rest'

/-! ## First characters -/

theorem exists_text_named {word : String} {arguments : List Shape}
    (h : (named word arguments).isWorded = true) :
    ∃ c rest, (named word arguments).text.toList = c :: rest ∧ Text.isTypeSign c = false := by
  simp only [isWorded, Bool.and_eq_true] at h
  obtain ⟨hne, hchars⟩ := Text.isTypeWord_iff.mp h.1
  obtain ⟨c, rest, hword⟩ := List.exists_cons_of_ne_nil hne
  exact ⟨c, _, by rw [text, String.toList_append, hword, List.cons_append],
    hchars c (by simp [hword])⟩

theorem toList_text_tuple (elements : List Shape) :
    (tuple elements).text.toList =
      '[' :: ((String.joinWith ", " (texts elements)).toList ++ "]".toList) := by
  simp [text]

theorem toList_text_map (key value : Shape) :
    (map key value).text.toList = "\x7b [key: ".toList ++
      (key.text.toList ++ "]: ".toList ++ (value.text.toList ++ " \x7d".toList)) := by
  simp [text]

/-- No text of a type begins with a sign that ends one. -/
theorem exists_text : ∀ {s : Shape}, s.isWorded = true →
    ∃ c rest, s.text.toList = c :: rest ∧ Text.isTypeEnd c = false
  | .named word arguments, hs => by
    obtain ⟨c, rest, htext, hc⟩ := exists_text_named hs
    refine ⟨c, rest, htext, ?_⟩
    rw [← Bool.not_eq_true]
    intro hend
    rw [(Text.isTypeSign_of_isTypeEnd hend).1] at hc
    cases hc
  | .array element, hs => by
    obtain ⟨c, rest, htext, hc⟩ : ∃ c rest, element.text.toList = c :: rest ∧
        Text.isTypeEnd c = false := exists_text hs
    exact ⟨c, _, by rw [text, String.toList_append, htext, List.cons_append], hc⟩
  | .tuple elements, _ => ⟨'[', _, toList_text_tuple elements, rfl⟩
  | .map key value, _ => ⟨'\x7b', _, toList_text_map key value, rfl⟩

/-! ## Rows -/

/-- What follows the first shape of a row: the others, each behind a comma, and what closes the row. -/
def rowAfter (closing : List Char) : List Shape → List Char
  | [] => closing
  | s :: rest => ',' :: ' ' :: (s.text.toList ++ rowAfter closing rest)

theorem toList_row (s : Shape) (rest : List Shape) (closing : List Char) :
    (String.joinWith ", " (texts (s :: rest))).toList ++ closing =
      s.text.toList ++ rowAfter closing rest := by
  induction rest generalizing s with
  | nil => rfl
  | cons t more ih =>
    have hjoin : String.joinWith ", " (texts (s :: t :: more)) =
        s.text ++ ", " ++ String.joinWith ", " (texts (t :: more)) := rfl
    rw [hjoin, String.toList_append, List.append_assoc, ih]
    simp [rowAfter]

section

variable {close : Char} (hclose : Text.isTypeEnd close = true) (hcomma : close ≠ ',')
include hclose

theorem ends_rowAfter (rest : List Char) (shapes : List Shape) :
    Ends (rowAfter (close :: rest) shapes) := by
  cases shapes with
  | nil => exact ends_cons hclose rest
  | cons => exact ends_cons (by decide) _

include hcomma

/-- The rest of a row tells its shapes and where it ends. -/
theorem rowAfter_inj {rest rest' : List Char} {shapes shapes' : List Shape}
    (hread : ∀ s ∈ shapes, s.IsReadBack) (hshapes' : allWorded shapes' = true)
    (h : rowAfter (close :: rest) shapes = rowAfter (close :: rest') shapes') :
    shapes = shapes' ∧ rest = rest' := by
  induction shapes generalizing shapes' with
  | nil =>
    cases shapes' with
    | nil => exact ⟨rfl, (List.cons.inj h).2⟩
    | cons => exact absurd (List.cons.inj h).1 hcomma
  | cons s more ih =>
    cases shapes' with
    | nil => exact absurd (List.cons.inj h).1.symm hcomma
    | cons t more' =>
      simp only [allWorded, Bool.and_eq_true] at hshapes'
      -- behind the comma and the blank stands the next shape
      have htail := (List.cons.inj (List.cons.inj h).2).2
      obtain ⟨rfl, hrest⟩ := hread s (by simp) hshapes'.1 (ends_rowAfter hclose rest more)
        (ends_rowAfter hclose rest' more') htail
      obtain ⟨rfl, hsame⟩ := ih (fun x hx => hread x (by simp [hx])) hshapes'.2 hrest
      exact ⟨rfl, hsame⟩

/-- A row tells its shapes and where it ends. -/
theorem row_inj {rest rest' : List Char} {shapes shapes' : List Shape}
    (hread : ∀ s ∈ shapes, s.IsReadBack) (hshapes : allWorded shapes = true)
    (hshapes' : allWorded shapes' = true)
    (h : (String.joinWith ", " (texts shapes)).toList ++ close :: rest =
      (String.joinWith ", " (texts shapes')).toList ++ close :: rest') :
    shapes = shapes' ∧ rest = rest' := by
  -- a row without shapes begins with what closes it, and no other row does
  have hempty : ∀ {s : Shape} {more : List Shape} {r r' : List Char},
      allWorded (s :: more) = true →
      close :: r ≠ (String.joinWith ", " (texts (s :: more))).toList ++ close :: r' := by
    intro s more r r' hs heq
    simp only [allWorded, Bool.and_eq_true] at hs
    obtain ⟨c, front, htext, hc⟩ := exists_text hs.1
    rw [toList_row, htext] at heq
    rw [← (List.cons.inj heq).1, hclose] at hc
    cases hc
  cases shapes with
  | nil =>
    cases shapes' with
    | nil => exact ⟨rfl, (List.cons.inj h).2⟩
    | cons => exact absurd h (hempty hshapes')
  | cons s more =>
    cases shapes' with
    | nil => exact absurd h.symm (hempty hshapes)
    | cons t more' =>
      simp only [allWorded, Bool.and_eq_true] at hshapes'
      rw [toList_row, toList_row] at h
      obtain ⟨rfl, hrest⟩ := hread s (by simp) hshapes'.1 (ends_rowAfter hclose rest more)
        (ends_rowAfter hclose rest' more') h
      obtain ⟨rfl, hsame⟩ :=
        rowAfter_inj hclose hcomma (fun x hx => hread x (by simp [hx])) hshapes'.2 hrest
      exact ⟨rfl, hsame⟩

end

/-! ## Shapes that are no arrays -/

theorem toList_text_named (word : String) {arguments : List Shape} (h : arguments ≠ []) :
    (named word arguments).text.toList = word.toList ++
      '<' :: ((String.joinWith ", " (texts arguments)).toList ++ ['>']) := by
  cases arguments with
  | nil => exact absurd rfl h
  | cons => simp [text, texts, TypeExpr.bracketed]

theorem text_leaf (word : String) : (named word []).text = word := by
  simp [text, texts, TypeExpr.bracketed]

/-- A word with its arguments tells both. -/
theorem named_append_inj {word word' : String} {arguments arguments' : List Shape}
    {rest rest' : List Char} (hs : (named word arguments).isWorded = true)
    (ht : (named word' arguments').isWorded = true) (hread : ∀ s ∈ arguments, s.IsReadBack)
    (hrest : Follows rest) (hrest' : Follows rest')
    (h : (named word arguments).text.toList ++ rest = (named word' arguments').text.toList ++ rest') :
    named word arguments = named word' arguments' ∧ rest = rest' := by
  simp only [isWorded, Bool.and_eq_true] at hs ht
  have hword := (Text.isTypeWord_iff.mp hs.1).2
  have hword' := (Text.isTypeWord_iff.mp ht.1).2
  have hangle : ∀ {r : List Char}, ∀ c ∈ ('<' :: r).head?, Text.isTypeSign c = true := by
    intro r c hc
    obtain rfl : '<' = c := Option.some.inj hc
    decide
  -- what follows the word tells whether it has arguments
  by_cases hnone : arguments = [] <;> by_cases hnone' : arguments' = []
  · subst hnone hnone'
    rw [text_leaf, text_leaf] at h
    obtain ⟨hsame, hends⟩ := Text.word_append_inj hword hword' (fun c hc => (hrest c hc).1)
      (fun c hc => (hrest' c hc).1) h
    exact ⟨by rw [String.toList_inj.mp hsame], hends⟩
  · rw [hnone, text_leaf, toList_text_named word' hnone', List.append_assoc, List.cons_append] at h
    obtain ⟨-, hends⟩ := Text.word_append_inj hword hword' (fun c hc => (hrest c hc).1) hangle h
    exact absurd hends (hrest.ne_angle _)
  · rw [hnone', text_leaf, toList_text_named word hnone, List.append_assoc, List.cons_append] at h
    obtain ⟨-, hends⟩ := Text.word_append_inj hword hword' hangle (fun c hc => (hrest' c hc).1) h
    exact absurd hends.symm (hrest'.ne_angle _)
  · rw [toList_text_named word hnone, toList_text_named word' hnone'] at h
    simp only [List.append_assoc, List.cons_append, List.nil_append] at h
    obtain ⟨hsame, htail⟩ := Text.word_append_inj hword hword' hangle hangle h
    obtain ⟨rfl, hends⟩ :=
      row_inj (by decide) (by decide) hread hs.2 ht.2 (List.cons.inj htail).2
    exact ⟨by rw [String.toList_inj.mp hsame], hends⟩

theorem tuple_append_inj {elements elements' : List Shape} {rest rest' : List Char}
    (hs : (tuple elements).isWorded = true) (ht : (tuple elements').isWorded = true)
    (hread : ∀ s ∈ elements, s.IsReadBack)
    (h : (tuple elements).text.toList ++ rest = (tuple elements').text.toList ++ rest') :
    tuple elements = tuple elements' ∧ rest = rest' := by
  rw [toList_text_tuple, toList_text_tuple] at h
  simp only [List.append_assoc, List.cons_append] at h
  obtain ⟨rfl, hends⟩ := row_inj (by decide) (by decide) hread hs ht (List.cons.inj h).2
  exact ⟨rfl, hends⟩

theorem map_append_inj {key key' value value' : Shape} {rest rest' : List Char}
    (ht : (map key' value').isWorded = true) (hkey : key.IsReadBack) (hvalue : value.IsReadBack)
    (h : (map key value).text.toList ++ rest = (map key' value').text.toList ++ rest') :
    map key value = map key' value' ∧ rest = rest' := by
  simp only [isWorded, Bool.and_eq_true] at ht
  rw [toList_text_map, toList_text_map] at h
  simp only [List.append_assoc] at h
  -- the key ends at its bracket, and the value at the blank before the brace
  have hbracket : ∀ r : List Char, Ends ("]: ".toList ++ r) := ends_cons (by decide)
  have hblank : ∀ r : List Char, Ends (" \x7d".toList ++ r) := ends_cons (by decide)
  obtain ⟨rfl, hmore⟩ := hkey ht.1 (hbracket _) (hbracket _) (List.append_cancel_left h)
  obtain ⟨rfl, hends⟩ := hvalue ht.2 (hblank _) (hblank _) (List.append_cancel_left hmore)
  exact ⟨rfl, List.append_cancel_left hends⟩

/-- Whether a shape is an array. -/
def isArray : Shape → Bool
  | .array _ => true
  | _ => false

/-- No sign begins a word with its arguments. -/
theorem named_append_ne {word : String} {arguments : List Shape}
    (h : (named word arguments).isWorded = true) {sign : Char} (hsign : Text.isTypeSign sign = true)
    {rest tail : List Char} : (named word arguments).text.toList ++ rest ≠ sign :: tail := by
  intro heq
  obtain ⟨c, front, htext, hc⟩ := exists_text_named h
  rw [htext] at heq
  rw [(List.cons.inj heq).1, hsign] at hc
  cases hc

theorem tuple_append_ne_map {elements : List Shape} {key value : Shape} {rest rest' : List Char} :
    (tuple elements).text.toList ++ rest ≠ (map key value).text.toList ++ rest' := by
  simp [toList_text_tuple, toList_text_map]

/-- A shape that is no array is told from its text, even where brackets follow. -/
theorem stem_append_inj {s t : Shape} (hstem : s.isArray = false) (hstem' : t.isArray = false)
    (hs : s.isWorded = true) (ht : t.isWorded = true) (hread : ∀ part ∈ s.parts, part.IsReadBack)
    {rest rest' : List Char} (hrest : Follows rest) (hrest' : Follows rest')
    (h : s.text.toList ++ rest = t.text.toList ++ rest') : s = t ∧ rest = rest' := by
  -- shapes of one form are taken apart, and those of two forms differ in a sign
  cases s with
  | array => cases hstem
  | named word arguments =>
    cases t with
    | array => cases hstem'
    | named => exact named_append_inj hs ht hread hrest hrest' h
    | tuple elements =>
      rw [toList_text_tuple] at h
      exact absurd h (named_append_ne hs (by decide))
    | map key value =>
      rw [toList_text_map] at h
      exact absurd h (named_append_ne hs (by decide))
  | tuple elements =>
    cases t with
    | array => cases hstem'
    | named =>
      rw [toList_text_tuple] at h
      exact absurd h.symm (named_append_ne ht (by decide))
    | tuple => exact tuple_append_inj hs ht hread h
    | map => exact absurd h tuple_append_ne_map
  | map key value =>
    cases t with
    | array => cases hstem'
    | named =>
      rw [toList_text_map] at h
      exact absurd h.symm (named_append_ne ht (by decide))
    | tuple => exact absurd h.symm tuple_append_ne_map
    | map => exact map_append_inj ht (hread key (by simp [parts])) (hread value (by simp [parts])) h

/-! ## Arrays -/

/-- The brackets behind the element of an array of a number of dimensions. -/
def brackets : Nat → List Char
  | 0 => []
  | n + 1 => '[' :: ']' :: brackets n

theorem brackets_append (n : Nat) : brackets n ++ "[]".toList = brackets (n + 1) := by
  induction n with
  | zero => rfl
  | succ n ih => rw [brackets, List.cons_append, List.cons_append, ih]; rfl

theorem toList_text_iterate (n : Nat) (s : Shape) :
    (array^[n] s).text.toList = s.text.toList ++ brackets n := by
  induction n with
  | zero => simp [brackets]
  | succ n ih =>
    rw [Function.iterate_succ_apply', text, String.toList_append, ih, List.append_assoc]
    exact congrArg (s.text.toList ++ ·) (brackets_append n)

/-- Every shape is an array of some number of dimensions, perhaps none, of a shape that is none. -/
theorem exists_stem : ∀ s : Shape, ∃ n stem, s = array^[n] stem ∧ stem.isArray = false ∧
    sizeOf stem ≤ sizeOf s ∧ (s.isWorded = true → stem.isWorded = true)
  | .array element => by
    obtain ⟨n, stem, hs, hstem, hsize, hworded⟩ := exists_stem element
    refine ⟨n + 1, stem, ?_, hstem, ?_, hworded⟩
    · rw [Function.iterate_succ_apply', hs]
    · rw [array.sizeOf_spec]
      omega
  | .named word arguments => ⟨0, _, rfl, rfl, Nat.le_refl _, id⟩
  | .tuple elements => ⟨0, _, rfl, rfl, Nat.le_refl _, id⟩
  | .map key value => ⟨0, _, rfl, rfl, Nat.le_refl _, id⟩

theorem follows_brackets {rest : List Char} (h : Ends rest) (n : Nat) :
    Follows (brackets n ++ rest) := by
  cases n with
  | zero => exact h.follows
  | succ n =>
    intro c hc
    obtain rfl : '[' = c := Option.some.inj hc
    decide

/-- The brackets of an array are counted by what follows them. -/
theorem brackets_inj {m n : Nat} {rest rest' : List Char} (hrest : Ends rest) (hrest' : Ends rest')
    (h : brackets m ++ rest = brackets n ++ rest') : m = n ∧ rest = rest' := by
  have hopen : ∀ {r tail : List Char}, Ends r → r ≠ '[' :: tail := by
    rintro r tail hr rfl
    exact absurd (hr '[' rfl) (by decide)
  induction m generalizing n with
  | zero =>
    cases n with
    | zero => exact ⟨rfl, h⟩
    | succ n => exact absurd h (hopen hrest)
  | succ m ih =>
    cases n with
    | zero => exact absurd h.symm (hopen hrest')
    | succ n =>
      obtain ⟨rfl, hsame⟩ := ih (List.cons.inj (List.cons.inj h).2).2
      exact ⟨rfl, hsame⟩

/-- Every shape of words is told from its text. -/
theorem isReadBack {s : Shape} (hs : s.isWorded = true) : s.IsReadBack := by
  induction hsize : sizeOf s using Nat.strongRecOn generalizing s with
  | ind size ih =>
    subst hsize
    intro t rest rest' ht hrest hrest' h
    obtain ⟨m, stem, rfl, hstem, hle, hworded⟩ := exists_stem s
    obtain ⟨n, stem', rfl, hstem', -, hworded'⟩ := exists_stem t
    -- the parts of the innermost element are smaller than the whole
    have hread : ∀ part ∈ stem.parts, part.IsReadBack := fun part hpart =>
      ih (sizeOf part) (Nat.lt_of_lt_of_le (sizeOf_lt_of_mem_parts hpart) hle)
        (isWorded_of_mem_parts (hworded hs) hpart) rfl
    rw [toList_text_iterate, toList_text_iterate, List.append_assoc, List.append_assoc] at h
    obtain ⟨rfl, hbrackets⟩ := stem_append_inj hstem hstem' (hworded hs) (hworded' ht) hread
      (follows_brackets hrest m) (follows_brackets hrest' n) h
    obtain ⟨rfl, hends⟩ := brackets_inj hrest hrest' hbrackets
    exact ⟨rfl, hends⟩

/-- Shapes of words with the same text are the same. -/
theorem text_inj {s t : Shape} (hs : s.isWorded = true) (ht : t.isWorded = true)
    (h : s.text = t.text) : s = t := by
  have hnil : Ends [] := fun c hc => by cases hc
  exact (isReadBack hs ht hnil hnil (by rw [h])).1

end Shape

end Ambient
