/-
  Ambient.Proofs.Config.Names

  Names of settings in both styles. The camel style runs the words of a name together with capitals
  in front, and the snake style cuts it at the capitals again, in two passes. What the first pass
  matches takes in the letters of a word, so it does not find every boundary: where it has passed
  over a whole word, or a digit follows a capital, the boundary is left for the second pass
  (`splitHumps_of_marked`). Together they find all of them, and the name comes back
  (`snakeCased_camelCased`).
-/
import Ambient.Proofs.Config.Keys
import Ambient.Proofs.Text.Lines
import Mathlib.Data.List.TakeWhile

namespace Ambient.Config

open Text

/-! ## Words -/

/-- A small ASCII letter or a digit. -/
def isSmall (c : Char) : Bool :=
  isAsciiLower c || isAsciiDigit c

/-- Whether a text is a word of a name: a small letter, and small letters and digits behind it. -/
def isSmallWord : List Char → Bool
  | [] => false
  | first :: rest => isAsciiLower first && rest.all isSmall

/-- A word with its first letter as a capital. -/
def raised (word : List Char) : List Char :=
  word.modifyHead Char.toUpper

/-- A capital with one small letter or digit behind it, or more. -/
def IsHump (text : List Char) : Prop :=
  ∃ upper next rest, text = upper :: next :: rest ∧ isAsciiUpper upper = true ∧
    ∀ c ∈ next :: rest, isSmall c = true

/-- What the styles do to a small letter. -/
theorem letter_styles : ∀ n < 26, ∀ c, c = Char.ofNat (97 + n) →
    titleChar c = [c.toUpper] ∧ isAsciiUpper c.toUpper = true ∧ lowerChar c.toUpper = [c] := by
  rintro n hn c rfl
  revert n
  decide

theorem styles_of_isAsciiLower {c : Char} (h : isAsciiLower c = true) :
    titleChar c = [c.toUpper] ∧ isAsciiUpper c.toUpper = true ∧ lowerChar c.toUpper = [c] := by
  simp only [isAsciiLower, Bool.and_eq_true, decide_eq_true_eq] at h
  have hlow : 97 ≤ c.toNat := h.1
  have hhigh : c.toNat ≤ 122 := h.2
  refine letter_styles (c.toNat - 97) (by omega) c ?_
  rw [Nat.add_sub_cancel' hlow, Char.ofNat_toNat]

theorem isFieldChar_of_isSmall {c : Char} (h : isSmall c = true) : isFieldChar c = true := by
  rw [isFieldChar, Bool.or_eq_true]
  exact .inl h

theorem isAsciiUpper_of_isSmall {c : Char} (h : isSmall c = true) : isAsciiUpper c = false :=
  isAsciiUpper_of_isFieldChar (isFieldChar_of_isSmall h)

theorem isSmall_of_isAsciiUpper {c : Char} (h : isAsciiUpper c = true) : isSmall c = false := by
  rw [← Bool.not_eq_true]
  intro hsmall
  rw [isAsciiUpper_of_isSmall hsmall] at h
  cases h

/-! ## Capitalised words -/

/-- A character stays as it is if no capitalised word follows it. -/
theorem splitCapitalised_cons {c : Char} {text : List Char}
    (h : ∀ upper lower rest, text = upper :: lower :: rest →
      isAsciiUpper upper = false ∨ isAsciiLower lower = false) :
    splitCapitalised (c :: text) = c :: splitCapitalised text := by
  match text with
  | [] => simp [splitCapitalised]
  | [d] => simp [splitCapitalised]
  | upper :: lower :: rest =>
    have hnone : ¬ (c != '\n' && isAsciiUpper upper && isAsciiLower lower) = true := by
      rcases h upper lower rest rfl with hno | hno <;> simp [hno]
    rw [splitCapitalised, if_neg hnone]

theorem splitCapitalised_cons_of_not_upper {c d : Char} (hd : isAsciiUpper d = false)
    (text : List Char) : splitCapitalised (c :: d :: text) = c :: splitCapitalised (d :: text) := by
  refine splitCapitalised_cons fun upper lower rest heq => .inl ?_
  rwa [← (List.cons.inj heq).1]

theorem splitCapitalised_of_not_upper {text : List Char}
    (h : ∀ c ∈ text, isAsciiUpper c = false) : splitCapitalised text = text := by
  induction text with
  | nil => simp [splitCapitalised]
  | cons c rest ih =>
    rw [splitCapitalised_cons, ih fun d hd => h d (by simp [hd])]
    rintro upper lower more rfl
    exact .inl (h upper (by simp))

/-- A capitalised word behind a character is marked and passed over up to where its letters end. -/
theorem splitCapitalised_word {c upper : Char} {letters rest : List Char} (hc : c ≠ '\n')
    (hupper : isAsciiUpper upper = true) (hne : letters ≠ [])
    (hletters : ∀ d ∈ letters, isAsciiLower d = true) (hrest : rest.takeWhile isAsciiLower = []) :
    splitCapitalised (c :: upper :: (letters ++ rest)) =
      c :: '_' :: upper :: (letters ++ splitCapitalised rest) := by
  have hdrop : rest.dropWhile isAsciiLower = rest := by
    have h := List.takeWhile_append_dropWhile (p := isAsciiLower) (l := rest)
    rwa [hrest, List.nil_append] at h
  cases letters with
  | nil => exact absurd rfl hne
  | cons lower more =>
    have hword : (c != '\n' && isAsciiUpper upper && isAsciiLower lower) = true := by
      simp [hc, hupper, hletters lower (by simp)]
    have happend : lower :: (more ++ rest) = (lower :: more) ++ rest := rfl
    rw [List.cons_append, splitCapitalised, if_pos hword, happend,
      List.takeWhile_append_of_pos hletters, List.dropWhile_append_of_pos hletters, hrest, hdrop,
      List.append_nil]

/-- Words with an underscore before some of them. -/
inductive Marked : List (List Char) → List Char → Prop where
  | nil : Marked [] []
  | plain {word text : List Char} {words : List (List Char)} (h : Marked words text) :
      Marked (word :: words) (word ++ text)
  | marked {word text : List Char} {words : List (List Char)} (h : Marked words text) :
      Marked (word :: words) ('_' :: (word ++ text))

/-- What is left of small letters behind a run of them, with humps behind it, begins with none. -/
theorem takeWhile_dropWhile_humps {humps : List (List Char)} (h : ∀ hump ∈ humps, IsHump hump)
    (text : List Char) :
    (text.dropWhile isAsciiLower ++ humps.flatten).takeWhile isAsciiLower = [] := by
  cases hleft : text.dropWhile isAsciiLower with
  | cons c rest =>
    have hc : isAsciiLower c = false := by
      have hhead := List.head?_dropWhile_not isAsciiLower text
      rw [hleft] at hhead
      simpa using hhead
    rw [List.cons_append, List.takeWhile_cons_of_neg (by simp [hc])]
  | nil =>
    cases humps with
    | nil => rfl
    | cons hump rest =>
      obtain ⟨upper, next, more, rfl, hupper, -⟩ := h hump (by simp)
      have hlower : isAsciiLower upper = false :=
        (Bool.or_eq_false_iff.mp (isSmall_of_isAsciiUpper hupper)).1
      rw [List.nil_append, List.flatten_cons, List.cons_append,
        List.takeWhile_cons_of_neg (by simp [hlower])]

/-- Whether the first pass marks some of the humps behind a text of small characters, and changes
nothing else. -/
def MarksBehind (humps : List (List Char)) (front : List Char) : Prop :=
  ∃ text, Marked humps text ∧ splitCapitalised (front ++ humps.flatten) = front ++ text

section

variable {hump : List Char} {humps : List (List Char)} (hhump : IsHump hump)
  (hhumps : ∀ hump ∈ humps, IsHump hump)
  (hlater : ∀ front, (∀ c ∈ front, isSmall c = true) → MarksBehind humps front)
include hhump hlater

/-- A hump with nothing in front of it is not marked. -/
theorem exists_splitCapitalised_hump :
    ∃ text, Marked humps text ∧ splitCapitalised (hump ++ humps.flatten) = hump ++ text := by
  obtain ⟨upper, next, rest, rfl, -, hsmall⟩ := hhump
  obtain ⟨text, htext, hsplit⟩ := hlater (next :: rest) hsmall
  refine ⟨text, htext, ?_⟩
  have hnext : isAsciiUpper next = false := isAsciiUpper_of_isSmall (hsmall next (by simp))
  rw [List.cons_append, List.cons_append, splitCapitalised_cons_of_not_upper hnext,
    ← List.cons_append, hsplit]
  rfl

include hhumps

/-- A hump behind one character is marked if a letter follows its capital. -/
theorem marksBehind_singleton {c : Char} (hc : isSmall c = true) :
    MarksBehind (hump :: humps) [c] := by
  obtain ⟨text, htext, hsplit⟩ := exists_splitCapitalised_hump hhump hlater
  obtain ⟨upper, next, rest, rfl, hupper, hsmall⟩ := hhump
  cases hnext : isAsciiLower next with
  | false =>
    refine ⟨_, .plain htext, ?_⟩
    rw [List.flatten_cons, List.singleton_append, splitCapitalised_cons, hsplit]
    · rfl
    · intro d lower more heq
      cases heq
      exact .inr hnext
  | true =>
    -- the letters are passed over with the capital, and reading goes on behind them
    have hletters := List.takeWhile_append_dropWhile (p := isAsciiLower) (l := next :: rest)
    generalize hrun : (next :: rest).takeWhile isAsciiLower = letters at hletters
    obtain ⟨text, htext, hsplit⟩ := hlater ((next :: rest).dropWhile isAsciiLower) fun c hc =>
      hsmall c (List.dropWhile_subset _ hc)
    refine ⟨_, .marked htext, ?_⟩
    have hne : letters ≠ [] := by
      rw [← hrun, List.takeWhile_cons_of_pos hnext]
      exact List.cons_ne_nil _ _
    have hlower : ∀ d ∈ letters, isAsciiLower d = true := by
      rw [← hrun]
      exact fun d hd => List.mem_takeWhile_imp hd
    have hbreak : c ≠ '\n' := by
      rintro rfl
      exact absurd hc (by decide)
    have hsame : [c] ++ ((upper :: next :: rest) :: humps).flatten =
        c :: upper :: (letters ++ ((next :: rest).dropWhile isAsciiLower ++ humps.flatten)) := by
      rw [← List.append_assoc, hletters]
      rfl
    rw [hsame, splitCapitalised_word hbreak hupper hne hlower (takeWhile_dropWhile_humps hhumps _),
      hsplit, ← List.append_assoc, hletters]
    rfl

end

/-- The first pass marks some of the humps behind a word. -/
theorem exists_marked {humps : List (List Char)} (h : ∀ hump ∈ humps, IsHump hump)
    {front : List Char} (hfront : ∀ c ∈ front, isSmall c = true) : MarksBehind humps front := by
  -- along the humps, with any text in front: what a match leaves of a hump is in front of the next
  induction humps generalizing front with
  | nil =>
    refine ⟨[], .nil, ?_⟩
    have hupper : ∀ c ∈ front, isAsciiUpper c = false := fun c hc =>
      isAsciiUpper_of_isSmall (hfront c hc)
    rw [List.flatten_nil, List.append_nil, splitCapitalised_of_not_upper hupper]
  | cons hump humps ih =>
    have hhump : IsHump hump := h hump (by simp)
    have hhumps : ∀ hump ∈ humps, IsHump hump := fun hump hmem => h hump (by simp [hmem])
    have hlater : ∀ front, (∀ c ∈ front, isSmall c = true) → MarksBehind humps front :=
      fun front hfront => ih hhumps hfront
    induction front with
    | nil =>
      obtain ⟨text, htext, hsplit⟩ := exists_splitCapitalised_hump hhump hlater
      exact ⟨_, .plain htext, hsplit⟩
    | cons c front ihfront =>
      cases front with
      | nil => exact marksBehind_singleton hhump hhumps hlater (hfront c (by simp))
      | cons d front =>
        obtain ⟨text, htext, hsplit⟩ := ihfront fun e he => hfront e (by simp [he])
        refine ⟨text, htext, ?_⟩
        have hd : isAsciiUpper d = false := isAsciiUpper_of_isSmall (hfront d (by simp))
        rw [List.cons_append, List.cons_append, splitCapitalised_cons_of_not_upper hd,
          ← List.cons_append, hsplit]
        rfl

/-! ## Humps -/

theorem splitHumps_cons_of_not_small {c : Char} (hc : isSmall c = false) (text : List Char) :
    splitHumps (c :: text) = c :: splitHumps text := by
  cases text with
  | nil => rfl
  | cons upper rest =>
    have hnone : ((isAsciiLower c || isAsciiDigit c) && isAsciiUpper upper) = false := by
      rw [← isSmall, hc, Bool.false_and]
    rw [splitHumps, hnone]
    rfl

/-- Small characters stay as they are, and an underscore is put behind them if a capital follows. -/
theorem splitHumps_append {front : List Char} (hne : front ≠ [])
    (hfront : ∀ c ∈ front, isSmall c = true) (c : Char) (text : List Char) :
    splitHumps (front ++ c :: text) =
      front ++ ((if isAsciiUpper c then ['_'] else []) ++ splitHumps (c :: text)) := by
  induction front with
  | nil => exact absurd rfl hne
  | cons a rest ih =>
    have ha : (isAsciiLower a || isAsciiDigit a) = true := hfront a (by simp)
    cases rest with
    | nil =>
      rw [List.singleton_append, splitHumps, ha, Bool.true_and]
      split <;> rfl
    | cons b more =>
      have hb : isAsciiUpper b = false := isAsciiUpper_of_isSmall (hfront b (by simp))
      have hrest := ih (List.cons_ne_nil b more) fun d hd => hfront d (by simp [hd])
      rw [List.cons_append, List.cons_append, splitHumps, ha, hb, ← List.cons_append, hrest]
      rfl

theorem splitHumps_of_not_upper {text : List Char} (h : ∀ c ∈ text, isAsciiUpper c = false) :
    splitHumps text = text := by
  induction text with
  | nil => rfl
  | cons a rest ih =>
    have hrest := ih fun d hd => h d (by simp [hd])
    cases rest with
    | nil => rfl
    | cons b more =>
      rw [splitHumps, h b (by simp), Bool.and_false, hrest]
      rfl

/-- The second pass goes on behind the capital of a hump. -/
theorem splitHumps_hump {hump text after : List Char} (h : IsHump hump)
    (hafter : ∀ {front : List Char}, front ≠ [] → (∀ c ∈ front, isSmall c = true) →
      splitHumps (front ++ text) = front ++ after) :
    splitHumps (hump ++ text) = hump ++ after := by
  obtain ⟨upper, next, rest, rfl, hupper, hsmall⟩ := h
  rw [List.cons_append, splitHumps_cons_of_not_small (isSmall_of_isAsciiUpper hupper),
    hafter (List.cons_ne_nil next rest) hsmall]
  rfl

/-- The second pass marks the humps that the first one did not. -/
theorem splitHumps_of_marked {humps : List (List Char)} {text : List Char} (h : Marked humps text)
    (hhumps : ∀ hump ∈ humps, IsHump hump) {front : List Char} (hne : front ≠ [])
    (hfront : ∀ c ∈ front, isSmall c = true) :
    splitHumps (front ++ text) = front ++ humps.flatMap ('_' :: ·) := by
  -- along the marks, with any text in front: behind the capital of a hump it is the hump's own rest
  induction h generalizing front with
  | nil =>
    rw [List.append_nil, List.flatMap_nil, List.append_nil]
    exact splitHumps_of_not_upper fun c hc => isAsciiUpper_of_isSmall (hfront c hc)
  | @plain word text words h ih =>
    have hwords : ∀ hump ∈ words, IsHump hump := fun hump hmem => hhumps hump (by simp [hmem])
    have hword := splitHumps_hump (hhumps word (by simp)) (ih hwords)
    obtain ⟨upper, next, rest, rfl, hupper, -⟩ := hhumps word (by simp)
    rw [List.cons_append, splitHumps_append hne hfront, if_pos hupper, ← List.cons_append, hword]
    rfl
  | @marked word text words h ih =>
    have hwords : ∀ hump ∈ words, IsHump hump := fun hump hmem => hhumps hump (by simp [hmem])
    have hword := splitHumps_hump (hhumps word (by simp)) (ih hwords)
    rw [splitHumps_append hne hfront, if_neg (by decide), List.nil_append,
      splitHumps_cons_of_not_small (by decide), hword]
    rfl

/-! ## Styles -/

theorem isNameChar_of_isFieldChar {c : Char} (h : isFieldChar c = true) : isNameChar c = true := by
  simp only [isFieldChar, Bool.or_eq_true] at h
  simp only [isNameChar, isNameStart, isAsciiLetter, Bool.or_eq_true]
  tauto

theorem isWordGap_of_isNameChar {c : Char} (h : isNameChar c = true) : isWordGap c = false := by
  have hhyphen : c ≠ '-' := by
    rintro rfl
    exact absurd h (by decide)
  simp [isWordGap, hhyphen, isBlank_of_isNameChar h]

theorem closeGaps_of_isNameChar {text : List Char} (h : ∀ c ∈ text, isNameChar c = true) :
    closeGaps false text = text := by
  induction text with
  | nil => rfl
  | cons c rest ih =>
    rw [closeGaps, isWordGap_of_isNameChar (h c (by simp)), ih fun d hd => h d (by simp [hd])]
    rfl

/-- A name in the snake style is its own snake style. -/
theorem snakeCase_of_isFieldChar {text : List Char} (h : ∀ c ∈ text, isFieldChar c = true) :
    snakeCase text = text := by
  have hupper : ∀ c ∈ text, isAsciiUpper c = false := fun c hc =>
    isAsciiUpper_of_isFieldChar (h c hc)
  rw [snakeCase, splitCapitalised_of_not_upper hupper, splitHumps_of_not_upper hupper,
    closeGaps_of_isNameChar fun c hc => isNameChar_of_isFieldChar (h c hc), lower,
    lowerAfter_of_isFieldChar h]

variable {first word : List Char} {others : List (List Char)}

theorem exists_of_isSmallWord (h : isSmallWord word = true) :
    ∃ letter rest, word = letter :: rest ∧ isAsciiLower letter = true ∧
      ∀ c ∈ rest, isSmall c = true := by
  cases word with
  | nil => cases h
  | cons letter rest =>
    rw [isSmallWord, Bool.and_eq_true, List.all_eq_true] at h
    exact ⟨letter, rest, rfl, h⟩

theorem isSmall_of_mem (h : isSmallWord word = true) : ∀ c ∈ word, isSmall c = true := by
  obtain ⟨letter, rest, rfl, hletter, hrest⟩ := exists_of_isSmallWord h
  intro c hc
  rcases List.mem_cons.mp hc with rfl | hmem
  · rw [isSmall, hletter, Bool.true_or]
  · exact hrest c hmem

theorem isHump_raised (h : isSmallWord word = true) (hlength : 2 ≤ word.length) :
    IsHump (raised word) := by
  obtain ⟨letter, rest, rfl, hletter, hrest⟩ := exists_of_isSmallWord h
  cases rest with
  | nil => simp at hlength
  | cons next more =>
    exact ⟨letter.toUpper, next, more, rfl, (styles_of_isAsciiLower hletter).2.1, hrest⟩

theorem capitalize_of_isSmallWord (h : isSmallWord word = true) :
    capitalize word = raised word := by
  obtain ⟨letter, rest, rfl, hletter, hrest⟩ := exists_of_isSmallWord h
  rw [capitalize, (styles_of_isAsciiLower hletter).1,
    lowerAfter_of_isFieldChar fun c hc => isFieldChar_of_isSmall (hrest c hc)]
  rfl

theorem isNameChar_of_mem_raised (h : isSmallWord word = true) :
    ∀ c ∈ '_' :: raised word, isNameChar c = true := by
  obtain ⟨letter, rest, rfl, hletter, hrest⟩ := exists_of_isSmallWord h
  have hupper : isNameChar letter.toUpper = true := by
    have := (styles_of_isAsciiLower hletter).2.1
    simp [isNameChar, isNameStart, isAsciiLetter, this]
  intro c hc
  rcases List.mem_cons.mp hc with rfl | hword
  · decide
  · rcases List.mem_cons.mp hword with rfl | hmem
    · exact hupper
    · exact isNameChar_of_isFieldChar (isFieldChar_of_isSmall (hrest c hmem))

theorem flatMap_lowerChar_small {text : List Char} (h : ∀ c ∈ text, isSmall c = true) :
    text.flatMap lowerChar = text := by
  induction text with
  | nil => rfl
  | cons c rest ih =>
    rw [List.flatMap_cons, (lowerChar_of_isFieldChar (isFieldChar_of_isSmall (h c (by simp)))).1,
      ih fun d hd => h d (by simp [hd])]
    rfl

/-- Lower case takes the capital of a word back, and leaves the underscore before it. -/
theorem flatMap_lowerChar_raised (h : isSmallWord word = true) :
    ('_' :: raised word).flatMap lowerChar = '_' :: word := by
  obtain ⟨letter, rest, rfl, hletter, hrest⟩ := exists_of_isSmallWord h
  have hsame : rest.flatMap lowerChar = rest := flatMap_lowerChar_small hrest
  rw [raised, List.modifyHead_cons, List.flatMap_cons, List.flatMap_cons,
    (styles_of_isAsciiLower hletter).2.2, hsame]
  rfl

/-- Words with underscores between them are the first one, and the others with underscores in
front. -/
theorem joinWith_underscore (first : List Char) (others : List (List Char)) :
    joinWith ['_'] (first :: others) = first ++ others.flatMap ('_' :: ·) := by
  induction others generalizing first with
  | nil => simp [joinWith]
  | cons next more ih =>
    rw [joinWith_cons (List.cons_ne_nil next more), ih, List.flatMap_cons, List.append_assoc]
    rfl

/-- The camel style of words is the first of them and the others with capitals. -/
theorem camelCase_joinWith (hfirst : isSmallWord first = true)
    (hothers : ∀ word ∈ others, isSmallWord word = true) :
    camelCase (joinWith ['_'] (first :: others)) = first ++ others.flatMap raised := by
  have hwords : ∀ word ∈ first :: others, isSmallWord word = true :=
    List.forall_mem_cons.mpr ⟨hfirst, hothers⟩
  have hfield : ∀ c ∈ joinWith ['_'] (first :: others), isFieldChar c = true := by
    intro c hc
    rcases mem_joinWith hc with hunder | ⟨word, hword, hmem⟩
    · rw [List.mem_singleton.mp hunder]
      decide
    · exact isFieldChar_of_isSmall (isSmall_of_mem (hwords word hword) c hmem)
  have hno : ∀ word ∈ first :: others, '_' ∉ word := fun word hword hmem =>
    absurd (isSmall_of_mem (hwords word hword) '_' hmem) (by decide)
  rw [camelCase, snakeCase_of_isFieldChar hfield, splitOn_joinWith (List.cons_ne_nil _ _) hno]
  show first ++ others.flatMap capitalize = _
  have hraised : others.map capitalize = others.map raised :=
    List.map_congr_left fun word hword => capitalize_of_isSmallWord (hothers word hword)
  rw [List.flatMap_def, hraised, ← List.flatMap_def]

/-- The snake style of words that were run together with capitals has them apart again. -/
theorem snakeCase_raised (hfirst : isSmallWord first = true)
    (hothers : ∀ word ∈ others, isSmallWord word = true ∧ 2 ≤ word.length) :
    snakeCase (first ++ others.flatMap raised) = joinWith ['_'] (first :: others) := by
  have hsmall : ∀ c ∈ first, isSmall c = true := isSmall_of_mem hfirst
  have hhumps : ∀ hump ∈ others.map raised, IsHump hump := by
    intro hump hmem
    obtain ⟨word, hword, rfl⟩ := List.mem_map.mp hmem
    exact isHump_raised (hothers word hword).1 (hothers word hword).2
  -- both passes together mark every word
  have hpasses : splitHumps (splitCapitalised (first ++ others.flatMap raised)) =
      first ++ others.flatMap (fun word => '_' :: raised word) := by
    obtain ⟨text, hmarked, hsplit⟩ := exists_marked hhumps hsmall
    have hne : first ≠ [] := by
      rintro rfl
      cases hfirst
    rw [List.flatMap_def, hsplit, splitHumps_of_marked hmarked hhumps hne hsmall, List.flatMap_map]
  have hchars : ∀ c ∈ first ++ others.flatMap (fun word => '_' :: raised word),
      isNameChar c = true := by
    intro c hc
    rcases List.mem_append.mp hc with hmem | hmem
    · exact isNameChar_of_isFieldChar (isFieldChar_of_isSmall (hsmall c hmem))
    · obtain ⟨word, hword, hc⟩ := List.mem_flatMap.mp hmem
      exact isNameChar_of_mem_raised (hothers word hword).1 c hc
  have hsigma : 'Σ' ∉ first ++ others.flatMap (fun word => '_' :: raised word) := fun hmem =>
    absurd (hchars _ hmem) (by decide)
  have hlower : others.map (fun word => ('_' :: raised word).flatMap lowerChar) =
      others.map ('_' :: ·) :=
    List.map_congr_left fun word hword => flatMap_lowerChar_raised (hothers word hword).1
  rw [snakeCase, hpasses, closeGaps_of_isNameChar hchars, lower, lowerAfter_of_notMem hsigma,
    List.flatMap_append, flatMap_lowerChar_small hsmall, List.flatMap_assoc, List.flatMap_def,
    hlower, ← List.flatMap_def, joinWith_underscore]

/-- A name goes through the camel style and back. Its words, of which all but the first have two
characters or more, are run together with capitals in front, and the snake style gives the name. -/
theorem snakeCased_camelCased {first : String} {others : List String}
    (hfirst : isSmallWord first.toList = true)
    (hothers : ∀ word ∈ others, isSmallWord word.toList = true ∧ 2 ≤ word.length) :
    let name := String.joinWith "_" (first :: others)
    name.camelCased.toList = first.toList ++ others.flatMap (fun word => raised word.toList) ∧
      name.camelCased.snakeCased = name := by
  intro name
  have hname : name.toList = joinWith ['_'] (first.toList :: others.map (·.toList)) :=
    String.toList_joinWith "_" (first :: others)
  have hwords : ∀ word ∈ others.map (·.toList), isSmallWord word = true ∧ 2 ≤ word.length := by
    intro word hmem
    obtain ⟨s, hs, rfl⟩ := List.mem_map.mp hmem
    exact hothers s hs
  have hcamel : name.camelCased.toList =
      first.toList ++ (others.map (·.toList)).flatMap raised := by
    rw [String.camelCased, String.toList_ofList, hname,
      camelCase_joinWith hfirst fun word hword => (hwords word hword).1]
  constructor
  · rw [hcamel, List.flatMap_map]
  · rw [String.snakeCased, hcamel, snakeCase_raised hfirst hwords, ← hname, String.ofList_toList]

/-- Words with digits at their ends and in second place, and a first word of one letter. -/
theorem snakeCased_camelCased_digits :
    let name := "a_b1_cd_e2f_gh"
    isSmallWord "a".toList = true ∧
      (∀ word ∈ ["b1", "cd", "e2f", "gh"],
        isSmallWord word.toList = true ∧ 2 ≤ word.length) ∧
      name.camelCased = "aB1CdE2fGh" ∧ name.camelCased.snakeCased = name := by
  intro name
  have hfirst : isSmallWord "a".toList = true := by decide
  have hothers : ∀ word ∈ ["b1", "cd", "e2f", "gh"],
      isSmallWord word.toList = true ∧ 2 ≤ word.length := by decide
  obtain ⟨hcamel, hsnake⟩ := snakeCased_camelCased hfirst hothers
  refine ⟨hfirst, hothers, ?_, hsnake⟩
  rw [← String.toList_inj]
  exact hcamel

end Ambient.Config
