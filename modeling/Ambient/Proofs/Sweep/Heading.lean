/-
  Ambient.Proofs.Sweep.Heading

  Which lines of a declaration file begin a declaration. A word is found only where a whole name is
  that word, so keywords in the names of properties, members and namespaces begin nothing; and the
  heading of a declaration tells its keyword and its name.
-/
import Ambient.Proofs.Sweep.Calm

namespace Ambient.Sweep

open Text

/-! ## Words -/

theorem afterPrefix?_eq_some_iff {pattern text after : List Char} :
    afterPrefix? pattern text = some after ↔ text = pattern ++ after := by
  unfold afterPrefix?
  split
  · rename_i hpattern
    obtain ⟨tail, rfl⟩ := List.isPrefixOf_iff_prefix.mp hpattern
    rw [List.drop_left, Option.some.injEq, List.append_cancel_left_eq, eq_comm]
  · rename_i hpattern
    refine ⟨fun h => (nomatch h), fun h => absurd ?_ hpattern⟩
    exact List.isPrefixOf_iff_prefix.mpr ⟨after, h.symm⟩

theorem afterPrefix?_nil (text : List Char) : afterPrefix? [] text = some text := by
  simp [afterPrefix?]

theorem afterPrefix?_cons (a b : Char) (pattern text : List Char) :
    afterPrefix? (a :: pattern) (b :: text) =
      if a = b then afterPrefix? pattern text else none := by
  by_cases h : a = b <;> simp [afterPrefix?, h]

/-- A word stands before a blank at the start of a text only if the name there is the word. -/
theorem afterWord?_append {word : String} (hword : isIdentifier word.toList = true)
    {name : List Char} (hname : ∀ c ∈ name, isNameChar c = true) {s : Char}
    (hs : isNameChar s = false) (rest : List Char) :
    afterWord? word (name ++ s :: rest) =
      if name = word.toList ∧ isBlank s = true then some (rest.dropWhile isBlank) else none := by
  unfold afterWord?
  replace hword := forall_isNameChar hword
  -- along the word, with the name taken off in step
  generalize word.toList = w at hword ⊢
  induction w generalizing name with
  | nil =>
    rw [afterPrefix?_nil]
    cases name with
    | nil => simp
    | cons c more =>
      have hc : isBlank c = false := isBlank_of_isNameChar (hname c (by simp))
      simp [hc]
  | cons a w ih =>
    have ha : isNameChar a = true := hword a (by simp)
    cases name with
    | nil =>
      have hne : a ≠ s := by
        rintro rfl
        rw [ha] at hs
        cases hs
      rw [List.nil_append, afterPrefix?_cons, if_neg hne]
      simp
    | cons c more =>
      rw [List.cons_append, afterPrefix?_cons]
      by_cases hc : a = c
      · subst hc
        rw [if_pos rfl, ih (fun d hd => hname d (by simp [hd])) fun d hd => hword d (by simp [hd])]
        simp
      · rw [if_neg hc]
        simp [Ne.symm hc]

/-- No word begins with a character that is in no name. -/
theorem afterWord?_of_not_name {word : String} (hword : isIdentifier word.toList = true) {s : Char}
    (hs : isNameChar s = false) (rest : List Char) : afterWord? word (s :: rest) = none := by
  have hnil : ∀ c ∈ ([] : List Char), isNameChar c = true := by simp
  have hne : word.toList ≠ [] := by
    intro he
    rw [he] at hword
    cases hword
  have h := afterWord?_append hword hnil hs rest
  rw [List.nil_append, if_neg fun hboth => hne hboth.1.symm] at h
  exact h

/-! ## Modifiers and keywords -/

/-- Whether a name is a word that can stand before a keyword. -/
def isModifier (name : List Char) : Bool :=
  name == "export".toList || name == "declare".toList

/-- The keyword that a name is. -/
def keywordOf? (name : List Char) : Option Keyword :=
  if name = "interface".toList then some .interface
  else if name = "enum".toList then some .enum
  else if name = "class".toList then some .classType
  else if name = "type".toList then some .type
  else none

theorem afterModifiers_of_none {text : List Char} (h : afterModifier? text = none) :
    afterModifiers text = text := by
  rw [afterModifiers]
  split
  · rename_i heq
    rw [h] at heq
    cases heq
  · rfl

theorem afterModifiers_of_some {text rest : List Char} (h : afterModifier? text = some rest) :
    afterModifiers text = afterModifiers rest := by
  rw [afterModifiers]
  split
  · rename_i heq
    rw [h] at heq
    cases heq
    rfl
  · rename_i heq
    rw [h] at heq
    cases heq

section Names

variable {name : List Char} (hname : ∀ c ∈ name, isNameChar c = true) {s : Char}
  (hs : isNameChar s = false)

include hname hs

theorem afterModifier?_append (rest : List Char) :
    afterModifier? (name ++ s :: rest) =
      if isModifier name ∧ isBlank s = true then some (rest.dropWhile isBlank) else none := by
  unfold afterModifier? isModifier
  rw [afterWord?_append (by decide) hname hs, afterWord?_append (by decide) hname hs]
  -- the words themselves do not matter from here on
  generalize "export".toList = first
  generalize "declare".toList = second
  by_cases hfirst : name = first
  · subst hfirst
    cases isBlank s <;> simp
  · by_cases hsecond : name = second
    · subst hsecond
      cases isBlank s <;> simp [hfirst]
    · simp [hfirst, hsecond]

theorem afterKeyword?_append (rest : List Char) :
    afterKeyword? (name ++ s :: rest) =
      if isBlank s then (keywordOf? name).map (·, rest.dropWhile isBlank) else none := by
  unfold afterKeyword? keywordOf?
  rw [afterWord?_append (by decide) hname hs, afterWord?_append (by decide) hname hs,
    afterWord?_append (by decide) hname hs, afterWord?_append (by decide) hname hs]
  -- the words themselves do not matter from here on
  generalize "interface".toList = first
  generalize "enum".toList = second
  generalize "class".toList = third
  generalize "type".toList = fourth
  by_cases hfirst : name = first
  · subst hfirst
    cases isBlank s <;> simp
  · by_cases hsecond : name = second
    · subst hsecond
      cases isBlank s <;> simp [hfirst]
    · by_cases hthird : name = third
      · subst hthird
        cases isBlank s <;> simp [hfirst, hsecond]
      · by_cases hfourth : name = fourth
        · subst hfourth
          cases isBlank s <;> simp [hfirst, hsecond, hthird]
        · simp [hfirst, hsecond, hthird, hfourth]

/-- A name that is no modifier ends the modifiers. -/
theorem afterModifiers_append (h : isModifier name = false ∨ isBlank s = false)
    (rest : List Char) : afterModifiers (name ++ s :: rest) = name ++ s :: rest := by
  have hnone : afterModifier? (name ++ s :: rest) = none := by
    rw [afterModifier?_append hname hs, if_neg]
    rintro ⟨hmodifier, hblank⟩
    rcases h with h | h
    · rw [hmodifier] at h
      cases h
    · rw [hblank] at h
      cases h
  exact afterModifiers_of_none hnone

/-- A modifier is passed over with the blanks after it. -/
theorem afterModifiers_modifier (hmodifier : isModifier name = true) (hblank : isBlank s = true)
    (rest : List Char) :
    afterModifiers (name ++ s :: rest) = afterModifiers (rest.dropWhile isBlank) := by
  have hsome : afterModifier? (name ++ s :: rest) = some (rest.dropWhile isBlank) := by
    rw [afterModifier?_append hname hs, if_pos ⟨hmodifier, hblank⟩]
  exact afterModifiers_of_some hsome

end Names

/-- What begins with no character of a name has no modifiers and no keyword. -/
theorem afterKeyword?_of_not_name {s : Char} (hs : isNameChar s = false) (rest : List Char) :
    afterKeyword? (afterModifiers (s :: rest)) = none := by
  have hnil : ∀ c ∈ ([] : List Char), isNameChar c = true := by simp
  have hmodifiers := afterModifiers_append hnil hs (.inl rfl) rest
  have hkeyword := afterKeyword?_append hnil hs rest
  rw [List.nil_append] at hmodifiers hkeyword
  rw [hmodifiers, hkeyword]
  cases isBlank s <;> rfl

/-! ## Margins -/

/-- A margin is passed over. -/
theorem dropWhile_margin {margin : List Char} (h : ∀ c ∈ margin, isSpaceOrTab c = true)
    (text : List Char) :
    (margin ++ text).dropWhile isSpaceOrTab = text.dropWhile isSpaceOrTab :=
  List.dropWhile_append_of_pos h

theorem isBlank_of_isSpaceOrTab {c : Char} (h : isSpaceOrTab c = true) : isBlank c = true := by
  have hc : c = ' ' ∨ c = '\t' := by simpa [isSpaceOrTab] using h
  rcases hc with rfl | rfl <;> decide

theorem isSpaceOrTab_of_isNameChar {c : Char} (h : isNameChar c = true) :
    isSpaceOrTab c = false := by
  rw [← Bool.not_eq_true]
  intro hspace
  have hblank := isBlank_of_isSpaceOrTab hspace
  rw [isBlank_of_isNameChar h] at hblank
  cases hblank

theorem isSpaceOrTab_append {margin indent : String}
    (hmargin : ∀ c ∈ margin.toList, isSpaceOrTab c = true)
    (hindent : ∀ c ∈ indent.toList, isSpaceOrTab c = true) :
    ∀ c ∈ (margin ++ indent).toList, isSpaceOrTab c = true := by
  intro c hc
  rw [String.toList_append] at hc
  exact (List.mem_append.mp hc).elim (hmargin c) (hindent c)

/-- The characters of names go on with an identifier. -/
theorem isIdentifierChar_of_isNameChar {c : Char} (h : isNameChar c = true) :
    isIdentifierChar c = true := by
  have hascii : c.toNat < 128 := by
    have := toNat_of_isNameChar h
    omega
  have hparts : (isAsciiLetter c = true ∨ c = '_' ∨ c = '$') ∨ isAsciiDigit c = true := by
    simpa [isNameChar, isNameStart, or_assoc] using h
  simp only [isIdentifierChar, isWordChar, isLetterOrNumber, hascii, if_true, Bool.or_eq_true,
    beq_iff_eq]
  rcases hparts with (hletter | rfl | rfl) | hdigit
  · exact .inl (.inl (.inl hletter))
  · exact .inl (.inr rfl)
  · exact .inr rfl
  · exact .inl (.inl (.inr hdigit))

/-- A name is not passed over with a margin. -/
theorem dropWhile_name {p : Char → Bool} (hp : ∀ c, isNameChar c = true → p c = false)
    {name : List Char} (hname : isIdentifier name = true) (rest : List Char) :
    (name ++ rest).dropWhile p = name ++ rest := by
  cases name with
  | nil => exact absurd hname (by decide)
  | cons c more =>
    have hc : isNameChar c = true := isNameChar_of_mem hname (by simp)
    rw [List.cons_append, List.dropWhile_cons, hp c hc]
    rfl

theorem dropBlanks_name {name : List Char} (hname : isIdentifier name = true) (rest : List Char) :
    (name ++ rest).dropWhile isBlank = name ++ rest :=
  dropWhile_name (fun _ hc => isBlank_of_isNameChar hc) hname rest

/-! ## Lines without a heading -/

theorem heading?_of_afterKeyword {text : List Char}
    (h : afterKeyword? (afterModifiers (text.dropWhile isSpaceOrTab)) = none) :
    heading? text = none := by
  rw [heading?, h]
  rfl

/-- No name begins a calm line. -/
theorem exists_not_name_of_isCalm {line : List Char} (h : isCalm line = true)
    (rest : List Char) :
    ∃ s more, (line ++ '\n' :: rest).dropWhile isSpaceOrTab = s :: more ∧
      isNameChar s = false := by
  induction line with
  | nil => exact ⟨'\n', rest, rfl, by decide⟩
  | cons c tail ih =>
    rw [isCalm] at h
    rw [List.cons_append, List.dropWhile_cons]
    split at h
    · rename_i hspace
      rw [if_pos hspace]
      exact ih h
    · rename_i hspace
      rw [if_neg hspace]
      exact ⟨c, _, rfl, by simpa using h⟩

/-- No heading begins where no word does. -/
theorem heading?_of_isCalm {line : List Char} (h : isCalm line = true) (rest : List Char) :
    heading? (line ++ '\n' :: rest) = none := by
  obtain ⟨s, more, hdrop, hs⟩ := exists_not_name_of_isCalm h rest
  apply heading?_of_afterKeyword
  rw [hdrop, afterKeyword?_of_not_name hs]

section Rows

variable {margin name : List Char} (hmargin : ∀ c ∈ margin, isSpaceOrTab c = true)
  (hname : isIdentifier name = true)

include hmargin hname

theorem dropWhile_row (rest : List Char) :
    (margin ++ (name ++ rest)).dropWhile isSpaceOrTab = name ++ rest := by
  rw [dropWhile_margin hmargin, dropWhile_name (fun c hc => isSpaceOrTab_of_isNameChar hc) hname]

/-- No heading begins with a name before a colon. -/
theorem heading?_property (rest : List Char) :
    heading? (margin ++ (name ++ ':' :: rest)) = none := by
  have hchars := forall_isNameChar hname
  have hcolon : isNameChar ':' = false := by decide
  apply heading?_of_afterKeyword
  rw [dropWhile_row hmargin hname, afterModifiers_append hchars hcolon (.inr (by decide)),
    afterKeyword?_append hchars hcolon]
  rfl

/-- No heading begins with a name before an equals sign, for what follows is no name. -/
theorem heading?_member (rest : List Char) :
    heading? (margin ++ (name ++ ' ' :: '=' :: rest)) = none := by
  have hchars := forall_isNameChar hname
  have hspace : isNameChar ' ' = false := by decide
  have hequals : ('=' :: rest).dropWhile isBlank = '=' :: rest := rfl
  -- a member may be called like a modifier or a keyword, but no name follows it
  cases hmodifier : isModifier name with
  | true =>
    apply heading?_of_afterKeyword
    rw [dropWhile_row hmargin hname, afterModifiers_modifier hchars hspace hmodifier (by decide),
      hequals, afterKeyword?_of_not_name (by decide)]
  | false =>
    rw [heading?, dropWhile_row hmargin hname, afterModifiers_append hchars hspace (.inl hmodifier),
      afterKeyword?_append hchars hspace, if_pos (by decide), hequals]
    cases keywordOf? name <;> rfl

/-- The heading of a declaration tells its keyword and its name. -/
theorem heading?_declaration {word : List Char} {keyword : Keyword}
    (hword : isIdentifier word = true) (hkeyword : keywordOf? word = some keyword)
    (hmodifier : isModifier word = false) {s : Char} (hs : isIdentifierChar s = false)
    (rest : List Char) :
    heading? (margin ++ ("export".toList ++ ' ' :: (word ++ ' ' :: name)) ++ s :: rest) =
      some { keyword, identifier := name, after := s :: rest } := by
  have hchars := forall_isNameChar hword
  have hspace : isNameChar ' ' = false := by decide
  -- the modifier is passed over, then the keyword is found
  have hkey : afterKeyword? (afterModifiers ("export".toList ++ ' ' ::
      (word ++ ' ' :: (name ++ s :: rest)))) = some (keyword, name ++ s :: rest) := by
    rw [afterModifiers_modifier (forall_isNameChar (by decide)) hspace (by decide) (by decide),
      dropBlanks_name hword,
      afterModifiers_append hchars hspace (.inl hmodifier), afterKeyword?_append hchars hspace,
      if_pos (by decide), dropBlanks_name hname, hkeyword]
    rfl
  -- the name ends where no character of an identifier follows
  have hidentifier : identifier? (name ++ s :: rest) = some (name, s :: rest) := by
    cases hn : name with
    | nil => exact absurd hname (by rw [hn]; decide)
    | cons c more =>
      rw [hn, isIdentifier_cons] at hname
      have hmore : ∀ d ∈ more, isIdentifierChar d = true :=
        fun d hd => isIdentifierChar_of_isNameChar (hname.2 d hd)
      have htake : (more ++ s :: rest).takeWhile isIdentifierChar = more := by
        rw [List.takeWhile_append_of_pos hmore, List.takeWhile_cons, hs]
        simp
      have hdrop : (more ++ s :: rest).dropWhile isIdentifierChar = s :: rest := by
        rw [List.dropWhile_append_of_pos hmore, List.dropWhile_cons, hs]
        rfl
      have hstart : isIdentifierStart c = true := hname.1
      rw [List.cons_append, identifier?, if_pos hstart, htake, hdrop]
  have hjoin : margin ++ ("export".toList ++ ' ' :: (word ++ ' ' :: name)) ++ s :: rest =
      margin ++ ("export".toList ++ ' ' :: (word ++ ' ' :: (name ++ s :: rest))) := by
    simp only [List.append_assoc, List.cons_append]
  rw [hjoin, heading?, dropWhile_row hmargin (by decide), hkey]
  simp only [Option.bind_eq_bind, Option.bind_some, hidentifier]

end Rows

/-- No heading begins with that of a namespace. -/
theorem heading?_namespace (rest : List Char) :
    heading? ("declare".toList ++ ' ' :: ("namespace".toList ++ ' ' :: rest)) = none := by
  have hspace : isNameChar ' ' = false := by decide
  have hword : ∀ c ∈ "namespace".toList, isNameChar c = true := forall_isNameChar (by decide)
  apply heading?_of_afterKeyword
  rw [dropWhile_name (fun c hc => isSpaceOrTab_of_isNameChar hc) (by decide),
    afterModifiers_modifier (forall_isNameChar (by decide)) hspace (by decide) (by decide),
    dropBlanks_name (by decide), afterModifiers_append hword hspace (.inl (by decide)),
    afterKeyword?_append hword hspace]
  rfl

end Ambient.Sweep
