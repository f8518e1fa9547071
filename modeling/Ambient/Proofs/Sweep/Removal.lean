/-
  Ambient.Proofs.Sweep.Removal

  Removal of hidden declarations from the text of blocks. Lines inside a declaration and lines
  around it are passed over as they are; a declaration goes with all of its lines if its name is
  hidden. What is left is the text of the blocks without these declarations
  (`removeHidden_pageLines`).
-/
import Ambient.Proofs.Sweep.Heading
import Ambient.Proofs.Text.Digits

namespace Ambient.Sweep

open Text

variable {marker : List Char}

theorem isPlain_of_isSpaceOrTab {c : Char} (h : isSpaceOrTab c = true) : isPlain c = true := by
  have hspace : c = ' ' ∨ c = '\t' := by simpa [isSpaceOrTab] using h
  rcases hspace with rfl | rfl <;> decide

/-! ## One step -/

theorem removeFrom_of_none {anchored : Bool} {c : Char} {rest : List Char}
    (h : headingIf? anchored (c :: rest) = none) :
    removeFrom marker anchored (c :: rest) = c :: removeFrom marker (isAnchor c) rest := by
  rw [removeFrom]
  split
  · rename_i heq
    rw [h] at heq
    cases heq
  · rfl

theorem removeFrom_of_heading {text : List Char} {heading : Heading}
    (h : heading? text = some heading) :
    removeFrom marker true text =
      if Visibility.holds marker heading.identifier then removeFrom marker true heading.rest
      else text.take (text.length - heading.after.length) ++
        removeFrom marker false heading.after := by
  cases text with
  | nil => exact absurd (length_after_heading h) (Nat.not_lt_zero _)
  | cons c rest =>
    have hif : headingIf? true (c :: rest) = some heading := h
    rw [removeFrom]
    split
    · rename_i heq
      rw [hif] at heq
      cases heq
      rfl
    · rename_i heq
      rw [hif] at heq
      cases heq

/-! ## Lines that are passed over -/

/-- A quiet rest of a line is passed over. -/
theorem removeFrom_quiet {t : List Char} (hquiet : isQuiet t = true) {anchored : Bool}
    (hcalm : anchored = true → isCalm t = true) (rest : List Char) :
    removeFrom marker anchored (t ++ '\n' :: rest) = t ++ '\n' :: removeFrom marker true rest := by
  have hnone : ∀ {a : Bool} {s : List Char}, (a = true → isCalm s = true) →
      headingIf? a (s ++ '\n' :: rest) = none := by
    intro a s hs
    cases a with
    | false => rfl
    | true => exact heading?_of_isCalm (hs rfl) rest
  -- every anchor on the way has a calm text after it, so that no heading is found
  induction t generalizing anchored with
  | nil =>
    rw [List.nil_append, removeFrom_of_none (hnone (s := []) fun _ => rfl)]
    rfl
  | cons c more ih =>
    obtain ⟨hnext, hmore⟩ := isQuiet_cons.mp hquiet
    have hstep := hnone hcalm
    rw [List.cons_append] at hstep ⊢
    rw [removeFrom_of_none hstep, ih hmore hnext, List.cons_append]

theorem removeFrom_rest {t : List Char} (h : isQuiet t = true) (rest : List Char) :
    removeFrom marker false (t ++ '\n' :: rest) = t ++ '\n' :: removeFrom marker true rest :=
  removeFrom_quiet h (fun hanchor => by cases hanchor) rest

/-- A line in which no declaration begins. -/
structure IsSilent (line : List Char) : Prop where
  quiet : isQuiet line = true
  start : ∀ rest, heading? (line ++ '\n' :: rest) = none

theorem IsSilent.of_isCalm {line : List Char} (hquiet : isQuiet line = true)
    (hcalm : isCalm line = true) : IsSilent line where
  quiet := hquiet
  start := heading?_of_isCalm hcalm

theorem removeFrom_silent {line : List Char} (h : IsSilent line) (rest : List Char) :
    removeFrom marker true (line ++ '\n' :: rest) =
      line ++ '\n' :: removeFrom marker true rest := by
  cases line with
  | nil => exact removeFrom_quiet h.quiet (fun _ => rfl) rest
  | cons c more =>
    -- no heading at the start of the line, and none after an anchor in it
    obtain ⟨hnext, hmore⟩ := isQuiet_cons.mp h.quiet
    have hstep : headingIf? true (c :: (more ++ '\n' :: rest)) = none := h.start rest
    rw [List.cons_append, removeFrom_of_none hstep, removeFrom_quiet hmore hnext, List.cons_append]

/-- Silent lines are passed over. -/
theorem removeFrom_written {lines : List String} (h : ∀ line ∈ lines, IsSilent line.toList)
    (rest : List Char) :
    removeFrom marker true (written lines ++ rest) =
      written lines ++ removeFrom marker true rest := by
  induction lines with
  | nil => rfl
  | cons line more ih =>
    simp only [written_cons, List.append_assoc, List.cons_append]
    rw [removeFrom_silent (h line (by simp)), ih fun l hl => h l (by simp [hl])]

/-! ## Spans -/

theorem dropBlankRest_break (rest : List Char) : dropBlankRest ('\n' :: rest) = rest := by
  simp [dropBlankRest, allBlank]

theorem isNeutral_written {lines : List String} (h : ∀ line ∈ lines, IsNeutral line.toList) :
    IsNeutral (written lines) := by
  induction lines with
  | nil => exact .nil
  | cons line rest ih =>
    rw [written_cons]
    exact (h line (by simp)).append
      (.cons (by decide) (by decide) (ih fun l hl => h l (by simp [hl])))

/-- A block ends after its closing brace. -/
theorem afterBlock_append {signature body : List Char}
    (hsignature : ∀ c ∈ signature, isAnchor c = false) (hbody : IsNeutral body)
    (rest : List Char) :
    afterBlock (signature ++ '\x7b' :: (body ++ '\x7d' :: rest)) = rest := by
  have hdrop : (signature ++ '\x7b' :: (body ++ '\x7d' :: rest)).dropWhile (· != '\x7b') =
      '\x7b' :: (body ++ '\x7d' :: rest) := by
    rw [List.dropWhile_append_of_pos, List.dropWhile_cons]
    · rfl
    · intro c hc
      rw [bne_iff_ne]
      rintro rfl
      exact absurd (hsignature _ hc) (by decide)
  -- the first brace opens the block
  unfold afterBlock
  rw [hdrop]
  show afterClosing 0 (body ++ '\x7d' :: rest) = rest
  rw [hbody, afterClosing_last]

/-- A text without braces and semicolons ends at the semicolon after it. -/
theorem afterTerminator_append {text : List Char} (h : ∀ c ∈ text, isAnchor c = false)
    (rest : List Char) : afterTerminator 0 (text ++ ';' :: rest) = rest := by
  induction text with
  | nil => simp [afterTerminator]
  | cons c more ih =>
    have hne : ∀ d : Char, isAnchor d = true → c ≠ d := by
      rintro d hd rfl
      rw [h c (by simp)] at hd
      cases hd
    rw [List.cons_append, afterTerminator, if_neg (hne _ (by decide)), if_neg (hne _ (by decide)),
      if_neg fun hboth => hne ';' (by decide) hboth.1, ih fun d hd => h d (by simp [hd])]

/-! ## Declarations -/

/-- A text that goes as a whole where a name holds the marker, and stays as it is otherwise. -/
def IsRemovable (name text : List Char) : Prop :=
  ∀ marker rest, removeFrom marker true (text ++ rest) =
    if Visibility.holds marker name then removeFrom marker true rest
    else text ++ removeFrom marker true rest

/-- What goes or stays with a text is the rest of a declaration after its heading: a scan from the
heading ends after it, and otherwise it is passed over. -/
theorem IsRemovable.of_rest {start body name : List Char} {s : Char} {more : List Char}
    {keyword : Keyword} (hbody : body = s :: more)
    (hheading : ∀ rest, heading? (start ++ s :: rest) =
      some { keyword, identifier := name, after := s :: rest })
    (hspan : ∀ rest, Heading.rest { keyword, identifier := name, after := body ++ rest } = rest)
    (hpassed : ∀ marker rest, removeFrom marker false (body ++ rest) =
      body ++ removeFrom marker true rest) : IsRemovable name (start ++ body) := by
  intro marker rest
  -- the heading is found at once
  have hfound : heading? (start ++ (body ++ rest)) =
      some { keyword, identifier := name, after := body ++ rest } := by
    rw [hbody, List.cons_append]
    exact hheading (more ++ rest)
  have htake : (start ++ (body ++ rest)).take
      ((start ++ (body ++ rest)).length - (body ++ rest).length) = start := by
    rw [List.length_append, Nat.add_sub_cancel, List.take_left]
  rw [List.append_assoc, removeFrom_of_heading hfound, hspan, htake, hpassed, List.append_assoc]

section Declarations

variable {margin word name : List Char} (hmargin : ∀ c ∈ margin, isSpaceOrTab c = true)
  (hname : isIdentifier name = true) (hword : isIdentifier word = true) {keyword : Keyword}
  (hkeyword : keywordOf? word = some keyword) (hmodifier : isModifier word = false)

include hmargin hname hword hkeyword hmodifier

/-- A declaration with a block goes with the lines of its block. -/
theorem isRemovable_block (hblock : keyword ≠ .type) {signature : List Char}
    (hsignature : ∀ c ∈ signature, isAnchor c = false)
    (hstart : ∀ c ∈ signature.head?, isIdentifierChar c = false)
    {rows : List String} (hsilent : ∀ row ∈ rows, IsSilent row.toList)
    (hneutral : ∀ row ∈ rows, IsNeutral row.toList) :
    IsRemovable name (margin ++ ("export".toList ++ ' ' :: (word ++ ' ' :: name)) ++
      (signature ++ [' ', '\x7b'] ++ '\n' :: (written rows ++ margin ++ ['\x7d', '\n']))) := by
  have hplain : ∀ c ∈ margin, isAnchor c = false :=
    fun c hc => isAnchor_of_isPlain (isPlain_of_isSpaceOrTab (hmargin c hc))
  have hopening : ∃ s more, signature ++ [' ', '\x7b'] = s :: more ∧
      isIdentifierChar s = false := by
    cases signature with
    | nil => exact ⟨' ', ['\x7b'], rfl, by decide⟩
    | cons c more => exact ⟨c, more ++ [' ', '\x7b'], rfl, hstart c rfl⟩
  obtain ⟨s, more, hsign, hs⟩ := hopening
  refine .of_rest (by rw [hsign]; rfl)
    (heading?_declaration hmargin hname hword hkeyword hmodifier hs) ?_ ?_
  · -- the scan from the opening brace ends at the closing one, for the rows between are in balance
    intro rest
    have hinner : IsNeutral ('\n' :: (written rows ++ margin)) :=
      .cons (by decide) (by decide) ((isNeutral_written hneutral).append (.of_plain hplain))
    have hsign : ∀ c ∈ signature ++ [' '], isAnchor c = false := by
      intro c hc
      rcases List.mem_append.mp hc with h | h
      · exact hsignature c h
      · rw [List.mem_singleton.mp h]
        decide
    have hend := afterBlock_append hsign hinner ('\n' :: rest)
    simp only [List.append_assoc, List.cons_append, List.nil_append] at hend
    simp only [Heading.rest, List.append_assoc, List.cons_append, List.nil_append, hend,
      beq_iff_eq, hblock, if_false, dropBlankRest_break]
  · intro marker rest
    have hquiet : isQuiet (signature ++ [' ', '\x7b']) = true :=
      isQuiet_append_of_plain hsignature (by decide)
    -- where the name stays, the signature, the rows and the closing brace are passed over
    have hclose : IsSilent (margin ++ ['\x7d']) :=
      .of_isCalm (isQuiet_append_of_plain hplain (by decide))
        (isCalm_append (isCalm_of_isSpaceOrTab hmargin) (by decide))
    have hlast := @removeFrom_silent marker _ hclose rest
    have hrows := @removeFrom_written marker _ hsilent (margin ++ '\x7d' :: '\n' :: rest)
    have hopen := @removeFrom_rest marker _ hquiet
      (written rows ++ (margin ++ '\x7d' :: '\n' :: rest))
    simp only [List.append_assoc, List.cons_append, List.nil_append] at hlast hopen ⊢
    rw [hopen, hrows, hlast]

/-- A declaration without a block goes up to its semicolon. -/
theorem isRemovable_line (htype : keyword = .type) {text : List Char}
    (htext : ∀ c ∈ text, isAnchor c = false) :
    IsRemovable name (margin ++ ("export".toList ++ ' ' :: (word ++ ' ' :: name)) ++
      ' ' :: (text ++ [';', '\n'])) := by
  have hplain : ∀ c ∈ ' ' :: text, isAnchor c = false := by
    intro c hc
    rcases List.mem_cons.mp hc with rfl | h
    · decide
    · exact htext c h
  refine .of_rest rfl
    (heading?_declaration hmargin hname hword hkeyword hmodifier (by decide)) ?_ ?_
  · intro rest
    -- the first semicolon outside of braces is the last one of the line
    have hend := afterTerminator_append hplain ('\n' :: rest)
    simp only [List.cons_append] at hend
    simp only [Heading.rest, List.append_assoc, List.cons_append, List.nil_append, hend, htype,
      beq_self_eq_true, if_true, dropBlankRest_break]
  · intro marker rest
    have hquiet : isQuiet (' ' :: text ++ [';']) = true :=
      isQuiet_append_of_plain hplain (by decide)
    have hpassed := @removeFrom_rest marker _ hquiet rest
    simp only [List.append_assoc, List.cons_append, List.nil_append] at hpassed ⊢
    exact hpassed

end Declarations

/-! ## Lines of declarations -/

/-- A semicolon at the end of a line begins nothing. -/
theorem isTame_semicolon : IsTame [';'] where
  oneLine := by
    rintro c (rfl | rfl) <;> decide
  neutral := .cons (by decide) (by decide) .nil
  quiet := by decide

/-- A tame line in which no declaration begins. -/
structure IsRow (line : List Char) : Prop where
  tame : IsTame line
  start : ∀ rest, heading? (line ++ '\n' :: rest) = none

theorem IsRow.isSilent {line : List Char} (h : IsRow line) : IsSilent line where
  quiet := h.tame.quiet
  start := h.start

theorem isPlain_value {value : Json} (h : Declaration.IsMemberValue .identifiers value) :
    ∀ c ∈ value.text.toList, isPlain c = true := by
  rcases h with ⟨n, rfl⟩ | ⟨s, hs, rfl⟩
  · intro c hc
    rcases Declaration.text_int_chars n c hc with hdigit | rfl
    · refine isPlain_of_isNameChar ?_
      rw [isNameChar, isAsciiDigit_of_isDigit hdigit, Bool.or_true]
    · decide
  · intro c hc
    have hparts : c = '"' ∨ c ∈ s.toList ∨ c = '"' := by
      simpa [Declaration.literal] using hc
    rcases hparts with rfl | hmem | rfl
    · decide
    · exact isPlain_of_isNameChar (isNameChar_of_mem hs hmem)
    · decide

/-- Joined texts are plain if they and what stands between them are. -/
theorem isPlain_joinWith {sep : String} (hsep : sep.toList.all isPlain = true)
    {pieces : List String} (h : ∀ piece ∈ pieces, ∀ c ∈ piece.toList, isPlain c = true) :
    ∀ c ∈ (String.joinWith sep pieces).toList, isPlain c = true := by
  intro c hc
  rw [String.toList_joinWith] at hc
  rcases mem_joinWith hc with hs | ⟨piece, hpiece, hmem⟩
  · exact List.all_eq_true.mp hsep c hs
  · obtain ⟨s, hs, rfl⟩ := List.mem_map.mp hpiece
    exact h s hs c hmem

theorem isPlain_parameterList {parameters : List Json}
    (h : ∀ x ∈ parameters, NameRule.identifiers.admits x = true) :
    ∀ c ∈ (Declaration.parameterList (parameters.map Json.text)).toList, isPlain c = true := by
  unfold Declaration.parameterList
  split
  · simp
  · intro c hc
    have hjoin : ∀ d ∈ (String.joinWith ", " (parameters.map Json.text)).toList,
        isPlain d = true := by
      refine isPlain_joinWith (by decide) fun piece hpiece => ?_
      obtain ⟨x, hx, rfl⟩ := List.mem_map.mp hpiece
      obtain ⟨s, rfl, hs⟩ := NameRule.admits_iff.mp (h x hx)
      exact fun d hd => isPlain_of_isNameChar (isNameChar_of_mem hs hd)
    have hparts : c = '<' ∨ c ∈ (String.joinWith ", " (parameters.map Json.text)).toList ∨
        c = '>' := by
      simpa using hc
    rcases hparts with rfl | hmem | rfl
    · decide
    · exact hjoin c hmem
    · decide

/-- Type parameters do not go on with the name before them. -/
theorem head_parameterList (parameters : List String) :
    ∀ c ∈ (Declaration.parameterList parameters).toList.head?, isIdentifierChar c = false := by
  unfold Declaration.parameterList
  split
  · simp
  · intro c hc
    have hangle : '<' = c := by simpa using hc
    rw [← hangle]
    decide

theorem isPlain_quotedAlternatives {members : List EnumMember}
    (h : ∀ m ∈ members, NameRule.identifiers.admits m.name = true) :
    ∀ c ∈ (Declaration.quotedAlternatives members).toList, isPlain c = true := by
  unfold Declaration.quotedAlternatives
  split
  · exact List.all_eq_true.mp (by decide)
  · refine isPlain_joinWith (by decide) fun piece hpiece c hc => ?_
    obtain ⟨m, hm, rfl⟩ := List.mem_map.mp hpiece
    obtain ⟨s, hs, hname⟩ := NameRule.admits_iff.mp (h m hm)
    have hparts : c = '"' ∨ c ∈ s.toList ∨ c = '"' := by
      simpa [hs] using hc
    rcases hparts with rfl | hmem | rfl
    · decide
    · exact isPlain_of_isNameChar (isNameChar_of_mem hname hmem)
    · decide

section Rows

variable {indent : String} (hindent : ∀ c ∈ indent.toList, isSpaceOrTab c = true)

include hindent

theorem isPlain_of_mem_indent : ∀ c ∈ indent.toList, isPlain c = true :=
  fun c hc => isPlain_of_isSpaceOrTab (hindent c hc)

theorem isRow_property {q : Json × String} (hq : NameRule.identifiers.admits q.1 = true)
    (htype : IsTame q.2.toList) : IsRow (Declaration.propertyRow indent q).toList := by
  obtain ⟨key, type⟩ := q
  obtain ⟨s, rfl, hs⟩ := NameRule.admits_iff.mp hq
  have hrow : (Declaration.propertyRow indent (.str s, type)).toList =
      indent.toList ++ (s.toList ++ ([':', ' '] ++ (type.toList ++ [';']))) := by
    simp [Declaration.propertyRow]
  constructor
  · -- a margin and a name are plain, and the type ends before the semicolon
    rw [hrow]
    refine .plain_append (isPlain_of_mem_indent hindent) (.plain_append ?_
      (.all_append (by decide) (htype.append isTame_semicolon rfl)))
    exact fun c hc => isPlain_of_isNameChar (isNameChar_of_mem hs hc)
  · intro rest
    rw [hrow]
    simpa using heading?_property hindent hs (' ' :: (type.toList ++ ';' :: '\n' :: rest))

theorem isRow_member {m : Json × Json} (hm : NameRule.identifiers.admits m.1 = true)
    (hv : Declaration.IsMemberValue .identifiers m.2) {comma : String}
    (hcomma : comma = "" ∨ comma = ",") :
    IsRow (Declaration.memberRow indent m ++ comma).toList := by
  obtain ⟨key, value⟩ := m
  obtain ⟨s, rfl, hs⟩ := NameRule.admits_iff.mp hm
  have hrow : (Declaration.memberRow indent (.str s, value) ++ comma).toList =
      indent.toList ++ (s.toList ++ ([' ', '=', ' '] ++ (value.text.toList ++ comma.toList))) := by
    simp [Declaration.memberRow]
  constructor
  · rw [hrow]
    refine .plain_append (isPlain_of_mem_indent hindent) (.plain_append ?_
      (.all_append (by decide) (.plain_append (isPlain_value hv) (.of_all ?_))))
    · exact fun c hc => isPlain_of_isNameChar (isNameChar_of_mem hs hc)
    · rcases hcomma with rfl | rfl <;> decide
  · intro rest
    rw [hrow]
    simpa using heading?_member hindent hs (' ' :: (value.text.toList ++ (comma.toList ++
      '\n' :: rest)))

end Rows

/-! ## Texts of declarations -/

section Texts

variable (margin indent name : String)

theorem written_interface (parameters : List Json) (properties : List (Json × String)) :
    written ((Declaration.interface name parameters properties).lines margin indent) =
      margin.toList ++ ("export".toList ++ ' ' :: ("interface".toList ++ ' ' :: name.toList)) ++
        ((Declaration.parameterList (parameters.map Json.text)).toList ++ [' ', '\x7b'] ++
          '\n' :: (written (properties.map (Declaration.propertyRow (margin ++ indent))) ++
            margin.toList ++ ['\x7d', '\n'])) := by
  have hword : "export interface ".toList =
      "export".toList ++ ' ' :: ("interface".toList ++ [' ']) := rfl
  have hopen : " \x7b".toList = [' ', '\x7b'] := rfl
  have hclose : "\x7d".toList = ['\x7d'] := rfl
  simp only [Declaration.lines, written_cons, written_append, written_nil, String.toList_append,
    hword, hopen, hclose, List.append_assoc, List.cons_append, List.nil_append]

theorem written_enum (members : List (Json × Json)) :
    written ((Declaration.enum name members).lines margin indent) =
      margin.toList ++ ("export".toList ++ ' ' :: ("enum".toList ++ ' ' :: name.toList)) ++
        ([] ++ [' ', '\x7b'] ++ '\n' ::
          (written (Declaration.withCommas
              (members.map (Declaration.memberRow (margin ++ indent)))) ++
            margin.toList ++ ['\x7d', '\n'])) := by
  have hword : "export enum ".toList = "export".toList ++ ' ' :: ("enum".toList ++ [' ']) := rfl
  have hopen : " \x7b".toList = [' ', '\x7b'] := rfl
  have hclose : "\x7d".toList = ['\x7d'] := rfl
  simp only [Declaration.lines, written_cons, written_append, written_nil, String.toList_append,
    hword, hopen, hclose, List.append_assoc, List.cons_append, List.nil_append]

theorem written_union (members : List EnumMember) :
    written ((Declaration.union name members).lines margin indent) =
      margin.toList ++ ("export".toList ++ ' ' :: ("type".toList ++ ' ' :: name.toList)) ++
        ' ' :: (['=', ' '] ++ (Declaration.quotedAlternatives members).toList ++
          [';', '\n']) := by
  have hword : "export type ".toList = "export".toList ++ ' ' :: ("type".toList ++ [' ']) := rfl
  have hequals : " = ".toList = [' ', '=', ' '] := rfl
  have hclose : ";".toList = [';'] := rfl
  simp only [Declaration.lines, written_cons, written_nil, String.toList_append, hword, hequals,
    hclose, List.append_assoc, List.cons_append, List.nil_append]

theorem toList_blockHeading :
    ("declare namespace " ++ name ++ " \x7b").toList =
      "declare".toList ++ ' ' :: ("namespace".toList ++ ' ' :: (name.toList ++ [' ', '\x7b'])) := by
  have hwords : "declare namespace ".toList =
      "declare".toList ++ ' ' :: ("namespace".toList ++ [' ']) := rfl
  have hopen : " \x7b".toList = [' ', '\x7b'] := rfl
  simp only [String.toList_append, hwords, hopen, List.append_assoc, List.cons_append,
    List.nil_append]

end Texts

/-! ## Blocks -/

section Blocks

variable {margin indent : String} (hmargin : ∀ c ∈ margin.toList, isSpaceOrTab c = true)
  (hindent : ∀ c ∈ indent.toList, isSpaceOrTab c = true)

include hmargin hindent

/-- The lines of a declaration go if its name holds the marker, and stay as they are otherwise. -/
theorem removeFrom_lines {d : Declaration} (hd : d.Obeys .identifiers fun t => IsTame t.toList)
    (rest : List Char) :
    removeFrom marker true (written (d.lines margin indent) ++ rest) =
      if Visibility.holds marker d.name.toList then removeFrom marker true rest
      else written (d.lines margin indent) ++ removeFrom marker true rest := by
  have hboth := isSpaceOrTab_append hmargin hindent
  -- interfaces and enums go as blocks, unions as single lines
  cases d with
  | interface name parameters properties =>
    have hrows : ∀ row ∈ properties.map (Declaration.propertyRow (margin ++ indent)),
        IsRow row.toList := by
      intro row hrow
      obtain ⟨q, hq, rfl⟩ := List.mem_map.mp hrow
      exact isRow_property hboth (hd.2.2 q hq).1 (hd.2.2 q hq).2
    have hplain := isPlain_parameterList hd.2.1
    have hkeyword : keywordOf? "interface".toList = some .interface := by decide
    rw [written_interface]
    exact isRemovable_block hmargin hd.1 (by decide) hkeyword (by decide) (by decide)
      (fun c hc => isAnchor_of_isPlain (hplain c hc)) (head_parameterList _)
      (fun row hr => (hrows row hr).isSilent) (fun row hr => (hrows row hr).tame.neutral) marker
      rest
  | enum name members =>
    have hrows : ∀ row ∈ Declaration.withCommas
        (members.map (Declaration.memberRow (margin ++ indent))), IsRow row.toList := by
      intro row hrow
      obtain ⟨line, hline, comma, hcomma, rfl⟩ := Declaration.mem_withCommas hrow
      obtain ⟨m, hm, rfl⟩ := List.mem_map.mp hline
      exact isRow_member hboth (hd.2 m hm).1 (hd.2 m hm).2 hcomma
    have hkeyword : keywordOf? "enum".toList = some .enum := by decide
    rw [written_enum]
    exact isRemovable_block hmargin hd.1 (by decide) hkeyword (by decide) (by decide) (by simp)
      (by simp) (fun row hr => (hrows row hr).isSilent)
      (fun row hr => (hrows row hr).tame.neutral) marker rest
  | union name members =>
    have hplain := isPlain_quotedAlternatives hd.2
    have hstart : ∀ c ∈ ['=', ' '], isPlain c = true := List.all_eq_true.mp (by decide)
    have hkeyword : keywordOf? "type".toList = some .type := by decide
    rw [written_union]
    refine isRemovable_line hmargin hd.1 (by decide) hkeyword (by decide) rfl (fun c hc => ?_)
      marker rest
    rcases List.mem_append.mp hc with h | h
    · exact isAnchor_of_isPlain (hstart c h)
    · exact isAnchor_of_isPlain (hplain c h)

end Blocks

section Pages

variable {indent : String} (hindent : ∀ c ∈ indent.toList, isSpaceOrTab c = true)

include hindent

/-- Of a row of declarations those go whose names hold the marker. -/
theorem removeFrom_declarations {ds : List Declaration}
    (h : ∀ d ∈ ds, d.Obeys .identifiers fun t => IsTame t.toList) (rest : List Char) :
    removeFrom marker true (written (ds.flatMap (Declaration.lines indent indent)) ++ rest) =
      written ((ds.filter fun d => !Visibility.holds marker d.name.toList).flatMap
        (Declaration.lines indent indent)) ++ removeFrom marker true rest := by
  induction ds with
  | nil => rfl
  | cons d ds ih =>
    have hmore := ih fun e he => h e (by simp [he])
    rw [List.flatMap_cons, written_append, List.append_assoc,
      removeFrom_lines hindent hindent (h d (by simp)), hmore]
    cases hd : Visibility.holds marker d.name.toList <;> simp [hd]

/-- A block keeps its heading and its closing brace. -/
theorem removeFrom_blockLines {b : Block} (h : b.Obeys .identifiers fun t => IsTame t.toList)
    (rest : List Char) :
    removeFrom marker true (written (b.lines indent) ++ rest) =
      written ((b.keep fun n => !Visibility.holds marker n.toList).lines indent) ++
        removeFrom marker true rest := by
  obtain ⟨s, hs, hscope⟩ := NameRule.admitsScope_iff.mp h.1
  -- the heading of a namespace declares nothing that is swept out
  have hfirst : IsSilent ("declare namespace " ++ b.name.text ++ " \x7b").toList := by
    rw [hs, Json.text_str, toList_blockHeading]
    constructor
    · have hwords : ∀ c ∈ "declare namespace ".toList, isPlain c = true :=
        List.all_eq_true.mp (by decide)
      have hplain : ∀ c ∈ "declare namespace ".toList ++ s.toList, isAnchor c = false := by
        intro c hc
        rcases List.mem_append.mp hc with h | h
        · exact isAnchor_of_isPlain (hwords c h)
        · exact isAnchor_of_isPlain (isPlain_of_mem_scope hscope c h)
      have hquiet := isQuiet_append_of_plain hplain (t := [' ', '\x7b']) (by decide)
      simpa using hquiet
    · intro rest
      have hnone := heading?_namespace (s.toList ++ ' ' :: '\x7b' :: '\n' :: rest)
      simpa using hnone
  have hlast : IsSilent "\x7d".toList := .of_isCalm (by decide) (by decide)
  simp only [Block.lines, Block.keep, written_cons, written_append, written_nil, List.append_assoc,
    List.cons_append, List.nil_append]
  rw [removeFrom_silent hfirst, removeFrom_declarations hindent h.2, removeFrom_silent hlast]

/-- Of the text of some blocks the declarations go whose names hold the marker. -/
theorem removeHidden_pageLines {blocks : List Block}
    (h : ∀ b ∈ blocks, b.Obeys .identifiers fun t => IsTame t.toList) :
    removeHidden marker (written (pageLines indent blocks)) =
      written (pageLines indent
        (blocks.map (Block.keep fun n => !Visibility.holds marker n.toList))) := by
  unfold removeHidden
  induction blocks with
  | nil => simp [pageLines, removeFrom]
  | cons b rest ih =>
    by_cases hrest : rest = []
    · subst hrest
      have hb := @removeFrom_blockLines marker _ hindent _ (h b (by simp)) []
      simpa [removeFrom] using hb
    · have hmore := ih fun c hc => h c (by simp [hc])
      rw [pageLines_cons indent b hrest, List.map_cons,
        pageLines_cons indent _ (by simpa using hrest), written_append, written_append,
        removeFrom_blockLines hindent (h b (by simp)), written_cons, written_cons]
      have hblank : IsSilent "".toList := .of_isCalm (by decide) (by decide)
      rw [removeFrom_silent hblank, hmore]

end Pages

end Ambient.Sweep
