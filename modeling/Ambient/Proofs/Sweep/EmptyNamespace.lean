/-
  Ambient.Proofs.Sweep.EmptyNamespace

  Removal of empty namespaces from the text of blocks. A block without declarations goes with both
  of its lines; of every other text all lines stay. The empty lines between blocks are not touched.
-/
import Ambient.Proofs.Sweep.Removal
import Ambient.Sweep.Finish

namespace Ambient.Sweep

open Text

/-! ## One step -/

theorem dropEmptyNamespaces_of_none {atLine : Bool} {c : Char} {rest : List Char}
    (h : afterEmptyNamespaceIf? atLine (c :: rest) = none) :
    dropEmptyNamespaces atLine (c :: rest) = c :: dropEmptyNamespaces (c == '\n') rest := by
  rw [dropEmptyNamespaces]
  split
  · rename_i heq
    rw [h] at heq
    cases heq
  · rfl

theorem dropEmptyNamespaces_of_some {text after : List Char}
    (h : afterEmptyNamespace? text = some after) :
    dropEmptyNamespaces true text =
      dropEmptyNamespaces (after.head? == some '\n') (dropBreak after) := by
  cases text with
  | nil => exact absurd (length_afterEmptyNamespace h) (Nat.not_lt_zero _)
  | cons c rest =>
    have hif : afterEmptyNamespaceIf? true (c :: rest) = some after := h
    rw [dropEmptyNamespaces]
    split
    · rename_i heq
      rw [hif] at heq
      cases heq
      rfl
    · rename_i heq
      rw [hif] at heq
      cases heq

/-! ## Lines that stay -/

/-- The rest of a line stays. -/
theorem dropEmptyNamespaces_rest {t : List Char} (h : '\n' ∉ t) (rest : List Char) :
    dropEmptyNamespaces false (t ++ '\n' :: rest) =
      t ++ '\n' :: dropEmptyNamespaces true rest := by
  induction t with
  | nil =>
    rw [List.nil_append, dropEmptyNamespaces_of_none rfl]
    rfl
  | cons c more ih =>
    rw [List.cons_append, dropEmptyNamespaces_of_none rfl, head_beq_of_notMem h,
      ih fun hmem => h (by simp [hmem]), List.cons_append]

/-- A line with which no empty namespace begins. -/
structure IsInert (line : List Char) : Prop where
  oneLine : '\n' ∉ line
  start : ∀ rest, afterEmptyNamespace? (line ++ '\n' :: rest) = none

theorem dropEmptyNamespaces_line {line rest : List Char} (hbreak : '\n' ∉ line)
    (h : afterEmptyNamespace? (line ++ '\n' :: rest) = none) :
    dropEmptyNamespaces true (line ++ '\n' :: rest) =
      line ++ '\n' :: dropEmptyNamespaces true rest := by
  cases line with
  | nil =>
    have hstep : afterEmptyNamespaceIf? true ('\n' :: rest) = none := h
    rw [List.nil_append, dropEmptyNamespaces_of_none hstep]
    rfl
  | cons c more =>
    have hstep : afterEmptyNamespaceIf? true (c :: (more ++ '\n' :: rest)) = none := h
    rw [List.cons_append, dropEmptyNamespaces_of_none hstep, head_beq_of_notMem hbreak,
      dropEmptyNamespaces_rest fun hmem => hbreak (by simp [hmem]), List.cons_append]

theorem dropEmptyNamespaces_written {lines : List String}
    (h : ∀ line ∈ lines, IsInert line.toList) (rest : List Char) :
    dropEmptyNamespaces true (written lines ++ rest) =
      written lines ++ dropEmptyNamespaces true rest := by
  induction lines with
  | nil => rfl
  | cons line more ih =>
    have hline := h line (by simp)
    simp only [written_cons, List.append_assoc, List.cons_append]
    rw [dropEmptyNamespaces_line hline.oneLine (hline.start _), ih fun l hl => h l (by simp [hl])]

/-! ## Starts of lines -/

/-- An empty namespace begins with its first word. -/
theorem afterEmptyNamespace?_of_first {text : List Char}
    (h : afterWord? "declare" (text.dropWhile isSpaceOrTab) = none) :
    afterEmptyNamespace? text = none := by
  rw [afterEmptyNamespace?, h]
  rfl

theorem afterEmptyNamespace?_of_isCalm {line : List Char} (h : isCalm line = true)
    (rest : List Char) : afterEmptyNamespace? (line ++ '\n' :: rest) = none := by
  obtain ⟨s, more, hdrop, hs⟩ := exists_not_name_of_isCalm h rest
  apply afterEmptyNamespace?_of_first
  rw [hdrop, afterWord?_of_not_name (by decide) hs]

section Rows

variable {margin name : List Char} (hmargin : ∀ c ∈ margin, isSpaceOrTab c = true)
  (hname : isIdentifier name = true)

include hmargin hname

/-- No empty namespace begins with another word than its first one. -/
theorem afterEmptyNamespace?_name {s : Char} (hs : isNameChar s = false)
    (h : name ≠ "declare".toList ∨ isBlank s = false) (rest : List Char) :
    afterEmptyNamespace? (margin ++ (name ++ s :: rest)) = none := by
  apply afterEmptyNamespace?_of_first
  rw [dropWhile_row hmargin hname,
    afterWord?_append (by decide) (forall_isNameChar hname) hs, if_neg]
  rintro ⟨hword, hblank⟩
  rcases h with h | h
  · exact h hword
  · rw [hblank] at h
    cases h

theorem afterEmptyNamespace?_member (rest : List Char) :
    afterEmptyNamespace? (margin ++ (name ++ ' ' :: '=' :: rest)) = none := by
  have hspace : isNameChar ' ' = false := by decide
  by_cases hword : name = "declare".toList
  · -- the second word is missing
    have hfirst : afterWord? "declare" (name ++ ' ' :: '=' :: rest) = some ('=' :: rest) := by
      rw [afterWord?_append (by decide) (forall_isNameChar hname) hspace,
        if_pos ⟨hword, by decide⟩]
      rfl
    rw [afterEmptyNamespace?, dropWhile_row hmargin hname, hfirst]
    simp only [Option.bind_eq_bind, Option.bind_some]
    rw [afterWord?_of_not_name (by decide) (by decide)]
    rfl
  · exact afterEmptyNamespace?_name hmargin hname hspace (.inl hword) _

end Rows

/-! ## Lines of declarations -/

/-- No empty namespace begins with the line of a declaration. -/
theorem isInert_lines {margin indent : String}
    (hmargin : ∀ c ∈ margin.toList, isSpaceOrTab c = true)
    (hindent : ∀ c ∈ indent.toList, isSpaceOrTab c = true) {d : Declaration}
    (hd : d.Obeys .identifiers fun t => IsTame t.toList) :
    ∀ line ∈ d.lines margin indent, IsInert line.toList := by
  have hboth := isSpaceOrTab_append hmargin hindent
  have hbreak := break_notMem_declarationLines (.inl rfl) hmargin hindent hd
  have hexport : ∀ {line : String} (more : List Char),
      line.toList = margin.toList ++ ("export".toList ++ ' ' :: more) →
      ∀ rest, afterEmptyNamespace? (line.toList ++ '\n' :: rest) = none := by
    intro line more hline rest
    have hword : isIdentifier "export".toList = true := by decide
    have hspace : isNameChar ' ' = false := by decide
    have hnone := afterEmptyNamespace?_name hmargin hword hspace (.inl (by decide))
      (more ++ '\n' :: rest)
    rw [hline]
    simpa only [List.append_assoc, List.cons_append] using hnone
  have hclose : ∀ rest,
      afterEmptyNamespace? ((margin ++ "\x7d").toList ++ '\n' :: rest) = none := by
    intro rest
    rw [String.toList_append]
    exact afterEmptyNamespace?_of_isCalm
      (isCalm_append (isCalm_of_isSpaceOrTab hmargin) (by decide)) rest
  intro line hline
  refine ⟨hbreak line hline, ?_⟩
  -- headings begin with another word, rows with no second word, and the rest with no word
  cases Declaration.isLine_of_mem hline with
  | @interface name parameters =>
    refine hexport ("interface ".toList ++ (name.toList ++
      ((Declaration.parameterList (parameters.map Json.text)).toList ++ [' ', '\x7b']))) ?_
    simp
  | @property _ _ _ q hq =>
    obtain ⟨s, hs, hname⟩ := NameRule.admits_iff.mp (hd.2.2 q hq).1
    have hcolon : isNameChar ':' = false := by decide
    intro rest
    have hnone := afterEmptyNamespace?_name hboth hname hcolon (.inr (by decide))
      (' ' :: (q.2.toList ++ ';' :: '\n' :: rest))
    simpa [Declaration.propertyRow, hs] using hnone
  | @enum name =>
    refine hexport ("enum ".toList ++ (name.toList ++ [' ', '\x7b'])) ?_
    simp
  | @member _ _ m comma hm =>
    obtain ⟨s, hs, hname⟩ := NameRule.admits_iff.mp (hd.2 m hm).1
    intro rest
    have hnone := afterEmptyNamespace?_member hboth hname
      (' ' :: (m.2.text.toList ++ (comma.toList ++ '\n' :: rest)))
    simpa [Declaration.memberRow, hs] using hnone
  | @union name members =>
    refine hexport ("type ".toList ++ (name.toList ++ ([' ', '=', ' '] ++
      ((Declaration.quotedAlternatives members).toList ++ [';'])))) ?_
    simp
  | closing => exact hclose

/-! ## Blocks -/

theorem isDottedChar_of_mem_scope {s : String} (h : NameRule.identifiers.scope s = true) :
    ∀ c ∈ s.toList, isDottedChar c = true := by
  intro c hc
  rcases isNameChar_or_dot_of_mem h hc with hchar | rfl
  · simp [isDottedChar, isIdentifierChar_of_isNameChar hchar]
  · decide

/-- After the heading of a namespace an empty namespace goes on with its closing brace. -/
theorem afterEmptyNamespace?_heading {s : String} (h : NameRule.identifiers.scope s = true)
    (rest : List Char) :
    afterEmptyNamespace? ("declare".toList ++ ' ' :: ("namespace".toList ++
        ' ' :: (s.toList ++ ' ' :: '\x7b' :: rest))) =
      (afterSign? '\x7d' rest).map (List.dropWhile isSpaceOrTab) := by
  have hspace : isNameChar ' ' = false := by decide
  obtain ⟨first, tail, hs, hfirst⟩ := exists_cons_of_isDotted h
  have hname : (s.toList ++ ' ' :: '\x7b' :: rest).dropWhile isBlank =
      s.toList ++ ' ' :: '\x7b' :: rest := by
    rw [hs, List.cons_append, List.dropWhile_cons,
      isBlank_of_isNameChar (isNameChar_of_isNameStart hfirst)]
    rfl
  have hdotted := isDottedChar_of_mem_scope h
  -- the name ends before the space
  have htake : (s.toList ++ ' ' :: '\x7b' :: rest).takeWhile isDottedChar = s.toList := by
    rw [List.takeWhile_append_of_pos hdotted]
    have hstop : isDottedChar ' ' = false := by decide
    simp [hstop]
  have hdrop : (s.toList ++ ' ' :: '\x7b' :: rest).dropWhile isDottedChar =
      ' ' :: '\x7b' :: rest := by
    rw [List.dropWhile_append_of_pos hdotted]
    have hstop : isDottedChar ' ' = false := by decide
    simp [hstop]
  have hopen : afterSign? '\x7b' (' ' :: '\x7b' :: rest) = some rest := by
    have hblank : isBlank ' ' = true := by decide
    have hbrace : isBlank '\x7b' = false := by decide
    simp [afterSign?, hblank, hbrace]
  have hnonempty : s.toList.isEmpty = false := by
    rw [hs]
    rfl
  rw [afterEmptyNamespace?, dropWhile_name (fun c hc => isSpaceOrTab_of_isNameChar hc) (by decide),
    afterWord?_append (by decide) (forall_isNameChar (by decide)) hspace, if_pos (by decide),
    dropBlanks_name (by decide)]
  simp only [Option.bind_eq_bind, Option.bind_some]
  rw [afterWord?_append (by decide) (forall_isNameChar (by decide)) hspace, if_pos (by decide),
    hname]
  simp only [Option.bind_some, htake, hdrop, hnonempty, Bool.false_eq_true, if_false, hopen]
  cases afterSign? '\x7d' rest <;> rfl

theorem afterEmptyNamespace?_blockHeading {s : String} (h : NameRule.identifiers.scope s = true)
    (more : List Char) :
    afterEmptyNamespace? (("declare namespace " ++ s ++ " \x7b").toList ++ '\n' :: more) =
      (afterSign? '\x7d' ('\n' :: more)).map (List.dropWhile isSpaceOrTab) := by
  have hafter := afterEmptyNamespace?_heading h ('\n' :: more)
  rw [toList_blockHeading]
  simpa only [List.append_assoc, List.cons_append, List.nil_append] using hafter

/-- The lines of a block that declares something, and none of one that does not. -/
def segment (indent : String) (b : Block) : List String :=
  if b.declarations.isEmpty then [] else b.lines indent

theorem exists_written_lines (margin indent : String) (d : Declaration) :
    ∃ more, written (d.lines margin indent) = margin.toList ++ 'e' :: more := by
  cases d with
  | interface name parameters properties =>
    rw [Declaration.lines, written_cons]
    simp only [String.toList_append, List.append_assoc]
    exact ⟨_, rfl⟩
  | enum name members =>
    rw [Declaration.lines, written_cons]
    simp only [String.toList_append, List.append_assoc]
    exact ⟨_, rfl⟩
  | union name members =>
    rw [Declaration.lines, written_cons]
    simp only [String.toList_append, List.append_assoc]
    exact ⟨_, rfl⟩

section Blocks

variable {indent : String} (hindent : ∀ c ∈ indent.toList, isSpaceOrTab c = true)

include hindent

/-- What follows the heading of a block that declares something is a declaration, and no closing
brace. -/
theorem afterSign?_declarations (d : Declaration) (ds : List Declaration) (rest : List Char) :
    afterSign? '\x7d' ('\n' ::
      (written ((d :: ds).flatMap (Declaration.lines indent indent)) ++ rest)) = none := by
  obtain ⟨more, hmore⟩ := exists_written_lines indent indent d
  have hskip : ∀ tail, ('\n' :: (indent.toList ++ 'e' :: tail)).dropWhile isBlank =
      'e' :: tail := by
    intro tail
    rw [List.dropWhile_cons, if_pos (by decide),
      List.dropWhile_append_of_pos fun c hc => isBlank_of_isSpaceOrTab (hindent c hc),
      List.dropWhile_cons, if_neg (by decide)]
  rw [List.flatMap_cons, written_append, hmore]
  simp only [List.append_assoc, List.cons_append, afterSign?, hskip]
  rfl

/-- A block without declarations goes, and any other stays as it is. -/
theorem dropEmptyNamespaces_blockLines {b : Block}
    (h : b.Obeys .identifiers fun t => IsTame t.toList) (rest : List Char) :
    dropEmptyNamespaces true (written (b.lines indent) ++ rest) =
      written (segment indent b) ++ dropEmptyNamespaces true rest := by
  obtain ⟨s, hs, hscope⟩ := NameRule.admitsScope_iff.mp h.1
  obtain ⟨heading, hheading⟩ : ∃ heading,
    heading = ("declare namespace " ++ b.name.text ++ " \x7b").toList := ⟨_, rfl⟩
  have hstart : ∀ more, afterEmptyNamespace? (heading ++ '\n' :: more) =
      (afterSign? '\x7d' ('\n' :: more)).map (List.dropWhile isSpaceOrTab) := by
    intro more
    rw [hheading, hs, Json.text_str]
    exact afterEmptyNamespace?_blockHeading hscope more
  have hlines : ∀ after, written (b.lines indent) ++ after = heading ++ '\n' ::
      (written (b.declarations.flatMap (Declaration.lines indent indent)) ++
        '\x7d' :: '\n' :: after) := by
    intro after
    rw [Block.lines, written_cons, hheading]
    simp
  cases hds : b.declarations with
  | nil =>
    have hempty : segment indent b = [] := by
      rw [segment, hds]
      rfl
    -- the closing brace stands on the line after the heading, and both go
    have hafter : afterEmptyNamespace? (heading ++ '\n' :: '\x7d' :: '\n' :: rest) =
        some ('\n' :: rest) := by
      rw [hstart]
      rfl
    rw [hlines, hds, hempty]
    show dropEmptyNamespaces true (heading ++ '\n' :: '\x7d' :: '\n' :: rest) = _
    rw [dropEmptyNamespaces_of_some hafter]
    rfl
  | cons d ds =>
    have hsegment : segment indent b = b.lines indent := by
      rw [segment, hds]
      rfl
    have hnone : afterEmptyNamespace? (heading ++ '\n' ::
        (written (b.declarations.flatMap (Declaration.lines indent indent)) ++
          '\x7d' :: '\n' :: rest)) = none := by
      rw [hstart, hds, afterSign?_declarations hindent]
      rfl
    have hbreak : '\n' ∉ heading := by
      rw [hheading]
      exact break_notMem_blockLines (.inl rfl) hindent h _ (by simp [Block.lines])
    -- no line inside the block begins an empty namespace
    have hinert : ∀ line ∈ b.declarations.flatMap (Declaration.lines indent indent),
        IsInert line.toList := by
      intro line hline
      obtain ⟨e, he, hline⟩ := List.mem_flatMap.mp hline
      exact isInert_lines hindent hindent (h.2 e he) line hline
    have hlast : dropEmptyNamespaces true ('\x7d' :: '\n' :: rest) =
        '\x7d' :: '\n' :: dropEmptyNamespaces true rest :=
      @dropEmptyNamespaces_line ['\x7d'] rest (by decide)
        (afterEmptyNamespace?_of_isCalm (by decide) rest)
    rw [hsegment, hlines, hlines, dropEmptyNamespaces_line hbreak hnone,
      dropEmptyNamespaces_written hinert, hlast]

/-- Of the text of some blocks those without declarations go. -/
theorem dropEmptyNamespaces_pageLines {blocks : List Block}
    (h : ∀ b ∈ blocks, b.Obeys .identifiers fun t => IsTame t.toList) :
    dropEmptyNamespaces true (written (pageLines indent blocks)) =
      written (paragraphs (blocks.map (segment indent))) := by
  induction blocks with
  | nil => simp [pageLines, dropEmptyNamespaces]
  | cons b rest ih =>
    by_cases hrest : rest = []
    · subst hrest
      have hb := dropEmptyNamespaces_blockLines hindent (h b (by simp)) []
      simpa [dropEmptyNamespaces] using hb
    · have hmore := ih fun c hc => h c (by simp [hc])
      have hblank := @dropEmptyNamespaces_line [] (written (pageLines indent rest)) (by simp)
        (afterEmptyNamespace?_of_isCalm (by rfl) _)
      rw [List.nil_append] at hblank
      -- the empty line after the block stays, whether or not the block does
      rw [pageLines_cons indent b hrest, List.map_cons, paragraphs_cons _ (by simpa using hrest),
        written_append, written_append, dropEmptyNamespaces_blockLines hindent (h b (by simp)),
        written_cons, written_cons]
      show _ ++ dropEmptyNamespaces true ('\n' :: _) = _ ++ '\n' :: _
      rw [hblank, hmore, List.nil_append]

end Blocks

end Ambient.Sweep
