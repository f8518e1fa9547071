/-
  Ambient.Proofs.Declaration.Layout

  Declarations and blocks line by line. The text of a block is its lines in a row: the heading of
  the namespace, the lines of its declarations one indent in with their members two indents in, and
  the closing brace (`Block.text_eq_lines`). It takes names, member types and an indent that hold no
  line break, for the margin goes before every line of a text.
-/
import Ambient.Declaration.Basic
import Ambient.Proofs.Names
import Ambient.Proofs.Text.Lines

namespace Ambient

namespace Declaration

/-! ## Lines -/

/-- Lines with a comma after all but the last. -/
def withCommas : List String → List String
  | [] => []
  | [line] => [line]
  | line :: rest => (line ++ ",") :: withCommas rest

/-- The line of a property. -/
def propertyRow (indent : String) (property : Json × String) : String :=
  indent ++ property.1.text ++ ": " ++ property.2 ++ ";"

/-- The line of a member of an enum, without comma. -/
def memberRow (indent : String) (m : Json × Json) : String :=
  indent ++ m.1.text ++ " = " ++ m.2.text

/-- The alternatives of a union in quotes, and what is written where there are none. -/
def quotedAlternatives (members : List EnumMember) : String :=
  if members.isEmpty then "never"
  else String.joinWith " | " (members.map fun m => "\"" ++ m.name.text ++ "\"")

/-- The lines of a declaration, where `margin` stands before each of them and `indent` goes after it
before the members. -/
def lines (margin indent : String) : Declaration → List String
  | .interface name parameters properties =>
    (margin ++ "export interface " ++ name ++ parameterList (parameters.map Json.text) ++
        " \x7b") ::
      (properties.map (propertyRow (margin ++ indent)) ++ [margin ++ "\x7d"])
  | .enum name members =>
    (margin ++ "export enum " ++ name ++ " \x7b") ::
      (withCommas (members.map (memberRow (margin ++ indent))) ++ [margin ++ "\x7d"])
  | .union name members =>
    [margin ++ "export type " ++ name ++ " = " ++ quotedAlternatives members ++ ";"]

theorem withCommas_cons {line : String} {rest : List String} (h : rest ≠ []) :
    withCommas (line :: rest) = (line ++ ",") :: withCommas rest := by
  cases rest with
  | nil => exact absurd rfl h
  | cons => rfl

/-- Each of the lines is one of those given, perhaps with a comma. -/
theorem mem_withCommas {line : String} {rows : List String} (h : line ∈ withCommas rows) :
    ∃ row ∈ rows, ∃ comma, (comma = "" ∨ comma = ",") ∧ line = row ++ comma := by
  induction rows with
  | nil => simp [withCommas] at h
  | cons row rest ih =>
    by_cases hrest : rest = []
    · subst hrest
      exact ⟨row, by simp, "", .inl rfl, by simpa [withCommas] using h⟩
    · rw [withCommas_cons hrest] at h
      rcases List.mem_cons.mp h with he | hmem
      · exact ⟨row, by simp, ",", .inr rfl, he⟩
      · -- it is one of the later lines
        obtain ⟨r, hr, comma, hcomma, hline⟩ := ih hmem
        exact ⟨r, by simp [hr], comma, hcomma, hline⟩

theorem withCommas_map_margin (margin : String) (rows : List String) :
    (withCommas rows).map (margin ++ ·) = withCommas (rows.map (margin ++ ·)) := by
  induction rows with
  | nil => rfl
  | cons row rest ih =>
    by_cases hrest : rest = []
    · subst hrest
      rfl
    · rw [withCommas_cons hrest, List.map_cons, ih, List.map_cons,
        withCommas_cons (by simpa using hrest), String.append_assoc]

theorem map_memberRow_margin (margin indent : String) (members : List (Json × Json)) :
    (members.map (memberRow indent)).map (margin ++ ·) =
      members.map (memberRow (margin ++ indent)) := by
  simp [memberRow, String.append_assoc]

/-- A margin before all lines is a margin of the declaration. -/
theorem lines_map_margin (margin indent : String) (d : Declaration) :
    (d.lines "" indent).map (margin ++ ·) = d.lines margin indent := by
  cases d with
  | interface name parameters properties =>
    simp [lines, propertyRow, String.append_assoc, Function.comp_def]
  | enum name members =>
    simp only [lines, List.map_cons, List.map_append, List.map_nil, withCommas_map_margin,
      map_memberRow_margin, String.empty_append, String.append_assoc]
  | union name members => simp [lines, String.append_assoc]

/-- The forms of the lines of a declaration. -/
inductive IsLine (margin indent : String) : Declaration → String → Prop where
  | interface {name : String} {parameters : List Json} {properties : List (Json × String)} :
    IsLine margin indent (.interface name parameters properties)
      (margin ++ "export interface " ++ name ++ parameterList (parameters.map Json.text) ++ " \x7b")
  | property {name : String} {parameters : List Json} {properties : List (Json × String)}
      {q : Json × String} (hq : q ∈ properties) :
    IsLine margin indent (.interface name parameters properties) (propertyRow (margin ++ indent) q)
  | enum {name : String} {members : List (Json × Json)} :
    IsLine margin indent (.enum name members) (margin ++ "export enum " ++ name ++ " \x7b")
  | member {name : String} {members : List (Json × Json)} {m : Json × Json} {comma : String}
      (hm : m ∈ members) (hcomma : comma = "" ∨ comma = ",") :
    IsLine margin indent (.enum name members) (memberRow (margin ++ indent) m ++ comma)
  | union {name : String} {members : List EnumMember} :
    IsLine margin indent (.union name members)
      (margin ++ "export type " ++ name ++ " = " ++ quotedAlternatives members ++ ";")
  | closing {d : Declaration} : IsLine margin indent d (margin ++ "\x7d")

theorem isLine_of_mem {margin indent : String} {d : Declaration} {line : String}
    (h : line ∈ d.lines margin indent) : IsLine margin indent d line := by
  cases d with
  | interface name parameters properties =>
    rcases List.mem_cons.mp h with rfl | hmore
    · exact .interface
    · rcases List.mem_append.mp hmore with hrow | hclose
      · obtain ⟨q, hq, rfl⟩ := List.mem_map.mp hrow
        exact .property hq
      · rw [List.mem_singleton.mp hclose]
        exact .closing
  | enum name members =>
    rcases List.mem_cons.mp h with rfl | hmore
    · exact .enum
    · rcases List.mem_append.mp hmore with hrow | hclose
      · obtain ⟨row, hmem, comma, hcomma, rfl⟩ := mem_withCommas hrow
        obtain ⟨m, hm, rfl⟩ := List.mem_map.mp hmem
        exact .member hm hcomma
      · rw [List.mem_singleton.mp hclose]
        exact .closing
  | union name members =>
    rw [List.mem_singleton.mp h]
    exact .union

/-! ## The text of a declaration -/

theorem memberLines_eq (indent : String) (members : List (Json × Json)) :
    memberLines indent (members.map fun m => (m.1.text, m.2.text)) =
      String.join ((withCommas (members.map (memberRow indent))).map (· ++ "\n")) := by
  induction members with
  | nil => rfl
  | cons m rest ih =>
    cases rest with
    | nil => simp [memberLines, withCommas, memberRow, String.append_assoc]
    | cons next more =>
      have hrows : withCommas ((m :: next :: more).map (memberRow indent)) =
          (memberRow indent m ++ ",") :: withCommas ((next :: more).map (memberRow indent)) := rfl
      rw [hrows, List.map_cons (l := withCommas _), String.join_cons, ← ih]
      simp [memberLines, memberRow, String.append_assoc]

/-- The text of a declaration is its lines in a row. -/
theorem text_eq_lines (indent : String) (d : Declaration) :
    d.text indent = String.joinWith "\n" (d.lines "" indent) := by
  cases d with
  | interface name parameters properties =>
    -- the break is part of the heading's literal on one side only, so the characters are compared
    rw [lines, String.joinWith_cons_append_singleton]
    unfold text interfaceText
    apply String.toList_inj.mp
    simp only [String.toList_append, String.toList_join, List.map_map, List.flatMap_map]
    simp [propertyLine, propertyRow]
  | enum name members =>
    rw [lines, String.joinWith_cons_append_singleton, String.empty_append, String.empty_append,
      ← memberLines_eq]
    unfold text enumText
    apply String.toList_inj.mp
    simp only [String.toList_append]
    simp
  | union name members =>
    have hliteral : (members.map fun m => m.name.text).map literal =
        members.map fun m => "\"" ++ m.name.text ++ "\"" := by
      simp [literal]
    simp only [text, unionText, alternatives, hliteral, lines, quotedAlternatives, String.joinWith,
      List.isEmpty_map, String.empty_append]

/-! ## Obedience -/

/-- Whether a value is one that a style gives to a member of an enum: an integer, or a name in
quotes. -/
def IsMemberValue (rule : NameRule) (value : Json) : Prop :=
  (∃ n, value = .int n) ∨ ∃ s, rule.name s = true ∧ value = .str (literal s)

/-- Whether the names in a declaration obey a rule and the texts of its member types have a
property. -/
def Obeys (rule : NameRule) (p : String → Prop) : Declaration → Prop
  | .interface name parameters properties =>
    rule.name name = true ∧ (∀ x ∈ parameters, rule.admits x = true) ∧
      ∀ q ∈ properties, rule.admits q.1 = true ∧ p q.2
  | .enum name members =>
    rule.name name = true ∧ ∀ m ∈ members, rule.admits m.1 = true ∧ IsMemberValue rule m.2
  | .union name members => rule.name name = true ∧ ∀ m ∈ members, rule.admits m.name = true

variable {rule : NameRule} {p : String → Prop}

/-! ## Characters of lines -/

/-- A line break of either kind. -/
def IsBreak (c : Char) : Prop :=
  c = '\n' ∨ c = '\r'

theorem text_int_chars (n : Int) :
    ∀ c ∈ (Json.int n).text.toList, c.isDigit = true ∨ c = '-' := by
  have hnat : ∀ m : Nat, ∀ c ∈ m.repr.toList, c.isDigit = true := by
    intro m c hc
    rw [Nat.toList_repr] at hc
    exact Nat.isDigit_of_mem_toDigits (by decide) (by decide) hc
  intro c hc
  have htext : (Json.int n).text = n.repr := rfl
  -- a sign and the digits of the absolute value, or the digits alone
  rw [htext, Int.repr_eq_if] at hc
  split at hc
  · exact .inl (hnat _ c hc)
  · rw [String.toList_append] at hc
    rcases List.mem_append.mp hc with hsign | hdigit
    · exact .inr (by simpa using hsign)
    · exact .inl (hnat _ c hdigit)

section Breaks

variable {c : Char} (hname : ∀ s, rule.name s = true → c ∉ s.toList) (hc : IsBreak c)
  (htype : ∀ t, p t → c ∉ t.toList)

include hname

theorem notMem_text {value : Json} (h : rule.admits value = true) : c ∉ value.text.toList := by
  obtain ⟨s, rfl, hs⟩ := NameRule.admits_iff.mp h
  exact hname s hs

include hc

theorem break_notMem_value {value : Json} (h : IsMemberValue rule value) :
    c ∉ value.text.toList := by
  rcases h with ⟨n, rfl⟩ | ⟨s, hs, rfl⟩
  · intro hmem
    rcases text_int_chars n c hmem with hdigit | hsign
    · rcases hc with rfl | rfl <;> exact absurd hdigit (by decide)
    · rcases hc with rfl | rfl <;> exact absurd hsign (by decide)
  · have := hname s hs
    rcases hc with rfl | rfl <;> simpa [literal] using this

theorem break_notMem_parameterList {parameters : List Json}
    (h : ∀ x ∈ parameters, rule.admits x = true) :
    c ∉ (parameterList (parameters.map Json.text)).toList := by
  unfold parameterList
  split
  · simp
  · have hjoin : c ∉ (String.joinWith ", " (parameters.map Json.text)).toList := by
      refine String.notMem_joinWith (by rcases hc with rfl | rfl <;> decide) ?_
      intro t ht
      obtain ⟨x, hx, rfl⟩ := List.mem_map.mp ht
      exact notMem_text hname (h x hx)
    rcases hc with rfl | rfl <;> simpa using hjoin

theorem break_notMem_quotedAlternatives {members : List EnumMember}
    (h : ∀ m ∈ members, rule.admits m.name = true) :
    c ∉ (quotedAlternatives members).toList := by
  unfold quotedAlternatives
  split
  · rcases hc with rfl | rfl <;> decide
  · refine String.notMem_joinWith (by rcases hc with rfl | rfl <;> decide) ?_
    intro t ht
    obtain ⟨m, hm, rfl⟩ := List.mem_map.mp ht
    have := notMem_text hname (h m hm)
    rcases hc with rfl | rfl <;> simpa using this

include htype

/-- No line of an obedient declaration holds a break. -/
theorem break_notMem_lines {margin indent : String} (hmargin : c ∉ margin.toList)
    (hindent : c ∉ indent.toList) {d : Declaration} (h : d.Obeys rule p) :
    ∀ line ∈ d.lines margin indent, c ∉ line.toList := by
  intro line hline
  cases isLine_of_mem hline with
  | interface =>
    have hown := hname _ h.1
    have hparams := break_notMem_parameterList hname hc h.2.1
    rcases hc with rfl | rfl <;> simpa [hmargin, hparams] using hown
  | property hq =>
    have hkey := notMem_text hname (h.2.2 _ hq).1
    have hval := htype _ (h.2.2 _ hq).2
    rcases hc with rfl | rfl <;> simp [propertyRow, hmargin, hindent, hkey, hval]
  | enum =>
    have hown := hname _ h.1
    rcases hc with rfl | rfl <;> simpa [hmargin] using hown
  | member hm hcomma =>
    have hkey := notMem_text hname (h.2 _ hm).1
    have hval := break_notMem_value hname hc (h.2 _ hm).2
    rcases hcomma with rfl | rfl <;> rcases hc with rfl | rfl <;>
      simp [memberRow, hmargin, hindent, hkey, hval]
  | union =>
    have hown := hname _ h.1
    have halts := break_notMem_quotedAlternatives hname hc h.2
    rcases hc with rfl | rfl <;> simpa [hmargin, halts] using hown
  | closing => rcases hc with rfl | rfl <;> simpa using hmargin

end Breaks

/-- No line of a declaration is blank. -/
theorem isAllBlank_lines (margin indent : String) (d : Declaration) :
    ∀ line ∈ d.lines margin indent, line.isAllBlank = false := by
  intro line hline
  -- every line of a kind holds the same letter or sign
  cases isLine_of_mem hline with
  | interface => exact String.isAllBlank_eq_false (c := 'x') (by simp) (by decide)
  | property => exact String.isAllBlank_eq_false (c := ':') (by simp [propertyRow]) (by decide)
  | enum => exact String.isAllBlank_eq_false (c := 'x') (by simp) (by decide)
  | member => exact String.isAllBlank_eq_false (c := '=') (by simp [memberRow]) (by decide)
  | union => exact String.isAllBlank_eq_false (c := 'x') (by simp) (by decide)
  | closing => exact String.isAllBlank_eq_false (c := '\x7d') (by simp) (by decide)

theorem lines_ne_nil (margin indent : String) (d : Declaration) : d.lines margin indent ≠ [] := by
  cases d <;> simp [lines]

/-- With a margin, the lines of a declaration are those that stand one indent in. -/
theorem indentedBy_text {d : Declaration} {margin indent : String}
    (h : ∀ line ∈ d.lines "" indent, '\n' ∉ line.toList) :
    (d.text indent).indentedBy margin = String.joinWith "\n" (d.lines margin indent) := by
  rw [text_eq_lines, String.indentedBy_joinWith (lines_ne_nil _ _ _) h (isAllBlank_lines _ _ _),
    lines_map_margin]

end Declaration

/-! ## Blocks -/

namespace Block

/-- The lines of a block: its heading, the lines of its declarations and the closing brace. -/
def lines (indent : String) (b : Block) : List String :=
  ("declare namespace " ++ b.name.text ++ " \x7b") ::
    (b.declarations.flatMap (Declaration.lines indent indent) ++ ["\x7d"])

/-- The block without the declarations whose names fail a test. -/
def keep (test : String → Bool) (b : Block) : Block :=
  { b with declarations := b.declarations.filter fun d => test d.name }

/-- Whether the names in a block obey a rule and the texts of its member types have a property. -/
def Obeys (rule : NameRule) (p : String → Prop) (b : Block) : Prop :=
  rule.admitsScope b.name = true ∧ ∀ d ∈ b.declarations, d.Obeys rule p

/-- A block obeys a rule with some of its declarations if it does with all. -/
theorem Obeys.keep {rule : NameRule} {p : String → Prop} {b : Block} (h : b.Obeys rule p)
    (test : String → Bool) : (b.keep test).Obeys rule p :=
  ⟨h.1, fun d hd => h.2 d (List.mem_filter.mp hd).1⟩

theorem join_indented {indent : String} {declarations : List Declaration}
    (h : ∀ d ∈ declarations, ∀ line ∈ d.lines "" indent, '\n' ∉ line.toList) :
    String.join ((declarations.map (Declaration.text indent)).map fun t =>
        t.indentedBy indent ++ "\n") =
      String.join ((declarations.flatMap (Declaration.lines indent indent)).map (· ++ "\n")) := by
  induction declarations with
  | nil => rfl
  | cons d rest ih =>
    have hrest := ih fun e he => h e (by simp [he])
    -- the break after a declaration ends its last line
    rw [List.map_cons, List.map_cons, String.join_cons, hrest,
      Declaration.indentedBy_text (h d (by simp)),
      String.joinWith_append_break (Declaration.lines_ne_nil _ _ _), List.flatMap_cons,
      List.map_append, String.join_append]

/-- The text of a block is its lines in a row. -/
theorem text_eq_lines {indent : String} {b : Block}
    (h : ∀ d ∈ b.declarations, ∀ line ∈ d.lines "" indent, '\n' ∉ line.toList) :
    b.text indent = String.joinWith "\n" (b.lines indent) := by
  rw [lines, String.joinWith_cons_append_singleton, ← join_indented h]
  unfold text wrap
  apply String.toList_inj.mp
  simp only [String.toList_append]
  simp

/-- No line of an obedient block holds a break. -/
theorem break_notMem_lines {rule : NameRule} {p : String → Prop} {c : Char}
    (hc : Declaration.IsBreak c) (hname : ∀ s, rule.name s = true → c ∉ s.toList)
    (hscope : ∀ s, rule.scope s = true → c ∉ s.toList) (htype : ∀ t, p t → c ∉ t.toList)
    {indent : String} (hindent : c ∉ indent.toList) {b : Block} (h : b.Obeys rule p) :
    ∀ line ∈ b.lines indent, c ∉ line.toList := by
  intro line hline
  rcases List.mem_cons.mp hline with rfl | hline
  · obtain ⟨s, hs, hrule⟩ := NameRule.admitsScope_iff.mp h.1
    have := hscope s hrule
    rcases hc with rfl | rfl <;> simp [hs, this]
  · rcases List.mem_append.mp hline with hinner | hclose
    · obtain ⟨d, hd, hline⟩ := List.mem_flatMap.mp hinner
      exact Declaration.break_notMem_lines hname hc htype hindent hindent (h.2 d hd) line hline
    · rw [List.mem_singleton.mp hclose]
      rcases hc with rfl | rfl <;> decide

end Block

/-- The lines of some blocks, with an empty line between each two blocks. -/
def pageLines (indent : String) (blocks : List Block) : List String :=
  Text.paragraphs (blocks.map (Block.lines indent))

theorem pageLines_cons (indent : String) (b : Block) {rest : List Block} (h : rest ≠ []) :
    pageLines indent (b :: rest) = b.lines indent ++ "" :: pageLines indent rest := by
  rw [pageLines, List.map_cons, Text.paragraphs_cons _ (by simpa using h), pageLines]

@[simp] theorem pageLines_singleton (indent : String) (b : Block) :
    pageLines indent [b] = b.lines indent := by
  simp [pageLines]

/-- A line of a page is one of a block or stands between two blocks. -/
theorem mem_pageLines {indent line : String} {blocks : List Block}
    (h : line ∈ pageLines indent blocks) : line = "" ∨ ∃ b ∈ blocks, line ∈ b.lines indent := by
  rcases Text.mem_paragraphs h with hblank | ⟨segment, hsegment, hline⟩
  · exact .inl hblank
  · obtain ⟨b, hb, rfl⟩ := List.mem_map.mp hsegment
    exact .inr ⟨b, hb, hline⟩

/-- No line of the page of obedient blocks holds a break. -/
theorem break_notMem_pageLines {rule : NameRule} {p : String → Prop} {c : Char}
    (hc : Declaration.IsBreak c) (hname : ∀ s, rule.name s = true → c ∉ s.toList)
    (hscope : ∀ s, rule.scope s = true → c ∉ s.toList) (htype : ∀ t, p t → c ∉ t.toList)
    {indent : String} (hindent : c ∉ indent.toList) {blocks : List Block}
    (h : ∀ b ∈ blocks, b.Obeys rule p) : ∀ line ∈ pageLines indent blocks, c ∉ line.toList := by
  intro line hline
  rcases mem_pageLines hline with rfl | ⟨b, hb, hline⟩
  · simp
  · exact Block.break_notMem_lines hc hname hscope htype hindent (h b hb) line hline

/-- The text of some blocks is the lines of their page, each with a break after it. -/
theorem joinBlocks_eq_pageLines {indent : String} {blocks : List Block}
    (h : ∀ b ∈ blocks, ∀ d ∈ b.declarations, ∀ line ∈ d.lines "" indent, '\n' ∉ line.toList) :
    joinBlocks (blocks.map (Block.text indent)) =
      String.join ((pageLines indent blocks).map (· ++ "\n")) := by
  induction blocks with
  | nil => rfl
  | cons b rest ih =>
    have hne : b.lines indent ≠ [] := by simp [Block.lines]
    have hfirst : b.text indent ++ "\n" = String.join ((b.lines indent).map (· ++ "\n")) := by
      rw [Block.text_eq_lines (h b (by simp)), String.joinWith_append_break hne]
    by_cases hrest : rest = []
    · subst hrest
      simpa [joinBlocks, String.joinWith] using hfirst
    · have hmore := ih fun c hc => h c (by simp [hc])
      have hempty : rest.isEmpty = false := by simpa using hrest
      simp only [joinBlocks, List.isEmpty_map, hempty, Bool.false_eq_true, if_false] at hmore
      -- of the two breaks between blocks the first ends a line and the second is an empty one
      have hbreaks : ∀ t : String, "\n\n" ++ t = "\n" ++ ("\n" ++ t) := by
        intro t
        rw [← String.append_assoc]
        rfl
      calc joinBlocks ((b :: rest).map (Block.text indent))
          = (b.text indent ++ "\n") ++
              ("\n" ++ (String.joinWith "\n\n" (rest.map (Block.text indent)) ++ "\n")) := by
            rw [joinBlocks, List.map_cons, String.joinWith_cons (by simpa using hrest)]
            simp only [List.isEmpty_cons, Bool.false_eq_true, if_false, String.append_assoc,
              hbreaks]
        _ = String.join ((b.lines indent).map (· ++ "\n")) ++
              ("\n" ++ String.join ((pageLines indent rest).map (· ++ "\n"))) := by
            rw [hfirst, hmore]
        _ = String.join ((pageLines indent (b :: rest)).map (· ++ "\n")) := by
            rw [pageLines_cons indent b hrest]
            simp

theorem toList_joinBlocks {indent : String} {blocks : List Block}
    (h : ∀ b ∈ blocks, ∀ d ∈ b.declarations, ∀ line ∈ d.lines "" indent, '\n' ∉ line.toList) :
    (joinBlocks (blocks.map (Block.text indent))).toList =
      Text.written (pageLines indent blocks) := by
  rw [joinBlocks_eq_pageLines h]
  simp [Text.written, Text.unlines, List.flatMap_map]

end Ambient
