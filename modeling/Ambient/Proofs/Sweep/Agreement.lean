/-
  Ambient.Proofs.Sweep.Agreement

  Two ways to hide declarations agree. What generation passes over because of its name, the sweep
  takes out of the finished text, and nothing else. The final form of the text of some blocks is
  told by the blocks that are left (`Sweep.finish_pageLines`), and these are the blocks of a
  stricter plan.
-/
import Ambient.Proofs.Declaration.Emission
import Ambient.Proofs.Sweep.Blanks
import Ambient.Proofs.Sweep.EmptyNamespace
import Ambient.Proofs.Visibility

namespace Ambient

namespace Sweep

open Text

/-! ## Solid lines -/

/-- The value of a member is written without blanks. -/
theorem endsInBlack_value {value : Json} (h : Declaration.IsMemberValue .identifiers value) :
    EndsInBlack value.text.toList := by
  rcases h with ⟨n, rfl⟩ | ⟨s, -, rfl⟩
  · have hne : (Json.int n).text.toList ≠ [] := by
      have htext : (Json.int n).text = n.repr := rfl
      rw [htext, Int.repr_eq_if]
      split
      · simp
      · simp
    refine .of_forall hne fun c hc => ?_
    rcases Declaration.text_int_chars n c hc with hdigit | rfl
    · refine isBlank_of_isNameChar ?_
      rw [isNameChar, isAsciiDigit_of_isDigit hdigit, Bool.or_true]
    · decide
  · have hquote : EndsInBlack "\"".toList := ⟨[], '"', rfl, by decide⟩
    exact hquote.append_string

theorem endsInBlack_opening : EndsInBlack " \x7b".toList :=
  ⟨[' '], '\x7b', rfl, by decide⟩

theorem endsInBlack_closing : EndsInBlack "\x7d".toList :=
  ⟨[], '\x7d', rfl, by decide⟩

section Solid

variable {indent : String} (hindent : ∀ c ∈ indent.toList, isSpaceOrTab c = true)

include hindent

/-- The lines of a declaration are solid, however far it is indented. -/
theorem isSolid_lines {margin : String} (hmargin : ∀ c ∈ margin.toList, isSpaceOrTab c = true)
    {d : Declaration} (hd : d.Obeys .identifiers fun t => IsTame t.toList) :
    ∀ line ∈ d.lines margin indent, IsSolid line := by
  have hsemicolon : EndsInBlack ";".toList := ⟨[], ';', rfl, by decide⟩
  have hcommaEnd : EndsInBlack ",".toList := ⟨[], ',', rfl, by decide⟩
  intro line hline
  refine ⟨break_notMem_declarationLines (.inl rfl) hmargin hindent hd line hline, ?_⟩
  cases Declaration.isLine_of_mem hline with
  | interface => exact endsInBlack_opening.append_string
  | property => exact hsemicolon.append_string
  | enum => exact endsInBlack_opening.append_string
  | member hm hcomma =>
    rcases hcomma with rfl | rfl
    · rw [String.append_empty]
      exact (endsInBlack_value (hd.2 _ hm).2).append_string
    · exact hcommaEnd.append_string
  | union => exact hsemicolon.append_string
  | closing => exact endsInBlack_closing.append_string

theorem isSolid_blockLines {b : Block} (hb : b.Obeys .identifiers fun t => IsTame t.toList) :
    ∀ line ∈ b.lines indent, IsSolid line := by
  intro line hline
  have honeLine := break_notMem_blockLines (.inl rfl) hindent hb line hline
  rcases List.mem_cons.mp hline with rfl | hmore
  · exact ⟨honeLine, endsInBlack_opening.append_string⟩
  · rcases List.mem_append.mp hmore with hinner | hlast
    · obtain ⟨d, hd, hmem⟩ := List.mem_flatMap.mp hinner
      exact isSolid_lines hindent hindent (hb.2 d hd) line hmem
    · rw [List.mem_singleton.mp hlast] at honeLine ⊢
      exact ⟨honeLine, endsInBlack_closing⟩

end Solid

/-! ## Pages -/

theorem exists_written_pageLines_cons (indent : String) {blocks : List Block} (h : blocks ≠ []) :
    ∃ rest, written (pageLines indent blocks) = 'd' :: rest := by
  obtain ⟨b, more, rfl⟩ := List.exists_cons_of_ne_nil h
  by_cases hmore : more = []
  · subst hmore
    rw [pageLines_singleton, Block.lines, written_cons, String.toList_append, String.toList_append]
    exact ⟨_, rfl⟩
  · rw [pageLines_cons indent b hmore, Block.lines, List.cons_append, written_cons,
      String.toList_append, String.toList_append]
    exact ⟨_, rfl⟩

/-- The last line of some blocks is a closing brace. -/
theorem exists_written_pageLines_append (indent : String) {blocks : List Block} (h : blocks ≠ []) :
    ∃ t, written (pageLines indent blocks) = t ++ ['\n'] ∧ EndsInBlack t := by
  induction blocks with
  | nil => exact absurd rfl h
  | cons b rest ih =>
    by_cases hrest : rest = []
    · subst hrest
      refine ⟨written (("declare namespace " ++ b.name.text ++ " \x7b") ::
        b.declarations.flatMap (Declaration.lines indent indent)) ++ ['\x7d'], ?_, ?_⟩
      · simp [Block.lines]
      · exact ⟨_, _, rfl, by decide⟩
    · obtain ⟨t, ht, hends⟩ := ih hrest
      refine ⟨written (b.lines indent) ++ '\n' :: t, ?_, ?_⟩
      · rw [pageLines_cons indent b hrest, written_append, written_cons, ht]
        simp
      · exact (hends.append ['\n']).append (written (b.lines indent))

/-- The lines of blocks hold no carriage return. -/
theorem return_notMem_pageLines {indent : String}
    (hindent : ∀ c ∈ indent.toList, isSpaceOrTab c = true) {blocks : List Block}
    (hobeys : ∀ b ∈ blocks, b.Obeys .identifiers fun t => IsTame t.toList) :
    '\r' ∉ written (pageLines indent blocks) := by
  refine notMem_written (by decide) fun line hline => ?_
  rcases mem_pageLines hline with rfl | ⟨b, hb, hmem⟩
  · simp
  · exact break_notMem_blockLines (.inr rfl) hindent (hobeys b hb) line hmem

/-- Blocks of which some declarations are kept obey what the whole blocks do. -/
theorem obeys_kept {blocks : List Block}
    (hobeys : ∀ b ∈ blocks, b.Obeys .identifiers fun t => IsTame t.toList) (test : String → Bool) :
    ∀ b ∈ (blocks.map (Block.keep test)).filter (!·.declarations.isEmpty),
      b.Obeys .identifiers fun t => IsTame t.toList := by
  intro b hb
  obtain ⟨full, hmem, rfl⟩ := List.mem_map.mp (List.mem_filter.mp hb).1
  exact (hobeys full hmem).keep test

/-- Of some blocks those with declarations have lines. -/
theorem filter_segment (indent : String) (blocks : List Block) :
    (blocks.map (segment indent)).filter (!·.isEmpty) =
      (blocks.filter (!·.declarations.isEmpty)).map (Block.lines indent) := by
  induction blocks with
  | nil => rfl
  | cons b rest ih =>
    rw [List.map_cons, List.filter_cons, List.filter_cons, ih]
    cases hb : b.declarations.isEmpty <;> simp [segment, hb, Block.lines]

section Finish

variable {marker : List Char} {indent : String}
  (hindent : ∀ c ∈ indent.toList, isSpaceOrTab c = true)
  {blocks : List Block} (hobeys : ∀ b ∈ blocks, b.Obeys .identifiers fun t => IsTame t.toList)
  (hfull : ∀ b ∈ blocks, b.declarations.isEmpty = false)

include hindent hobeys hfull

/-- Under a marker only the lines of blocks are left that still declare something. -/
theorem removeMarked_pageLines :
    removeMarked marker (written (pageLines indent blocks)) =
      written (paragraphs ((blocks.map
        (Block.keep fun n => !Visibility.isHidden marker n.toList)).map (segment indent))) := by
  unfold removeMarked
  cases marker with
  | nil =>
    -- nothing is hidden, and no block is empty
    have hsame : (blocks.map (Block.keep fun n => !Visibility.isHidden [] n.toList)).map
        (segment indent) = blocks.map (Block.lines indent) := by
      rw [List.map_map]
      refine List.map_congr_left fun b hb => ?_
      have hkeep : b.keep (fun n => !Visibility.isHidden [] n.toList) = b := by
        obtain ⟨name, declarations⟩ := b
        simp [Block.keep, Visibility.isHidden]
      rw [Function.comp_apply, hkeep, segment, hfull b hb]
      rfl
    rw [hsame]
    rfl
  | cons c rest =>
    have hkept : ∀ b ∈ blocks.map (Block.keep fun n => !Visibility.isHidden (c :: rest) n.toList),
        b.Obeys .identifiers fun t => IsTame t.toList := by
      intro b hb
      obtain ⟨full, hmem, rfl⟩ := List.mem_map.mp hb
      exact (hobeys full hmem).keep _
    -- a marker that is not empty hides the names that hold it
    have hhidden : (fun n : String => !Visibility.holds (c :: rest) n.toList) =
        fun n => !Visibility.isHidden (c :: rest) n.toList := rfl
    rw [removeHidden_pageLines hindent hobeys, hhidden,
      dropEmptyNamespaces_pageLines hindent hkept]
    rfl

/-- The final form of the text of some blocks is that of the blocks that still declare something
once the hidden declarations are gone, less the last line break. -/
theorem finish_pageLines :
    finish marker (written (pageLines indent blocks)) =
      (written (pageLines indent ((blocks.map (Block.keep fun n =>
        !Visibility.isHidden marker n.toList)).filter (!·.declarations.isEmpty)))).dropLast := by
  by_cases hblocks : blocks = []
  · subst hblocks
    rfl
  obtain ⟨kept, hkept⟩ : ∃ kept, kept = blocks.map (Block.keep fun n =>
    !Visibility.isHidden marker n.toList) := ⟨_, rfl⟩
  -- the text is not blank and holds no carriage return
  have hstart : allBlank (written (pageLines indent blocks)) = false := by
    obtain ⟨rest, hrest⟩ := exists_written_pageLines_cons indent hblocks
    rw [hrest]
    rfl
  have hreturn := return_notMem_pageLines hindent hobeys
  -- what is swept out goes by whole lines, so the lines left are solid
  have hsolid : ∀ s ∈ kept.map (segment indent), ∀ line ∈ s, IsSolid line := by
    intro s hs line hline
    obtain ⟨b, hb, rfl⟩ := List.mem_map.mp hs
    rw [hkept] at hb
    obtain ⟨full, hmem, rfl⟩ := List.mem_map.mp hb
    unfold segment at hline
    split at hline
    · cases hline
    · exact isSolid_blockLines hindent ((hobeys full hmem).keep _) line hline
  have htrimmed : ∀ line ∈ paragraphs (kept.map (segment indent)), line = "" ∨ IsSolid line := by
    intro line hline
    rcases mem_paragraphs hline with hblank | ⟨s, hs, hmem⟩
    · exact .inl hblank
    · exact .inr (hsolid s hs line hmem)
  obtain ⟨i, j, hbreaks, -⟩ := limitBreaks_paragraphs hsolid (Nat.zero_le 2)
  rw [filter_segment] at hbreaks
  rw [finish, hstart, joinBreaks_of_notMem hreturn, removeMarked_pageLines hindent hobeys hfull,
    ← hkept, trimLines_written htrimmed, hbreaks]
  show trim (_ ++ (written (pageLines indent (kept.filter _)) ++ _)) = _
  -- the breaks at both ends go, and with them the whole text where no block is left
  by_cases hnone : kept.filter (!·.declarations.isEmpty) = []
  · rw [hnone]
    exact trim_breaks_nil i j
  · obtain ⟨t, ht, hends⟩ := exists_written_pageLines_append indent hnone
    obtain ⟨rest, hrest⟩ := exists_written_pageLines_cons indent hnone
    obtain ⟨c, tail, hcons⟩ := List.exists_cons_of_ne_nil hends.ne_nil
    have hfirst : c = 'd' := by
      rw [ht, hcons] at hrest
      exact (List.cons.inj hrest).1
    rw [ht, List.dropLast_concat]
    exact trim_breaks hcons (by rw [hfirst]; decide) hends i j

end Finish

/-! ## Texts of blocks -/

theorem finishWith_str (marker code : String) :
    finishWith (.str marker) code = .ok (String.ofList (finish marker.toList code.toList)) := by
  unfold finishWith
  split
  · rename_i hblank
    have hall : allBlank code.toList = true := hblank
    -- a blank text has the empty one for its final form either way
    rw [finish, if_pos hall]
  · rw [Visibility.markerOf_str]
    rfl

section Texts

variable {indent : String} (hindent : ∀ c ∈ indent.toList, isSpaceOrTab c = true)
  {blocks : List Block} (hobeys : ∀ b ∈ blocks, b.Obeys .identifiers fun t => IsTame t.toList)

include hindent hobeys

theorem toList_joinBlocks_of_isTame :
    (joinBlocks (blocks.map (Block.text indent))).toList = written (pageLines indent blocks) := by
  refine toList_joinBlocks fun b hb d hd => ?_
  exact break_notMem_declarationLines (.inl rfl) (by simp) hindent ((hobeys b hb).2 d hd)

/-- Tidying changes nothing in the text of some blocks. -/
theorem tidied_joinBlocks :
    (joinBlocks (blocks.map (Block.text indent))).tidied =
      joinBlocks (blocks.map (Block.text indent)) := by
  have hsegments : ∀ s ∈ blocks.map (Block.lines indent), s ≠ [] ∧ ∀ line ∈ s, IsSolid line := by
    intro s hs
    obtain ⟨b, hb, rfl⟩ := List.mem_map.mp hs
    exact ⟨by simp [Block.lines], isSolid_blockLines hindent (hobeys b hb)⟩
  rw [← String.toList_inj, String.tidied, String.toList_ofList,
    toList_joinBlocks_of_isTame hindent hobeys]
  exact Tidy.tidy_paragraphs hsegments

/-- The text of some blocks is told from what stands before its last line break. -/
theorem joinBlocks_of_dropLast {inner : String}
    (hinner : inner.toList = (written (pageLines indent blocks)).dropLast) :
    joinBlocks (blocks.map (Block.text indent)) =
      if inner = "" then "" else inner ++ "\n" := by
  by_cases hblocks : blocks = []
  · subst hblocks
    have hempty : inner = "" := String.toList_inj.mp hinner
    rw [if_pos hempty]
    rfl
  · obtain ⟨t, ht, hends⟩ := exists_written_pageLines_append indent hblocks
    rw [ht, List.dropLast_concat] at hinner
    have hne : inner ≠ "" := by
      intro he
      rw [he] at hinner
      exact hends.ne_nil hinner.symm
    rw [if_neg hne, ← String.toList_inj, toList_joinBlocks_of_isTame hindent hobeys, ht,
      String.toList_append, hinner]
    rfl

/-- The final form of the text of some blocks is the text of those that are left, less its last line
break. -/
theorem finishWith_joinBlocks (hfull : ∀ b ∈ blocks, b.declarations.isEmpty = false)
    (marker : String) :
    ∃ result, finishWith (.str marker) (joinBlocks (blocks.map (Block.text indent))).tidied =
        .ok result ∧
      joinBlocks (((blocks.map (Block.keep fun n =>
          !Visibility.isHidden marker.toList n.toList)).filter
            (!·.declarations.isEmpty)).map (Block.text indent)) =
        if result = "" then "" else result ++ "\n" := by
  obtain ⟨kept, hkept⟩ : ∃ kept, kept = (blocks.map (Block.keep fun n =>
    !Visibility.isHidden marker.toList n.toList)).filter (!·.declarations.isEmpty) := ⟨_, rfl⟩
  have hobeysKept : ∀ b ∈ kept, b.Obeys .identifiers fun t => IsTame t.toList := by
    rw [hkept]
    exact obeys_kept hobeys _
  refine ⟨String.ofList (written (pageLines indent kept)).dropLast, ?_, ?_⟩
  · rw [tidied_joinBlocks hindent hobeys, finishWith_str,
      toList_joinBlocks_of_isTame hindent hobeys, finish_pageLines hindent hobeys hfull, ← hkept]
  · rw [← hkept]
    exact joinBlocks_of_dropLast hindent hobeysKept String.toList_ofList

end Texts

end Sweep

/-! ## Agreement -/

/-- Declarations that a marker hides can be passed over when they are generated, or swept out of the
finished text: both come to the same, but for the line break at the end. -/
theorem Generator.finishWith_tidied_generate {style : EnumStyle} {indent : String}
    (hindent : ∀ c ∈ indent.toList, Text.isSpaceOrTab c = true) {override : Json}
    (hoverride : NameRule.identifiers.admitsOptional override = true) (visible : String → Bool)
    (marker : String) (output : Output) {model : Model} (hmodel : model.obeys .identifiers = true) :
    let emit (isVisible : String → Except Fault Bool) : Except Fault String :=
      Generator.generate { enumStyle := style, indent := .str indent,
                           moduleName := Naming.formatModule override, isVisible } model output
    ∃ result : String,
      (do
        let code ← emit fun name => .ok (visible name)
        Sweep.finishWith (.str marker) code.tidied) = .ok result ∧
      (emit fun name =>
        if visible name then Visibility.isVisible (.str marker) name else .ok false) =
          .ok (if result = "" then "" else result ++ "\n") := by
  intro emit
  obtain ⟨plan, hplan⟩ : ∃ plan, plan = Plan.standard style indent override visible output :=
    ⟨_, rfl⟩
  obtain ⟨shown, hshown⟩ : ∃ shown : String → Bool,
    shown = fun name => !Visibility.isHidden marker.toList name.toList := ⟨_, rfl⟩
  have hobeys : ∀ b ∈ plan.blocks model, b.Obeys .identifiers fun t => Sweep.IsTame t.toList := by
    rw [hplan]
    exact Plan.blocks_obey Sweep.closed_isTame NameRule.identifiers_stable hmodel
      (Plan.standard_scope hoverride hmodel)
  have hfull : ∀ b ∈ plan.blocks model, b.declarations.isEmpty = false := by
    intro b hb
    simpa using (List.mem_filter.mp hb).2
  -- both ways lead over the blocks of a plan, the second over a stricter one
  have hraw : emit (fun name => .ok (visible name)) =
      .ok (joinBlocks ((plan.blocks model).map (Block.text indent))) := by
    rw [hplan]
    exact (Plan.standard_follows (fun _ => rfl) hoverride hmodel).generate hmodel
  have hstrict : emit (fun name =>
        if visible name then Visibility.isVisible (.str marker) name else .ok false) =
      .ok (joinBlocks (((plan.restrict shown).blocks model).map (Block.text indent))) := by
    have hvisible : ∀ name, (if visible name then Visibility.isVisible (.str marker) name
        else .ok false) = Except.ok (visible name && shown name) := by
      intro name
      rw [Visibility.isVisible_str, hshown]
      cases visible name <;> rfl
    rw [hplan]
    exact (Plan.standard_follows hvisible hoverride hmodel).generate hmodel
  obtain ⟨result, hswept, hkept⟩ := Sweep.finishWith_joinBlocks hindent hobeys hfull marker
  refine ⟨result, ?_, ?_⟩
  · rw [hraw]
    simp only [bind, Except.bind]
    exact hswept
  · rw [hstrict, Plan.blocks_restrict, hshown, hkept]

/-- A namespace whose declarations all carry the marker goes, and its neighbours close up. -/
theorem Generator.finishWith_tidied_generate_hidden :
    let color : EnumEntry :=
      { name := "Color", members := [{ name := .str "Red", value := .int 0 }] }
    let order : ClassEntry :=
      { name := "OrderGuid", properties := [{ name := .str "Id", type := .ofPrimitive .string }] }
    let model : Model :=
      { modules := [{ name := .str "Shop.A", enums := [color] },
          { name := .str "Shop.B", classes := [order] },
          { name := .str "Shop.C", classes := [order], enums := [color] }] }
    let g : Generator :=
      { enumStyle := .stringLiteral, indent := .str "\t", isVisible := fun _ => .ok true }
    let text := "declare namespace Shop.A \x7b\n\texport type Color = \"Red\";\n\x7d\n\n" ++
      "declare namespace Shop.C \x7b\n\texport type Color = \"Red\";\n\x7d"
    (do
      let code ← g.generate model {}
      Sweep.finishWith (.str "guid") code.tidied) = .ok text := by
  intro color order model g text
  obtain ⟨result, hswept, hemitted⟩ := @Generator.finishWith_tidied_generate .stringLiteral "\t"
    (List.all_eq_true.mp (by decide)) .null (by decide) (fun _ => true) "guid" {} model (by decide)
  have hkept : Except.ok (if result = "" then "" else result ++ "\n") = Except.ok (text ++ "\n") :=
    hemitted.symm.trans (by decide +kernel)
  have hresult : result = text := by
    have hsame := Except.ok.inj hkept
    split at hsame
    · exact absurd hsame (by decide)
    · rw [← String.toList_inj, String.toList_append, String.toList_append] at hsame
      exact String.toList_inj.mp (List.append_cancel_right hsame)
  rw [← hresult]
  exact hswept

end Ambient
