/-
  Ambient.Proofs.Declaration.Reading

  Reading declarations back. The lines of a declaration tell where it ends and all that it shows, so
  the text of a model tells its namespaces and what each declares (`joinBlocks_inj`). What does not
  show are the values of the members of a union.
-/
import Mathlib.Data.List.Basic
import Std.Data.String.ToInt
import Ambient.Proofs.Declaration.Emission
import Ambient.Proofs.Visibility

namespace Ambient

/-! ## What a declaration shows -/

/-- A declaration without the values that its text does not show. -/
def Declaration.shown : Declaration → Declaration
  | .interface name parameters properties => .interface name parameters properties
  | .enum name members => .enum name members
  | .union name members => .union name (members.map fun m => { m with value := .null })

/-- A block without the values that its text does not show. -/
def Block.shown (b : Block) : Block :=
  { b with declarations := b.declarations.map Declaration.shown }

/-! ## Names and values -/

namespace NameRule

/-- Allowed values are texts. -/
theorem exists_names {rule : NameRule} {values : List Json}
    (h : ∀ x ∈ values, rule.admits x = true) :
    ∃ names : List String, values = names.map Json.str ∧ ∀ s ∈ names, rule.name s = true := by
  induction values with
  | nil => exact ⟨[], rfl, by simp⟩
  | cons x rest ih =>
    obtain ⟨s, rfl, hs⟩ := admits_iff.mp (h x (by simp))
    obtain ⟨names, rfl, hnames⟩ := ih fun y hy => h y (by simp [hy])
    exact ⟨s :: names, rfl, by simpa [hs] using hnames⟩

/-- An allowed value is told from its text. -/
theorem admits_text_inj {rule : NameRule} {x y : Json} (hx : rule.admits x = true)
    (hy : rule.admits y = true) (h : x.text = y.text) : x = y := by
  obtain ⟨s, rfl, -⟩ := admits_iff.mp hx
  obtain ⟨t, rfl, -⟩ := admits_iff.mp hy
  exact congrArg Json.str h

end NameRule

namespace Declaration

variable {p : String → Prop}

/-- The value of a member is told from its text: numbers have no quotes. -/
theorem value_text_inj {rule : NameRule} {x y : Json} (hx : IsMemberValue rule x)
    (hy : IsMemberValue rule y) (h : x.text = y.text) : x = y := by
  -- the text of a number is digits and a sign
  have hquote : ∀ (n : Int) (s : String), (Json.int n).text ≠ (Json.str (literal s)).text := by
    intro n s heq
    have hmem : '"' ∈ (Json.int n).text.toList := by
      rw [heq]
      simp [literal]
    rcases text_int_chars n '"' hmem with hdigit | hsign
    · exact absurd hdigit (by decide)
    · exact absurd hsign (by decide)
  rcases hx with ⟨n, rfl⟩ | ⟨s, -, rfl⟩
  · rcases hy with ⟨k, rfl⟩ | ⟨t, -, rfl⟩
    · have hrepr : n.repr = k.repr := h
      rw [Int.repr_inj.mp hrepr]
    · exact absurd h (hquote n t)
  · rcases hy with ⟨k, rfl⟩ | ⟨t, -, rfl⟩
    · exact absurd h.symm (hquote k s)
    · exact congrArg Json.str h

/-! ## Lines -/

/-- Items that are told from their lines are told from the list of all lines. -/
theorem map_eq_map_of {α β γ : Type} {f : α → β} {g : α → γ} {xs ys : List α}
    (h : ∀ x ∈ xs, ∀ y ∈ ys, f x = f y → g x = g y) (heq : xs.map f = ys.map f) :
    xs.map g = ys.map g := by
  induction xs generalizing ys with
  | nil =>
    cases ys with
    | nil => rfl
    | cons => cases heq
  | cons x xs ih =>
    cases ys with
    | nil => cases heq
    | cons y ys =>
      obtain ⟨hhead, htail⟩ := List.cons.inj heq
      rw [List.map_cons, List.map_cons, h x (by simp) y (by simp) hhead,
        ih (fun a ha b hb => h a (by simp [ha]) b (by simp [hb])) htail]

theorem withCommas_ne_nil {rows : List String} (h : rows ≠ []) : withCommas rows ≠ [] := by
  cases rows with
  | nil => exact absurd rfl h
  | cons row rest =>
    by_cases hrest : rest = []
    · simp [hrest, withCommas]
    · simp [withCommas_cons hrest]

theorem withCommas_inj {xs ys : List String} (h : withCommas xs = withCommas ys) : xs = ys := by
  induction xs generalizing ys with
  | nil =>
    by_contra hne
    exact withCommas_ne_nil (Ne.symm hne) h.symm
  | cons x xs ih =>
    cases ys with
    | nil => exact absurd h (withCommas_ne_nil (by simp))
    | cons y ys =>
      by_cases hnx : xs = [] <;> by_cases hny : ys = []
      · subst hnx hny
        exact h
      · rw [hnx, withCommas_cons hny] at h
        exact absurd (List.cons.inj h).2.symm (withCommas_ne_nil hny)
      · rw [hny, withCommas_cons hnx] at h
        exact absurd (List.cons.inj h).2 (withCommas_ne_nil hnx)
      · rw [withCommas_cons hnx, withCommas_cons hny] at h
        -- both lists go on, so both first lines have their comma
        obtain ⟨hhead, htail⟩ := List.cons.inj h
        rw [ih htail, (String.append_left_inj ",").mp hhead]

theorem toList_parameterList {names : List String} (h : names ≠ []) :
    (parameterList names).toList =
      '<' :: (Text.joinWith [',', ' '] (names.map String.toList) ++ ['>']) := by
  have hnil : names.isEmpty = false := by simpa using h
  rw [parameterList, hnil]
  simp [String.toList_joinWith]

/-- The heading of an interface tells its name and its type parameters. -/
theorem heading_inj {start name name' : String} {parameters parameters' : List Json}
    (hname : NameRule.identifiers.name name = true)
    (hname' : NameRule.identifiers.name name' = true)
    (hparams : ∀ x ∈ parameters, NameRule.identifiers.admits x = true)
    (hparams' : ∀ x ∈ parameters', NameRule.identifiers.admits x = true)
    (h : start ++ name ++ parameterList (parameters.map Json.text) ++ " \x7b" =
      start ++ name' ++ parameterList (parameters'.map Json.text) ++ " \x7b") :
    name = name' ∧ parameters = parameters' := by
  obtain ⟨names, rfl, hnames⟩ := NameRule.exists_names hparams
  obtain ⟨names', rfl, hnames'⟩ := NameRule.exists_names hparams'
  have hangle := NameRule.notMem_of_identifier hname (c := '<') (by decide)
  have hangle' := NameRule.notMem_of_identifier hname' (c := '<') (by decide)
  have htext : ∀ ns : List String, (ns.map Json.str).map Json.text = ns := by
    intro ns
    simp [Function.comp_def]
  have hcut : name.toList ++ (parameterList names).toList =
      name'.toList ++ (parameterList names').toList := by
    have hall := congrArg String.toList ((String.append_left_inj _).mp h)
    simp only [htext, String.toList_append, List.append_assoc] at hall
    exact List.append_cancel_left hall
  by_cases hn : names = [] <;> by_cases hn' : names' = []
  · subst hn hn'
    exact ⟨String.toList_inj.mp (by simpa [parameterList] using hcut), rfl⟩
  · -- only one of the headings holds an angle bracket
    rw [hn, toList_parameterList hn'] at hcut
    have hmem : '<' ∈ name.toList ++ (parameterList []).toList := by
      rw [hcut]
      simp
    exact absurd (by simpa [parameterList] using hmem) hangle
  · rw [hn', toList_parameterList hn] at hcut
    have hmem : '<' ∈ name'.toList ++ (parameterList []).toList := by
      rw [← hcut]
      simp
    exact absurd (by simpa [parameterList] using hmem) hangle'
  · rw [toList_parameterList hn, toList_parameterList hn'] at hcut
    -- the name ends before the first angle bracket, each parameter before a comma
    obtain ⟨hown, hrest⟩ := Text.append_cons_cancel hangle hangle' hcut
    have hcomma : ∀ ns : List String, (∀ s ∈ ns, NameRule.identifiers.name s = true) →
        ∀ piece ∈ ns.map String.toList, ',' ∉ piece := by
      intro ns hns piece hpiece
      obtain ⟨s, hs, rfl⟩ := List.mem_map.mp hpiece
      exact NameRule.notMem_of_identifier (hns s hs) (by decide)
    have hpieces := Text.joinWith_inj (by simpa using hn) (by simpa using hn')
      (hcomma names hnames) (hcomma names' hnames') (List.append_cancel_right hrest)
    have hsame : names = names' :=
      List.map_injective_iff.mpr (fun _ _ => String.toList_inj.mp) hpieces
    exact ⟨String.toList_inj.mp hown, by rw [hsame]⟩

/-- The line of a property tells its name and the text of its type. -/
theorem propertyRow_inj {indent : String} {q q' : Json × String}
    (hq : NameRule.identifiers.admits q.1 = true) (hq' : NameRule.identifiers.admits q'.1 = true)
    (h : propertyRow indent q = propertyRow indent q') : q = q' := by
  obtain ⟨key, type⟩ := q
  obtain ⟨key', type'⟩ := q'
  obtain ⟨s, rfl, hs⟩ := NameRule.admits_iff.mp hq
  obtain ⟨s', rfl, hs'⟩ := NameRule.admits_iff.mp hq'
  have hcolon : ": ".toList = [':', ' '] := rfl
  have hall := congrArg String.toList ((String.append_left_inj _).mp h)
  simp only [String.toList_append, hcolon, List.append_assoc, List.cons_append] at hall
  -- a name holds no colon, so it ends before the first one
  obtain ⟨hkey, htype⟩ := Text.append_cons_cancel
    (NameRule.notMem_of_identifier hs (c := ':') (by decide))
    (NameRule.notMem_of_identifier hs' (by decide)) (List.append_cancel_left hall)
  rw [String.toList_inj.mp hkey, String.toList_inj.mp (List.cons.inj htype).2]

/-- The line of a member of an enum tells its name and its value. -/
theorem memberRow_inj {indent : String} {m m' : Json × Json}
    (hm : NameRule.identifiers.admits m.1 = true) (hv : IsMemberValue .identifiers m.2)
    (hm' : NameRule.identifiers.admits m'.1 = true) (hv' : IsMemberValue .identifiers m'.2)
    (h : memberRow indent m = memberRow indent m') : m = m' := by
  obtain ⟨key, value⟩ := m
  obtain ⟨key', value'⟩ := m'
  obtain ⟨s, rfl, hs⟩ := NameRule.admits_iff.mp hm
  obtain ⟨s', rfl, hs'⟩ := NameRule.admits_iff.mp hm'
  have hequals : " = ".toList = [' ', '=', ' '] := rfl
  have hall := congrArg String.toList h
  simp only [memberRow, String.toList_append, hequals, List.append_assoc, List.cons_append,
    List.nil_append] at hall
  -- a name holds no space
  obtain ⟨hkey, hvalue⟩ := Text.append_cons_cancel
    (NameRule.notMem_of_identifier hs (c := ' ') (by decide))
    (NameRule.notMem_of_identifier hs' (by decide)) (List.append_cancel_left hall)
  have htext : value.text = value'.text := String.toList_inj.mp (by simpa using hvalue)
  have hsame : value = value' := value_text_inj hv hv' htext
  rw [String.toList_inj.mp hkey, hsame]

/-- The alternatives of a union tell the names of its members. -/
theorem quotedAlternatives_inj {members members' : List EnumMember}
    (hm : ∀ m ∈ members, NameRule.identifiers.admits m.name = true)
    (hm' : ∀ m ∈ members', NameRule.identifiers.admits m.name = true)
    (h : quotedAlternatives members = quotedAlternatives members') :
    members.map (fun m => { m with value := .null : EnumMember }) =
      members'.map (fun m => { m with value := .null : EnumMember }) := by
  have hbar : " | ".toList = [' ', '|', ' '] := rfl
  have hlist : ∀ ms : List EnumMember, ms ≠ [] → (quotedAlternatives ms).toList =
      Text.joinWith [' ', '|', ' '] (ms.map fun m => '"' :: (m.name.text.toList ++ ['"'])) := by
    intro ms hne
    have hnil : ms.isEmpty = false := by simpa using hne
    rw [quotedAlternatives, hnil, if_neg (by simp), String.toList_joinWith, hbar, List.map_map]
    simp [Function.comp_def]
  have hquote : ∀ ms : List EnumMember, ms ≠ [] →
      (quotedAlternatives ms).toList.head? = some '"' := by
    intro ms hne
    rw [hlist ms hne]
    cases ms with
    | nil => exact absurd rfl hne
    | cons m rest => cases rest <;> rfl
  -- a quote begins the alternatives of a union that has any
  have hnever : (quotedAlternatives []).toList.head? = some 'n' := rfl
  by_cases hn : members = [] <;> by_cases hn' : members' = []
  · rw [hn, hn']
  · rw [hn] at h
    rw [h, hquote members' hn'] at hnever
    cases hnever
  · rw [hn'] at h
    rw [← h, hquote members hn] at hnever
    cases hnever
  · -- no alternative holds the space that begins the separator
    have hspace : ∀ ms : List EnumMember, (∀ m ∈ ms, NameRule.identifiers.admits m.name = true) →
        ∀ piece ∈ ms.map (fun m => '"' :: (m.name.text.toList ++ ['"'])), ' ' ∉ piece := by
      intro ms hms piece hpiece
      obtain ⟨m, hmem, rfl⟩ := List.mem_map.mp hpiece
      obtain ⟨s, hs, hname⟩ := NameRule.admits_iff.mp (hms m hmem)
      have := NameRule.notMem_of_identifier hname (c := ' ') (by decide)
      simpa [hs] using this
    have hjoined := congrArg String.toList h
    rw [hlist members hn, hlist members' hn'] at hjoined
    have hpieces := Text.joinWith_inj (by simpa using hn) (by simpa using hn')
      (hspace members hm) (hspace members' hm') hjoined
    refine map_eq_map_of (fun x hx y hy heq => ?_) hpieces
    have htext : x.name.text = y.name.text :=
      String.toList_inj.mp (List.append_cancel_right (List.cons.inj heq).2)
    rw [NameRule.admits_text_inj (hm x hx) (hm' y hy) htext]

/-- The line of a union tells its name and the names of its members. -/
theorem unionLine_inj {start name name' : String} {members members' : List EnumMember}
    (hname : NameRule.identifiers.name name = true)
    (hname' : NameRule.identifiers.name name' = true)
    (hm : ∀ m ∈ members, NameRule.identifiers.admits m.name = true)
    (hm' : ∀ m ∈ members', NameRule.identifiers.admits m.name = true)
    (h : start ++ name ++ " = " ++ quotedAlternatives members ++ ";" =
      start ++ name' ++ " = " ++ quotedAlternatives members' ++ ";") :
    (Declaration.union name members).shown = (Declaration.union name' members').shown := by
  have hequals : " = ".toList = [' ', '=', ' '] := rfl
  have hall := congrArg String.toList ((String.append_left_inj _).mp h)
  simp only [String.toList_append, hequals, List.append_assoc, List.cons_append,
    List.nil_append] at hall
  -- the name ends before the first space
  obtain ⟨hown, halts⟩ := Text.append_cons_cancel
    (NameRule.notMem_of_identifier hname (c := ' ') (by decide))
    (NameRule.notMem_of_identifier hname' (by decide)) (List.append_cancel_left hall)
  have hmembers := quotedAlternatives_inj hm hm' (String.toList_inj.mp (by simpa using halts))
  rw [shown, shown, String.toList_inj.mp hown, hmembers]

/-! ## Declarations -/

theorem closing_notMem {margin : String} {rows : List String} {c : Char} (hc : c ≠ '\x7d')
    (h : ∀ row ∈ rows, ∃ rest, row = margin ++ rest ∧ c ∈ rest.toList) :
    margin ++ "\x7d" ∉ rows := by
  intro hmem
  -- after the margin a row holds a character that the closing brace does not
  obtain ⟨rest, heq, hin⟩ := h _ hmem
  rw [← (String.append_right_inj margin).mp heq] at hin
  simp [hc] at hin

theorem closing_notMem_properties (margin indent : String) (properties : List (Json × String)) :
    margin ++ "\x7d" ∉ properties.map (propertyRow (margin ++ indent)) := by
  refine closing_notMem (c := ':') (by decide) fun row hrow => ?_
  obtain ⟨q, -, rfl⟩ := List.mem_map.mp hrow
  exact ⟨propertyRow indent q, by simp [propertyRow, String.append_assoc], by simp [propertyRow]⟩

theorem closing_notMem_members (margin indent : String) (members : List (Json × Json)) :
    margin ++ "\x7d" ∉ withCommas (members.map (memberRow (margin ++ indent))) := by
  rw [← map_memberRow_margin, ← withCommas_map_margin]
  refine closing_notMem (c := '=') (by decide) fun row hrow => ?_
  obtain ⟨rest, hrest, rfl⟩ := List.mem_map.mp hrow
  obtain ⟨line, hline, comma, -, rfl⟩ := mem_withCommas hrest
  obtain ⟨m, -, rfl⟩ := List.mem_map.mp hline
  exact ⟨_, rfl, by simp [memberRow]⟩

/-- The lines of a declaration tell where it ends and all that it shows. -/
theorem lines_append_inj {margin indent : String} {d e : Declaration}
    (hd : d.Obeys .identifiers p) (he : e.Obeys .identifiers p) {xs ys : List String}
    (h : d.lines margin indent ++ xs = e.lines margin indent ++ ys) :
    d.shown = e.shown ∧ xs = ys := by
  have hhead : ∀ {a b : String} {as bs : List String}, a :: as = b :: bs →
      a.toList = b.toList := fun hab => congrArg String.toList (List.cons.inj hab).1
  cases d with
  | interface name parameters properties =>
    cases e with
    | interface name' parameters' properties' =>
      simp only [lines, List.cons_append, List.append_assoc, List.nil_append] at h
      obtain ⟨hheading, hrest⟩ := List.cons.inj h
      obtain ⟨rfl, rfl⟩ := heading_inj hd.1 he.1 hd.2.1 he.2.1 hheading
      -- the rows end before the first closing line
      obtain ⟨hrows, rfl⟩ := Text.append_cons_cancel (closing_notMem_properties _ _ _)
        (closing_notMem_properties _ _ _) hrest
      have hsame := map_eq_map_of (g := id) (fun q hq q' hq' heq =>
        propertyRow_inj (hd.2.2 q hq).1 (he.2.2 q' hq').1 heq) hrows
      rw [List.map_id, List.map_id] at hsame
      rw [hsame]
      exact ⟨rfl, rfl⟩
    | enum name' members' => simpa [lines] using hhead h
    | union name' members' => simpa [lines] using hhead h
  | enum name members =>
    cases e with
    | interface name' parameters' properties' => simpa [lines] using hhead h
    | enum name' members' =>
      simp only [lines, List.cons_append, List.append_assoc, List.nil_append] at h
      obtain ⟨hheading, hrest⟩ := List.cons.inj h
      have hname : name = name' :=
        (String.append_right_inj _).mp ((String.append_left_inj _).mp hheading)
      obtain ⟨hrows, rfl⟩ := Text.append_cons_cancel (closing_notMem_members _ _ _)
        (closing_notMem_members _ _ _) hrest
      have hsame := map_eq_map_of (g := id) (fun m hm m' hm' heq =>
        memberRow_inj (hd.2 m hm).1 (hd.2 m hm).2 (he.2 m' hm').1 (he.2 m' hm').2 heq)
        (withCommas_inj hrows)
      rw [List.map_id, List.map_id] at hsame
      rw [hname, hsame]
      exact ⟨rfl, rfl⟩
    | union name' members' => simpa [lines] using hhead h
  | union name members =>
    cases e with
    | interface name' parameters' properties' => simpa [lines] using hhead h
    | enum name' members' => simpa [lines] using hhead h
    | union name' members' =>
      simp only [lines, List.cons_append, List.nil_append] at h
      obtain ⟨hline, rfl⟩ := List.cons.inj h
      exact ⟨unionLine_inj hd.1 he.1 hd.2 he.2 hline, rfl⟩

end Declaration

/-! ## Blocks -/

namespace Block

variable {p : String → Prop}

/-- The closing brace of a block is no first line of a declaration. -/
theorem closing_ne_lines {margin indent : String} {d : Declaration} {xs ys : List String} :
    "\x7d" :: xs ≠ d.lines margin indent ++ ys := by
  intro h
  have hfirst : ∃ first rest, d.lines margin indent = first :: rest ∧ 'x' ∈ first.toList := by
    cases d with
    | interface => exact ⟨_, _, rfl, by simp⟩
    | enum => exact ⟨_, _, rfl, by simp⟩
    | union => exact ⟨_, _, rfl, by simp⟩
  obtain ⟨first, rest, hlines, hmem⟩ := hfirst
  rw [hlines] at h
  rw [← (List.cons.inj h).1] at hmem
  exact absurd hmem (by decide)

/-- The lines of a row of declarations up to the closing brace tell what each of them shows. -/
theorem declarations_append_inj {indent : String} {ds es : List Declaration}
    (hds : ∀ d ∈ ds, d.Obeys .identifiers p) (hes : ∀ e ∈ es, e.Obeys .identifiers p)
    {xs ys : List String}
    (h : ds.flatMap (Declaration.lines indent indent) ++ "\x7d" :: xs =
      es.flatMap (Declaration.lines indent indent) ++ "\x7d" :: ys) :
    ds.map Declaration.shown = es.map Declaration.shown ∧ xs = ys := by
  -- the closing brace tells whether a declaration follows
  induction ds generalizing es with
  | nil =>
    cases es with
    | nil => exact ⟨rfl, (List.cons.inj h).2⟩
    | cons e es =>
      rw [List.flatMap_cons, List.append_assoc] at h
      exact absurd h closing_ne_lines
  | cons d ds ih =>
    cases es with
    | nil =>
      rw [List.flatMap_cons, List.append_assoc] at h
      exact absurd h.symm closing_ne_lines
    | cons e es =>
      simp only [List.flatMap_cons, List.append_assoc] at h
      obtain ⟨hshown, hrest⟩ :=
        Declaration.lines_append_inj (hds d (by simp)) (hes e (by simp)) h
      obtain ⟨hmore, htail⟩ := ih (fun x hx => hds x (by simp [hx]))
        (fun x hx => hes x (by simp [hx])) hrest
      exact ⟨by rw [List.map_cons, List.map_cons, hshown, hmore], htail⟩

/-- The lines of a block tell where it ends and all that it shows. -/
theorem lines_append_inj {indent : String} {b b' : Block} (hb : b.Obeys .identifiers p)
    (hb' : b'.Obeys .identifiers p) {xs ys : List String}
    (h : b.lines indent ++ xs = b'.lines indent ++ ys) : b.shown = b'.shown ∧ xs = ys := by
  obtain ⟨name, declarations⟩ := b
  obtain ⟨name', declarations'⟩ := b'
  obtain ⟨s, rfl, -⟩ := NameRule.admitsScope_iff.mp hb.1
  obtain ⟨s', rfl, -⟩ := NameRule.admitsScope_iff.mp hb'.1
  simp only [lines, List.cons_append, List.append_assoc, List.nil_append] at h
  obtain ⟨hheading, hrest⟩ := List.cons.inj h
  have hname : s = s' := (String.append_right_inj _).mp ((String.append_left_inj _).mp hheading)
  obtain ⟨hshown, htail⟩ := declarations_append_inj hb.2 hb'.2 hrest
  exact ⟨by rw [shown, shown, hname, hshown], htail⟩

end Block

/-! ## Pages -/

/-- The lines of a page tell the blocks of it. -/
theorem pageLines_inj {p : String → Prop} {indent : String} {bs cs : List Block}
    (hbs : ∀ b ∈ bs, b.Obeys .identifiers p) (hcs : ∀ c ∈ cs, c.Obeys .identifiers p)
    (h : pageLines indent bs = pageLines indent cs) : bs.map Block.shown = cs.map Block.shown := by
  -- after its own lines a block has either nothing more or an empty line
  have hcons : ∀ b rest, ∃ tail, pageLines indent (b :: rest) = b.lines indent ++ tail ∧
      (rest = [] ∧ tail = [] ∨ tail = "" :: pageLines indent rest) := by
    intro b rest
    by_cases hrest : rest = []
    · exact ⟨[], by simp [hrest], .inl ⟨hrest, rfl⟩⟩
    · exact ⟨_, pageLines_cons indent b hrest, .inr rfl⟩
  have hne : ∀ b rest, pageLines indent (b :: rest) ≠ [] := by
    intro b rest
    obtain ⟨tail, heq, -⟩ := hcons b rest
    simp [heq, Block.lines]
  induction bs generalizing cs with
  | nil =>
    cases cs with
    | nil => rfl
    | cons c cs => exact absurd h.symm (hne c cs)
  | cons b bs ih =>
    cases cs with
    | nil => exact absurd h (hne b bs)
    | cons c cs =>
      obtain ⟨tail, hb, htail⟩ := hcons b bs
      obtain ⟨tail', hc, htail'⟩ := hcons c cs
      rw [hb, hc] at h
      obtain ⟨hshown, heq⟩ := Block.lines_append_inj (hbs b (by simp)) (hcs c (by simp)) h
      rw [List.map_cons, List.map_cons, hshown]
      rcases htail with ⟨rfl, rfl⟩ | rfl <;> rcases htail' with ⟨rfl, rfl⟩ | rfl
      · rfl
      · cases heq
      · cases heq
      · rw [ih (fun x hx => hbs x (by simp [hx])) (fun x hx => hcs x (by simp [hx]))
          (List.cons.inj heq).2]

/-- The text of blocks tells the blocks. -/
theorem joinBlocks_inj {indent : String} (hindent : '\n' ∉ indent.toList) {bs cs : List Block}
    (hbs : ∀ b ∈ bs, b.Obeys .identifiers fun t => '\n' ∉ t.toList)
    (hcs : ∀ c ∈ cs, c.Obeys .identifiers fun t => '\n' ∉ t.toList)
    (h : joinBlocks (bs.map (Block.text indent)) = joinBlocks (cs.map (Block.text indent))) :
    bs.map Block.shown = cs.map Block.shown := by
  have hname : ∀ s, NameRule.identifiers.name s = true → '\n' ∉ s.toList :=
    fun s hs => NameRule.notMem_of_identifier hs (by decide)
  have hscope : ∀ s, NameRule.identifiers.scope s = true → '\n' ∉ s.toList :=
    fun s hs => NameRule.notMem_of_dotted hs (by decide) (by decide)
  -- both texts are cut at their breaks
  have hlines : ∀ ds : List Block,
      (∀ b ∈ ds, b.Obeys .identifiers fun t => '\n' ∉ t.toList) →
      (joinBlocks (ds.map (Block.text indent))).toList =
          Text.unlines ((pageLines indent ds).map String.toList) ∧
        ∀ line ∈ (pageLines indent ds).map String.toList, '\n' ∉ line := by
    intro ds hds
    constructor
    · exact toList_joinBlocks fun b hb d hd =>
        Declaration.break_notMem_lines hname (.inl rfl) (fun t ht => ht) (by simp) hindent
          ((hds b hb).2 d hd)
    · intro line hline
      obtain ⟨row, hrow, rfl⟩ := List.mem_map.mp hline
      exact break_notMem_pageLines (.inl rfl) hname hscope (fun t ht => ht) hindent hds row hrow
  obtain ⟨htext, hfree⟩ := hlines bs hbs
  obtain ⟨htext', hfree'⟩ := hlines cs hcs
  have hpage := Text.unlines_inj hfree hfree' (by rw [← htext, ← htext', h])
  exact pageLines_inj hbs hcs (List.map_injective_iff.mpr (fun _ _ => String.toList_inj.mp) hpage)

/-! ## Models -/

/-- The text of a model determines what was emitted: two models with the same text have the same
namespaces with the same visible classes and enums, save for values that no text shows. What a model
emits is told by its plan, and these are the blocks that its text is made of. -/
theorem Generator.shown_eq_of_generate_eq {style : EnumStyle} {indent : String}
    (hindent : '\n' ∉ indent.toList) {override : Json}
    (hoverride : NameRule.identifiers.admitsOptional override = true) {marker : String}
    {output : Output} {model model' : Model} (hmodel : model.obeys .identifiers = true)
    (hmodel' : model'.obeys .identifiers = true) :
    let g : Generator :=
      { enumStyle := style, indent := .str indent, moduleName := Naming.formatModule override,
        isVisible := Visibility.isVisible (.str marker) }
    let plan := Plan.standard style indent override
      (fun name => !Visibility.isHidden marker.toList name.toList) output
    g.generate model output = g.generate model' output →
    g.blocks model output = .ok (plan.blocks model) ∧
      g.blocks model' output = .ok (plan.blocks model') ∧
      (plan.blocks model).map Block.shown = (plan.blocks model').map Block.shown := by
  intro g plan htext
  -- both models are emitted by one plan
  have hfollows : ∀ m : Model, m.obeys .identifiers = true → g.Follows plan m :=
    fun m hm => Plan.standard_follows (Visibility.isVisible_str marker) hoverride hm
  have hobey : ∀ m : Model, m.obeys .identifiers = true → ∀ b ∈ plan.blocks m,
      b.Obeys .identifiers fun t => '\n' ∉ t.toList := by
    intro m hm
    refine Plan.blocks_obey (TypeExpr.closed_notMem_break (.inl rfl) ?_ ?_)
      NameRule.identifiers_stable hm (Plan.standard_scope hoverride hm)
    · exact fun s hs => NameRule.notMem_of_identifier hs (by decide)
    · exact fun s hs => NameRule.notMem_of_dotted hs (by decide) (by decide)
  have hsame : joinBlocks _ = joinBlocks _ := Except.ok.inj
    (((hfollows model hmodel).generate hmodel).symm.trans
      (htext.trans ((hfollows model' hmodel').generate hmodel')))
  exact ⟨(hfollows model hmodel).blocks hmodel, (hfollows model' hmodel').blocks hmodel',
    joinBlocks_inj hindent (hobey model hmodel) (hobey model' hmodel') hsame⟩

/-- Two models with one text: the property of the one has a type that is written as a string and a
name with a capital, and the members of their unions have other values. -/
theorem Generator.shown_eq_of_generate_eq_union :
    let g : Generator :=
      { enumStyle := .stringLiteral, indent := .str "\t", moduleName := Naming.formatModule .null,
        isVisible := Visibility.isVisible (.str "Guid") }
    let plan := Plan.standard .stringLiteral "\t" .null
      (fun name => !Visibility.isHidden "Guid".toList name.toList) {}
    let user (key : String) (type : Primitive) : ClassEntry :=
      { name := "User", properties := [{ name := .str key, type := .ofPrimitive type }] }
    let color (value : Int) : EnumEntry :=
      { name := "Color", members := [{ name := .str "Red", value := .int value }] }
    let shop (user : ClassEntry) (color : EnumEntry) : Model :=
      { modules := [{
          name := .str "Shop.Web", classes := [{ name := "GuidBox" }, user], enums := [color] }] }
    let model := shop (user "Id" .guid) (color 0)
    let model' := shop (user "id" .string) (color 7)
    let shown : List Block :=
      [{ name := .str "Shop.Web"
         declarations := [.interface "IUser" [] [(.str "id", "string")],
          .union "Color" [{ name := .str "Red", value := .null }]] }]
    g.generate model {} = .ok ("declare namespace Shop.Web \x7b\n" ++
        "\texport interface IUser \x7b\n\t\tid: string;\n\t\x7d\n" ++
        "\texport type Color = \"Red\";\n\x7d\n") ∧
      g.generate model {} = g.generate model' {} ∧ g.blocks model' {} = .ok (plan.blocks model') ∧
      (plan.blocks model).map Block.shown = shown ∧
      (plan.blocks model').map Block.shown = shown := by
  intro g plan user color shop model model' shown
  have htext : g.generate model {} = g.generate model' {} := by decide +kernel
  -- the text tells what the second model shows from what the first one does
  obtain ⟨-, hblocks, hsame⟩ := Generator.shown_eq_of_generate_eq (by decide) (by decide)
    (by decide) (by decide) htext
  -- blocks are not compared by evaluation: the plan is opened, and its names are evaluated
  have hvisible : plan.visible (Naming.interfaceName "GuidBox") = false ∧
      plan.visible (Naming.interfaceName "User") = true ∧ plan.visible "Color" = true := by
    decide +kernel
  have hclasses : plan.classes model "Shop.Web" = [user "Id" .guid] := by
    refine (List.filter_cons_of_neg (by rw [hvisible.1]; decide)).trans ?_
    exact List.filter_cons_of_pos hvisible.2.1
  have henums : plan.enums model "Shop.Web" = [color 0] :=
    List.filter_cons_of_pos hvisible.2.2
  have hinterface : Naming.interfaceName "User" = "IUser" ∧ Naming.propertyText "Id" = "id" ∧
      Naming.memberType { name := .str "Id", type := .ofPrimitive .guid } "string" = "string" := by
    decide +kernel
  have hdeclarations : plan.declarations model "Shop.Web" =
      [.interface "IUser" [] [(.str "id", "string")],
        .union "Color" [{ name := .str "Red", value := .int 0 }]] := by
    rw [Plan.declarations, hclasses, henums]
    show [Declaration.interface (Naming.interfaceName "User") []
      [(.str (Naming.propertyText "Id"), Naming.memberType _ "string")], _] = _
    rw [hinterface.1, hinterface.2.1, hinterface.2.2]
    rfl
  have hshown : (plan.blocks model).map Block.shown = shown := by
    show (List.filter _ [(⟨.str "Shop.Web", plan.declarations model "Shop.Web"⟩ : Block)]).map _ = _
    rw [hdeclarations]
    rfl
  exact ⟨by decide +kernel, htext, hblocks, hshown, hsame.symm.trans hshown⟩

end Ambient
