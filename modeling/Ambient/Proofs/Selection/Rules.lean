/-
  Ambient.Proofs.Selection.Rules

  What rules of texts accept, and that a selection is what they accept: rule by rule, and for each
  rule in the order of the symbols (`Config.select_textRules`). The test that looks for a dot behind
  the namespace of a rule is the comparison of namespaces segment by segment. A namespace that is no
  text ends the selection where a rule looks inside of namespaces.
-/
import Ambient.Proofs.Selection
import Ambient.Proofs.Text.Lines
import Ambient.Proofs.Text.Words

namespace Ambient

open Text

/-! ## Rules of texts -/

/-- A rule that names its namespace and its patterns by texts. -/
structure TextRule where
  scope : String
  includeTypes : List String := []
  excludeTypes : List String := []
  includeGenericTypes : List String := []
  excludeGenericTypes : List String := []
  includeNested : Bool := false

/-- Some texts as a value. -/
def Json.texts (texts : List String) : Json :=
  .arr (texts.map .str)

/-- The rule with its texts as values. -/
def TextRule.toRule (rule : TextRule) : Rule where
  scope := .str rule.scope
  includeTypes := .texts rule.includeTypes
  excludeTypes := .texts rule.excludeTypes
  includeGenericTypes := .texts rule.includeGenericTypes
  excludeGenericTypes := .texts rule.excludeGenericTypes
  includeNested := .bool rule.includeNested

/-! ## What a rule accepts -/

/-- The segments of a dotted name. -/
def segments (name : String) : List (List Char) :=
  splitOn '.' name.toList

/-- Whether a name holds a pattern, both in lower case. -/
def HoldsPattern (name pattern : String) : Prop :=
  lower pattern.toList <:+: lower name.toList

instance (name pattern : String) : Decidable (HoldsPattern name pattern) :=
  inferInstanceAs (Decidable (_ <:+: _))

/-- Whether patterns admit a name: it holds one of those that are to be included, if there are any,
and none of those that are to be excluded. -/
structure Admits (included excluded : List String) (name : String) : Prop where
  holds : included = [] ∨ ∃ pattern ∈ included, HoldsPattern name pattern
  lacks : ∀ pattern ∈ excluded, ¬ HoldsPattern name pattern

instance (included excluded : List String) (name : String) :
    Decidable (Admits included excluded name) :=
  decidable_of_decidable_of_iff
    (p := (included = [] ∨ ∃ pattern ∈ included, HoldsPattern name pattern) ∧
      ∀ pattern ∈ excluded, ¬ HoldsPattern name pattern)
    ⟨fun h => ⟨h.1, h.2⟩, fun h => ⟨h.holds, h.lacks⟩⟩

namespace TextRule

/-- Whether a rule is about a namespace: its segments are those of the rule, or begin with them where
the rule asks for the namespaces inside. -/
def Covers (rule : TextRule) : Json → Prop
  | .str scope =>
    segments scope = segments rule.scope ∨
      rule.includeNested = true ∧ segments rule.scope <+: segments scope
  | _ => False

instance (rule : TextRule) (scope : Json) : Decidable (rule.Covers scope) :=
  match scope with
  | .str _ => inferInstanceAs (Decidable (_ ∨ _))
  | .null | .bool _ | .int _ | .float _ | .arr _ | .obj _ => .isFalse id

/-- Whether patterns of a rule admit a symbol; one with type parameters goes by patterns of its
own. -/
def AdmitsName (rule : TextRule) (symbol : TypeSymbol) (arity : Nat) : Prop :=
  if arity = 0 then Admits rule.includeTypes rule.excludeTypes symbol.simpleName
  else Admits rule.includeGenericTypes rule.excludeGenericTypes symbol.simpleName

instance (rule : TextRule) (symbol : TypeSymbol) (arity : Nat) :
    Decidable (rule.AdmitsName symbol arity) :=
  inferInstanceAs (Decidable (if arity = 0 then _ else _))

/-- Whether a rule accepts a symbol. -/
structure Accepts (staticClasses : Bool) (rule : TextRule) (symbol : TypeSymbol) : Prop where
  covers : rule.Covers symbol.scope
  isPublic : symbol.isPublic = true
  isOuter : symbol.isNested = false
  isInstance : symbol.kind = .interface ∨ symbol.kind = .enum ∨ symbol.isStatic = false ∨
    staticClasses = true
  admits : ∃ arity, symbol.arity = .ok arity ∧ rule.AdmitsName symbol arity

instance (rule : TextRule) (symbol : TypeSymbol) :
    Decidable (∃ arity, symbol.arity = .ok arity ∧ rule.AdmitsName symbol arity) :=
  match symbol.arity with
  | .ok arity => decidable_of_iff (rule.AdmitsName symbol arity) (by simp)
  | .error _ => .isFalse (by simp)

instance (staticClasses : Bool) (rule : TextRule) (symbol : TypeSymbol) :
    Decidable (rule.Accepts staticClasses symbol) :=
  decidable_of_decidable_of_iff
    (p := rule.Covers symbol.scope ∧ symbol.isPublic = true ∧ symbol.isNested = false ∧
      (symbol.kind = .interface ∨ symbol.kind = .enum ∨ symbol.isStatic = false ∨
        staticClasses = true) ∧
      ∃ arity, symbol.arity = .ok arity ∧ rule.AdmitsName symbol arity)
    ⟨fun h => ⟨h.1, h.2.1, h.2.2.1, h.2.2.2.1, h.2.2.2.2⟩,
      fun h => ⟨h.covers, h.isPublic, h.isOuter, h.isInstance, h.admits⟩⟩

end TextRule

/-! ## Namespaces -/

theorem segments_inj {first second : String} : segments first = segments second ↔ first = second := by
  refine ⟨fun h => ?_, fun h => by rw [h]⟩
  have hjoined := congrArg (joinWith ['.']) h
  rw [segments, segments, joinWith_splitOn, joinWith_splitOn] at hjoined
  exact String.toList_inj.mp hjoined

/-- A namespace begins with the segments of another one exactly if it is that one, or lies inside. -/
theorem segments_isPrefix_iff (parent scope : String) :
    segments parent <+: segments scope ↔ parent = scope ∨ Rule.isInside scope parent = true := by
  rw [segments, segments, splitOn_isPrefix_iff, String.toList_inj, Rule.isInside,
    List.isPrefixOf_iff_prefix]

/-- Whether the namespace of a symbol is a text or missing. -/
def TypeSymbol.hasTextScope (symbol : TypeSymbol) : Bool :=
  match symbol.scope with
  | .null | .str _ => true
  | _ => false

theorem Rule.coverage_of_ne_null {rule : Rule} {symbol : TypeSymbol} (h : symbol.scope ≠ .null) :
    rule.coverage symbol =
      if symbol.scope.equals rule.scope then .ok (.bool true)
      else if rule.includeNested.isTruthy then .bool <$> rule.encloses symbol.scope
      else .ok rule.includeNested := by
  rw [coverage.eq_def]
  split
  · rename_i hnull
    exact absurd hnull h
  · rfl

namespace TextRule

variable {rule : TextRule} {symbol : TypeSymbol}

theorem covers_str_iff (rule : TextRule) (scope : String) :
    rule.Covers (.str scope) ↔
      scope = rule.scope ∨ rule.includeNested = true ∧ Rule.isInside scope rule.scope = true := by
  rw [Covers, segments_inj, segments_isPrefix_iff]
  constructor
  · rintro (hsame | ⟨hnested, hparent | hinside⟩)
    · exact .inl hsame
    · exact .inl hparent.symm
    · exact .inr ⟨hnested, hinside⟩
  · rintro (hsame | ⟨hnested, hinside⟩)
    · exact .inl hsame
    · exact .inr ⟨hnested, .inr hinside⟩

theorem isTruthy_toRule (rule : TextRule) :
    rule.toRule.includeNested.isTruthy = rule.includeNested := rfl

theorem coverage_str (rule : TextRule) {scope : String} (h : symbol.scope = .str scope) :
    rule.toRule.coverage symbol = .ok (.bool (decide (rule.Covers (.str scope)))) := by
  have hsame : (Json.str scope).equals rule.toRule.scope = (scope == rule.scope) := by
    simp [Json.equals, Json.same, toRule]
  have hcovers := covers_str_iff rule scope
  rw [Rule.coverage_of_ne_null (by simp [h]), h, hsame, isTruthy_toRule]
  by_cases hscope : scope = rule.scope
  · rw [if_pos (beq_iff_eq.mpr hscope), decide_eq_true (hcovers.mpr (.inl hscope))]
  · rw [if_neg fun heq => hscope (beq_iff_eq.mp heq)]
    -- another namespace is covered only by a rule that looks inside of its own
    cases hnested : rule.includeNested with
    | true =>
      have hinside : decide (rule.Covers (.str scope)) = Rule.isInside scope rule.scope := by
        rw [Bool.eq_iff_iff, decide_eq_true_iff, hcovers, hnested]
        simp [hscope]
      rw [hinside]
      rfl
    | false =>
      have hnot : ¬ rule.Covers (.str scope) := by
        rw [hcovers, hnested]
        simp [hscope]
      rw [decide_eq_false hnot, toRule, hnested]
      rfl

/-- A namespace that is no text is not that of a rule, and a rule cannot look inside of it. -/
theorem coverage_of_not_text (rule : TextRule) (h : symbol.hasTextScope = false) :
    rule.toRule.coverage symbol =
      if rule.includeNested then unsuitable (.noMember symbol.scope.kind "startswith")
      else .ok (.bool false) := by
  have hsome : symbol.scope ≠ .null := by
    intro hnull
    simp [TypeSymbol.hasTextScope, hnull] at h
  have hother : symbol.scope.equals rule.toRule.scope = false := by
    cases hscope : symbol.scope with
    | null | str _ => simp [TypeSymbol.hasTextScope, hscope] at h
    | float x => cases x <;> rfl
    | _ => rfl
  have hasked : rule.toRule.encloses symbol.scope =
      unsuitable (.noMember symbol.scope.kind "startswith") := by
    cases hscope : symbol.scope with
    | null | str _ => simp [TypeSymbol.hasTextScope, hscope] at h
    | _ => rfl
  rw [Rule.coverage_of_ne_null hsome, hother, isTruthy_toRule, hasked]
  cases hnested : rule.includeNested with
  | true => rfl
  | false => rw [toRule, hnested]; rfl

/-- A rule has an answer about a namespace that is a text or missing, and about any other if it does
not look inside of namespaces. -/
theorem coversScope_toRule (h : symbol.hasTextScope = true ∨ rule.includeNested = false) :
    rule.toRule.coversScope symbol = .ok (decide (rule.Covers symbol.scope)) := by
  rw [Rule.coversScope]
  cases hscope : symbol.scope with
  | str scope =>
    rw [coverage_str rule hscope]
    rfl
  | null =>
    rw [Rule.coverage.eq_def, hscope]
    rfl
  | _ =>
    have hodd : symbol.hasTextScope = false := by rw [TypeSymbol.hasTextScope, hscope]
    rw [coverage_of_not_text rule hodd, h.resolve_left (by simp [hodd])]
    rfl

end TextRule

/-! ## Patterns -/

/-- A text occurs in another one exactly if it is a piece of it. -/
theorem Text.occursIn_iff_isInfix (pattern text : List Char) :
    occursIn pattern text = true ↔ pattern <:+: text := by
  induction text with
  | nil => simp [occursIn]
  | cons c rest ih =>
    rw [occursIn, Bool.or_eq_true, List.isPrefixOf_iff_prefix, ih, List.infix_cons_iff]

/-- Some pattern occurs in a name exactly if the name holds one of them. -/
theorem Rule.matchesAny_texts (name : String) (patterns : List String) :
    Rule.matchesAny name (.texts patterns) =
      .ok (decide (∃ pattern ∈ patterns, HoldsPattern name pattern)) := by
  show Rule.anyOccurs (lower name.toList) (patterns.map .str) = _
  induction patterns with
  | nil => rfl
  | cons pattern rest ih =>
    rw [List.map_cons, Rule.anyOccurs]
    show (if occursIn (lower pattern.toList) (lower name.toList) = true then _ else _) = _
    by_cases hfirst : HoldsPattern name pattern
    · rw [if_pos ((occursIn_iff_isInfix _ _).mpr hfirst)]
      simp [hfirst]
    · rw [if_neg fun h => hfirst ((occursIn_iff_isInfix _ _).mp h), ih]
      simp [hfirst]

theorem isTruthy_texts (texts : List String) :
    (Json.texts texts).isTruthy = !texts.isEmpty := by
  cases texts <;> rfl

/-- Patterns are asked only if there are any. -/
theorem Rule.lacks_texts (name : String) (excluded : List String) :
    (if (Json.texts excluded).isTruthy then (!·) <$> matchesAny name (.texts excluded)
      else .ok true) =
      .ok (decide (∀ pattern ∈ excluded, ¬ HoldsPattern name pattern)) := by
  rw [isTruthy_texts]
  cases excluded with
  | nil => rfl
  | cons pattern rest =>
    have hnone : (∀ p ∈ pattern :: rest, ¬ HoldsPattern name p) ↔
        ¬ ∃ p ∈ pattern :: rest, HoldsPattern name p := by simp
    rw [matchesAny_texts, decide_eq_decide.mpr hnone, decide_not]
    rfl

theorem decide_admits (name : String) (included excluded : List String) :
    decide (Admits included excluded name) =
      (decide (included = [] ∨ ∃ pattern ∈ included, HoldsPattern name pattern) &&
        decide (∀ pattern ∈ excluded, ¬ HoldsPattern name pattern)) := by
  rw [← Bool.decide_and]
  exact decide_eq_decide.mpr ⟨fun h => ⟨h.holds, h.lacks⟩, fun h => ⟨h.1, h.2⟩⟩

namespace TextRule

variable {rule : TextRule} {symbol : TypeSymbol}

theorem admitsName_toRule {arity : Nat} (h : symbol.arity = .ok arity) :
    rule.toRule.admitsName symbol = .ok (decide (rule.AdmitsName symbol arity)) := by
  have hgeneric : symbol.isGenericDefinition = .ok (arity != 0) := by
    rw [TypeSymbol.isGenericDefinition, h]
    rfl
  -- the lists of the rule that are asked
  obtain ⟨included, hincluded⟩ : ∃ texts, texts =
    if arity = 0 then rule.includeTypes else rule.includeGenericTypes := ⟨_, rfl⟩
  obtain ⟨excluded, hexcluded⟩ : ∃ texts, texts =
    if arity = 0 then rule.excludeTypes else rule.excludeGenericTypes := ⟨_, rfl⟩
  have hadmits : rule.AdmitsName symbol arity ↔ Admits included excluded symbol.simpleName := by
    rw [AdmitsName, hincluded, hexcluded]
    split <;> rfl
  have hfirst : (if (arity != 0) = true then rule.toRule.includeGenericTypes
      else rule.toRule.includeTypes) = .texts included := by
    rw [hincluded]
    by_cases harity : arity = 0 <;> simp [harity, toRule]
  have hsecond : (if (arity != 0) = true then rule.toRule.excludeGenericTypes
      else rule.toRule.excludeTypes) = .texts excluded := by
    rw [hexcluded]
    by_cases harity : arity = 0 <;> simp [harity, toRule]
  rw [Rule.admitsName, hgeneric, decide_eq_decide.mpr hadmits, decide_admits]
  simp only [bind, Except.bind, hfirst, hsecond, Rule.lacks_texts]
  rw [isTruthy_texts]
  cases included with
  | nil => simp
  | cons pattern rest =>
    have hany : (pattern :: rest = [] ∨ ∃ p ∈ pattern :: rest, HoldsPattern symbol.simpleName p) ↔
        ∃ p ∈ pattern :: rest, HoldsPattern symbol.simpleName p :=
      or_iff_right (List.cons_ne_nil _ _)
    rw [Rule.matchesAny_texts, decide_eq_decide.mpr hany]
    show (if (!decide _) = true then _ else _) = _
    cases decide (∃ p ∈ pattern :: rest, HoldsPattern symbol.simpleName p) <;> rfl

/-! ## Rules -/

theorem decide_accepts (staticClasses : Bool) (rule : TextRule) {arity : Nat}
    (h : symbol.arity = .ok arity) :
    decide (rule.Accepts staticClasses symbol) =
      (decide (rule.Covers symbol.scope) && symbol.isEligible &&
        (staticClasses || symbol.isNotStaticClass) && decide (rule.AdmitsName symbol arity)) := by
  have hadmits : (∃ n, symbol.arity = .ok n ∧ rule.AdmitsName symbol n) ↔
      rule.AdmitsName symbol arity := by simp [h]
  rw [Bool.eq_iff_iff, decide_eq_true_iff]
  simp only [Bool.and_eq_true, Bool.or_eq_true, decide_eq_true_iff, TypeSymbol.isEligible,
    TypeSymbol.isNotStaticClass, Bool.not_eq_true', beq_iff_eq]
  -- the four reasons to be no static class stand in another order
  constructor
  · intro haccepts
    refine ⟨⟨⟨haccepts.covers, haccepts.isPublic, haccepts.isOuter⟩, ?_⟩, hadmits.mp haccepts.admits⟩
    rcases haccepts.isInstance with hkind | hkind | hlive | hstatic
    · exact .inr (.inl (.inl hkind))
    · exact .inr (.inl (.inr hkind))
    · exact .inr (.inr hlive)
    · exact .inl hstatic
  · rintro ⟨⟨⟨hcovers, hpublic, houter⟩, hstatic | (hkind | hkind) | hlive⟩, hname⟩
    · exact ⟨hcovers, hpublic, houter, .inr (.inr (.inr hstatic)), hadmits.mpr hname⟩
    · exact ⟨hcovers, hpublic, houter, .inl hkind, hadmits.mpr hname⟩
    · exact ⟨hcovers, hpublic, houter, .inr (.inl hkind), hadmits.mpr hname⟩
    · exact ⟨hcovers, hpublic, houter, .inr (.inr (.inl hlive)), hadmits.mpr hname⟩

/-- A rule that has an answer about the namespace of a symbol selects the symbol exactly if it
accepts it. -/
theorem selects_toRule (staticClasses : Bool) {arity : Nat} (h : symbol.arity = .ok arity)
    (hscope : symbol.hasTextScope = true ∨ rule.includeNested = false) :
    rule.toRule.selects staticClasses symbol =
      .ok (decide (rule.Accepts staticClasses symbol)) := by
  rw [Rule.selects, coversScope_toRule hscope, admitsName_toRule h, decide_accepts staticClasses rule h]
  simp only [bind, Except.bind]
  cases decide (rule.Covers symbol.scope) <;> cases symbol.isEligible <;> cases staticClasses <;>
    cases symbol.isNotStaticClass <;> rfl

theorem selects_of_not_text (staticClasses : Bool) (hscope : symbol.hasTextScope = false)
    (hnested : rule.includeNested = true) :
    rule.toRule.selects staticClasses symbol =
      unsuitable (.noMember symbol.scope.kind "startswith") := by
  rw [Rule.selects, Rule.coversScope, coverage_of_not_text rule hscope, hnested]
  rfl

end TextRule

/-! ## Selections -/

section

variable {α β : Type} (accepts : β → α → Bool)

theorem length_flatMap_filter_cons (test : β) (rest : List β) (items : List α) :
    (items.flatMap fun item => (test :: rest).filter (accepts · item)).length =
      (items.filter (accepts test)).length +
        (items.flatMap fun item => rest.filter (accepts · item)).length := by
  induction items with
  | nil => rfl
  | cons item others ih =>
    rw [List.flatMap_cons, List.flatMap_cons, List.length_append, List.length_append, ih]
    cases haccepts : accepts test item <;> simp only [List.filter_cons, haccepts] <;> grind

/-- Of what several tests keep one after the other, each item comes as often as tests accept it. -/
theorem countP_flatMap_filter (p : α → Bool) (items : List α) (tests : List β) :
    (tests.flatMap fun test => items.filter (accepts test)).countP p =
      ((items.filter p).flatMap fun item => tests.filter (accepts · item)).length := by
  induction tests with
  | nil => simp
  | cons test rest ih =>
    rw [List.flatMap_cons, List.countP_append, ih, List.countP_eq_length_filter, List.filter_comm,
      length_flatMap_filter_cons]

end

/-- The first item whose test fails ends the search. -/
theorem keepIf_error {α : Type} {test : α → Except Fault Bool} {before : List α} {item : α}
    {fault : Fault} (hbefore : ∀ x ∈ before, ∃ answer, test x = .ok answer)
    (h : test item = .error fault) (after : List α) :
    keepIf test (before ++ item :: after) = .error fault := by
  induction before with
  | nil => rw [List.nil_append, keepIf, h]; rfl
  | cons first rest ih =>
    obtain ⟨⟨answer, hfirst⟩, hrest⟩ := List.forall_mem_cons.mp hbefore
    rw [List.cons_append, keepIf, hfirst, ih hrest]
    rfl

section

variable {staticClasses : Bool} {rules : List TextRule} {symbols : List TypeSymbol}

/-- Where each rule has an answer for each symbol, the selection is what the rules accept. -/
theorem selectAll_textRules (harity : ∀ s ∈ symbols, ∃ n, s.arity = .ok n)
    (hscope : (∀ s ∈ symbols, s.hasTextScope = true) ∨ ∀ rule ∈ rules, rule.includeNested = false) :
    selectAll staticClasses symbols (rules.map TextRule.toRule) =
      .ok (rules.flatMap fun rule => symbols.filter (rule.Accepts staticClasses ·)) := by
  induction rules with
  | nil => rfl
  | cons rule rest ih =>
    have hkept : keepIf (rule.toRule.selects staticClasses) symbols =
        .ok (symbols.filter (rule.Accepts staticClasses ·)) := by
      refine keepIf_ok fun s hs => ?_
      obtain ⟨n, hn⟩ := harity s hs
      exact TextRule.selects_toRule staticClasses hn
        (hscope.imp (fun h => h s hs) fun h => h rule (by simp))
    rw [List.map_cons, selectAll, hkept, ih (hscope.imp_right fun h r hr => h r (by simp [hr]))]
    rfl

/-- A rule that looks inside of namespaces fails at the first namespace that is no text. -/
theorem selectAll_of_not_text (harity : ∀ s ∈ symbols, ∃ n, s.arity = .ok n) {odd : TypeSymbol}
    (hodd : symbols.find? (!·.hasTextScope) = some odd)
    (hnested : ∃ rule ∈ rules, rule.includeNested = true) :
    selectAll staticClasses symbols (rules.map TextRule.toRule) =
      unsuitable (.noMember odd.scope.kind "startswith") := by
  induction rules with
  | nil => simp at hnested
  | cons rule rest ih =>
    cases hrule : rule.includeNested with
    | true =>
      -- the symbols before have namespaces that are texts
      obtain ⟨hscope, before, after, hsymbols, hbefore⟩ := List.find?_eq_some_iff_append.mp hodd
      have hanswers : ∀ s ∈ before, ∃ answer, rule.toRule.selects staticClasses s = .ok answer := by
        intro s hs
        obtain ⟨n, hn⟩ := harity s (by simp [hsymbols, hs])
        exact ⟨_, TextRule.selects_toRule staticClasses hn (.inl (by simpa using hbefore s hs))⟩
      have hfails : rule.toRule.selects staticClasses odd = _ :=
        TextRule.selects_of_not_text staticClasses (by simpa using hscope) hrule
      rw [List.map_cons, selectAll, hsymbols, keepIf_error hanswers hfails]
      rfl
    | false =>
      have hkept : ∃ kept, keepIf (rule.toRule.selects staticClasses) symbols = .ok kept :=
        exists_keepIf_iff.mpr fun s hs =>
          (harity s hs).elim fun n hn => ⟨_, TextRule.selects_toRule staticClasses hn (.inr hrule)⟩
      obtain ⟨kept, hkept⟩ := hkept
      have hrest : ∃ r ∈ rest, r.includeNested = true := by simpa [hrule] using hnested
      rw [List.map_cons, selectAll, hkept, ih hrest]
      rfl

end

/-- A selection by rules of texts holds, rule by rule and for each rule in the order of the symbols,
what the rules accept, and so each symbol as often as rules accept it. There is none only where some
rule looks inside of namespaces and the namespace of some symbol is neither a text nor missing. -/
theorem Config.select_textRules (config : Config) (rules : List TextRule)
    (symbols : List TypeSymbol) (harity : ∀ s ∈ symbols, ∃ n, s.arity = .ok n) :
    (((∀ s ∈ symbols, s.hasTextScope = true) ∨ ∀ rule ∈ rules, rule.includeNested = false) →
      ∃ selected, { config with rules := rules.map TextRule.toRule }.select symbols = .ok selected ∧
        selected = (rules.flatMap fun rule =>
          symbols.filter (rule.Accepts config.includeStaticClasses.isTruthy ·)) ∧
        ∀ p : TypeSymbol → Bool, selected.countP p =
          ((symbols.filter p).flatMap fun s =>
            rules.filter (·.Accepts config.includeStaticClasses.isTruthy s)).length) ∧
    ∀ odd, symbols.find? (!·.hasTextScope) = some odd →
      (∃ rule ∈ rules, rule.includeNested = true) →
      { config with rules := rules.map TextRule.toRule }.select symbols =
        unsuitable (.noMember odd.scope.kind "startswith") := by
  refine ⟨fun hscope => ⟨_, selectAll_textRules harity hscope, rfl, fun p => ?_⟩,
    fun odd hodd hnested => selectAll_of_not_text harity hodd hnested⟩
  exact countP_flatMap_filter
    (fun rule s => decide (rule.Accepts config.includeStaticClasses.isTruthy s)) p symbols rules

/-- A type that two rules accept comes twice, and after it one that goes by the patterns for generic
types. -/
theorem Config.select_overlapping :
    ∃ selected, Config.select
        { rules := [
            { scope := "App.Sub", includeTypes := ["item"] },
            { scope := "App", excludeTypes := ["BOX"], includeNested := true }].map TextRule.toRule }
        [{ name := "LineItem", scope := .str "App.Sub" }, { name := "SmallBox", scope := .str "App" },
          { name := "SmallBox\x601", scope := .str "App" },
          { name := "Apple", scope := .str "Apple" }] = .ok selected ∧
      selected.map (·.name) = ["LineItem", "LineItem", "SmallBox\x601"] := by
  obtain ⟨hselects, -⟩ := Config.select_textRules {}
    [{ scope := "App.Sub", includeTypes := ["item"] },
      { scope := "App", excludeTypes := ["BOX"], includeNested := true }]
    [{ name := "LineItem", scope := .str "App.Sub" }, { name := "SmallBox", scope := .str "App" },
      { name := "SmallBox\x601", scope := .str "App" }, { name := "Apple", scope := .str "Apple" }]
    (by
      simp only [List.forall_mem_cons, List.not_mem_nil, false_imp_iff, implies_true, and_true]
      exact ⟨⟨0, rfl⟩, ⟨0, rfl⟩, ⟨1, rfl⟩, ⟨0, rfl⟩⟩)
  obtain ⟨selected, hselected, haccepted, -⟩ := hselects (by decide)
  refine ⟨selected, hselected, ?_⟩
  rw [haccepted]
  decide +kernel

/-- A rule that looks inside of namespaces has no answer about a number. Apart from that, a pattern
may stand in a name letter by letter and not be found: an accident of lower case, in which the last
sigma of a word differs from the others, and nothing that a rule asks for. -/
theorem Config.select_odd :
    Config.select { rules := [{ scope := "N", includeNested := true : TextRule }.toRule] }
        [{ name := "A", scope := .int 5 }] =
      unsuitable (.noMember .int "startswith") ∧
    "ΣΟΦΟΣ".toList <:+: "ΣΟΦΟΣX".toList ∧
    Config.select { rules := [{ scope := "N", includeTypes := ["ΣΟΦΟΣ"] : TextRule }.toRule] }
        [{ name := "ΣΟΦΟΣX", scope := .str "N" }] = .ok [] := by
  refine ⟨rfl, ⟨[], ['X'], rfl⟩, ?_⟩
  have hrefused : ¬ TextRule.Accepts false { scope := "N", includeTypes := ["ΣΟΦΟΣ"] }
      { name := "ΣΟΦΟΣX", scope := .str "N" } := by decide +kernel
  refine (@selectAll_textRules _ [_] _ ?_ (.inr ?_)).trans ?_
  · simpa using ⟨0, rfl⟩
  · simp
  · simp [Json.isTruthy, hrefused]

end Ambient
