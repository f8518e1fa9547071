/-
  Ambient.Proofs.CommandLine.Absence

  When a run ends because something is missing. Once the configuration file is there, no stage of a
  run fails with a fault of that kind: the manifests that are missing are faults of discovery, and the
  directories of the output file are made before it is written (`ofResult_eq_notFound_iff`).
-/
import Ambient.CommandLine.Run
import Ambient.Proofs.Manifest.Refusals
import Ambient.Proofs.Model.Builder
import Ambient.Proofs.Source.Placing

namespace Ambient

open CommandLine (Exit)

/-! ## Steps that miss nothing -/

/-- A step that does not fail because something is missing. -/
def NeverMisses {α : Type} (x : Except Fault α) : Prop :=
  ∀ fault, x = .error fault → Exit.ofFault fault ≠ .notFound

namespace NeverMisses

variable {α β : Type}

theorem ok (a : α) : NeverMisses (.ok a : Except Fault α) := by
  rintro fault ⟨⟩

theorem error {fault : Fault} (h : Exit.ofFault fault ≠ .notFound) :
    NeverMisses (.error fault : Except Fault α) := by
  rintro _ ⟨⟩
  exact h

theorem unsuitable (cause : ValueFault) :
    NeverMisses (Ambient.unsuitable cause : Except Fault α) :=
  error (by simp [Exit.ofFault])

theorem config (cause : ConfigFault) : NeverMisses (.error (.config cause) : Except Fault α) :=
  error (by simp [Exit.ofFault])

theorem bind {x : Except Fault α} {next : α → Except Fault β} (hx : NeverMisses x)
    (hnext : ∀ a, x = .ok a → NeverMisses (next a)) : NeverMisses (x >>= next) := by
  cases x with
  | error fault => exact error (hx fault rfl)
  | ok a => exact hnext a rfl

theorem map {x : Except Fault α} (hx : NeverMisses x) (f : α → β) :
    NeverMisses (x >>= fun a => .ok (f a)) :=
  hx.bind fun a _ => ok (f a)

theorem mapConst {x : Except Fault α} (hx : NeverMisses x) (f : α → β) : NeverMisses (f <$> x) := by
  cases x with
  | error fault => exact error (hx fault rfl)
  | ok a => exact ok (f a)

theorem mapError {ε : Type} {f : ε → Fault} {x : Except ε α}
    (h : ∀ cause, x = .error cause → Exit.ofFault (f cause) ≠ .notFound) :
    NeverMisses (x.mapError f) := by
  cases x with
  | error cause => exact error (h cause rfl)
  | ok a => exact ok a

theorem ite {c : Prop} [Decidable c] {x y : Except Fault α} (hx : NeverMisses x)
    (hy : NeverMisses y) : NeverMisses (if c then x else y) := by
  split
  · exact hx
  · exact hy

theorem mapM {step : α → Except Fault β} {items : List α}
    (h : ∀ item ∈ items, NeverMisses (step item)) : NeverMisses (items.mapM step) := by
  induction items with
  | nil => exact ok []
  | cons first rest ih =>
    have hfirst := h first (by simp)
    have hrest := ih fun item hitem => h item (by simp [hitem])
    rw [List.mapM_cons]
    exact hfirst.bind fun b _ => hrest.map (b :: ·)

theorem keepIf {test : α → Except Fault Bool} (h : ∀ item, NeverMisses (test item))
    (items : List α) : NeverMisses (Ambient.keepIf test items) := by
  induction items with
  | nil => exact ok []
  | cons first rest ih => exact (h first).bind fun keep _ => ih.map _

/-- The reading of values that ends in one of the ways of manifests misses nothing. -/
theorem of_ends {flawed : Prop} {x : Except Fault α} (h : Manifest.Ends flawed x) :
    NeverMisses x := by
  cases h with
  | result a _ => exact ok a
  | refused cause => exact error (by simp [Exit.ofFault])
  | stray cause _ _ => exact unsuitable cause

end NeverMisses

/-! ## Values -/

namespace Json

theorem items_neverMisses (value : Json) : NeverMisses value.items := by
  rw [items.eq_def]
  split
  case h_4 => exact .unsuitable _
  all_goals exact .ok _

theorem textFor_neverMisses (member : String) (value : Json) :
    NeverMisses (value.textFor member) := by
  rw [textFor.eq_def]
  split
  · exact .ok _
  · exact .unsuitable _

end Json

/-! ## Configuration -/

namespace Config

theorem isFilled_neverMisses (value : Json) : NeverMisses (isFilled value) :=
  .ite ((value.textFor_neverMisses "strip").map _) (.ok _)

theorem allFilled_neverMisses (values : List Json) : NeverMisses (allFilled values) := by
  induction values with
  | nil => exact .ok _
  | cons value rest ih => exact (isFilled_neverMisses value).bind fun filled _ => .ite ih (.ok _)

theorem demand_neverMisses (condition : Bool) (fault : ConfigFault) :
    NeverMisses (demand condition fault) :=
  .ite (.ok _) (.config fault)

theorem isNegativeSize_neverMisses (size : Json) : NeverMisses (isNegativeSize size) := by
  rw [isNegativeSize.eq_def]
  split
  · exact .ok _
  · split
    · exact .ok _
    · exact .unsuitable _

theorem check_neverMisses (c : Config) : NeverMisses (check c) := by
  have hlast : NeverMisses (do
      demand (← isFilled c.outputPath) .noOutputPath
      demand (← isFilled c.outputFileName) .noOutputFileName
      demand (!c.rules.isEmpty) .noNamespace
      demand (← allFilled (c.rules.map (·.scope))) .emptyNamespace
      demand (!(← isNegativeSize c.indentSize)) .negativeIndent) := by
    refine (isFilled_neverMisses _).bind fun _ _ => (demand_neverMisses _ _).bind fun _ _ => ?_
    refine (isFilled_neverMisses _).bind fun _ _ => (demand_neverMisses _ _).bind fun _ _ => ?_
    refine (demand_neverMisses _ _).bind fun _ _ => ?_
    refine (allFilled_neverMisses _).bind fun _ _ => (demand_neverMisses _ _).bind fun _ _ => ?_
    exact (isNegativeSize_neverMisses _).bind fun _ _ => demand_neverMisses _ _
  refine (isFilled_neverMisses _).bind fun _ _ => (demand_neverMisses _ _).bind fun _ _ => ?_
  refine (demand_neverMisses _ _).bind fun _ _ => .ite ?_ hlast
  refine (Json.items_neverMisses _).bind fun _ _ => (allFilled_neverMisses _).bind fun _ _ => ?_
  exact (demand_neverMisses _ _).bind fun _ _ => hlast

theorem ofFields_neverMisses (data : List (String × Json)) : NeverMisses (ofFields data) := by
  have hrule : ∀ entry, NeverMisses (Rule.ofJson entry) := by
    intro entry
    rw [Rule.ofJson.eq_def]
    split
    case h_3 => exact .config _
    all_goals exact .ok _
  have hrules : ∀ entries, NeverMisses (Rule.listOfJson entries) := by
    intro entries
    rw [Rule.listOfJson]
    split
    · exact .mapM fun entry _ => hrule entry
    · exact .config _
  have hstyle : ∀ settings, NeverMisses (enumStyleOf settings) := by
    intro settings
    rw [enumStyleOf]
    split
    · exact .ok _
    · rw [EnumStyle.ofJson]
      split
      · exact .ok _
      · exact .config _
  exact (hrules _).bind fun rules _ => (hstyle _).map _

theorem documentAt_neverMisses (files : FileTree) (path : Path) :
    NeverMisses (documentAt files path) := by
  refine NeverMisses.bind (.mapError fun fault _ => ?_) fun text _ => ?_
  · -- what the file system refuses is a fault of the configuration
    cases fault <;> simp [readFault, Exit.ofFault]
  · refine .ite (.error (by simp [Exit.ofFault])) ?_
    split
    · exact .ok _
    · exact .error (by simp [Exit.ofFault])
    · exact .config _

/-- A configuration in a file that is there misses nothing. -/
theorem load_neverMisses {files : FileTree} {path : Path} (h : files.contains path = .ok true) :
    NeverMisses (load files path) := by
  rw [load, h]
  refine (documentAt_neverMisses files path).bind fun data _ => ?_
  split
  · exact (ofFields_neverMisses _).bind fun c _ => (check_neverMisses c).map _
  · exact .config _

theorem manifestPaths_neverMisses (c : Config) : NeverMisses c.manifestPaths :=
  .ite (Json.items_neverMisses _) (.ite (.ok _) (.ok _))

end Config

theorem Generator.ofConfig_neverMisses (c : Config) : NeverMisses (Generator.ofConfig c) := by
  refine NeverMisses.map ?_ _
  refine .ite (.ok _) ?_
  split
  · exact .ite (.ok _) (.unsuitable _)
  · exact .unsuitable _

/-! ## Manifests -/

theorem Url.ofLocation_neverMisses (location : String) : NeverMisses (Url.ofLocation location) := by
  rw [Url.ofLocation]
  cases Url.parts location with
  | ok url => exact .ok url
  | error cause => exact .error (by simp [Exit.ofFault])

theorem isUrl_neverMisses (location : String) : NeverMisses (isUrl location) :=
  (Url.ofLocation_neverMisses location).map _

namespace World

variable (world : World)

theorem source_neverMisses {α : Type} (cause : SourceFault) :
    NeverMisses (.error (.source cause) : Except Fault α) :=
  .error (by simp [Exit.ofFault])

theorem answer_neverMisses (url : String) (response : Response) :
    NeverMisses (answer url response) := by
  cases response with
  | page status body =>
    refine .ite (source_neverMisses _) (.ite (.error (by simp [Exit.ofFault])) ?_)
    split
    · exact .ok _
    all_goals exact source_neverMisses _
  | refusedBody status reason => exact .ite (source_neverMisses _) (source_neverMisses _)
  | noResponse => exact .unsuitable _
  | _ => exact source_neverMisses _

theorem loadUrl_neverMisses (location : String) : NeverMisses (world.loadUrl location) := by
  refine (Url.ofLocation_neverMisses location).bind fun url _ => .ite (source_neverMisses _) ?_
  exact (answer_neverMisses _ _).map _

/-- A document in a file is missing with its file, or misses nothing. -/
theorem loadFile_cases (path : Path) :
    world.loadFile path = .error (.fileMissing path.text) ∨ NeverMisses (world.loadFile path) := by
  rw [loadFile]
  cases hpresent : world.files.contains path with
  | error fault =>
    obtain ⟨text, rfl, -⟩ := FileTree.contains_eq_error hpresent
    exact .inr (.error (by simp [Exit.ofFault]))
  | ok present =>
    cases present with
    | false => exact .inl rfl
    | true =>
      have hread : NeverMisses ((world.files.read path).mapError (readFault path)) :=
        .mapError fun fault _ => by cases fault <;> simp [readFault, Exit.ofFault]
      refine .inr (hread.bind fun text _ => .ite (.error (by simp [Exit.ofFault])) ?_)
      split
      · exact .ok _
      · exact .error (by simp [Exit.ofFault])
      · exact source_neverMisses _

theorem load_cases (location : String) :
    (∃ path, world.load location = .error (.fileMissing path)) ∨
      NeverMisses (world.load location) := by
  rw [load]
  split
  · exact .inr (source_neverMisses _)
  · have hurl := isUrl_neverMisses location
    cases hweb : isUrl location with
    | error fault => exact .inr (.error (hurl fault hweb))
    | ok web =>
      dsimp only [bind, Except.bind]
      split
      · exact .inr (world.loadUrl_neverMisses location)
      · exact (world.loadFile_cases _).imp_left fun h => ⟨_, h⟩

end World

namespace Discovery

theorem pathOf_neverMisses (value : Json) : NeverMisses (pathOf value) := by
  rw [pathOf.eq_def]
  split
  · exact .ok _
  · exact .unsuitable _

theorem resolveLocation_neverMisses (cwd : Path) (base location : Json) :
    NeverMisses (resolveLocation cwd base location) := by
  refine (isUrl_neverMisses _).bind fun web _ => .ite (.ok _) ?_
  refine (pathOf_neverMisses _).bind fun path _ => .ite (.ok _) ?_
  exact .ite ((pathOf_neverMisses _).map _) (.ok _)

/-- A manifest that is missing is a fault of discovery. -/
theorem symbolsAt_neverMisses (world : World) (place : String) :
    NeverMisses (symbolsAt world place) := by
  refine NeverMisses.bind ?_ fun loaded _ => .of_ends (Manifest.symbolsOf_ends _)
  rcases world.load_cases place with ⟨path, h⟩ | h
  · rw [h]
    exact .error (by simp [loadFault, Exit.ofFault])
  · refine .mapError fun fault hload => ?_
    have hfault := h fault hload
    cases fault <;> first | exact hfault | simp [loadFault, Exit.ofFault]

theorem loadManifests_neverMisses (world : World) (config : Config) (locations : List Json) :
    NeverMisses (loadManifests world config locations) := by
  induction locations with
  | nil => exact .ok _
  | cons location rest ih =>
    have hsymbols : NeverMisses (symbolsOfLocation world config location) :=
      (resolveLocation_neverMisses _ _ _).bind fun place _ => symbolsAt_neverMisses world place
    exact hsymbols.bind fun symbols _ => ih.map _

theorem loadConfigured_neverMisses (world : World) (config : Config) :
    NeverMisses (loadConfigured world config) :=
  config.manifestPaths_neverMisses.bind fun locations _ =>
    loadManifests_neverMisses world config locations

end Discovery

/-! ## Selection -/

theorem Arity.declared_neverMisses (name : String) : NeverMisses (Arity.declared name) := by
  rw [Arity.declared.eq_def]
  split
  · exact .ok _
  · refine .ite (.ok _) ?_
    split
    · exact .ok _
    · exact .unsuitable _

namespace Rule

theorem coversScope_neverMisses (rule : Rule) (symbol : TypeSymbol) :
    NeverMisses (rule.coversScope symbol) := by
  refine NeverMisses.mapConst ?_ _
  rw [coverage]
  split
  · exact .ok _
  · refine .ite (.ok _) (.ite (NeverMisses.mapConst ?_ _) (.ok _))
    refine (Json.textFor_neverMisses _ _).bind fun inner _ => ?_
    split
    · exact .ok _
    · exact .unsuitable _

theorem anyOccurs_neverMisses (lowered : List Char) (patterns : List Json) :
    NeverMisses (anyOccurs lowered patterns) := by
  induction patterns with
  | nil => exact .ok _
  | cons pattern rest ih =>
    exact (Json.textFor_neverMisses _ _).bind fun p _ => .ite (.ok _) ih

theorem matchesAny_neverMisses (name : String) (patterns : Json) :
    NeverMisses (matchesAny name patterns) :=
  patterns.items_neverMisses.bind fun items _ => anyOccurs_neverMisses _ items

theorem admitsName_neverMisses (rule : Rule) (symbol : TypeSymbol) :
    NeverMisses (rule.admitsName symbol) := by
  have hgeneric : NeverMisses symbol.isGenericDefinition :=
    ((Arity.declared_neverMisses _).map _).map _
  have hmatches : ∀ name patterns, NeverMisses ((!·) <$> matchesAny name patterns) :=
    fun name patterns => (matchesAny_neverMisses name patterns).mapConst _
  refine hgeneric.bind fun generic _ => ?_
  refine .ite ((hmatches _ _).bind fun missed _ => ?_) ((NeverMisses.ok false).bind fun missed _ => ?_)
  all_goals exact .ite (.ok _) (.ite (hmatches _ _) (.ok _))

theorem selects_neverMisses (rule : Rule) (staticClasses : Bool) (symbol : TypeSymbol) :
    NeverMisses (rule.selects staticClasses symbol) :=
  (rule.coversScope_neverMisses symbol).bind fun _ _ =>
    .ite (.ok _) (.ite (.ok _) (.ite (.ok _) (rule.admitsName_neverMisses symbol)))

end Rule

theorem selectAll_neverMisses (staticClasses : Bool) (symbols : List TypeSymbol)
    (rules : List Rule) : NeverMisses (selectAll staticClasses symbols rules) := by
  induction rules with
  | nil => exact .ok _
  | cons rule rest ih =>
    have hselected := NeverMisses.keepIf (rule.selects_neverMisses staticClasses) symbols
    exact hselected.bind fun selected _ => ih.map _

/-! ## Text -/

theorem Model.ofSymbols_neverMisses (symbols : List TypeSymbol) :
    NeverMisses (Model.ofSymbols symbols) := by
  intro fault h
  have hadmitted : ∀ symbol, NeverMisses (Builder.admitted symbol) := by
    intro symbol
    cases symbol with
    | none => exact .error (by simp [Exit.ofFault])
    | some s =>
      refine (Arity.declared_neverMisses _).bind fun declared _ => ?_
      refine .ite (.error (by simp [Exit.ofFault])) ?_
      rw [TypeSymbol.asKey]
      split
      · exact .unsuitable _
      · exact .ok _
  obtain ⟨b, hadd⟩ : ∃ b, Builder.empty.addAll (symbols.map some) = (b, some fault) :=
    ⟨_, Prod.ext rfl (ofSymbols_eq_error_iff.mp h)⟩
  obtain ⟨_, refused, _, -, hrefused, -⟩ := Builder.addAll_fails hadd
  exact hadmitted refused fault hrefused

namespace Pipeline

variable (p : Pipeline)

theorem discover_neverMisses (world : World) : NeverMisses (p.discover world) :=
  (Discovery.loadConfigured_neverMisses world p.config).bind fun symbols _ =>
    selectAll_neverMisses _ symbols _

theorem renderSymbols_neverMisses (symbols : List TypeSymbol) :
    NeverMisses (p.renderSymbols symbols) := by
  refine .ite (.ok _) ((Model.ofSymbols_neverMisses symbols).bind fun model _ => ?_)
  split
  · exact .error (by simp [Exit.ofFault])
  · refine NeverMisses.map (.ite (.ok _) ?_) _
    exact NeverMisses.map (.ite (Json.textFor_neverMisses _ _) (.ok _)) _

theorem render_neverMisses (world : World) : NeverMisses (p.render world none) :=
  (p.discover_neverMisses world).bind fun symbols _ => p.renderSymbols_neverMisses symbols

theorem outputPath_neverMisses (cwd : Path) (directory fileName : Json) :
    NeverMisses (outputPath cwd directory fileName) :=
  (Discovery.pathOf_neverMisses directory).bind fun _ _ =>
    (Discovery.pathOf_neverMisses fileName).bind fun _ _ =>
      .ite (.error (by simp [Exit.ofFault])) (.ok _)

/-- A file without missing directories is written at the end of the steps of its path, or is refused,
but not because something is missing. -/
theorem writeOutput_cases {path : Path} (hroot : path.isAbsolute = true)
    (hup : ".." ∉ path.steps) (files : FileTree) (text : String) :
    (∃ after, writeOutput files path text = .ok after ∧
      after.files = FileTree.setBytes path.steps (text ++ "\n").toUTF8 files.files) ∨
    ∃ fault, writeOutput files path text = .error fault ∧ Exit.ofFault fault ≠ .notFound := by
  -- of the faults of files only a missing one has that exit
  have hfile : ∀ fault : FileFault, (∀ shown, fault ≠ .refused .missing shown) →
      Exit.ofFault (.file fault) ≠ .notFound := by
    intro fault hfault
    cases fault with
    | refused problem shown =>
      cases problem <;> first | exact (hfault shown rfl).elim | simp [Exit.ofFault]
    | _ => simp [Exit.ofFault]
  rw [writeOutput]
  cases hmade : files.makeDirectory { path with steps := path.steps.dropLast } with
  | error fault =>
    refine .inr ⟨_, rfl, hfile fault ?_⟩
    rintro shown rfl
    exact FileTree.makeDirectory_ne_missing hmade
  | ok made =>
    obtain ⟨hfiles, habove⟩ := FileTree.makeDirectory_ok hmade
    rcases FileTree.write_of_above hroot hup habove (text ++ "\n") with hwrite | ⟨fault, hwrite, hne⟩
    · refine .inl ⟨_, by simp only [Except.mapError, bind, Except.bind, hwrite]; rfl, ?_⟩
      rw [hfiles]
    · exact .inr ⟨_, by simp only [Except.mapError, bind, Except.bind, hwrite], hfile fault hne⟩

theorem write_neverMisses (world : World) (rendering : Rendering) :
    NeverMisses (p.write world rendering) := by
  refine .ite (.ok _) ((outputPath_neverMisses _ _ _).bind fun path _ => NeverMisses.map ?_ _)
  intro fault h
  rcases writeOutput_cases rfl (Path.not_up_mem_resolve _ path) world.files rendering.text with
    ⟨after, hafter, -⟩ | ⟨fault', hfault, hne⟩
  · rw [hafter] at h
    cases h
  · rw [hfault] at h
    cases h
    exact hne

end Pipeline

/-! ## Whole runs -/

namespace CommandLine

/-- A run whose configuration has a path that is too long fails with that. -/
theorem perform_of_tooLong {arguments : Arguments} {world : World} {text : String}
    (h : world.files.placeOf arguments.configPath = .error (.refused .nameTooLong text)) :
    arguments.perform world = .error (.file (.refused .nameTooLong text)) := by
  have hpresent : world.files.contains arguments.configPath =
      .error (.refused .nameTooLong text) := by
    rw [FileTree.contains, h]
  rw [Arguments.perform, Arguments.load, Config.load, hpresent]
  rfl

theorem ofResult_of_isTooLong {arguments : Arguments} {world : World}
    (h : world.files.IsTooLong arguments.configPath) :
    Exit.ofResult (arguments.perform world) = .unexpected := by
  obtain ⟨text, hplace⟩ := h
  rw [perform_of_tooLong hplace]
  rfl

/-- A run ends because something is missing exactly if nothing is found at the path of its
configuration. -/
theorem ofResult_eq_notFound_iff (arguments : Arguments) (world : World) :
    Exit.ofResult (arguments.perform world) = .notFound ↔
      ¬ world.files.Holds arguments.configPath ∧ ¬ world.files.IsTooLong arguments.configPath := by
  rw [← FileTree.contains_eq_false_iff]
  cases hpresent : world.files.contains arguments.configPath with
  | error fault =>
    obtain ⟨text, rfl, hplace⟩ := FileTree.contains_eq_error hpresent
    rw [ofResult_of_isTooLong ⟨text, hplace⟩]
    simp
  | ok present =>
    cases present with
    | false =>
      have hload : arguments.perform world = .error (.configMissing arguments.configPath.text) := by
        rw [Arguments.perform, Arguments.load, Config.load, hpresent]
        rfl
      rw [hload]
      simp [Exit.ofResult, Exit.ofFault]
    | true =>
      -- once the configuration is there, no stage ends the run in this way
      have hperform : NeverMisses (arguments.perform world) := by
        refine ((Config.load_neverMisses hpresent).map _).bind fun config _ => ?_
        refine (Generator.ofConfig_neverMisses config).map _ |>.bind fun pipeline _ => ?_
        exact .ite ((pipeline.render_neverMisses world).map _)
          (((pipeline.render_neverMisses world).bind fun rendering _ =>
            pipeline.write_neverMisses world rendering).map _)
      cases hresult : arguments.perform world with
      | ok outcome => simp [Exit.ofResult]
      | error fault => simpa [Exit.ofResult] using hperform fault hresult

end CommandLine

end Ambient
