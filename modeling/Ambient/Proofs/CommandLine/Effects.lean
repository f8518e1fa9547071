/-
  Ambient.Proofs.CommandLine.Effects

  What a run from the command line does to files, and its exit code. A run that fails, prints its text
  or has none changes no file. Any other run writes its text to the output file and to no other, and
  with the request for printing it prints the same characters (`answer_effects`).
-/
import Ambient.CommandLine.Report
import Ambient.Proofs.CommandLine.Absence
import Ambient.Proofs.CommandLine.Printing

namespace Ambient

/-! ## Final texts -/

/-- Without symbols the declarations are the empty text, whatever the configuration is. -/
theorem generateDeclarations_nil {config : Config} {generator : Generator}
    (hgenerator : Generator.ofConfig config = .ok generator) :
    ∃ generation, generateDeclarations [] (some config) = .ok (.done generation) ∧
      generation.code = "" := by
  refine ⟨{ code := "", warnings := [], moduleCount := 0, classCount := 0, enumCount := 0 }, ?_, rfl⟩
  have hmodel : Model.ofSymbols [] = .ok {} := rfl
  have houtcome : generator.outcome {} {} =
      .done { code := "", warnings := [], moduleCount := 0, classCount := 0, enumCount := 0 } := rfl
  simp only [generateDeclarations, hmodel, Generator.ofConfig?, hgenerator, bind, Except.bind,
    houtcome]
  rfl

/-- The final text of a run is that of the declarations of its symbols. -/
theorem generateDeclarations_of_renderSymbols {config : Config} {generator : Generator}
    (hgenerator : Generator.ofConfig config = .ok generator) {symbols : List TypeSymbol}
    {rendering : Pipeline.Rendering}
    (h : Pipeline.renderSymbols { config, generator } symbols = .ok rendering) :
    ∃ generation, generateDeclarations symbols (some config) = .ok (.done generation) ∧
      generation.code = rendering.text := by
  rw [Pipeline.renderSymbols] at h
  split at h
  · rename_i hempty
    cases h
    rw [List.isEmpty_iff.mp hempty]
    exact generateDeclarations_nil hgenerator
  · obtain ⟨model, hmodel, h⟩ := bind_eq_ok h
    split at h
    · cases h
    · rename_i generation houtcome
      obtain ⟨text, htext, h⟩ := bind_eq_ok h
      cases h
      refine ⟨{ generation with code := text }, ?_, rfl⟩
      simp only [generateDeclarations, hmodel, Generator.ofConfig?, hgenerator, bind, Except.bind,
        houtcome, Config.markerOf] at htext ⊢
      rw [htext]

namespace FileTree

/-- A text is in the file at a place, and all other files are as they were. -/
def IsOnlyChange (before after : FileTree) (place : List String) (text : String) : Prop :=
  after.bytes? place = some text.toUTF8 ∧
    ∀ other, other ≠ place → after.bytes? other = before.bytes? other

theorem isOnlyChange_setBytes {before after : FileTree} {place : List String} {text : String}
    (h : after.files = setBytes place text.toUTF8 before.files) :
    before.IsOnlyChange after place text := by
  constructor
  · rw [bytes?, h, lookup_setBytes]
  · intro other hne
    rw [bytes?, bytes?, h, lookup_setBytes_of_ne hne]

end FileTree

namespace CommandLine

variable {arguments : Arguments} {world : World}

/-! ## Runs that succeed -/

/-- A run of some arguments has a configuration, which leads to symbols with a final text. -/
structure Arguments.Gives (arguments : Arguments) (world : World) (config : Config)
    (text : String) : Prop where
  load : arguments.load world.files = .ok config
  declares : ∃ symbols generation,
    (do config.select (← Discovery.loadConfigured world config)) = .ok symbols ∧
      generateDeclarations symbols (some config) = .ok (.done generation) ∧ generation.code = text

/-- The stages of a run that does not fail. -/
theorem perform_eq_ok {outcome : Outcome} (h : arguments.perform world = .ok outcome) :
    ∃ config generator rendering,
      arguments.load world.files = .ok config ∧ Generator.ofConfig config = .ok generator ∧
      Pipeline.render { config, generator } world none = .ok rendering ∧
      (arguments.stdout = true ∧ outcome = .printed rendering.text ∨
        arguments.stdout = false ∧ ∃ run,
          Pipeline.write { config, generator } world rendering = .ok run ∧
            outcome = .finished config run) := by
  rw [Arguments.perform] at h
  obtain ⟨config, hload, h⟩ := bind_eq_ok h
  obtain ⟨pipeline, hpipeline, h⟩ := bind_eq_ok h
  rw [Pipeline.ofConfig] at hpipeline
  obtain ⟨generator, hgenerator, hpipeline⟩ := bind_eq_ok hpipeline
  cases hpipeline
  -- the two ways part after the generator is set up
  cases hstdout : arguments.stdout with
  | true =>
    rw [hstdout, if_pos rfl] at h
    obtain ⟨rendering, hrendering, h⟩ := bind_eq_ok h
    cases h
    exact ⟨config, generator, rendering, hload, hgenerator, hrendering, .inl ⟨rfl, rfl⟩⟩
  | false =>
    rw [hstdout, if_neg Bool.false_ne_true] at h
    obtain ⟨run, hrun, h⟩ := bind_eq_ok h
    cases h
    obtain ⟨rendering, hrendering, hwrite⟩ := bind_eq_ok hrun
    exact ⟨config, generator, rendering, hload, hgenerator, hrendering,
      .inr ⟨rfl, run, hwrite, rfl⟩⟩

/-- What is rendered is given by the arguments. -/
theorem gives_of_render {config : Config} {generator : Generator}
    {rendering : Pipeline.Rendering} (hload : arguments.load world.files = .ok config)
    (hgenerator : Generator.ofConfig config = .ok generator)
    (h : Pipeline.render { config, generator } world none = .ok rendering) :
    arguments.Gives world config rendering.text := by
  obtain ⟨symbols, hsymbols, h⟩ := bind_eq_ok h
  obtain ⟨generation, hgeneration, htext⟩ := generateDeclarations_of_renderSymbols hgenerator h
  exact ⟨hload, symbols, generation, hsymbols, hgeneration, htext⟩

/-- What a text that is written leaves behind: no change where it is empty, and otherwise the output
file of the configuration. -/
theorem write_eq_ok {p : Pipeline} {rendering : Pipeline.Rendering} {run : Pipeline.Run}
    (h : p.write world rendering = .ok run) :
    rendering.text = "" ∧ run.files = world.files ∨
      rendering.text ≠ "" ∧ ∃ path,
        Pipeline.outputPath (Discovery.workingDirectory world) p.config.outputPath
          p.config.outputFileName = .ok path ∧
        world.files.IsOnlyChange run.files
          (Path.resolve (Discovery.workingDirectory world) path).steps (rendering.text ++ "\n") := by
  rw [Pipeline.write] at h
  split at h
  · rename_i hempty
    cases h
    exact .inl ⟨by simpa using hempty, rfl⟩
  · rename_i hfull
    obtain ⟨path, hpath, h⟩ := bind_eq_ok h
    obtain ⟨after, hafter, h⟩ := bind_eq_ok h
    cases h
    refine .inr ⟨by simpa using hfull, path, hpath, ?_⟩
    rcases Pipeline.writeOutput_cases rfl (Path.not_up_mem_resolve _ path) world.files
      rendering.text with ⟨written, hwritten, hfiles⟩ | ⟨fault, hfault, -⟩
    · rw [hwritten] at hafter
      cases hafter
      exact FileTree.isOnlyChange_setBytes hfiles
    · rw [hfault] at hafter
      cases hafter

/-! ## Reports -/

/-- Whether what a run shows can be printed: its summary and the line about its outcome, or the line
about its fault. -/
def Arguments.canPrint (arguments : Arguments) (world : World) : Bool :=
  match arguments.perform world with
  | .ok outcome => (arguments.report (outcome.files world.files) outcome).isOk
  | .error fault => (failureReport world.files fault).isOk

theorem canPrint_eq (arguments : Arguments) (world : World) :
    arguments.canPrint world =
      match arguments.perform world with
      | .ok outcome => (arguments.report (outcome.files world.files) outcome).isOk
      | .error fault => (failureReport world.files fault).isOk := by
  delta Arguments.canPrint
  rfl

theorem exists_of_isOk {ε α : Type} {x : Except ε α} (h : x.isOk = true) : ∃ a, x = .ok a := by
  cases x with
  | error _ => cases h
  | ok a => exact ⟨a, rfl⟩

theorem report_eq_ok {files : FileTree} {outcome : Outcome} {report : Report}
    (h : arguments.report files outcome = .ok report) :
    report.exit = .ok ∧ report.files = files := by
  cases outcome with
  | printed text =>
    cases h
    exact ⟨rfl, rfl⟩
  | finished config run =>
    rw [Arguments.report] at h
    split at h
    all_goals
      obtain ⟨summary, -, h⟩ := bind_eq_ok h
      obtain ⟨text, -, h⟩ := bind_eq_ok h
      cases h
      exact ⟨rfl, rfl⟩

theorem failureReport_eq_ok {files : FileTree} {fault : Fault} {report : Report}
    (h : failureReport files fault = .ok report) :
    report.exit = Exit.ofFault fault ∧ report.files = files := by
  obtain ⟨text, -, h⟩ := bind_eq_ok h
  cases h
  exact ⟨rfl, rfl⟩

/-- The ways in which a run can end have different codes. -/
theorem code_injective {a b : Exit} (h : a.code = b.code) : a = b := by
  cases a <;> cases b <;> first | rfl | cases h

/-- A run that fails does not end well. -/
theorem ofFault_ne_ok (fault : Fault) : Exit.ofFault fault ≠ .ok := by
  rw [Exit.ofFault.eq_def]
  split <;> exact fun h => nomatch h

theorem execute_eq (arguments : Arguments) (world : World) :
    arguments.execute world =
      match arguments.perform world with
      | .error fault => failureReport world.files fault
      | .ok outcome =>
        match arguments.report (outcome.files world.files) outcome with
        | .ok report => .ok report
        | .error fault => failureReport (outcome.files world.files) fault := by
  delta Arguments.execute
  rfl

/-- A run that can be printed has a report, which ends as the run does and has the files that it leaves
behind. -/
theorem exists_answer {texts : List String} (hrun : Invocation.ofWords texts = .run arguments)
    (hprint : arguments.canPrint world = true) :
    ∃ report, answer texts world = .ok (.report report) ∧
      report.exit = Exit.ofResult (arguments.perform world) ∧
      (∀ fault, arguments.perform world = .error fault → report.files = world.files) ∧
      ∀ outcome, arguments.perform world = .ok outcome →
        report.files = outcome.files world.files ∧
          arguments.report (outcome.files world.files) outcome = .ok report := by
  rw [canPrint_eq] at hprint
  rw [answer, hrun]
  dsimp only
  rw [execute_eq]
  -- that the run can be printed is asked of the line that it ends with
  cases hperform : arguments.perform world with
  | error fault =>
    rw [hperform] at hprint
    obtain ⟨report, hreport⟩ := exists_of_isOk hprint
    obtain ⟨hexit, hfiles⟩ := failureReport_eq_ok hreport
    exact ⟨report, by simp only [hreport, bind, Except.bind], hexit, fun _ _ => hfiles,
      fun _ h => (nomatch h)⟩
  | ok outcome =>
    rw [hperform] at hprint
    obtain ⟨report, hreport⟩ := exists_of_isOk hprint
    obtain ⟨hexit, hfiles⟩ := report_eq_ok hreport
    refine ⟨report, by simp only [hreport, bind, Except.bind], hexit, fun _ h => (nomatch h), ?_⟩
    rintro _ ⟨⟩
    exact ⟨hfiles, hreport⟩

/-- A run that is shown to its end can be printed and ends well. -/
theorem canPrint_of_reported
    (h : (do
      let outcome ← arguments.perform world
      arguments.report (outcome.files world.files) outcome).isOk = true) :
    arguments.canPrint world = true ∧ Exit.ofResult (arguments.perform world) = .ok := by
  rw [canPrint_eq]
  cases hperform : arguments.perform world with
  | error fault =>
    rw [hperform] at h
    cases h
  | ok outcome =>
    rw [hperform] at h
    exact ⟨h, rfl⟩

/-- With the request for printing, a run prints the text that is rendered and changes nothing. -/
theorem answer_stdout {texts : List String} (hrun : Invocation.ofWords texts = .run arguments)
    {config : Config} {generator : Generator} {rendering : Pipeline.Rendering}
    (hload : arguments.load world.files = .ok config)
    (hgenerator : Generator.ofConfig config = .ok generator)
    (hrendering : Pipeline.render { config, generator } world none = .ok rendering) :
    answer ("--stdout" :: texts) world = .ok (.report
      { exit := .ok, text := printed rendering.text, files := world.files }) := by
  have hperform : arguments.printing.perform world = .ok (.printed rendering.text) := by
    rw [Arguments.perform, show arguments.printing.load world.files = .ok config from hload]
    simp only [Pipeline.ofConfig, hgenerator, bind, Except.bind]
    rw [if_pos (show arguments.printing.stdout = true from rfl), hrendering]
  rw [answer, ofWords_stdout, hrun]
  dsimp only [Invocation.printing]
  rw [execute_eq, hperform]
  rfl

/-! ## Effects -/

/-- The effects of a run whose output can be printed. Its exit code is one exactly if nothing is at the
path of its configuration, unless that path is too long, which is unexpected. A run that fails, prints
its text or has an empty one changes no file. Any other run changes the output file of its
configuration, to the text of its declarations and a line feed, and no other file; with the request for
printing it prints these characters. -/
theorem answer_effects {texts : List String} (hrun : Invocation.ofWords texts = .run arguments)
    (hprint : arguments.canPrint world = true) :
    ∃ report, answer texts world = .ok (.report report) ∧
      (report.exit.code = 1 ↔
        ¬ world.files.Holds arguments.configPath ∧ ¬ world.files.IsTooLong arguments.configPath) ∧
      (world.files.IsTooLong arguments.configPath → report.exit.code = 3) ∧
      (report.exit.code ≠ 0 → report.files.files = world.files.files) ∧
      (report.exit.code = 0 → ∃ config text, arguments.Gives world config text ∧
        (arguments.stdout = true → report.shown = printed text) ∧
        (arguments.stdout = true ∨ text = "" → report.files.files = world.files.files) ∧
        (arguments.stdout = false → text ≠ "" →
          (∃ path, Pipeline.outputPath (Discovery.workingDirectory world) config.outputPath
              config.outputFileName = .ok path ∧
            world.files.IsOnlyChange report.files
              (Path.resolve (Discovery.workingDirectory world) path).steps (text ++ "\n")) ∧
          ∃ printout, answer ("--stdout" :: texts) world = .ok (.report printout) ∧
            printout.shown = text ++ "\n" ∧ printout.files.files = world.files.files)) := by
  obtain ⟨report, hanswer, hexit, hfailed, hdone⟩ := exists_answer hrun hprint
  refine ⟨report, hanswer, ?_, ?_, ?_, ?_⟩
  · -- nothing but a missing configuration has this code
    rw [← ofResult_eq_notFound_iff, ← hexit]
    exact ⟨fun h => code_injective h, fun h => by rw [h]; rfl⟩
  · intro hlong
    rw [hexit, ofResult_of_isTooLong hlong]
    rfl
  · intro hcode
    cases hperform : arguments.perform world with
    | error fault => rw [hfailed fault hperform]
    | ok outcome =>
      rw [hexit, hperform] at hcode
      exact (hcode rfl).elim
  · intro hcode
    cases hperform : arguments.perform world with
    | error fault =>
      rw [hperform] at hexit
      have hok : report.exit = .ok := code_injective hcode
      exact (ofFault_ne_ok fault (hexit.symm.trans hok)).elim
    | ok outcome =>
      -- a run that ends well has rendered a text, and printed it or handed it to the writer
      obtain ⟨hfiles, hreport⟩ := hdone outcome hperform
      obtain ⟨config, generator, rendering, hload, hgenerator, hrendering, hway⟩ :=
        perform_eq_ok hperform
      have hgives := gives_of_render hload hgenerator hrendering
      have hprinted := answer_stdout hrun hload hgenerator hrendering
      refine ⟨config, rendering.text, hgives, ?_⟩
      rcases hway with ⟨hstdout, rfl⟩ | ⟨hstdout, run, hwrite, rfl⟩
      case inl =>
        obtain rfl : { exit := .ok, text := printed rendering.text, files := world.files } = report :=
          Except.ok.inj hreport
        exact ⟨fun _ => rfl, fun _ => rfl, fun h => (by rw [hstdout] at h; cases h)⟩
      case inr =>
        -- an empty text is not written, and any other changes one file
        rcases write_eq_ok hwrite with ⟨hempty, hrunfiles⟩ | ⟨hfull, path, hpath, hchange⟩
        · refine ⟨fun h => ?_, fun _ => ?_, fun _ h => (h hempty).elim⟩
          · rw [hstdout] at h
            cases h
          · rw [hfiles, Outcome.files, hrunfiles]
        · refine ⟨fun h => ?_, fun h => ?_, fun _ _ => ⟨⟨path, hpath, ?_⟩, _, hprinted, ?_, rfl⟩⟩
          · rw [hstdout] at h
            cases h
          · rw [hstdout] at h
            exact (h.elim (fun h => nomatch h) hfull).elim
          · rw [hfiles]
            exact hchange
          · simp [Report.shown, printed, hfull]

/-- A directory with a configuration and a manifest of one type. -/
def oneType : World where
  files := {
    files := [
      (["c"], "\x7b\"manifest\":\"t\",\"outputPath\":\"o\",\"namespaces\":[\"N\"]\x7d".toUTF8),
      (["t"], "[\x7b\"name\":\"A\",\"namespace\":\"N\"\x7d]".toUTF8)] }

theorem answer_effects_oneType :
    ∃ report config text, answer ["--quiet", "c"] oneType = .ok (.report report) ∧
      report.exit.code = 0 ∧
      ({ config := "c", quiet := true } : Arguments).Gives oneType config text := by
  have hrun : Invocation.ofWords ["--quiet", "c"] = .run { config := "c", quiet := true } := by
    decide
  have hreported : ({ config := "c", quiet := true } : Arguments).canPrint oneType = true ∧
      Exit.ofResult (({ config := "c", quiet := true } : Arguments).perform oneType) = .ok :=
    canPrint_of_reported (by decide +kernel)
  obtain ⟨hprint, hok⟩ := hreported
  obtain ⟨report, hanswer, -, -, -, hdone⟩ := answer_effects hrun hprint
  obtain ⟨report', hanswer', hexit, -⟩ := exists_answer hrun hprint
  have hcode : report.exit.code = 0 := by
    cases hanswer.symm.trans hanswer'
    rw [hexit, hok]
    rfl
  obtain ⟨config, text, hgives, -⟩ := hdone hcode
  exact ⟨report, config, text, hanswer, hcode, hgives⟩

/-! ## Paths that are too long -/

/-- The characters of a name that is longer than names of files can be. -/
@[irreducible] def overlongChars : List Char := List.replicate 256 'a'

/-- A name that is longer than names of files can be. -/
def overlongName : String := String.ofList overlongChars

theorem toList_overlongName : overlongName.toList = overlongChars := String.toList_ofList

theorem size_overlongName : overlongName.utf8ByteSize = 256 := by decide +kernel

theorem overlongName_ne {s : String} (h : s.toList.length < 256) : overlongName ≠ s := by
  have hlength : overlongChars.length = 256 := by decide +kernel
  rintro rfl
  rw [toList_overlongName, hlength] at h
  exact Nat.lt_irrefl _ h

theorem ofWords_overlongName :
    Invocation.ofWords [overlongName] = .run { config := overlongName } := by
  have hword : word? overlongName = some (.argument overlongName) := by
    rw [word?, toList_overlongName, overlongChars]
    rfl
  have hne : overlongName ≠ "--" := overlongName_ne (by decide)
  rw [Invocation.ofWords, words?, beq_false_of_ne hne, hword]
  rfl

theorem ofText_overlongName :
    Path.ofText overlongName = { root := "", steps := [overlongName] } := by
  have hsplit : Text.splitOn '/' overlongChars = [overlongChars] := by decide +kernel
  have hsteps : Path.stepsOf overlongName = [overlongName] := by
    have hempty : overlongName ≠ "" := overlongName_ne (by decide)
    have hdot : overlongName ≠ "." := overlongName_ne (by decide)
    rw [Path.stepsOf, toList_overlongName, hsplit]
    change List.filter _ [overlongName] = [overlongName]
    simp [hempty, hdot]
  rw [Path.ofText, hsteps, toList_overlongName, overlongChars]
  rfl

/-- The file system refuses a name that is too long, wherever it is asked for. -/
theorem placeOf_overlongName (tree : FileTree) :
    tree.placeOf (Path.ofText overlongName) = .error (.refused .nameTooLong overlongName) := by
  have htext : Path.text { root := "", steps := [overlongName] } = overlongName := by
    simp [Path.text, String.joinWith]
  have hnul : overlongChars.contains (Char.ofNat 0) = false := by decide +kernel
  have hup : overlongName ≠ ".." := overlongName_ne (by decide)
  have hwalk : tree.walk tree.cwd [overlongName] = .error .nameTooLong := by
    rw [FileTree.walk, beq_false_of_ne hup, size_overlongName]
    rfl
  rw [ofText_overlongName, FileTree.placeOf, htext, toList_overlongName, hnul, size_overlongName]
  simp [Path.isAbsolute, FileTree.maxPathSize, hwalk]

/-- The characters of the line about a file that is refused. -/
theorem toList_refused (problem : FileProblem) (path : String) :
    (Exit.heading .unexpected ++ (Fault.file (.refused problem path)).message).toList =
      (Exit.heading .unexpected ++
        ("[Errno " ++ toString problem.number ++ "] " ++ problem.words ++ ": ")).toList ++
        Text.quoted path.toList := by
  have hmessage : (Fault.file (.refused problem path)).message =
      "[Errno " ++ toString problem.number ++ "] " ++ problem.words ++ ": " ++
        String.ofList (Text.quoted path.toList) := by
    delta Fault.message FileFault.message String.inQuotes
    rfl
  rw [hmessage]
  generalize Exit.heading .unexpected = heading
  generalize "[Errno " ++ toString problem.number ++ "] " ++ problem.words ++ ": " = cause
  simp

theorem failureReport_overlongName (files : FileTree) :
    (failureReport files (.file (.refused .nameTooLong overlongName))).isOk = true := by
  have hheading : Exit.heading .unexpected ++ ("[Errno " ++
      toString (FileProblem.number .nameTooLong) ++ "] " ++ FileProblem.words .nameTooLong ++ ": ") =
      "[red]✗ Unexpected error:[/red] [Errno 36] File name too long: " := by
    decide +kernel
  have hplain : (Console.plain
      ("[red]✗ Unexpected error:[/red] [Errno 36] File name too long: ".toList ++
        Text.quoted overlongChars)).isOk = true := by
    decide +kernel
  obtain ⟨text, htext⟩ := exists_of_isOk hplain
  have hexit : Exit.ofFault (.file (.refused .nameTooLong overlongName)) = .unexpected := rfl
  rw [failureReport, Console.line, Console.shown, hexit, toList_refused, hheading,
    toList_overlongName, htext]
  rfl

/-- Nothing is at a path that is too long, and a run whose configuration has one ends in a way that is
not expected all the same. -/
theorem answer_of_tooLong {texts : List String} (hrun : Invocation.ofWords texts = .run arguments)
    {text : String}
    (hplace : world.files.placeOf arguments.configPath = .error (.refused .nameTooLong text))
    (hprint : (failureReport world.files (.file (.refused .nameTooLong text))).isOk = true) :
    arguments.canPrint world = true ∧ ¬ world.files.Holds arguments.configPath ∧
      ∃ report, answer texts world = .ok (.report report) ∧ report.exit.code = 3 := by
  have hperform := perform_of_tooLong hplace
  have hcan : arguments.canPrint world = true := by
    rw [canPrint_eq, hperform]
    exact hprint
  refine ⟨hcan, ?_, ?_⟩
  · rintro ⟨place, hother, -⟩
    rw [hplace] at hother
    cases hother
  · obtain ⟨report, hanswer, hexit, -⟩ := exists_answer hrun hcan
    refine ⟨report, hanswer, ?_⟩
    rw [hexit, hperform]
    rfl

theorem answer_overlongName :
    Invocation.ofWords [overlongName] = .run { config := overlongName } ∧
    ({ config := overlongName } : Arguments).canPrint {} = true ∧
    ¬ ({} : FileTree).Holds ({ config := overlongName } : Arguments).configPath ∧
    ∃ report, answer [overlongName] {} = .ok (.report report) ∧ report.exit.code = 3 := by
  have hplace : ({} : FileTree).placeOf ({ config := overlongName } : Arguments).configPath =
      .error (.refused .nameTooLong overlongName) := placeOf_overlongName {}
  exact ⟨ofWords_overlongName,
    answer_of_tooLong ofWords_overlongName hplace (failureReport_overlongName {})⟩

end CommandLine

end Ambient
