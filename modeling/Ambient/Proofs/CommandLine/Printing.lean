/-
  Ambient.Proofs.CommandLine.Printing

  A command line with one more word in front that asks for the text to be printed. The words behind it
  are read as before, so that the two command lines ask for runs that differ in nothing else
  (`ofWords_stdout`).
-/
import Ambient.CommandLine.Arguments

namespace Ambient.CommandLine

/-! ## Arguments that ask for printing -/

/-- The arguments with the request to print the text. -/
def Arguments.printing (arguments : Arguments) : Arguments :=
  { arguments with stdout := true }

theorem Arguments.printing_quiet (arguments : Arguments) :
    arguments.printing.quiet = arguments.quiet := rfl

theorem Arguments.printing_verbose (arguments : Arguments) :
    arguments.printing.verbose = arguments.verbose := rfl

/-- What a command line asks for, with the request to print the text of a run. -/
def Invocation.printing : Invocation → Invocation
  | .run arguments => .run arguments.printing
  | other => other

/-- The progress with the request to print the text. -/
def Progress.printing (progress : Progress) : Progress :=
  { progress with arguments := progress.arguments.printing }

/-! ## Options -/

/-- The request to print the text does not matter to options. -/
theorem applyEffect_printing (arguments : Arguments) (effect : Effect) :
    applyEffect arguments.printing effect =
      (applyEffect arguments effect).map Arguments.printing := by
  cases effect with
  | flag flag =>
    cases flag with
    | help => rfl
    | version => rfl
    | stdout => rfl
    | verbose =>
      -- whether the two wishes exclude each other is the same question in both
      rw [applyEffect, applyEffect, Arguments.printing_quiet]
      split <;> rfl
    | quiet =>
      rw [applyEffect, applyEffect, Arguments.printing_verbose]
      split <;> rfl
  | setting setting value =>
    cases setting with
    | baseDirectory => rfl
    | outputNamespace => rfl
    | enumStyle =>
      cases value with
      | none => rfl
      | some word =>
        simp only [applyEffect]
        split <;> rfl

theorem applyEffects_printing (arguments : Arguments) (effects : List Effect) :
    applyEffects arguments.printing effects =
      (applyEffects arguments effects).map Arguments.printing := by
  induction effects generalizing arguments with
  | nil => rfl
  | cons effect rest ih =>
    rw [applyEffects, applyEffects, applyEffect_printing]
    cases applyEffect arguments effect with
    | error invocation => rfl
    | ok next => exact ih next

/-- What an option asks for instead of a run is no run. -/
theorem printing_of_applyEffect {arguments : Arguments} {effect : Effect} {invocation : Invocation}
    (h : applyEffect arguments effect = .error invocation) : invocation.printing = invocation := by
  unfold applyEffect at h
  split at h
  case h_1 | h_2 =>
    cases h
    rfl
  case h_4 | h_5 =>
    split at h
    · cases h
      rfl
    · cases h
  case h_9 =>
    split at h
    · cases h
    · cases h
      rfl
  all_goals cases h

theorem printing_of_applyEffects {arguments : Arguments} {effects : List Effect}
    {invocation : Invocation} (h : applyEffects arguments effects = .error invocation) :
    invocation.printing = invocation := by
  induction effects generalizing arguments with
  | nil => cases h
  | cons effect rest ih =>
    rw [applyEffects] at h
    cases hfirst : applyEffect arguments effect with
    | error other =>
      rw [hfirst] at h
      cases h
      exact printing_of_applyEffect hfirst
    | ok next =>
      rw [hfirst] at h
      exact ih h

theorem advance_printing (progress : Progress) (step : Step) :
    progress.printing.advance step = (progress.advance step).map Progress.printing := by
  simp only [Progress.advance, Progress.printing, applyEffects_printing]
  cases applyEffects progress.arguments step.effects <;> rfl

theorem printing_of_advance {progress : Progress} {step : Step} {invocation : Invocation}
    (h : progress.advance step = .error invocation) : invocation.printing = invocation := by
  rw [Progress.advance] at h
  cases heffects : applyEffects progress.arguments step.effects with
  | error other =>
    rw [heffects] at h
    cases h
    exact printing_of_applyEffects heffects
  | ok next =>
    rw [heffects] at h
    cases h

/-! ## Words -/

theorem takeArgument_printing (progress : Progress) (text : String) :
    progress.printing.takeArgument text = (progress.takeArgument text).printing := by
  obtain ⟨arguments, awaitsConfig, hasExtra⟩ := progress
  cases awaitsConfig <;> rfl

/-- What is read behind the options of one word. -/
theorem readStep_printing {fuel : Nat}
    (hlater : ∀ (progress : Progress) (words : List Word),
      readWords fuel progress.printing words = (readWords fuel progress words).printing)
    (progress : Progress) (step : Option Step) :
    (match step with
      | none => Invocation.misuse
      | some step =>
        match progress.printing.advance step with
        | .error invocation => invocation
        | .ok progress => readWords fuel progress step.rest) =
    (match step with
      | none => Invocation.misuse
      | some step =>
        match progress.advance step with
        | .error invocation => invocation
        | .ok progress => readWords fuel progress step.rest).printing := by
  cases step with
  | none => rfl
  | some step =>
    dsimp only
    rw [advance_printing]
    cases hadvance : progress.advance step with
    | error invocation => exact (printing_of_advance hadvance).symm
    | ok next => exact hlater next step.rest

/-- Words are read in the same way whether or not the text is to be printed. -/
theorem readWords_printing (fuel : Nat) (progress : Progress) (words : List Word) :
    readWords fuel progress.printing words = (readWords fuel progress words).printing := by
  induction fuel generalizing progress words with
  | zero => rfl
  | succ fuel ih =>
    cases words with
    | nil =>
      obtain ⟨arguments, awaitsConfig, hasExtra⟩ := progress
      cases hasExtra <;> rfl
    | cons word rest =>
      cases word with
      | argument text =>
        simp only [readWords, takeArgument_printing]
        exact ih _ _
      | separator =>
        exact ih { progress with hasExtra := progress.hasExtra || !progress.awaitsConfig } rest
      | unknown => exact ih { progress with hasExtra := true } rest
      | option choice => exact readStep_printing ih progress (readPlain? choice rest)
      | assigned choice value =>
        cases choice with
        | flag flag => rfl
        | setting setting =>
          exact readStep_printing ih progress (some { effects := [.assign setting value], rest })
      | attached choice tail => exact readStep_printing ih progress (readAttached? choice tail rest)

/-- The word for printing in front of a command line asks for what the rest asks for, and for the text
to be printed. -/
theorem ofWords_stdout (texts : List String) :
    Invocation.ofWords ("--stdout" :: texts) = (Invocation.ofWords texts).printing := by
  have hwords : words? ("--stdout" :: texts) =
      (words? texts).map fun words => .option (.flag .stdout) :: words := by
    rw [words?, if_neg (by decide), show word? "--stdout" = some (.option (.flag .stdout)) by rfl]
    cases words? texts <;> rfl
  rw [Invocation.ofWords, Invocation.ofWords, hwords]
  cases words? texts with
  | none => rfl
  | some words => exact readWords_printing (words.length + 1) {} words

end Ambient.CommandLine
