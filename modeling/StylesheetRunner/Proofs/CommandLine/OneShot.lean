import StylesheetRunner.CommandLine.Run
import StylesheetRunner.Proofs.Records.RoundTrip
import StylesheetRunner.Proofs.Transformation.Outcome

/-!
What a command that transforms once writes to its standard output: the result of the transformation,
or nothing. Lines of the log never stand there, whatever output is configured for them, and a stage
that fails, before the transformation or within it, leaves it empty.
-/

namespace StylesheetRunner

namespace Task

variable {task : Task} {files : FileTree} {stage : Stage}

/-- A transformation comes as far as a stage, and the stage fails. -/
def StopsAt (task : Task) (files : FileTree) (stage : Stage) : Prop :=
  ∃ before later ending after,
    task.stages = before ++ stage :: later ∧
    (task.follow before (.start files)).stop = none ∧
    task.perform (task.follow before (.start files)).progress stage = (some ending, after)

theorem ne_result_of_accountsFor {ending : Ending} (accounts : stage.AccountsFor ending)
    (result : Result) : ending ≠ .answered (.ok result) := by
  rintro rfl
  cases stage <;> simp [Stage.AccountsFor] at accounts

theorem StopsAt.ending_ne (stops : task.StopsAt files stage) (result : Result) :
    (task.transform files).ending ≠ .answered (.ok result) := by
  obtain ⟨before, later, ending, after, split, passes, stopped⟩ := stops
  have ended : (task.transform files).ending = ending := by
    rw [transform_eq_outcome, split, outcome_follow_append task passes,
      outcome_follow_of_stopped task later stopped]
    rfl
  rw [ended]
  exact ne_result_of_accountsFor (accountsFor_of_stopped stopped) result

theorem exists_result_or_stopsAt (task : Task) (files : FileTree) :
    (∃ result, (task.transform files).ending = .answered (.ok result)) ∨
      ∃ stage, task.StopsAt files stage := by
  rcases follow_cases task task.stages (.start files) with
    ⟨passes, -⟩ | ⟨before, failing, later, ending, split, -, passes, stopped, -⟩
  · refine .inl ⟨task.result (task.follow task.stages (.start files)).progress, ?_⟩
    rw [transform_eq_outcome]
    simp only [outcome, passes, Option.getD_none]
  · exact .inr ⟨failing, before, later, ending, _, split, passes, stopped⟩

end Task

theorem Logging.ConsoleOutput.select_oneShot_ne_stdout (configured : Option ConsoleOutput) :
    select .oneShot configured ≠ .stdout := by
  rcases configured with _ | _ | _ | _
  all_goals simp [select, ExecutionContext.reservesStdout]

namespace CommandLine

/-- What a command prints for a result: its document over several lines and a line break, which is
read back as the result. -/
structure Outcome.Prints (outcome : Outcome) (result : Result) : Prop where
  exitCode : outcome.exitCode = 0
  output : outcome.output = String.ofList (result.toValue.pretty ++ ['\n'])
  reads_back : Result.read (Text.Utf8.encode outcome.output.toList) = .ok result

structure Outcome.Fails (outcome : Outcome) : Prop where
  exitCode : outcome.exitCode = 1
  output : outcome.output = ""

namespace Outcome

variable {outcome : Outcome} {console : Logging.ConsoleOutput}

theorem output_behindLog (other : console ≠ .stdout) (lines : List String) (outcome : Outcome) :
    (outcome.behindLog console lines).output = outcome.output := by
  cases console with
  | stdout => exact absurd rfl other
  | stderr => rfl
  | silent => rfl

theorem exitCode_behindLog (console : Logging.ConsoleOutput) (lines : List String)
    (outcome : Outcome) : (outcome.behindLog console lines).exitCode = outcome.exitCode := by
  cases console <;> rfl

theorem Prints.behindLog {result : Result} (prints : outcome.Prints result)
    (other : console ≠ .stdout) (lines : List String) :
    (outcome.behindLog console lines).Prints result := by
  have same := output_behindLog other lines outcome
  constructor
  · rw [exitCode_behindLog, prints.exitCode]
  · rw [same, prints.output]
  · rw [same, prints.reads_back]

theorem Fails.behindLog (fails : outcome.Fails) (other : console ≠ .stdout)
    (lines : List String) : (outcome.behindLog console lines).Fails := by
  constructor
  · rw [exitCode_behindLog, fails.exitCode]
  · rw [output_behindLog other lines, fails.output]

theorem fails_failure (report : ErrorReport) (files : FileTree) :
    (failure report files).Fails :=
  ⟨rfl, rfl⟩

theorem prints_ofTransformation {done : Transformation} {result : Result}
    (answered : done.ending = .answered (.ok result)) : (ofTransformation done).Prints result := by
  have takes := Result.takes_rearranged (Result.schema.rearranged_self result.toValue)
  -- The line break behind the document is a gap as any other.
  have read := Json.readWhole_written takes (Json.written_pretty result.toValue) Json.isGap_nil
    (Json.isGap_newLine 0)
  have output : (ofTransformation done).output =
      String.ofList (result.toValue.pretty ++ ['\n']) := by
    simp only [ofTransformation, answered, success]
  refine ⟨?_, output, ?_⟩
  · simp only [ofTransformation, answered, success]
  · rw [output, String.toList_ofList]
    exact read

theorem fails_ofTransformation {done : Transformation}
    (unanswered : ∀ result, done.ending ≠ .answered (.ok result)) :
    (ofTransformation done).Fails := by
  unfold ofTransformation
  split
  next result answered => exact absurd answered (unanswered result)
  next => exact ⟨rfl, rfl⟩
  next => exact ⟨rfl, rfl⟩

end Outcome

/-- A command begins its transformation: the log is set up, the settings are loaded and checked, and
the stylesheet is read. -/
structure Begins (surroundings : Surroundings) (log : Logging.Facility)
    (arguments : TransformArguments) (task : Task) (files : FileTree) : Prop where
  logged : ∃ console, prepareLog surroundings log (.transform arguments) = .ok (console, files)
  configured : ∃ configuration,
    configure surroundings files arguments.config none arguments.timeout = .ok configuration ∧
      task.transformer = .ofConfiguration configuration surroundings.runner
  stylesheet : ∃ stylesheet,
    readStylesheet surroundings files arguments.stylesheet = .ok stylesheet ∧
      task.request = arguments.request stylesheet
  circumstances : task.circumstances = surroundings.circumstances

inductive CommandStage where
  | log
  | settings
  | stylesheet
  | transformation (stage : Stage)

/-- A command comes as far as one of its parts, and the part fails. -/
inductive FailsAt (surroundings : Surroundings) (log : Logging.Facility)
    (arguments : TransformArguments) : CommandStage → Prop
  | log {report : ErrorReport}
      (refused : prepareLog surroundings log (.transform arguments) = .error report) :
      FailsAt surroundings log arguments .log
  | settings {console : Logging.ConsoleOutput} {files : FileTree} {report : ErrorReport}
      (logged : prepareLog surroundings log (.transform arguments) = .ok (console, files))
      (refused : configure surroundings files arguments.config none arguments.timeout =
        .error report) : FailsAt surroundings log arguments .settings
  | stylesheet {console : Logging.ConsoleOutput} {files : FileTree} {configuration : Configuration}
      {report : ErrorReport}
      (logged : prepareLog surroundings log (.transform arguments) = .ok (console, files))
      (configured : configure surroundings files arguments.config none arguments.timeout =
        .ok configuration)
      (refused : readStylesheet surroundings files arguments.stylesheet = .error report) :
      FailsAt surroundings log arguments .stylesheet
  | transformation {task : Task} {files : FileTree} {stage : Stage}
      (begins : Begins surroundings log arguments task files) (stops : task.StopsAt files stage) :
      FailsAt surroundings log arguments (.transformation stage)

section

variable {surroundings : Surroundings} {log : Logging.Facility} {arguments : TransformArguments}
  {console : Logging.ConsoleOutput} {files : FileTree} {configuration : Configuration}
  {stylesheet : String} {report : ErrorReport}

/-- Whatever is configured, the log of a one-shot command has no output on standard output. -/
theorem prepareLog_transform_ne_stdout
    (logged : prepareLog surroundings log (.transform arguments) = .ok (console, files)) :
    console ≠ .stdout := by
  unfold prepareLog at logged
  dsimp only at logged
  split at logged
  next => cases logged
  next settings _ =>
    have other := Logging.ConsoleOutput.select_oneShot_ne_stdout settings.consoleOutput
    split at logged
    next => cases logged
    next =>
      split at logged
      next =>
        split at logged
        next => cases logged
        next =>
          cases logged
          exact other
      next =>
        cases logged
        exact other

theorem prepareLog_of_no_file {command : Command} {settings : Logging.Settings}
    (loaded : Logging.Settings.load surroundings.files surroundings.working
      (some (settingsDirectory surroundings.working command.config)) surroundings.environment =
        .ok settings)
    (taken : log.refusal? settings.defaultLevel = none) (no_file : settings.fileEnabled = false) :
    prepareLog surroundings log command =
      .ok (.select command.context settings.consoleOutput, surroundings.files) := by
  unfold prepareLog
  dsimp only
  rw [loaded]
  dsimp only
  rw [taken]
  simp [no_file]

section Runs

variable {words : List String} (read : CommandLine.read words = .ok (.transform arguments))
include read

theorem runLogged_of_no_log
    (refused : prepareLog surroundings log (.transform arguments) = .error report) :
    runLogged surroundings log words = .failure report surroundings.files := by
  unfold runLogged
  rw [read]
  dsimp only
  rw [refused]

theorem runLogged_of_log
    (logged : prepareLog surroundings log (.transform arguments) = .ok (console, files)) :
    runLogged surroundings log words =
      (runTransform surroundings files arguments).behindLog console log.lines := by
  unfold runLogged
  rw [read]
  dsimp only
  rw [logged]
  rfl

theorem runLogged_of_no_settings
    (logged : prepareLog surroundings log (.transform arguments) = .ok (console, files))
    (refused : configure surroundings files arguments.config none arguments.timeout =
      .error report) :
    runLogged surroundings log words =
      (Outcome.failure report files).behindLog console log.lines := by
  rw [runLogged_of_log read logged]
  unfold runTransform
  rw [refused]
  rfl

theorem runLogged_of_no_stylesheet
    (logged : prepareLog surroundings log (.transform arguments) = .ok (console, files))
    (configured : configure surroundings files arguments.config none arguments.timeout =
      .ok configuration)
    (refused : readStylesheet surroundings files arguments.stylesheet = .error report) :
    runLogged surroundings log words =
      (Outcome.failure report files).behindLog console log.lines := by
  rw [runLogged_of_log read logged]
  unfold runTransform
  rw [configured, refused]
  rfl

theorem runLogged_of_stylesheet
    (logged : prepareLog surroundings log (.transform arguments) = .ok (console, files))
    (configured : configure surroundings files arguments.config none arguments.timeout =
      .ok configuration)
    (held : readStylesheet surroundings files arguments.stylesheet = .ok stylesheet) :
    let task : Task := ⟨.ofConfiguration configuration surroundings.runner,
      surroundings.circumstances, arguments.request stylesheet⟩
    runLogged surroundings log words =
      (Outcome.ofTransformation (task.transform files)).behindLog console log.lines := by
  rw [runLogged_of_log read logged]
  unfold runTransform
  rw [configured, held]
  rfl

end Runs

theorem Begins.unique {task task' : Task} {files files' : FileTree}
    (begins : Begins surroundings log arguments task files)
    (begins' : Begins surroundings log arguments task' files') : task' = task ∧ files' = files := by
  obtain ⟨⟨console, logged⟩, ⟨configuration, configured, transformer⟩,
    ⟨stylesheet, read, request⟩, circumstances⟩ := begins
  obtain ⟨⟨console', logged'⟩, ⟨configuration', configured', transformer'⟩,
    ⟨stylesheet', read', request'⟩, circumstances'⟩ := begins'
  obtain ⟨-, rfl⟩ := Prod.mk.inj (Except.ok.inj (logged.symm.trans logged'))
  obtain rfl := Except.ok.inj (configured.symm.trans configured')
  obtain rfl := Except.ok.inj (read.symm.trans read')
  obtain ⟨_, _, _⟩ := task
  obtain ⟨_, _, _⟩ := task'
  simp_all

theorem Begins.not_failsAt {task : Task} {result : Result} {stage : CommandStage}
    (begins : Begins surroundings log arguments task files)
    (answered : (task.transform files).ending = .answered (.ok result)) :
    ¬ FailsAt surroundings log arguments stage := by
  obtain ⟨console, logged⟩ := begins.logged
  obtain ⟨configuration, configured, -⟩ := begins.configured
  obtain ⟨stylesheet, read, -⟩ := begins.stylesheet
  intro fails
  cases fails with
  | log refused => simp [logged] at refused
  | settings logged' refused =>
    obtain ⟨-, rfl⟩ := Prod.mk.inj (Except.ok.inj (logged.symm.trans logged'))
    simp [configured] at refused
  | stylesheet logged' _ refused =>
    obtain ⟨-, rfl⟩ := Prod.mk.inj (Except.ok.inj (logged.symm.trans logged'))
    simp [read] at refused
  | transformation begins' stops =>
    obtain ⟨rfl, rfl⟩ := begins.unique begins'
    exact stops.ending_ne result answered

end

/-- **Standard output is the result or nothing.** A command that transforms once, whatever its
surroundings and its log are, fails at one of its parts and prints nothing, or fails at none and
prints the result of its transformation, which is read back from there. -/
theorem prints_result_or_nothing (surroundings : Surroundings) (log : Logging.Facility)
    {words : List String} {arguments : TransformArguments}
    (read : CommandLine.read words = .ok (.transform arguments)) :
    let outcome := runLogged surroundings log words
    ((∃ stage, FailsAt surroundings log arguments stage) ∧ outcome.Fails) ∨
    ((∀ stage, ¬ FailsAt surroundings log arguments stage) ∧
      ∃ task files result, Begins surroundings log arguments task files ∧
        (task.transform files).ending = .answered (.ok result) ∧ outcome.Prints result) := by
  intro outcome
  rcases logged : prepareLog surroundings log (.transform arguments) with
    report | ⟨console, files⟩
  · have ran : outcome = _ := runLogged_of_no_log read logged
    rw [ran]
    exact .inl ⟨⟨_, .log logged⟩, Outcome.fails_failure report _⟩
  -- From here on the log is there, and in the way of nothing.
  have other : console ≠ .stdout := prepareLog_transform_ne_stdout logged
  cases configured : configure surroundings files arguments.config none arguments.timeout with
  | error report =>
    have ran : outcome = _ := runLogged_of_no_settings read logged configured
    rw [ran]
    exact .inl ⟨⟨_, .settings logged configured⟩,
      (Outcome.fails_failure report files).behindLog other log.lines⟩
  | ok configuration =>
    cases held : readStylesheet surroundings files arguments.stylesheet with
    | error report =>
      have ran : outcome = _ := runLogged_of_no_stylesheet read logged configured held
      rw [ran]
      exact .inl ⟨⟨_, .stylesheet logged configured held⟩,
        (Outcome.fails_failure report files).behindLog other log.lines⟩
    | ok stylesheet =>
      let task : Task := ⟨.ofConfiguration configuration surroundings.runner,
        surroundings.circumstances, arguments.request stylesheet⟩
      have ran : outcome = (Outcome.ofTransformation (task.transform files)).behindLog _ _ :=
        runLogged_of_stylesheet read logged configured held
      have begins : Begins surroundings log arguments task files :=
        ⟨⟨console, logged⟩, ⟨configuration, configured, rfl⟩, ⟨stylesheet, held, rfl⟩, rfl⟩
      rw [ran]
      rcases task.exists_result_or_stopsAt files with ⟨result, answered⟩ | ⟨stage, stops⟩
      · refine .inr ⟨fun _ => begins.not_failsAt answered, task, files, result, begins, answered,
          ?_⟩
        exact (Outcome.prints_ofTransformation answered).behindLog other log.lines
      · refine .inl ⟨⟨_, .transformation begins stops⟩, ?_⟩
        exact (Outcome.fails_ofTransformation stops.ending_ne).behindLog other log.lines

/-- A log that is told to go to standard output, and a processor that writes its output and then
ends well or runs out of time: the one run prints the result and the other nothing. -/
theorem prints_result_or_nothing_of_console_log :
    let table := "[logging]\nconsole_output = 'stdout'\n"
    let files := ((FileTree.empty.insert ["tmp"] .directory).insert ["logging.toml"]
      (.file (Text.Utf8.encode table.toList))).insert ["a.xsl"]
        (.file (Text.Utf8.encode "<xsl/>".toList))
    let runner (inTime : Bool) : Runner := fun command budget files =>
      (if inTime then .finished "" ⟨0⟩ else .failed (.timeout budget),
        files.insert (command.directory ++ ["result.xml"])
          (.file (Text.Utf8.encode "<é a=\"1\"/>\n".toList)))
    let surroundings (inTime : Bool) : Surroundings :=
      ⟨files, [], ⟨[]⟩, runner inTime, ⟨["tmp", "xslt1"], ⟨0⟩⟩, fun _ => none⟩
    let log : Logging.Facility := ⟨fun _ => none, ["INFO saxon finished\n"]⟩
    let words := ["transform", "a.xsl"]
    Logging.Settings.load files [] (some "/") ⟨[]⟩ =
        .ok { Logging.Settings.default with consoleOutput := some .stdout } ∧
      (runLogged (surroundings true) log words).Prints ⟨"<é a=\"1\"/>\n", 0, [], ""⟩ ∧
      (runLogged (surroundings false) log words).Fails := by
  intro table files runner surroundings log words
  let arguments : TransformArguments := ⟨"a.xsl", [], false, "app.config", none⟩
  let task (inTime : Bool) : Task :=
    ⟨.ofConfiguration .default (runner inTime), ⟨["tmp", "xslt1"], ⟨0⟩⟩,
      arguments.request "<xsl/>"⟩
  have read : CommandLine.read words = .ok (.transform arguments) := by decide +kernel
  have loaded : Logging.Settings.load files [] (some "/") ⟨[]⟩ =
      .ok { Logging.Settings.default with consoleOutput := some .stdout } :=
    by decide +kernel
  have directory : settingsDirectory [] "app.config" = "/" := by decide +kernel
  have logged (inTime : Bool) : prepareLog (surroundings inTime) log (.transform arguments) =
      .ok (.stderr, files) := by
    have from_directory : Logging.Settings.load (surroundings inTime).files
        (surroundings inTime).working (some (settingsDirectory (surroundings inTime).working
          (Command.transform arguments).config)) (surroundings inTime).environment = _ :=
      (congrArg (fun place => Logging.Settings.load files [] (some place) ⟨[]⟩) directory).trans
        loaded
    have taken : log.refusal? "info" = none := rfl
    have made := prepareLog_of_no_file from_directory taken rfl
    exact made
  have configured : ∀ inTime,
      configure (surroundings inTime) files "app.config" none none = .ok .default := by
    decide +kernel
  have held : ∀ inTime, readStylesheet (surroundings inTime) files "a.xsl" = .ok "<xsl/>" := by
    decide +kernel
  have begins (inTime : Bool) :
      Begins (surroundings inTime) log arguments (task inTime) files :=
    ⟨⟨_, logged inTime⟩, ⟨_, configured inTime, rfl⟩, ⟨_, held inTime, rfl⟩, rfl⟩
  have ended : ((task true).transform files).ending =
      .answered (.ok ⟨"<é a=\"1\"/>\n", 0, [], ""⟩) := by
    decide +kernel
  have expired : ((task false).transform files).ending =
      .answered (.error (.timeout ⟨10000000000⟩)) := by
    decide +kernel
  refine ⟨loaded, ?_, ?_⟩
  · rcases prints_result_or_nothing (surroundings true) log read with
      ⟨⟨stage, fails⟩, -⟩ | ⟨-, _, _, result, begins', answered, prints⟩
    · exact absurd fails ((begins true).not_failsAt ended)
    · obtain ⟨rfl, rfl⟩ := (begins true).unique begins'
      cases ended.symm.trans answered
      exact prints
  · rcases prints_result_or_nothing (surroundings false) log read with
      ⟨-, fails⟩ | ⟨-, _, _, result, begins', answered, -⟩
    · exact fails
    · obtain ⟨rfl, rfl⟩ := (begins false).unique begins'
      cases expired.symm.trans answered

end CommandLine

end StylesheetRunner
