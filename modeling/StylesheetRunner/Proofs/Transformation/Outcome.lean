import StylesheetRunner.Proofs.Transformation.StageEffects

/-!
How a transformation ends. The first stage that fails gives the ending and accounts for it; without
a failure the result is told by the files that the one launch leaves, and by its diagnostics only
where a trace is asked for and the trace file holds nothing.
-/

namespace StylesheetRunner

deriving instance DecidableEq for Ending

/-- The endings that a stage may force: each stage names the file it is about, or the parameter. -/
def Stage.AccountsFor : Stage → Ending → Prop
  | .acquisition, ending => ∃ cause, ending = .answered (.error (.file .workspace cause))
  | .parameterCheck, ending => ∃ name, ending = .answered (.error (.invalidParameter name))
  | .writing write, ending => ∃ cause, ending = .answered (.error (.file write.role cause))
  | .launch, ending => ending = .broken ∨ ∃ failure, ending = .answered (.error failure)
  | .outputReading, ending => ∃ cause, ending = .answered (.error (.file .output cause))

def LaunchEnd.silenced : LaunchEnd → LaunchEnd
  | .finished _ elapsed => .finished "" elapsed
  | .failed (.process _) => .failed (.process "")
  | other => other

def DifferInDiagnostics (first second : Runner) : Prop :=
  ∀ command budget files,
    (first command budget files).2 = (second command budget files).2 ∧
      (first command budget files).1.silenced = (second command budget files).1.silenced

namespace Workspace

theorem acquire_eq_error {directory : Path} {tree : FileTree} {failure : Failure}
    (refused : acquire directory tree = .error failure) :
    ∃ cause, failure = .file .workspace cause := by
  unfold acquire at refused
  split at refused
  next => cases refused
  next cause _ => exact ⟨cause, (Except.error.inj refused).symm⟩

theorem readOutput_eq_ok {workspace : Workspace} {tree : FileTree} {output : String}
    (success : workspace.readOutput tree = .ok output) :
    ∃ bytes, tree.read workspace.outputPath = .ok bytes ∧
      output = String.ofList (Text.Utf8.decodeLossy bytes) := by
  unfold readOutput at success
  split at success
  next bytes held => exact ⟨bytes, held, (Except.ok.inj success).symm⟩
  next => cases success

theorem readOutput_eq_error {workspace : Workspace} {tree : FileTree} {failure : Failure}
    (failed : workspace.readOutput tree = .error failure) :
    ∃ cause, failure = .file .output cause := by
  unfold readOutput at failed
  split at failed
  next => cases failed
  next cause _ => exact ⟨cause, (Except.error.inj failed).symm⟩

end Workspace

theorem Text.Utf8.decodeLossy_encode (text : List Char) : decodeLossy (encode text) = text := by
  unfold decodeLossy
  rw [pieces_encode, List.map_map]
  exact List.map_id text

namespace Task
variable {task : Task} {progress after : Progress} {stage : Stage} {ending : Ending}

theorem accountsFor_of_stopped (stopped : task.perform progress stage = (some ending, after)) :
    stage.AccountsFor ending := by
  cases stage with
  | acquisition =>
    simp only [perform] at stopped
    split at stopped
    next => cases stopped
    next failure refused =>
      obtain ⟨cause, rfl⟩ := Workspace.acquire_eq_error refused
      cases stopped
      exact ⟨cause, rfl⟩
  | parameterCheck =>
    simp only [perform] at stopped
    split at stopped
    next => cases stopped
    next failure refused =>
      obtain ⟨name, rfl⟩ := Invocation.checkParameters_eq_error refused
      cases stopped
      exact ⟨name, rfl⟩
  | writing write =>
    simp only [perform] at stopped
    split at stopped
    next => cases stopped
    next failure refused =>
      obtain ⟨cause, rfl⟩ := FileWrite.perform_eq_error refused
      cases stopped
      exact ⟨cause, rfl⟩
  | launch =>
    simp only [perform] at stopped
    split at stopped
    next => cases stopped
    next failure _ _ =>
      cases stopped
      exact .inr ⟨failure, rfl⟩
    next =>
      cases stopped
      exact .inl rfl
  | outputReading =>
    simp only [perform] at stopped
    split at stopped
    next => cases stopped
    next failure refused =>
      obtain ⟨cause, rfl⟩ := Workspace.readOutput_eq_error refused
      cases stopped
      exact ⟨cause, rfl⟩

theorem length_launches_perform (task : Task) (progress : Progress) (stage : Stage) :
    (task.perform progress stage).2.launches.length =
      progress.launches.length + [stage].count .launch := by
  by_cases launch : stage = .launch
  · simp [launch, launches_perform_launch]
  · simp [launch, launches_perform_of_ne launch]

theorem length_launches_follow (task : Task) (stages : List Stage) (progress : Progress) :
    (task.follow stages progress).progress.launches.length =
      progress.launches.length + (task.follow stages progress).performed.count .launch := by
  induction stages generalizing progress with
  | nil => rfl
  | cons stage later ih =>
    have one := length_launches_perform task progress stage
    rcases outcome : task.perform progress stage with ⟨_ | ending, after⟩
    · rw [outcome] at one
      rw [follow_cons_of_passed later outcome]
      simp only [ih, one, Nat.add_assoc]
      rw [← List.count_append]
      rfl
    · rw [outcome] at one
      rw [follow_cons_of_stopped later outcome]
      exact one

theorem count_map_writing (writes : List FileWrite) (other : ∀ write, stage ≠ .writing write) :
    (writes.map Stage.writing).count stage = 0 := by
  rw [List.count_eq_zero, List.mem_map]
  rintro ⟨write, -, same⟩
  exact other write same.symm

theorem count_launch_stages (task : Task) : task.stages.count .launch = 1 := by
  rw [stages_eq]
  simp [count_map_writing]

theorem count_launch_performed (task : Task) (progress : Progress) :
    (task.follow task.stages progress).performed.count .launch =
      if .launch ∈ (task.follow task.stages progress).performed then 1 else 0 := by
  have performed : (task.follow task.stages progress).performed <+: task.stages := by
    rcases follow_cases task task.stages progress with
      ⟨-, all⟩ | ⟨before, failing, later, ending, split, log, -⟩
    · exact ⟨[], by rw [all, List.append_nil]⟩
    · exact ⟨later, by rw [log, split, List.append_assoc, List.singleton_append]⟩
  -- What is planned once is performed at most once.
  have once := performed.sublist.count_le Stage.launch
  rw [count_launch_stages] at once
  split
  next member =>
    have positive := List.count_pos_iff.mpr member
    omega
  next absent => exact List.count_eq_zero.mpr absent

def AllFinished (task : Task) (progress : Progress) : Prop :=
  ∀ launch ∈ progress.launches, ∃ diagnostics elapsed left,
    task.run launch = (.finished diagnostics elapsed, left)

theorem allFinished_of_passed (finished : task.AllFinished progress)
    (passed : task.perform progress stage = (none, after)) : task.AllFinished after := by
  cases stage with
  | launch =>
    simp only [perform] at passed
    split at passed
    next diagnostics elapsed left ended =>
      cases passed
      intro launch member
      rcases List.mem_append.mp member with earlier | here
      · exact finished launch earlier
      · rw [List.mem_singleton.mp here]
        exact ⟨diagnostics, elapsed, left, ended⟩
    next => cases passed
    next => cases passed
  | _ =>
    simp only [perform] at passed
    split at passed
    all_goals
      cases passed
      try exact finished

theorem allFinished_follow {stages : List Stage} (finished : task.AllFinished progress)
    (passes : (task.follow stages progress).stop = none) :
    task.AllFinished (task.follow stages progress).progress := by
  induction stages generalizing progress with
  | nil => exact finished
  | cons stage later ih =>
    rcases outcome : task.perform progress stage with ⟨_ | ending, after⟩
    · rw [follow_cons_of_passed later outcome] at passes ⊢
      exact ih (allFinished_of_passed finished outcome) passes
    · rw [follow_cons_of_stopped later outcome] at passes
      cases passes

theorem not_mem_of_stages_eq {before later : List Stage} {failing : Stage}
    (split : task.stages = before ++ failing :: later) : .outputReading ∉ before := by
  have once : task.stages.count .outputReading = 1 := by
    rw [stages_eq]
    simp [count_map_writing]
  have last : (failing :: later).getLast? = some .outputReading := by
    have whole : task.stages.getLast? = some .outputReading := by
      rw [stages, List.getLast?_append]
      rfl
    rw [split, List.getLast?_append] at whole
    simpa [List.getLast?_cons] using whole
  intro member
  rw [split, List.count_append] at once
  have behind := List.count_pos_iff.mpr (List.mem_of_getLast? last)
  have inFront := List.count_pos_iff.mpr member
  omega

theorem outputReading_not_performed {tree : FileTree} {launch : Launch}
    (launched : launch ∈ (task.follow task.stages (.start tree)).progress.launches)
    (unfinished : ∀ diagnostics elapsed, (task.run launch).1 ≠ .finished diagnostics elapsed) :
    .outputReading ∉ (task.follow task.stages (.start tree)).performed := by
  -- As long as stages pass, every launch has finished: the other one is where the course stops.
  have began : task.AllFinished (.start tree) := nofun
  have clash : ¬ task.AllFinished (task.follow task.stages (.start tree)).progress := by
    intro finished
    obtain ⟨diagnostics, elapsed, left, ended⟩ := finished launch launched
    exact unfinished diagnostics elapsed (by rw [ended])
  rcases follow_cases task task.stages (.start tree) with
    ⟨passes, -⟩ | ⟨before, failing, later, ending, split, log, passes, fails, -⟩
  · exact absurd (allFinished_follow began passes) clash
  · rw [log]
    intro member
    rcases List.mem_append.mp member with inFront | here
    · exact not_mem_of_stages_eq split inFront
    · obtain rfl := List.mem_singleton.mp here
      -- Reading launches nothing, so the launches are those of the stages that passed.
      have same : (task.perform (task.follow before (.start tree)).progress
          .outputReading).2.launches = _ := launches_perform_of_ne nofun
      rw [fails] at same
      refine clash fun other member => allFinished_follow began passes other ?_
      exact same ▸ member

def LeavesTrace (task : Task) (left : FileTree) : Prop :=
  ∃ bytes, left.read task.workspace.tracePath = .ok bytes ∧ bytes ≠ []

structure Tells (task : Task) (left : FileTree) (diagnostics : String) (result : Result) :
    Prop where
  decoded : ∃ bytes, left.read task.workspace.outputPath = .ok bytes ∧
    result.result = String.ofList (Text.Utf8.decodeLossy bytes)
  exact_text : ∀ text, left.read task.workspace.outputPath = .ok (Workspace.bytesOf text) →
    result.result = text
  untraced : task.request.trace = false → result.trace = [] ∧ result.traceText = ""
  traced : task.request.trace = true → ∀ bytes,
    left.read task.workspace.tracePath = .ok bytes → bytes ≠ [] →
      Trace.mk result.trace result.traceText =
        Trace.read (String.ofList (Text.Utf8.decodeLossy bytes))
  said : task.request.trace = true → ¬ task.LeavesTrace left →
    Trace.mk result.trace result.traceText = Trace.read diagnostics

section Collecting
variable {left : FileTree} {diagnostics : String} {elapsed : Duration} {result : Result}

theorem source_of_read {path : Path} {bytes : List UInt8} (held : left.read path = .ok bytes)
    (full : bytes ≠ []) (diagnostics : String) :
    Trace.source left (some path) diagnostics = String.ofList (Text.Utf8.decodeLossy bytes) := by
  simp only [Trace.source, held, if_neg full]

theorem source_of_not_leavesTrace (missing : ¬ task.LeavesTrace left) (diagnostics : String) :
    Trace.source left (some task.workspace.tracePath) diagnostics = diagnostics := by
  simp only [Trace.source]
  split
  next bytes held =>
    split
    next => rfl
    next full => exact absurd ⟨bytes, held, full⟩ missing
  next => rfl

theorem tells_of_collect
    (collected : Transformer.collect task.workspace task.invocation task.request
      task.circumstances.preparation diagnostics elapsed left = .ok result) :
    task.Tells left diagnostics result := by
  unfold Transformer.collect at collected
  split at collected
  next => cases collected
  next output read =>
    obtain ⟨bytes, held, rfl⟩ := Workspace.readOutput_eq_ok read
    cases collected
    refine ⟨⟨bytes, held, rfl⟩, fun text same => ?_, fun off => ?_, fun on bytes held full => ?_,
      fun on missing => ?_⟩
    · obtain rfl := Except.ok.inj (held.symm.trans same)
      simp only [Transformer.assemble, Workspace.bytesOf, Text.Utf8.decodeLossy_encode,
        String.ofList_toList]
    · simp [Transformer.assemble, off]
    · simp [Transformer.assemble, on, invocation, Invocation.ofRequest, source_of_read held full]
    · simp [Transformer.assemble, on, invocation, Invocation.ofRequest,
        source_of_not_leavesTrace missing]

/-- What was said counts only where a trace is asked for and the trace file holds nothing. -/
theorem collect_congr (told : task.request.trace = true → task.LeavesTrace left)
    (diagnostics other : String) :
    Transformer.collect task.workspace task.invocation task.request
        task.circumstances.preparation diagnostics elapsed left =
      Transformer.collect task.workspace task.invocation task.request
        task.circumstances.preparation other elapsed left := by
  unfold Transformer.collect
  cases traced : task.request.trace with
  | false => rfl
  | true =>
    obtain ⟨bytes, held, full⟩ := told traced
    have file : task.invocation.traceFile = some task.workspace.tracePath := by
      simp [invocation, Invocation.ofRequest, traced]
    rw [file, source_of_read held full, source_of_read held full]

end Collecting

section Ending
variable {tree : FileTree} {result : Result}

theorem transform_cases_own (task : Task) (tree : FileTree) :
    (∃ failure left, task.transform tree = ⟨.answered (.error failure), [], left⟩) ∨
    ∃ files, task.transform tree =
      task.conclude (task.launchIn files) (task.run (task.launchIn files)) := by
  rcases transform_cases task tree with ⟨failure, left, stops⟩ | ⟨files, launches⟩
  · exact .inl ⟨failure, left, stops task.transformer.runner⟩
  · exact .inr ⟨files, launches task.transformer.runner⟩

theorem launches_conclude (task : Task) (launch : Launch) (ended : LaunchEnd × FileTree) :
    (task.conclude launch ended).launches = [launch] := by
  rcases ended with ⟨_ | _ | _, left⟩
  all_goals rfl

theorem conclude_eq_ok {launch : Launch} {ended : LaunchEnd × FileTree}
    (success : (task.conclude launch ended).ending = .answered (.ok result)) :
    ∃ diagnostics elapsed left, ended = (.finished diagnostics elapsed, left) ∧
      Transformer.collect task.workspace task.invocation task.request
        task.circumstances.preparation diagnostics elapsed left = .ok result := by
  rcases ended with ⟨⟨diagnostics, elapsed⟩ | failure | _, left⟩
  · exact ⟨diagnostics, elapsed, left, rfl, Ending.answered.inj success⟩
  · cases success
  · cases success

/-- All that a success says: one launch finished, and its files and words tell the result. -/
theorem transform_eq_ok (success : (task.transform tree).ending = .answered (.ok result)) :
    ∃ launch diagnostics elapsed left, (task.transform tree).launches = [launch] ∧
      task.run launch = (.finished diagnostics elapsed, left) ∧
      task.Tells left diagnostics result := by
  rcases transform_cases_own task tree with ⟨failure, left, stops⟩ | ⟨files, launches⟩
  · rw [stops] at success
    cases success
  · rw [launches] at success ⊢
    obtain ⟨diagnostics, elapsed, left, ended, collected⟩ := conclude_eq_ok success
    exact ⟨_, diagnostics, elapsed, left, launches_conclude _ _ _, ended,
      tells_of_collect collected⟩

theorem ending_of_launch {launch : Launch} (launched : launch ∈ (task.transform tree).launches) :
    (∀ failure, (task.run launch).1 = .failed failure →
      (task.transform tree).ending = .answered (.error failure)) ∧
    ((task.run launch).1 = .broken → (task.transform tree).ending = .broken) := by
  rcases transform_cases_own task tree with ⟨failure, left, stops⟩ | ⟨files, launches⟩
  · rw [stops] at launched
    cases launched
  · rw [launches, launches_conclude, List.mem_singleton] at launched
    subst launched
    rw [launches]
    rcases task.run (task.launchIn files) with ⟨⟨diagnostics, elapsed⟩ | failure | _, left⟩
    · exact ⟨nofun, nofun⟩
    · exact ⟨fun failure ended => by cases ended; rfl, nofun⟩
    · exact ⟨nofun, fun _ => rfl⟩

/-- Two runs that differ only in what the launch says end alike, unless a trace is asked for and
the trace file holds nothing. -/
theorem transform_withRunner {other : Runner}
    (differ : DifferInDiagnostics task.transformer.runner other)
    (success : (task.transform tree).ending = .answered (.ok result))
    (told : task.request.trace = true → ∀ launch ∈ (task.transform tree).launches,
      task.LeavesTrace (task.run launch).2) :
    ((task.withRunner other).transform tree).ending = .answered (.ok result) := by
  rcases transform_cases task tree with ⟨failure, left, stops⟩ | ⟨files, launches⟩
  · have own : task.transform tree = _ := stops task.transformer.runner
    rw [own] at success
    cases success
  have own : task.transform tree = _ := launches task.transformer.runner
  rw [own] at success told
  obtain ⟨diagnostics, elapsed, left, ended, collected⟩ := conclude_eq_ok success
  obtain ⟨sameFiles, sameEnd⟩ := differ (task.launchIn files).command
    (task.launchIn files).budget (task.launchIn files).files
  change task.run (task.launchIn files) = _ at ended
  change (task.run _).2 = ((task.withRunner other).run (task.launchIn files)).2 at sameFiles
  change (task.run _).1.silenced =
    ((task.withRunner other).run (task.launchIn files)).1.silenced at sameEnd
  rw [launches other]
  rw [ended] at sameFiles sameEnd
  -- The other launch finishes too, after the same time and with the same files.
  rcases second : (task.withRunner other).run (task.launchIn files) with
    ⟨⟨otherDiagnostics, otherElapsed⟩ | failure | _, otherLeft⟩
  · rw [second] at sameFiles sameEnd
    cases sameFiles
    cases sameEnd
    have told : task.request.trace = true → task.LeavesTrace left := by
      intro traced
      have found := told traced (task.launchIn files) (by
        rw [launches_conclude]
        exact List.mem_singleton_self _)
      rwa [ended] at found
    exact congrArg Ending.answered
      ((collect_congr told otherDiagnostics diagnostics).trans collected)
  · rw [second] at sameEnd
    cases failure <;> cases sameEnd
  · rw [second] at sameEnd
    cases sameEnd

/-- **The outcome of a transformation.** The stages take the workspace, check the parameters, write
the files of the request, launch and read the output. They are gone through in order up to the first
that fails, which accounts for the ending. There is one launch if it comes to the launch, with every
file in its place, and no output is read behind a launch that fails. Without a failure the result is
told by the output, and by the trace file or, where that holds nothing, by what the launch said;
only there do words of the launch change a result. -/
theorem transform_outcome (task : Task) (tree : FileTree) :
    let course := task.follow task.stages (.start tree)
    let done := task.transform tree
    task.stages =
      [.acquisition, .parameterCheck] ++
        ((task.request.plannedFiles task.invocation.arguments).map fun file =>
          .writing (file.write task.workspace)) ++
        [.launch, .outputReading] ∧
    task.Goes task.stages (.start tree) course ∧
    done = task.outcome course ∧
    ((course.performed = task.stages ∧ ∃ result, done.ending = .answered (.ok result)) ∨
      ∃ before failing later ending,
        task.stages = before ++ failing :: later ∧
        course.performed = before ++ [failing] ∧
        (task.follow before (.start tree)).stop = none ∧
        task.Does (task.follow before (.start tree)).progress failing
          (some ending, course.progress) ∧
        failing.AccountsFor ending ∧
        done.ending = ending) ∧
    done.launches.length = (if .launch ∈ course.performed then 1 else 0) ∧
    (∀ launch ∈ done.launches,
      task.Prepares tree launch ∧
      (∀ failure, (task.run launch).1 = .failed failure →
        done.ending = .answered (.error failure) ∧ .outputReading ∉ course.performed) ∧
      ((task.run launch).1 = .broken →
        done.ending = .broken ∧ .outputReading ∉ course.performed)) ∧
    (∀ result, done.ending = .answered (.ok result) →
      ∃ launch diagnostics elapsed left, done.launches = [launch] ∧
        task.run launch = (.finished diagnostics elapsed, left) ∧
        task.Tells left diagnostics result) ∧
    ∀ other, DifferInDiagnostics task.transformer.runner other →
      ∀ result, done.ending = .answered (.ok result) →
        (task.request.trace = true → ∀ launch ∈ done.launches,
          task.LeavesTrace (task.run launch).2) →
        ((task.withRunner other).transform tree).ending = .answered (.ok result) := by
  intro course done
  have made : done = task.outcome course := transform_eq_outcome task tree
  have launches : done.launches = course.progress.launches := congrArg Transformation.launches made
  have unread {launch : Launch} (launched : launch ∈ done.launches)
      (unfinished : ∀ diagnostics elapsed, (task.run launch).1 ≠ .finished diagnostics elapsed) :
      .outputReading ∉ course.performed :=
    outputReading_not_performed (launches ▸ launched) unfinished
  refine ⟨task.stages_eq_planned, task.goes_follow task.stages (.start tree), made, ?_, ?_, ?_,
    fun result success => transform_eq_ok success,
    fun other differ result success told => transform_withRunner differ success told⟩
  · rcases follow_cases task task.stages (.start tree) with
      ⟨passes, all⟩ | ⟨before, failing, later, ending, split, log, passes, fails, stops⟩
    · refine .inl ⟨all, task.result course.progress, ?_⟩
      rw [made, outcome, passes]
      rfl
    · refine .inr ⟨before, failing, later, ending, split, log, passes, ?_,
        accountsFor_of_stopped fails, ?_⟩
      · exact fails ▸ task.does_perform _ failing
      · rw [made, outcome, stops]
        rfl
  · rw [launches, length_launches_follow, count_launch_performed]
    exact Nat.zero_add _
  · intro launch launched
    obtain ⟨failed, broken⟩ := ending_of_launch launched
    refine ⟨prepares_of_launched launched,
      fun failure ended => ⟨failed failure ended, unread launched ?_⟩,
      fun ended => ⟨broken ended, unread launched ?_⟩⟩
    · rw [ended]
      nofun
    · rw [ended]
      nofun

/-- A processor that copies the stylesheet to the output and leaves a trace gives one result,
whatever it says; one that does so and then fails gives its failure and no output is read; and
where the place of the workspace is taken nothing is launched. -/
theorem transform_outcome_of_copied_stylesheet :
    let copied (command : Command) (files : FileTree) : FileTree :=
      (files.insert (command.directory ++ ["result.xml"])
        ((files.find? (command.directory ++ ["transform.xsl"])).getD .directory)).insert
          (command.directory ++ ["trace.log"]) (.file (Workspace.bytesOf "a note"))
    let talks (words : String) : Runner := fun command _ files =>
      (.finished words ⟨5⟩, copied command files)
    let fails : Runner := fun command _ files =>
      (.failed (.process "no class"), copied command files)
    let task (runner : Runner) : Task :=
      ⟨⟨⟨"java", [], "saxon.jar", "Main"⟩, ⟨1000⟩, runner⟩, ⟨["tmp", "xslt1"], ⟨0⟩⟩,
        ⟨"<größe/>", none, .ofList [("p", "1")], true⟩⟩
    let tree := FileTree.empty.insert ["tmp"] .directory
    let occupied := tree.insert ["tmp", "xslt1"] (.file [])
    (∃ result, result.result = "<größe/>" ∧ result.traceText = "a note" ∧
      ((task (talks "TRACE_VAR|k|v")).transform tree).ending = .answered (.ok result) ∧
      ((task (talks "")).transform tree).ending = .answered (.ok result)) ∧
    (∃ launch, ((task fails).transform tree).launches = [launch] ∧
      launch.files.find? ["tmp", "xslt1", "param_0"] = some (.file (Workspace.bytesOf "1")) ∧
      ((task fails).transform tree).ending = .answered (.error (.process "no class")) ∧
      .outputReading ∉ ((task fails).follow (task fails).stages (.start tree)).performed) ∧
    ((task fails).transform occupied).launches = [] := by
  intro copied talks fails task tree occupied
  refine ⟨?_, ?_, ?_⟩
  · let result : Result := ⟨"<größe/>", 0, [], "a note"⟩
    have success : ((task (talks "TRACE_VAR|k|v")).transform tree).ending =
        .answered (.ok result) := by decide +kernel
    obtain ⟨-, -, -, -, -, of_launch, -, same⟩ :=
      transform_outcome (task (talks "TRACE_VAR|k|v")) tree
    refine ⟨result, rfl, rfl, success, ?_⟩
    refine same (talks "") (fun command budget files => ⟨rfl, rfl⟩) result success
      fun _ launch launched => ⟨Workspace.bytesOf "a note", ?_, by decide⟩
    rw [FileTree.read_eq_ok_iff]
    change (copied launch.command launch.files).find? ["tmp", "xslt1", "trace.log"] = _
    rw [(of_launch launch launched).1.command]
    exact (FileTree.puts_insert _ (by decide)).here
  · obtain ⟨-, -, -, -, -, of_launch, -, -⟩ := transform_outcome (task fails) tree
    have one : ((task fails).transform tree).launches.length = 1 := by decide +kernel
    obtain ⟨launch, launches⟩ := List.length_eq_one_iff.mp one
    obtain ⟨prepares, on_failure, -⟩ := of_launch launch (launches ▸ List.mem_singleton_self launch)
    obtain ⟨failed, unread⟩ := on_failure (.process "no class") rfl
    exact ⟨launch, launches,
      prepares.held ⟨"param_0", .parameter, Workspace.bytesOf "1"⟩ (by decide +kernel), failed,
      unread⟩
  · obtain ⟨-, -, -, -, -, of_launch, -, -⟩ := transform_outcome (task fails) occupied
    rw [List.eq_nil_iff_forall_not_mem]
    intro launch launched
    have nothing : occupied.find? ["tmp", "xslt1"] = none := (of_launch launch launched).1.free.1
    have taken : occupied.find? ["tmp", "xslt1"] = some (.file []) := by decide
    rw [taken] at nothing
    cases nothing

end Ending

end Task

end StylesheetRunner
