import StylesheetRunner.Proofs.Invocation.ArgumentLines
import StylesheetRunner.Transformation

/-!
A transformation as a row of stages. The stages are performed in order up to the first that fails,
which gives the ending; the transformation is what such a course leaves. A stage that lies behind
the failing one is not performed.
-/

namespace StylesheetRunner

theorem Workspace.acquire_eq_ok {directory : Path} {tree files : FileTree} {workspace : Workspace}
    (acquired : acquire directory tree = .ok (workspace, files)) : workspace = ⟨directory⟩ := by
  unfold acquire at acquired
  split at acquired
  next => exact (Prod.mk.inj (Except.ok.inj acquired)).1.symm
  next => cases acquired

inductive Stage where
  | acquisition
  | parameterCheck
  | writing (write : FileWrite)
  | launch
  | outputReading
deriving DecidableEq, Repr

structure Task where
  transformer : Transformer
  circumstances : Circumstances
  request : Request

/-- How far a transformation has come. What no stage has told yet is blank. -/
structure Progress where
  files : FileTree
  workspace : Option Workspace
  launches : List Launch
  diagnostics : String
  elapsed : Duration
  output : String

/-- How a row of stages went: the ending that one of them forced, and the stages performed. -/
structure Course where
  stop : Option Ending
  performed : List Stage
  progress : Progress

namespace Progress

def start (files : FileTree) : Progress := ⟨files, none, [], "", ⟨0⟩, ""⟩

def ready (workspace : Workspace) (files : FileTree) : Progress :=
  { start files with workspace := some workspace }

end Progress

namespace Task

def workspace (task : Task) : Workspace := ⟨task.circumstances.workspace⟩

def invocation (task : Task) : Invocation :=
  .ofRequest task.transformer.processor task.workspace task.request

/-- The stages of a task. The parameters are written in ascending order of their names. -/
def stages (task : Task) : List Stage :=
  [.acquisition, .parameterCheck, .writing (task.workspace.programWrite task.request.xslt),
      .writing task.workspace.inputWrite] ++
    (task.request.parameters.entries.mapIdx fun index entry =>
      .writing (task.workspace.parameterWrite index entry.2)) ++
    [.writing (task.workspace.argumentsWrite task.invocation.arguments), .launch, .outputReading]

def launchIn (task : Task) (files : FileTree) : Launch where
  command := task.invocation.command
  budget := task.transformer.deadline.remaining task.circumstances.preparation
  files := files

def run (task : Task) (launch : Launch) : LaunchEnd × FileTree :=
  task.transformer.runner launch.command launch.budget launch.files

abbrev transform (task : Task) (tree : FileTree) : Transformation :=
  task.transformer.transform task.circumstances task.request tree

def withRunner (task : Task) (runner : Runner) : Task :=
  { task with transformer := { task.transformer with runner } }

def conclude (task : Task) (launch : Launch) : LaunchEnd × FileTree → Transformation
  | (.broken, left) => ⟨.broken, [launch], task.workspace.release left⟩
  | (.failed failure, left) =>
    ⟨.answered (.error failure), [launch], task.workspace.release left⟩
  | (.finished diagnostics elapsed, left) =>
    ⟨.answered (Transformer.collect task.workspace task.invocation task.request
        task.circumstances.preparation diagnostics elapsed left),
      [launch], task.workspace.release left⟩

/-- Performs one stage. A stage that fails says how the transformation ends. -/
def perform (task : Task) (progress : Progress) : Stage → Option Ending × Progress
  | .acquisition =>
    match Workspace.acquire task.circumstances.workspace progress.files with
    | .ok (workspace, files) => (none, { progress with files, workspace := some workspace })
    | .error failure => (some (.answered (.error failure)), progress)
  | .parameterCheck =>
    match Invocation.checkParameters task.request.parameters.entries with
    | .ok () => (none, progress)
    | .error failure => (some (.answered (.error failure)), progress)
  | .writing write =>
    match write.perform progress.files with
    | .ok files => (none, { progress with files })
    | .error failure => (some (.answered (.error failure)), progress)
  | .launch =>
    let launch := task.launchIn progress.files
    let after (files : FileTree) : Progress :=
      { progress with files, launches := progress.launches ++ [launch] }
    match task.run launch with
    | (.finished diagnostics elapsed, files) => (none, { after files with diagnostics, elapsed })
    | (.failed failure, files) => (some (.answered (.error failure)), after files)
    | (.broken, files) => (some .broken, after files)
  | .outputReading =>
    match task.workspace.readOutput progress.files with
    | .ok output => (none, { progress with output })
    | .error failure => (some (.answered (.error failure)), progress)

def follow (task : Task) : List Stage → Progress → Course
  | [], progress => ⟨none, [], progress⟩
  | stage :: later, progress =>
    match task.perform progress stage with
    | (some ending, progress) => ⟨some ending, [stage], progress⟩
    | (none, progress) =>
      let course := task.follow later progress
      { course with performed := stage :: course.performed }

def result (task : Task) (progress : Progress) : Result :=
  Transformer.assemble progress.output (task.circumstances.preparation + progress.elapsed)
    (if task.request.trace then
      some (Trace.read (Trace.source progress.files task.invocation.traceFile progress.diagnostics))
    else none)

/-- The transformation that a course of stages makes. A workspace that was acquired is released. -/
def outcome (task : Task) (course : Course) : Transformation where
  ending := course.stop.getD (.answered (.ok (task.result course.progress)))
  launches := course.progress.launches
  files :=
    match course.progress.workspace with
    | none => course.progress.files
    | some workspace => workspace.release course.progress.files

section Following
variable {task : Task} {progress after : Progress} {stage : Stage} {ending : Ending}

theorem launches_perform_launch (task : Task) (progress : Progress) :
    (task.perform progress .launch).2.launches =
      progress.launches ++ [task.launchIn progress.files] := by
  simp only [perform]
  split <;> rfl

theorem launches_perform_of_ne (other : stage ≠ .launch) :
    (task.perform progress stage).2.launches = progress.launches := by
  cases stage with
  | launch => exact absurd rfl other
  | _ =>
    simp only [perform]
    split <;> rfl

theorem follow_cons_of_passed (later : List Stage)
    (passed : task.perform progress stage = (none, after)) :
    task.follow (stage :: later) progress =
      { task.follow later after with
        performed := stage :: (task.follow later after).performed } := by
  rw [follow, passed]

theorem follow_cons_of_stopped (later : List Stage)
    (stopped : task.perform progress stage = (some ending, after)) :
    task.follow (stage :: later) progress = ⟨some ending, [stage], after⟩ := by
  rw [follow, stopped]

/-- The first failure: either every stage passes, or the stages performed are those that pass and
the one behind them, which stops the course. -/
theorem follow_cases (task : Task) (stages : List Stage) (progress : Progress) :
    ((task.follow stages progress).stop = none ∧
      (task.follow stages progress).performed = stages) ∨
    ∃ before failing later ending,
      stages = before ++ failing :: later ∧
      (task.follow stages progress).performed = before ++ [failing] ∧
      (task.follow before progress).stop = none ∧
      task.perform (task.follow before progress).progress failing =
        (some ending, (task.follow stages progress).progress) ∧
      (task.follow stages progress).stop = some ending := by
  induction stages generalizing progress with
  | nil => exact .inl ⟨rfl, rfl⟩
  | cons stage later ih =>
    rcases outcome : task.perform progress stage with ⟨_ | ending, after⟩
    · -- The stage passes and joins those before the failing one, if any fails.
      rw [follow_cons_of_passed later outcome]
      rcases ih after with
        ⟨passes, all⟩ | ⟨before, failing, rest, ending, split, log, passes, fails, stops⟩
      · exact .inl ⟨passes, congrArg (stage :: ·) all⟩
      · refine .inr ⟨stage :: before, failing, rest, ending, congrArg (stage :: ·) split,
          congrArg (stage :: ·) log, ?_, ?_, stops⟩
        · rw [follow_cons_of_passed before outcome]
          exact passes
        · rw [follow_cons_of_passed before outcome]
          exact fails
    · refine .inr ⟨[], stage, later, ending, rfl, ?_, rfl, ?_, ?_⟩
      all_goals rw [follow_cons_of_stopped later outcome]
      · rfl
      · exact outcome

end Following

/-! What a course leaves does not show in its log. -/

section Leaving
variable (task : Task) {progress after : Progress} {stage : Stage} {ending : Ending}

theorem outcome_follow_of_passed (later : List Stage)
    (passed : task.perform progress stage = (none, after)) :
    task.outcome (task.follow (stage :: later) progress) =
      task.outcome (task.follow later after) := by
  rw [follow_cons_of_passed later passed]
  rfl

theorem outcome_follow_of_stopped (later : List Stage)
    (stopped : task.perform progress stage = (some ending, after)) :
    task.outcome (task.follow (stage :: later) progress) =
      task.outcome ⟨some ending, [], after⟩ := by
  rw [follow_cons_of_stopped later stopped]
  rfl

theorem outcome_follow_append {before : List Stage}
    (passes : (task.follow before progress).stop = none) (later : List Stage) :
    task.outcome (task.follow (before ++ later) progress) =
      task.outcome (task.follow later (task.follow before progress).progress) := by
  induction before generalizing progress with
  | nil => rfl
  | cons stage rest ih =>
    rcases outcome : task.perform progress stage with ⟨_ | ending, after⟩
    · rw [follow_cons_of_passed rest outcome] at passes ⊢
      rw [List.cons_append, outcome_follow_of_passed task (rest ++ later) outcome]
      exact ih passes
    · rw [follow_cons_of_stopped rest outcome] at passes
      cases passes

theorem outcome_follow_writings (writes : List FileWrite) (later : List Stage)
    (progress : Progress) :
    task.outcome (task.follow (writes.map .writing ++ later) progress) =
      match FileWrite.performAll writes progress.files with
      | (.ok (), files) => task.outcome (task.follow later { progress with files })
      | (.error failure, files) =>
        task.outcome ⟨some (.answered (.error failure)), [], { progress with files }⟩ := by
  induction writes generalizing progress with
  | nil => rfl
  | cons write rest ih =>
    rw [List.map_cons, List.cons_append, FileWrite.performAll]
    cases written : write.perform progress.files with
    | ok files =>
      have passed : task.perform progress (.writing write) = (none, { progress with files }) := by
        rw [perform, written]
      rw [outcome_follow_of_passed task _ passed]
      exact ih { progress with files }
    | error failure =>
      have stopped : task.perform progress (.writing write) =
          (some (.answered (.error failure)), progress) := by
        rw [perform, written]
      rw [outcome_follow_of_stopped task _ stopped]

end Leaving

theorem stages_eq (task : Task) :
    task.stages = .acquisition :: .parameterCheck ::
      ((Invocation.writes task.transformer.processor task.workspace task.request).map .writing ++
        [.launch, .outputReading]) := by
  unfold stages Invocation.writes
  rw [Invocation.parameterWrites_eq_mapIdx, List.mapIdx_eq_zipIdx_map, List.mapIdx_eq_zipIdx_map]
  simp only [List.map_append, List.map_map, Nat.zero_add, List.append_assoc]
  rfl

theorem outcome_follow_launch (task : Task) (files : FileTree) :
    task.outcome (task.follow [.launch, .outputReading] (.ready task.workspace files)) =
      task.conclude (task.launchIn files) (task.run (task.launchIn files)) := by
  -- What every end of the launch has in common; only a launch that finished is followed by reading.
  let launched (left : FileTree) : Progress :=
    { Progress.ready task.workspace left with launches := [task.launchIn files] }
  rcases run : task.run (task.launchIn files) with ⟨⟨diagnostics, elapsed⟩ | failure | _, left⟩
  · have passed : task.perform (.ready task.workspace files) .launch =
        (none, { launched left with diagnostics, elapsed }) := by
      simp only [perform, Progress.ready, Progress.start, run]
      rfl
    rw [outcome_follow_of_passed task _ passed]
    dsimp only [conclude, Transformer.collect]
    cases read : task.workspace.readOutput left with
    | ok output =>
      have told : task.perform { launched left with diagnostics, elapsed } .outputReading =
          (none, { launched left with diagnostics, elapsed, output }) := by
        simp only [perform, launched, Progress.ready, Progress.start, read]
      rw [outcome_follow_of_passed task _ told]
      rfl
    | error failure =>
      have stopped : task.perform { launched left with diagnostics, elapsed } .outputReading =
          (some (.answered (.error failure)), { launched left with diagnostics, elapsed }) := by
        simp only [perform, launched, Progress.ready, Progress.start, read]
      rw [outcome_follow_of_stopped task _ stopped]
      rfl
  · have stopped : task.perform (.ready task.workspace files) .launch =
        (some (.answered (.error failure)), launched left) := by
      simp only [perform, Progress.ready, Progress.start, run]
      rfl
    rw [outcome_follow_of_stopped task _ stopped]
    rfl
  · have stopped : task.perform (.ready task.workspace files) .launch =
        (some .broken, launched left) := by
      simp only [perform, Progress.ready, Progress.start, run]
      rfl
    rw [outcome_follow_of_stopped task _ stopped]
    rfl

/-- What comes before the launch does not depend on the runner: it fails, and nothing is launched,
or it leaves files in which the launch takes place. -/
theorem transform_cases (task : Task) (tree : FileTree) :
    (∃ failure left, ∀ runner,
      (task.withRunner runner).transform tree = ⟨.answered (.error failure), [], left⟩) ∨
    ∃ files, ∀ runner,
      (task.withRunner runner).transform tree =
        task.conclude (task.launchIn files)
          ((task.withRunner runner).run (task.launchIn files)) := by
  unfold transform Transformer.transform withRunner
  dsimp only
  rcases acquired : Workspace.acquire task.circumstances.workspace tree with
    failure | ⟨workspace, files⟩
  · exact .inl ⟨failure, tree, fun _ => rfl⟩
  obtain rfl : workspace = task.workspace := Workspace.acquire_eq_ok acquired
  dsimp only
  rcases Invocation.build_cases task.transformer.processor task.workspace task.request files with
    ⟨name, -, built⟩ | ⟨-, role, cause, left, -, built⟩ | ⟨-, left, -, built⟩
  · exact .inl ⟨.invalidParameter name, _, fun _ => by rw [built]⟩
  · exact .inl ⟨.file role cause, _, fun _ => by rw [built]⟩
  · refine .inr ⟨left, fun runner => ?_⟩
    rw [built]
    dsimp only [run, launchIn, invocation]
    rcases runner _ _ left with ⟨_ | _ | _, after⟩
    all_goals rfl

theorem transform_eq_outcome (task : Task) (tree : FileTree) :
    task.transform tree = task.outcome (task.follow task.stages (.start tree)) := by
  -- Both sides are taken apart at the same places: workspace, check, writes and launch.
  rw [stages_eq]
  unfold transform Transformer.transform
  rcases acquired : Workspace.acquire task.circumstances.workspace tree with
    failure | ⟨workspace, files⟩
  · have stopped : task.perform (.start tree) .acquisition =
        (some (.answered (.error failure)), .start tree) := by
      simp only [perform, Progress.start, acquired]
    rw [outcome_follow_of_stopped task _ stopped]
    rfl
  obtain rfl : workspace = task.workspace := Workspace.acquire_eq_ok acquired
  have passed : task.perform (.start tree) .acquisition = (none, .ready task.workspace files) := by
    simp only [perform, Progress.start, acquired]
    rfl
  rw [outcome_follow_of_passed task _ passed]
  rcases Invocation.build_cases task.transformer.processor task.workspace task.request files with
    ⟨name, refused, built⟩ | ⟨accepted, role, cause, left, written, built⟩ |
      ⟨accepted, left, written, built⟩
  · have stopped : task.perform (.ready task.workspace files) .parameterCheck =
        (some (.answered (.error (.invalidParameter name))), .ready task.workspace files) := by
      simp only [perform, refused]
    rw [outcome_follow_of_stopped task _ stopped]
    simp only [built]
    rfl
  all_goals
    have checked : task.perform (.ready task.workspace files) .parameterCheck =
        (none, .ready task.workspace files) := by
      simp only [perform, accepted]
    rw [outcome_follow_of_passed task _ checked, outcome_follow_writings]
    simp only [Progress.ready, Progress.start, written, built]
  · rfl
  · exact (outcome_follow_launch task left).symm

end Task

end StylesheetRunner
