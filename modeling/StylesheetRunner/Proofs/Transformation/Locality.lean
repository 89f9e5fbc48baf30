import Mathlib.Data.List.Forall2
import StylesheetRunner.Proofs.Files.Agreement
import StylesheetRunner.Proofs.Transformation.Cleanup

/-!
One transformation in two trees. Where its runner does the same again wherever what it sees is the
same, two trees that agree on that take the transformation to the same launches and to the same
ending, up to times. A runner that keeps to its directory is such a runner.
-/

namespace StylesheetRunner

def Failure.timeless : Failure → Failure
  | .timeout _ => .timeout ⟨0⟩
  | failure => failure

def Result.timeless (result : Result) : Result :=
  { result with durationMilliseconds := 0 }

def Ending.timeless : Ending → Ending
  | .answered (.ok result) => .answered (.ok result.timeless)
  | .answered (.error failure) => .answered (.error failure.timeless)
  | .broken => .broken

def LaunchEnd.timeless : LaunchEnd → LaunchEnd
  | .finished diagnostics _ => .finished diagnostics ⟨0⟩
  | .failed failure => .failed failure.timeless
  | .broken => .broken

/-- A runner that reads inside its directory only and changes files below it only. The time that it
is given and the time that it takes do not count. -/
structure Runner.IsLocal (runner : Runner) : Prop where
  below : ∀ command budget files,
    FileTree.SameButBelow command.directory files (runner command budget files).2
  determined : ∀ command budget budget' files files',
    FileTree.SameInside command.directory files files' →
    (runner command budget' files').1.timeless = (runner command budget files).1.timeless ∧
      FileTree.SameInside command.directory (runner command budget files).2
        (runner command budget' files').2

/-- Two courses that have told the same, in trees that agree on what is seen. -/
structure Progress.Alike (seen : Path → Prop) (first second : Progress) : Prop where
  workspace : second.workspace = first.workspace
  diagnostics : second.diagnostics = first.diagnostics
  output : second.output = first.output
  files : FileTree.SameOn seen first.files second.files

structure Launch.Alike (seen : Path → Prop) (first second : Launch) : Prop where
  command : second.command = first.command
  files : FileTree.SameOn seen first.files second.files

section Steps

variable {directory : Path} {seen : Path → Prop} {first second : FileTree}
  (same : FileTree.SameOn seen first second)
  (covers : ∀ path, Path.IsAlong directory path → seen path)
include same covers

theorem Workspace.acquire_alike :
    (∃ failure, acquire directory first = .error failure ∧
        acquire directory second = .error failure) ∨
      ∃ made made', acquire directory first = .ok (⟨directory⟩, made) ∧
        acquire directory second = .ok (⟨directory⟩, made') ∧
        FileTree.SameOn seen made made' := by
  unfold acquire
  obtain ⟨cause, refused, refused'⟩ | ⟨made, made', success, success', agree⟩ :=
    same.makeDirectory covers (.inl (List.prefix_refl directory))
  · rw [refused, refused']
    exact .inl ⟨_, rfl, rfl⟩
  · rw [success, success']
    exact .inr ⟨made, made', rfl, rfl, agree⟩

theorem Workspace.readOutput_alike :
    readOutput ⟨directory⟩ second = readOutput ⟨directory⟩ first := by
  have inside : Path.IsAlong directory (outputPath ⟨directory⟩) :=
    .inr (List.prefix_append directory _)
  unfold readOutput
  rw [same.read covers inside]

theorem FileWrite.perform_alike {write : FileWrite}
    (within : Path.isWithin directory write.path) :
    (∃ failure, write.perform first = .error failure ∧ write.perform second = .error failure) ∨
      ∃ written written', write.perform first = .ok written ∧
        write.perform second = .ok written' ∧ FileTree.SameOn seen written written' := by
  unfold perform
  obtain ⟨cause, refused, refused'⟩ | ⟨written, written', success, success', agree⟩ :=
    same.write covers (.inr (Path.isWithin_iff.mp within)) write.bytes
  · rw [refused, refused']
    exact .inl ⟨_, rfl, rfl⟩
  · rw [success, success']
    exact .inr ⟨written, written', rfl, rfl, agree⟩

theorem Trace.source_alike {file : Path} (within : directory <+: file) (diagnostics : String) :
    source second (some file) diagnostics = source first (some file) diagnostics := by
  simp only [source, same.read covers (.inr within)]

end Steps

namespace Task

def prepared (task : Task) (preparation : Duration) : Task :=
  { task with circumstances := { task.circumstances with preparation } }

variable {task : Task} {stage : Stage} {first second progress after : Progress} {ending : Ending}
  {preparation : Duration} {seen : Path → Prop}

/-- The runner does the same again for a task whose preparation takes another time, wherever what is
seen is the same. The time that it takes itself does not count. -/
def Repeats (task : Task) (preparation : Duration) (seen : Path → Prop) : Prop :=
  ∀ first second, FileTree.SameOn seen first second →
    let lone := task.prepared preparation
    (task.run (task.launchIn second)).1.timeless = (lone.run (lone.launchIn first)).1.timeless ∧
      FileTree.SameOn seen (lone.run (lone.launchIn first)).2 (task.run (task.launchIn second)).2

theorem repeats_of_isLocal (confined : task.transformer.runner.IsLocal) (preparation : Duration) :
    task.Repeats preparation (Path.IsAlong task.workspace.directory) := by
  intro first second same lone
  let launch := lone.launchIn first
  let launch' := task.launchIn second
  obtain ⟨above, inside⟩ := FileTree.sameAlong_iff.mp same
  obtain ⟨same_end, inside'⟩ :=
    confined.determined launch.command launch.budget launch'.budget first second inside
  refine ⟨same_end, FileTree.sameAlong_iff.mpr ⟨fun path upper => ?_, inside'⟩⟩
  have kept := (confined.below launch.command launch.budget first).sameAbove path upper
  have kept' := (confined.below launch.command launch'.budget second).sameAbove path upper
  exact kept'.trans ((above path upper).trans kept.symm)

theorem perform_alike (repeats : task.Repeats preparation seen)
    (covers : ∀ path, Path.IsAlong task.workspace.directory path → seen path)
    (alike : first.Alike seen second) (writesIn : stage.WritesIn task.workspace.directory) :
    (task.perform second stage).1.map Ending.timeless =
        ((task.prepared preparation).perform first stage).1.map Ending.timeless ∧
      ((task.prepared preparation).perform first stage).2.Alike seen
        (task.perform second stage).2 := by
  obtain ⟨same_workspace, same_diagnostics, same_output, same_files⟩ := alike
  cases stage with
  | acquisition =>
    have place : task.circumstances.workspace = task.workspace.directory := rfl
    have same_place : (task.prepared preparation).circumstances.workspace =
        task.workspace.directory := rfl
    simp only [perform, place, same_place]
    obtain ⟨failure, refused, refused'⟩ | ⟨made, made', success, success', agree⟩ :=
      Workspace.acquire_alike same_files covers
    · rw [refused, refused']
      exact ⟨rfl, same_workspace, same_diagnostics, same_output, same_files⟩
    · rw [success, success']
      exact ⟨rfl, rfl, same_diagnostics, same_output, agree⟩
  | parameterCheck =>
    have unchanged : (task.prepared preparation).request = task.request := rfl
    simp only [perform, unchanged]
    split
    all_goals exact ⟨rfl, same_workspace, same_diagnostics, same_output, same_files⟩
  | writing write =>
    simp only [perform]
    obtain ⟨failure, refused, refused'⟩ | ⟨written, written', success, success', agree⟩ :=
      FileWrite.perform_alike same_files covers writesIn
    · rw [refused, refused']
      exact ⟨rfl, same_workspace, same_diagnostics, same_output, same_files⟩
    · rw [success, success']
      exact ⟨rfl, same_workspace, same_diagnostics, same_output, agree⟩
  | launch =>
    obtain ⟨same_end, same_left⟩ := repeats _ _ same_files
    simp only [perform]
    generalize (task.prepared preparation).run _ = ended at same_end same_left
    generalize task.run _ = ended' at same_end same_left
    obtain ⟨launch_end, left⟩ := ended
    obtain ⟨launch_end', left'⟩ := ended'
    -- The two ends are of one kind, because they agree up to times.
    cases launch_end <;> cases launch_end' <;> simp only [LaunchEnd.timeless] at same_end
    all_goals try cases same_end
    · exact ⟨rfl, same_workspace, rfl, same_output, same_left⟩
    · have same_failure := LaunchEnd.failed.inj same_end
      refine ⟨?_, same_workspace, same_diagnostics, same_output, same_left⟩
      simp only [Option.map_some, Ending.timeless, same_failure]
    · exact ⟨rfl, same_workspace, same_diagnostics, same_output, same_left⟩
  | outputReading =>
    have same_read : task.workspace.readOutput second.files =
        (task.prepared preparation).workspace.readOutput first.files :=
      Workspace.readOutput_alike same_files covers
    simp only [perform, same_read]
    split
    · exact ⟨rfl, same_workspace, same_diagnostics, rfl, same_files⟩
    · exact ⟨rfl, same_workspace, same_diagnostics, same_output, same_files⟩

theorem perform_alike_of_isLocal (confined : task.transformer.runner.IsLocal)
    (alike : first.Alike (Path.IsAlong task.workspace.directory) second)
    (writesIn : stage.WritesIn task.workspace.directory) (preparation : Duration) :
    (task.perform second stage).1.map Ending.timeless =
        ((task.prepared preparation).perform first stage).1.map Ending.timeless ∧
      ((task.prepared preparation).perform first stage).2.Alike
        (Path.IsAlong task.workspace.directory) (task.perform second stage).2 :=
  perform_alike (repeats_of_isLocal confined preparation) (fun _ => id) alike writesIn

theorem result_alike (covers : ∀ path, Path.IsAlong task.workspace.directory path → seen path)
    (alike : first.Alike seen second) (preparation : Duration) :
    (task.result second).timeless = ((task.prepared preparation).result first).timeless := by
  have file : (task.prepared preparation).invocation.traceFile = task.invocation.traceFile := rfl
  have asked : (task.prepared preparation).request.trace = task.request.trace := rfl
  unfold result
  rw [file, asked, alike.diagnostics, alike.output]
  cases traced : task.request.trace with
  | false => rfl
  | true =>
    have named : task.invocation.traceFile = some task.workspace.tracePath := by
      simp [invocation, Invocation.ofRequest, traced]
    have inside : task.workspace.directory <+: task.workspace.tracePath :=
      List.prefix_append task.workspace.directory _
    rw [named, Trace.source_alike alike.files covers inside]
    rfl

def endingOf (task : Task) (stages : List Stage) (progress : Progress) : Ending :=
  (task.outcome (task.follow stages progress)).ending

theorem endingOf_nil (task : Task) (progress : Progress) :
    task.endingOf [] progress = .answered (.ok (task.result progress)) :=
  rfl

theorem endingOf_stages (task : Task) (tree : FileTree) :
    task.endingOf task.stages (.start tree) = (task.transform tree).ending :=
  congrArg Transformation.ending (transform_eq_outcome task tree).symm

theorem endingOf_cons_of_passed (later : List Stage)
    (passed : (task.perform progress stage).1 = none) :
    task.endingOf (stage :: later) progress =
      task.endingOf later (task.perform progress stage).2 :=
  congrArg Transformation.ending (outcome_follow_of_passed task later (Prod.ext passed rfl))

theorem endingOf_cons_of_stopped (later : List Stage)
    (stopped : (task.perform progress stage).1 = some ending) :
    task.endingOf (stage :: later) progress = ending :=
  congrArg Transformation.ending (outcome_follow_of_stopped task later (Prod.ext stopped rfl))

theorem launches_perform_alike (task : Task) (alike : first.Alike seen second)
    (launched : List.Forall₂ (Launch.Alike seen) first.launches second.launches)
    (preparation : Duration) (stage : Stage) :
    List.Forall₂ (Launch.Alike seen) ((task.prepared preparation).perform first stage).2.launches
      (task.perform second stage).2.launches := by
  by_cases launch : stage = .launch
  · have here : ((task.prepared preparation).launchIn first.files).Alike seen
        (task.launchIn second.files) := ⟨rfl, alike.files⟩
    rw [launch, launches_perform_launch, launches_perform_launch]
    exact List.rel_append launched (.cons here .nil)
  · rw [launches_perform_of_ne launch, launches_perform_of_ne launch]
    exact launched

theorem follow_alike (repeats : task.Repeats preparation seen)
    (covers : ∀ path, Path.IsAlong task.workspace.directory path → seen path)
    {stages : List Stage} (writesIn : ∀ stage ∈ stages, stage.WritesIn task.workspace.directory)
    (alike : first.Alike seen second)
    (launched : List.Forall₂ (Launch.Alike seen) first.launches second.launches) :
    let lone := task.prepared preparation
    (task.endingOf stages second).timeless = (lone.endingOf stages first).timeless ∧
      List.Forall₂ (Launch.Alike seen) (lone.follow stages first).progress.launches
        (task.follow stages second).progress.launches := by
  intro lone
  induction stages generalizing first second with
  | nil =>
    rw [endingOf_nil, endingOf_nil]
    exact ⟨congrArg (fun result => Ending.answered (.ok result))
      (result_alike covers alike preparation), launched⟩
  | cons stage later ih =>
    obtain ⟨here, behind⟩ := List.forall_mem_cons.mp writesIn
    obtain ⟨same_stop, agree⟩ := perform_alike repeats covers alike here
    have launched' := launches_perform_alike task alike launched preparation stage
    -- The stage passes on both sides, or stops both with endings that agree up to times.
    rcases performed : task.perform second stage with ⟨_ | ending, after⟩ <;>
      rcases performed' : lone.perform first stage with ⟨_ | ending', after'⟩ <;>
      rw [performed, performed'] at same_stop agree launched'
    · rw [endingOf_cons_of_passed later (congrArg Prod.fst performed),
        endingOf_cons_of_passed later (congrArg Prod.fst performed'),
        follow_cons_of_passed later performed, follow_cons_of_passed later performed',
        performed, performed']
      exact ih behind agree launched'
    · cases same_stop
    · cases same_stop
    · rw [endingOf_cons_of_stopped later (congrArg Prod.fst performed),
        endingOf_cons_of_stopped later (congrArg Prod.fst performed'),
        follow_cons_of_stopped later performed, follow_cons_of_stopped later performed']
      exact ⟨Option.some.inj same_stop, launched'⟩

/-- In trees that agree on what is seen a transformation ends alike and launches alike, however long
its preparation takes. -/
theorem transform_alike (repeats : task.Repeats preparation seen)
    (covers : ∀ path, Path.IsAlong task.workspace.directory path → seen path)
    {tree tree' : FileTree} (same : FileTree.SameOn seen tree tree') :
    let lone := task.prepared preparation
    (task.transform tree').ending.timeless = (lone.transform tree).ending.timeless ∧
      List.Forall₂ (Launch.Alike seen) (lone.transform tree).launches
        (task.transform tree').launches := by
  intro lone
  have start : Progress.Alike seen (.start tree) (.start tree') := ⟨rfl, rfl, rfl, same⟩
  obtain ⟨ends, launched⟩ := follow_alike repeats covers (fun _ => writesIn_of_mem_stages) start
    .nil
  rw [← endingOf_stages, ← endingOf_stages, transform_eq_outcome, transform_eq_outcome]
  exact ⟨ends, launched⟩

end Task

end StylesheetRunner
