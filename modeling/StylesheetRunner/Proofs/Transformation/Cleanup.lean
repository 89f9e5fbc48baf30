import StylesheetRunner.Proofs.Files.Confinement
import StylesheetRunner.Proofs.Transformation.Stages

/-!
A transformation leaves nothing behind. From the moment its workspace is there, every stage changes
files inside it only, whether the stage passes or fails, and whatever ends the transformation, the
workspace is released with all that is in it.
-/

namespace StylesheetRunner

/-- A runner that changes files only in the directory that it is to run in. -/
def StaysInDirectory (runner : Runner) : Prop :=
  ∀ command budget files,
    FileTree.SameOutside command.directory files (runner command budget files).2

def Stage.WritesIn (directory : Path) : Stage → Prop
  | .writing write => Path.isWithin directory write.path
  | _ => True

theorem Invocation.path_within_of_mem_writes {processor : Processor} {workspace : Workspace}
    {request : Request} {write : FileWrite} (member : write ∈ writes processor workspace request) :
    Path.isWithin workspace.directory write.path := by
  have file (name : String) : Path.isWithin workspace.directory (workspace.file name) :=
    Path.isWithin_append workspace.directory [name]
  unfold writes at member
  rw [parameterWrites_eq_mapIdx] at member
  simp only [List.mem_append, List.mem_cons, List.not_mem_nil, or_false, List.mem_mapIdx] at member
  rcases member with ((rfl | rfl) | ⟨index, bound, rfl⟩) | rfl
  all_goals exact file _

namespace Task
variable {task : Task} {tree : FileTree} {progress : Progress} {stage : Stage}

theorem writesIn_of_mem_stages (member : stage ∈ task.stages) :
    stage.WritesIn task.workspace.directory := by
  rw [stages_eq] at member
  simp only [List.mem_cons, List.mem_append, List.mem_map, List.not_mem_nil, or_false] at member
  rcases member with rfl | rfl | ⟨write, written, rfl⟩ | rfl | rfl
  · trivial
  · trivial
  · exact Invocation.path_within_of_mem_writes written
  · trivial
  · trivial

/-- The workspace is held, and outside it all files are as they were. -/
structure KeepsOutside (task : Task) (tree : FileTree) (progress : Progress) : Prop where
  held : progress.workspace = some task.workspace
  outside : FileTree.SameOutside task.workspace.directory tree progress.files

theorem acquire_spec {workspace : Workspace} {files : FileTree}
    (acquired : Workspace.acquire task.circumstances.workspace tree = .ok (workspace, files)) :
    task.workspace.directory ≠ [] ∧ tree.find? task.workspace.directory = none ∧
      FileTree.SameOutside task.workspace.directory tree files := by
  unfold Workspace.acquire at acquired
  split at acquired
  next made success =>
    obtain ⟨below, free, rfl⟩ := FileTree.makeDirectory_eq_ok success
    cases acquired
    exact ⟨below, free,
      FileTree.sameOutside_insert tree _ below (Path.isWithin_iff.mpr (List.prefix_refl _))⟩
  next => cases acquired

theorem keepsOutside_perform (confined : StaysInDirectory task.transformer.runner)
    (keeps : task.KeepsOutside tree progress) (writesIn : stage.WritesIn task.workspace.directory) :
    task.KeepsOutside tree (task.perform progress stage).2 := by
  obtain ⟨held, outside⟩ := keeps
  cases stage with
  -- A second acquisition would make the same place again, so the workspace held stays the one.
  | acquisition =>
    simp only [perform]
    split
    next workspace files acquired =>
      obtain rfl := Workspace.acquire_eq_ok acquired
      exact ⟨rfl, outside.trans (acquire_spec acquired).2.2⟩
    next => exact ⟨held, outside⟩
  | parameterCheck =>
    simp only [perform]
    split
    all_goals exact ⟨held, outside⟩
  | writing write =>
    simp only [perform]
    split
    next files written =>
      have written := FileWrite.perform_eq_ok written
      exact ⟨held, outside.trans (FileTree.sameOutside_write writesIn written)⟩
    next => exact ⟨held, outside⟩
  | launch =>
    have left : FileTree.SameOutside task.workspace.directory progress.files
        (task.run (task.launchIn progress.files)).2 :=
      confined task.invocation.command _ progress.files
    simp only [perform]
    split
    all_goals
      next ended =>
        rw [ended] at left
        exact ⟨held, outside.trans left⟩
  | outputReading =>
    simp only [perform]
    split
    all_goals exact ⟨held, outside⟩

theorem keepsOutside_follow {stages : List Stage}
    (confined : StaysInDirectory task.transformer.runner)
    (writesIn : ∀ stage ∈ stages, stage.WritesIn task.workspace.directory)
    (keeps : task.KeepsOutside tree progress) :
    task.KeepsOutside tree (task.follow stages progress).progress := by
  induction stages generalizing progress with
  | nil => exact keeps
  | cons stage later ih =>
    obtain ⟨here, behind⟩ := List.forall_mem_cons.mp writesIn
    have step := keepsOutside_perform confined keeps here
    rcases outcome : task.perform progress stage with ⟨_ | ending, after⟩
    · rw [outcome] at step
      rw [follow_cons_of_passed later outcome]
      exact ih behind step
    · rw [outcome] at step
      rw [follow_cons_of_stopped later outcome]
      exact step

/-- However a transformation ends, nothing of its workspace is left and all else is as it was; and
where no workspace could be made, nothing has changed at all. -/
theorem transform_leaves_nothing (task : Task) (tree : FileTree)
    (confined : StaysInDirectory task.transformer.runner) :
    match Workspace.acquire task.circumstances.workspace tree with
    | .ok _ =>
      tree.find? task.circumstances.workspace = none ∧
        ∀ path, (task.transform tree).files.find? path =
          if Path.isWithin task.circumstances.workspace path then none else tree.find? path
    | .error _ => (task.transform tree).files = tree := by
  rw [transform_eq_outcome, stages_eq]
  rcases acquired : Workspace.acquire task.circumstances.workspace tree with
    failure | ⟨workspace, files⟩
  · have stopped : task.perform (.start tree) .acquisition =
        (some (.answered (.error failure)), .start tree) := by
      simp only [perform, Progress.start, acquired]
    rw [follow_cons_of_stopped _ stopped]
    rfl
  obtain rfl : workspace = task.workspace := Workspace.acquire_eq_ok acquired
  obtain ⟨below, free, made⟩ := acquire_spec acquired
  have passed : task.perform (.start tree) .acquisition = (none, .ready task.workspace files) := by
    simp only [perform, Progress.start, acquired]
    rfl
  have writesIn : ∀ stage ∈ task.stages, stage.WritesIn task.workspace.directory :=
    fun _ => writesIn_of_mem_stages
  rw [stages_eq] at writesIn
  obtain ⟨held, outside⟩ := keepsOutside_follow confined (List.forall_mem_cons.mp writesIn).2
    (⟨rfl, made⟩ : task.KeepsOutside tree (.ready task.workspace files))
  refine ⟨free, fun path => ?_⟩
  rw [outcome_follow_of_passed task _ passed]
  simp only [outcome, held, Workspace.release]
  rw [FileTree.find?_remove _ below]
  change (if Path.isWithin task.circumstances.workspace path then none else _) = _
  split
  next => rfl
  next apart => exact outside path apart

/-- A launch that writes its output and then breaks off, next to a file that is kept. -/
theorem transform_leaves_nothing_of_broken_launch :
    let runner : Runner := fun command _ files =>
      (.broken, files.insert (command.directory ++ ["result.xml"]) (.file [0x3C]))
    let task : Task :=
      ⟨⟨⟨"java", [], "/opt/saxon/*", "Runner"⟩, .ofMilliseconds 10000, runner⟩,
        ⟨["tmp", "xslt1"], ⟨0⟩⟩, ⟨"<xsl/>", none, .ofList [("p", "v"), ("doc", "<a/>")], true⟩⟩
    let tree := (FileTree.empty.insert ["tmp"] .directory).insert ["tmp", "kept"] (.file [1])
    StaysInDirectory task.transformer.runner ∧
      (task.transform tree).ending = .broken ∧
      (task.transform tree).launches.length = 1 ∧
      ∀ path, (task.transform tree).files.find? path =
        if Path.isWithin ["tmp", "xslt1"] path then none else tree.find? path := by
  intro runner task tree
  have confined : StaysInDirectory task.transformer.runner := fun command _ files =>
    FileTree.sameOutside_insert files _ (by simp) (Path.isWithin_append command.directory _)
  have launched : (task.transform tree).launches.length = 1 := by decide +kernel
  have broken : (task.transform tree).ending = .broken := by rfl
  exact ⟨confined, broken, launched, (transform_leaves_nothing task tree confined).2⟩

end Task

end StylesheetRunner
