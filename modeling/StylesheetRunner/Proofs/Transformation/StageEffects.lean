import StylesheetRunner.Proofs.Invocation.Obstacles
import StylesheetRunner.Proofs.Transformation.Stages

/-!
What each stage of a transformation leaves, told by what stands in the files: when a place can be
taken and when a file can be written, what stands there afterwards, and that nothing else changes.
The stages of a task are followed as these tell, and so the launch finds every file of the request
with its bytes.
-/

namespace StylesheetRunner

namespace FileTree

/-- Nothing stands at the path, and the directory around it can take something new. -/
def IsFree (tree : FileTree) (path : Path) : Prop :=
  tree.find? path = none ∧ tree.find? path.dropLast = some .directory

/-- A file can be put at the path: there is one already, or the path is free. -/
def TakesFile (tree : FileTree) (path : Path) : Prop :=
  (∃ bytes, tree.find? path = some (.file bytes)) ∨ tree.IsFree path

/-- One tree becomes another when something is put at a path and all else stays as it was. -/
structure Puts (path : Path) (node : Node) (before after : FileTree) : Prop where
  here : after.find? path = some node
  elsewhere : ∀ other ≠ path, after.find? other = before.find? other

variable {tree : FileTree} {path : Path}

theorem puts_insert (node : Node) (below : path ≠ []) :
    Puts path node tree (tree.insert path node) where
  here := by rw [find?_insert tree path path node below, if_pos rfl]
  elsewhere other different := by rw [find?_insert tree path other node below, if_neg different]

theorem IsFree.ne_nil (free : tree.IsFree path) : path ≠ [] := by
  rintro rfl
  have nothing := free.1
  rw [find?_root] at nothing
  cases nothing

theorem TakesFile.ne_nil (takes : tree.TakesFile path) : path ≠ [] := by
  rcases takes with ⟨bytes, held⟩ | free
  · rintro rfl
    rw [find?_root] at held
    cases held
  · exact free.ne_nil

theorem makeDirectory_cases (tree : FileTree) (path : Path) :
    (tree.IsFree path ∧ tree.makeDirectory path = .ok (tree.insert path .directory)) ∨
      (¬ tree.IsFree path ∧ ∃ cause, tree.makeDirectory path = .error cause) := by
  unfold IsFree makeDirectory holds hasRoom
  cases held : tree.find? path with
  | some node => exact .inr ⟨fun free => (nomatch free.1), _, rfl⟩
  | none =>
    by_cases room : tree.find? path.dropLast = some .directory
    · exact .inl ⟨⟨rfl, room⟩, by simp [room]⟩
    · exact .inr ⟨fun free => room free.2, tree.absence path, by simp [room]⟩

theorem write_cases (tree : FileTree) (path : Path) (bytes : List UInt8) :
    (tree.TakesFile path ∧ tree.write path bytes = .ok (tree.insert path (.file bytes))) ∨
      (¬ tree.TakesFile path ∧ ∃ cause, tree.write path bytes = .error cause) := by
  unfold TakesFile IsFree write hasRoom
  cases held : tree.find? path with
  | some node =>
    cases node with
    | file earlier => exact .inl ⟨.inl ⟨earlier, rfl⟩, rfl⟩
    | _ => exact .inr ⟨by simp, _, rfl⟩
  | none =>
    by_cases room : tree.find? path.dropLast = some .directory
    · exact .inl ⟨.inr ⟨rfl, room⟩, by simp [room]⟩
    · exact .inr ⟨by simp [room], tree.absence path, by simp [room]⟩

end FileTree

/-- A parameter gives a single argument line: its name does not break it, and neither does its
value where that stands in the line. -/
def Parameter.KeepsToLine (name value : String) : Prop :=
  Text.Unbroken name.toList ∧
    (ParameterKind.ofValue value = .inline → Text.Unbroken value.toList)

/-- The check passes, or the first parameter that does not keep to its line is refused. -/
theorem Invocation.checkParameters_cases (entries : List (String × String)) :
    ((∀ entry ∈ entries, Parameter.KeepsToLine entry.1 entry.2) ∧
      checkParameters entries = .ok ()) ∨
    ∃ front entry back,
      FirstIn (fun entry => ¬ Parameter.KeepsToLine entry.1 entry.2) entries front entry back ∧
        checkParameters entries = .error (.invalidParameter entry.1) := by
  have keeps_iff (entry : String × String) :
      Parameter.KeepsToLine entry.1 entry.2 ↔ Parameter.check entry.1 entry.2 = .ok () :=
    Parameter.check_eq_ok_iff.symm
  simp only [keeps_iff]
  by_cases all_pass : ∀ entry ∈ entries, Parameter.check entry.1 entry.2 = .ok ()
  · exact .inl ⟨all_pass, checkParameters_eq_ok_iff.mpr all_pass⟩
  · have some_fails : ∃ entry ∈ entries, Parameter.check entry.1 entry.2 ≠ .ok () := by
      simpa only [not_forall, exists_prop] using all_pass
    obtain ⟨front, found, back, first⟩ := exists_firstIn some_fails
    exact .inr ⟨front, found, back, first, checkParameters_of_first first⟩

/-- A row of files that are all written is a gain of the workspace, whatever stood there. -/
theorem Workspace.gains_of_performAll {workspace : Workspace} {files : List PlannedFile}
    {before after : FileTree} (distinct : (files.map PlannedFile.name).Nodup)
    (written : FileWrite.performAll (files.map (PlannedFile.write workspace)) before =
      (.ok (), after)) : workspace.Gains files before after := by
  induction files generalizing before with
  | nil =>
    obtain rfl : before = after := (Prod.mk.inj written).2
    exact .refl workspace before
  | cons file later ih =>
    obtain ⟨absent, distinct_later⟩ := List.nodup_cons.mp distinct
    rw [List.map_cons, FileWrite.performAll] at written
    cases outcome : (file.write workspace).perform before with
    | error failure =>
      rw [outcome] at written
      cases (Prod.mk.inj written).1
    | ok between =>
      rw [outcome] at written
      obtain ⟨-, rfl⟩ := FileTree.write_eq_ok (FileWrite.perform_eq_ok outcome)
      refine .cons (fun other member same => absent ?_) (ih distinct_later written)
      exact List.mem_map.mpr ⟨other, member, same⟩

namespace Task

/-- What a stage leaves, and the ending that it forces if it fails. A stage that fails before the
launch or behind it changes nothing. -/
inductive Does (task : Task) (before : Progress) : Stage → Option Ending × Progress → Prop
  | acquired {files : FileTree} (free : before.files.IsFree task.workspace.directory)
      (made : FileTree.Puts task.workspace.directory .directory before.files files) :
      Does task before .acquisition (none, { before with files, workspace := some task.workspace })
  | taken {cause : IoError} (occupied : ¬ before.files.IsFree task.workspace.directory) :
      Does task before .acquisition (some (.answered (.error (.file .workspace cause))), before)
  | checked (kept : ∀ entry ∈ task.request.parameters.entries,
      Parameter.KeepsToLine entry.1 entry.2) : Does task before .parameterCheck (none, before)
  | refused {front back : List (String × String)} {entry : String × String}
      (first : FirstIn (fun entry => ¬ Parameter.KeepsToLine entry.1 entry.2)
        task.request.parameters.entries front entry back) :
      Does task before .parameterCheck
        (some (.answered (.error (.invalidParameter entry.1))), before)
  | wrote {write : FileWrite} {files : FileTree} (takes : before.files.TakesFile write.path)
      (made : FileTree.Puts write.path (.file write.bytes) before.files files) :
      Does task before (.writing write) (none, { before with files })
  | blocked {write : FileWrite} {cause : IoError} (shut : ¬ before.files.TakesFile write.path) :
      Does task before (.writing write) (some (.answered (.error (.file write.role cause))), before)
  | finished {diagnostics : String} {elapsed : Duration} {left : FileTree}
      (ended : task.run (task.launchIn before.files) = (.finished diagnostics elapsed, left)) :
      Does task before .launch
        (none, { before with
          files := left, launches := before.launches ++ [task.launchIn before.files],
          diagnostics, elapsed })
  | failed {failure : Failure} {left : FileTree}
      (ended : task.run (task.launchIn before.files) = (.failed failure, left)) :
      Does task before .launch
        (some (.answered (.error failure)), { before with
          files := left, launches := before.launches ++ [task.launchIn before.files] })
  | broken {left : FileTree}
      (ended : task.run (task.launchIn before.files) = (.broken, left)) :
      Does task before .launch
        (some .broken, { before with
          files := left, launches := before.launches ++ [task.launchIn before.files] })
  | read {bytes : List UInt8}
      (held : before.files.find? (task.workspace.file "result.xml") = some (.file bytes)) :
      Does task before .outputReading
        (none, { before with output := String.ofList (Text.Utf8.decodeLossy bytes) })
  | unread {cause : IoError}
      (missing : ∀ bytes,
        before.files.find? (task.workspace.file "result.xml") ≠ some (.file bytes)) :
      Does task before .outputReading
        (some (.answered (.error (.file .output cause))), before)

/-- Stages that are gone through in order, up to the first that forces an ending. -/
inductive Goes (task : Task) : List Stage → Progress → Course → Prop
  | done {progress : Progress} : Goes task [] progress ⟨none, [], progress⟩
  | passes {stage : Stage} {later : List Stage} {before after : Progress} {course : Course}
      (does : task.Does before stage (none, after)) (goes : Goes task later after course) :
      Goes task (stage :: later) before { course with performed := stage :: course.performed }
  | stops {stage : Stage} {later : List Stage} {before after : Progress} {ending : Ending}
      (does : task.Does before stage (some ending, after)) :
      Goes task (stage :: later) before ⟨some ending, [stage], after⟩

theorem does_perform (task : Task) (before : Progress) (stage : Stage) :
    task.Does before stage (task.perform before stage) := by
  cases stage with
  | acquisition =>
    simp only [perform, Workspace.acquire]
    rcases FileTree.makeDirectory_cases before.files task.circumstances.workspace with
      ⟨free, made⟩ | ⟨occupied, cause, refused⟩
    · rw [made]
      exact .acquired free (FileTree.puts_insert _ free.ne_nil)
    · rw [refused]
      exact .taken occupied
  | parameterCheck =>
    simp only [perform]
    rcases Invocation.checkParameters_cases task.request.parameters.entries with
      ⟨kept, accepted⟩ | ⟨front, entry, back, first, refused⟩
    · rw [accepted]
      exact .checked kept
    · rw [refused]
      exact .refused first
  | writing write =>
    simp only [perform, FileWrite.perform]
    rcases FileTree.write_cases before.files write.path write.bytes with
      ⟨takes, written⟩ | ⟨shut, cause, refused⟩
    · rw [written]
      exact .wrote takes (FileTree.puts_insert _ takes.ne_nil)
    · rw [refused]
      exact .blocked shut
  | launch =>
    simp only [perform]
    rcases ended : task.run (task.launchIn before.files) with
      ⟨⟨diagnostics, elapsed⟩ | failure | _, left⟩
    · exact .finished ended
    · exact .failed ended
    · exact .broken ended
  | outputReading =>
    simp only [perform, Workspace.readOutput]
    cases outcome : before.files.read task.workspace.outputPath with
    | ok bytes => exact .read (FileTree.read_eq_ok_iff.mp outcome)
    | error cause =>
      refine .unread fun bytes held => ?_
      have found : before.files.read task.workspace.outputPath = .ok bytes :=
        FileTree.read_eq_ok_iff.mpr held
      rw [outcome] at found
      cases found

theorem goes_follow (task : Task) (stages : List Stage) (progress : Progress) :
    task.Goes stages progress (task.follow stages progress) := by
  induction stages generalizing progress with
  | nil => exact .done
  | cons stage later ih =>
    have does := task.does_perform progress stage
    rcases outcome : task.perform progress stage with ⟨_ | ending, after⟩
    · rw [outcome] at does
      rw [follow_cons_of_passed later outcome]
      exact .passes does (ih after)
    · rw [outcome] at does
      rw [follow_cons_of_stopped later outcome]
      exact .stops does

theorem stages_eq_planned (task : Task) :
    task.stages =
      [.acquisition, .parameterCheck] ++
        ((task.request.plannedFiles task.invocation.arguments).map fun file =>
          .writing (file.write task.workspace)) ++
        [.launch, .outputReading] := by
  rw [stages_eq, Invocation.writes_eq, List.map_map]
  rfl

/-- What a launch finds: the workspace is new and holds every file of the request with its bytes,
and nothing else has changed. -/
structure Prepares (task : Task) (tree : FileTree) (launch : Launch) : Prop where
  command : launch.command =
    { program := task.transformer.processor.program
      arguments := task.transformer.processor.launcherArguments ++
        ["@" ++ (task.workspace.file "args").text]
      directory := task.workspace.directory }
  budget : launch.budget = task.transformer.deadline.remaining task.circumstances.preparation
  free : tree.IsFree task.workspace.directory
  directory : launch.files.find? task.workspace.directory = some .directory
  held : ∀ file ∈ task.request.plannedFiles task.invocation.arguments,
    launch.files.find? (task.workspace.file file.name) = some (.file file.bytes)
  elsewhere : ∀ path ≠ task.workspace.directory,
    (∀ file ∈ task.request.plannedFiles task.invocation.arguments,
      path ≠ task.workspace.file file.name) → launch.files.find? path = tree.find? path

/-- Behind a workspace that was acquired and files that were all written, the launch is prepared. -/
theorem prepares_of_written {task : Task} {tree files left : FileTree}
    (acquired : Workspace.acquire task.circumstances.workspace tree = .ok (task.workspace, files))
    (written : FileWrite.performAll
      (Invocation.writes task.transformer.processor task.workspace task.request) files =
        (.ok (), left)) : task.Prepares tree (task.launchIn left) := by
  have gains : task.workspace.Gains
      (task.request.plannedFiles task.invocation.arguments) files left := by
    rw [Invocation.writes_eq] at written
    exact Workspace.gains_of_performAll (task.request.nodup_plannedNames _) written
  rcases FileTree.makeDirectory_cases tree task.circumstances.workspace with
    ⟨free, made⟩ | ⟨-, cause, refused⟩
  · obtain rfl : files = tree.insert task.workspace.directory .directory := by
      rw [Workspace.acquire, made] at acquired
      exact (Prod.mk.inj (Except.ok.inj acquired)).2.symm
    have puts : FileTree.Puts task.workspace.directory .directory tree _ :=
      FileTree.puts_insert .directory free.ne_nil
    refine ⟨rfl, rfl, free, ?_, gains.held, fun path other apart => ?_⟩
    · refine (gains.elsewhere _ fun file _ => ?_).trans puts.here
      exact Workspace.directory_ne_file task.workspace file.name
    · exact (gains.elsewhere path apart).trans (puts.elsewhere path other)
  · rw [Workspace.acquire, refused] at acquired
    cases acquired

theorem prepares_of_launched {task : Task} {tree : FileTree} {launch : Launch}
    (launched : launch ∈ (task.transform tree).launches) : task.Prepares tree launch := by
  unfold transform Transformer.transform at launched
  rcases acquired : Workspace.acquire task.circumstances.workspace tree with
    failure | ⟨workspace, files⟩
  · rw [acquired] at launched
    cases launched
  obtain rfl : workspace = task.workspace := Workspace.acquire_eq_ok acquired
  simp only [acquired] at launched
  rcases Invocation.build_cases task.transformer.processor task.workspace task.request files with
    ⟨name, -, built⟩ | ⟨-, role, cause, left, -, built⟩ | ⟨-, left, written, built⟩
  · rw [built] at launched
    cases launched
  · rw [built] at launched
    cases launched
  · have only : launch = task.launchIn left := by
      rw [built] at launched
      dsimp only at launched
      split at launched
      all_goals exact List.mem_singleton.mp launched
    rw [only]
    exact prepares_of_written acquired written

end Task

end StylesheetRunner
