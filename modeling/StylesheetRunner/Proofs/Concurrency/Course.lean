import StylesheetRunner.Proofs.Concurrency.Calls

/-!
One call among others. As long as nobody else touches what lies along its workspace, it goes the way
it goes alone, and what it touches lies in its workspace.
-/

namespace StylesheetRunner

namespace Task

def laterStages (task : Task) : List Stage :=
  .parameterCheck ::
    ((Invocation.writes task.transformer.processor task.workspace task.request).map .writing ++
      [.launch, .outputReading])

theorem stages_eq_cons (task : Task) : task.stages = .acquisition :: task.laterStages :=
  stages_eq task

variable {task : Task} {progress : Progress} {stage : Stage}

theorem acquisition_not_mem_laterStages (task : Task) : .acquisition ∉ task.laterStages := by
  simp [laterStages]

theorem directory_of_perform (task : Task) (progress : Progress)
    (held : progress.files.find? task.workspace.directory = some .directory)
    (own : stage ≠ .acquisition) (other : stage ≠ .launch) :
    (task.perform progress stage).2.files.find? task.workspace.directory = some .directory := by
  cases stage with
  | acquisition => exact absurd rfl own
  | launch => exact absurd rfl other
  | parameterCheck =>
    simp only [perform]
    split <;> exact held
  | writing write =>
    simp only [perform]
    split
    next files written =>
      exact FileTree.find?_write_of_directory held (FileWrite.perform_eq_ok written)
    next => exact held
  | outputReading =>
    simp only [perform]
    split <;> exact held

theorem workspace_perform (own : stage ≠ .acquisition) :
    (task.perform progress stage).2.workspace = progress.workspace := by
  cases stage with
  | acquisition => exact absurd rfl own
  | _ =>
    simp only [perform]
    split <;> rfl

theorem sameAbove_launch (task : Task) (progress : Progress)
    (confined : task.transformer.runner.IsLocal) :
    FileTree.SameAbove task.workspace.directory progress.files
      (task.perform progress .launch).2.files := by
  have left : (task.perform progress .launch).2.files =
      (task.run (task.launchIn progress.files)).2 := by
    simp only [perform]
    split
    all_goals
      next ended => rw [ended]
  rw [left]
  exact (confined.below task.invocation.command _ progress.files).sameAbove

theorem perform_acquisition_cases (task : Task) (progress : Progress) :
    (task.perform progress .acquisition).1 ≠ none ∧
        (task.perform progress .acquisition).2 = progress ∨
      (task.perform progress .acquisition).1 = none ∧
        (task.perform progress .acquisition).2 =
          { progress with
            files := progress.files.insert task.workspace.directory .directory
            workspace := some task.workspace } ∧
        task.workspace.directory ≠ [] := by
  simp only [perform, Workspace.acquire]
  split
  next workspace files acquired =>
    split at acquired
    next made success =>
      obtain ⟨below, -, rfl⟩ := FileTree.makeDirectory_eq_ok success
      obtain ⟨rfl, rfl⟩ := Prod.mk.inj (Except.ok.inj acquired)
      exact .inr ⟨rfl, rfl, below⟩
    next => cases acquired
  next => exact .inl ⟨Option.some_ne_none _, rfl⟩

end Task

theorem Runner.IsLocal.staysInDirectory {runner : Runner} (confined : runner.IsLocal) :
    StaysInDirectory runner :=
  fun command budget files => (confined.below command budget files).sameOutside

namespace Concurrent

structure Owned (task : Task) (tree files : FileTree) : Prop where
  below : task.workspace.directory ≠ []
  free : tree.find? task.workspace.directory = none
  held : files.find? task.workspace.directory = some .directory

def Planned (task : Task) (later : List Stage) : Prop :=
  ∀ stage ∈ later, stage ≠ .acquisition ∧ stage.WritesIn task.workspace.directory

def Told (task : Task) (preparation : Duration) (tree : FileTree) (ending : Ending) : Prop :=
  ending.timeless = ((task.prepared preparation).transform tree).ending.timeless

/-- A call that has begun, next to the progress that the same task has made alone. -/
inductive Underway (task : Task) (preparation : Duration) (tree files : FileTree) :
    Phase → Prop where
  | working {later : List Stage} {progress : Progress} (lone : Progress)
    (owned : Owned task tree files) (holds : progress.workspace = some task.workspace)
    (planned : Planned task later)
    (alike : lone.Alike (Path.IsAlong task.workspace.directory) { progress with files })
    (leads : Told task preparation tree ((task.prepared preparation).endingOf later lone)) :
    Underway task preparation tree files (.working later progress)
  | running {later : List Stage} {progress : Progress} (lone : Progress)
    (owned : Owned task tree files) (holds : progress.workspace = some task.workspace)
    (planned : Planned task later)
    (alike : lone.Alike (Path.IsAlong task.workspace.directory) progress)
    (above : FileTree.SameAbove task.workspace.directory lone.files files)
    (leads : Told task preparation tree
      ((task.prepared preparation).endingOf (.launch :: later) lone)) :
    Underway task preparation tree files (.running later progress)
  | closing {ending : Ending} (owned : Owned task tree files)
    (told : Told task preparation tree ending) :
    Underway task preparation tree files (.closing ending (some task.workspace))
  | leaving {ending : Ending} (told : Told task preparation tree ending) :
    Underway task preparation tree files (.closing ending none)
  | ended {ending : Ending} (told : Told task preparation tree ending) :
    Underway task preparation tree files (.ended ending)

structure Framed (task : Task) (files left : FileTree) (phase after : Phase) : Prop where
  outside : FileTree.SameOutside task.workspace.directory files left
  idle : phase.workspace = none → after.workspace = none → left = files
  taken : phase.workspace = none → after.workspace ≠ none →
    files.find? task.workspace.directory = none
  released : phase.workspace ≠ none → after.workspace = none →
    ∀ path, Path.isWithin task.workspace.directory path → left.find? path = none

section Course
variable {task : Task} {preparation : Duration} {tree files left : FileTree} {phase after : Phase}
  {later : List Stage} {stage : Stage} {progress lone : Progress} {ending : Ending}

theorem Owned.of_sameAbove (owned : Owned task tree files)
    (same : FileTree.SameAbove task.workspace.directory files left) : Owned task tree left :=
  ⟨owned.below, owned.free, (same _ (List.prefix_refl _)).trans owned.held⟩

/-- A call that owns its workspace before and behind a turn, and changes files in there only. -/
theorem Framed.of_held {workspace workspace' : Workspace}
    (outside : FileTree.SameOutside task.workspace.directory files left)
    (before : phase.workspace = some workspace) (behind : after.workspace = some workspace') :
    Framed task files left phase after where
  outside := outside
  idle unheld := by rw [before] at unheld; cases unheld
  taken unheld := by rw [before] at unheld; cases unheld
  released _ unheld := by rw [behind] at unheld; cases unheld

theorem Phase.workspace_resumed (later : List Stage) (performed : Option Ending × Progress) :
    (Phase.resumed later performed).workspace = performed.2.workspace := by
  obtain ⟨_ | ending, progress⟩ := performed <;> rfl

theorem Underway.resumed (confined : task.transformer.runner.IsLocal)
    (writesIn : stage.WritesIn task.workspace.directory) (planned : Planned task later)
    (alike : lone.Alike (Path.IsAlong task.workspace.directory) progress)
    (leads : Told task preparation tree
      ((task.prepared preparation).endingOf (stage :: later) lone))
    (same : FileTree.SameAlong task.workspace.directory
      ((task.prepared preparation).perform lone stage).2.files left)
    (stands : (task.perform progress stage).1 ≠ none ∧
        (task.perform progress stage).2.workspace = none ∨
      (task.perform progress stage).2.workspace = some task.workspace ∧ Owned task tree left) :
    Underway task preparation tree left (.resumed later (task.perform progress stage)) := by
  obtain ⟨same_stop, agree⟩ := Task.perform_alike_of_isLocal confined alike writesIn preparation
  rcases performed : task.perform progress stage with ⟨_ | ending, after⟩
  · rw [performed] at same_stop agree stands
    have passed : ((task.prepared preparation).perform lone stage).1 = none :=
      Option.map_eq_none_iff.mp same_stop.symm
    obtain ⟨failed, -⟩ | ⟨holds, owned⟩ := stands
    · exact absurd rfl failed
    · rw [Task.endingOf_cons_of_passed later passed] at leads
      exact .working _ owned holds planned
        ⟨agree.workspace, agree.diagnostics, agree.output, same⟩ leads
  · rw [performed] at same_stop stands
    obtain ⟨lone_ending, stopped, alike_ending⟩ := Option.map_eq_some_iff.mp same_stop.symm
    rw [Task.endingOf_cons_of_stopped later stopped] at leads
    have told : Told task preparation tree ending := alike_ending.symm.trans leads
    obtain ⟨-, unheld⟩ | ⟨holds, owned⟩ := stands
    · have unheld : after.workspace = none := unheld
      rw [Phase.resumed, unheld]
      exact .leaving told
    · have holds : after.workspace = some task.workspace := holds
      rw [Phase.resumed, holds]
      exact .closing owned told

theorem planned_laterStages (task : Task) : Planned task task.laterStages := by
  intro stage member
  refine ⟨fun same => task.acquisition_not_mem_laterStages (same ▸ member), ?_⟩
  refine Task.writesIn_of_mem_stages ?_
  rw [task.stages_eq_cons]
  exact List.mem_cons_of_mem _ member

/-! One lemma for each kind of turn. -/

theorem step_acquisition (confined : task.transformer.runner.IsLocal)
    (clear : FileTree.SameAlong task.workspace.directory tree files)
    (unused : files.find? task.workspace.directory = none) :
    let performed := task.perform { Progress.start tree with files } .acquisition
    Underway task preparation tree performed.2.files (.resumed task.laterStages performed) ∧
      Framed task files performed.2.files
        (.working (.acquisition :: task.laterStages) (.start tree))
        (.resumed task.laterStages performed) := by
  intro performed
  have alike : Progress.Alike (Path.IsAlong task.workspace.directory) (.start tree)
      { Progress.start tree with files } := ⟨rfl, rfl, rfl, clear⟩
  have planned := planned_laterStages task
  have leads : Told task preparation tree
      ((task.prepared preparation).endingOf (.acquisition :: task.laterStages) (.start tree)) := by
    have whole := (task.prepared preparation).endingOf_stages tree
    rw [Task.stages_eq_cons] at whole
    exact congrArg Ending.timeless whole
  have writesIn : Stage.WritesIn task.workspace.directory .acquisition := trivial
  have agree := (Task.perform_alike_of_isLocal confined alike writesIn preparation).2.files
  have free : tree.find? task.workspace.directory = none := by
    rw [← clear _ (.inl (List.prefix_refl _)), unused]
  obtain ⟨failed, unchanged⟩ | ⟨passed, made, below⟩ :=
    task.perform_acquisition_cases { Progress.start tree with files }
  · have unheld : performed.2.workspace = none := congrArg Progress.workspace unchanged
    have same : performed.2.files = files := congrArg Progress.files unchanged
    refine ⟨.resumed confined writesIn planned alike leads agree (.inl ⟨failed, unheld⟩), ?_⟩
    rw [same]
    exact ⟨.refl _ _, fun _ _ => rfl, fun _ _ => unused, fun held => absurd rfl held⟩
  · have holds : performed.2.workspace = some task.workspace := congrArg Progress.workspace made
    have inserted : performed.2.files = files.insert task.workspace.directory .directory :=
      congrArg Progress.files made
    have held : performed.2.files.find? task.workspace.directory = some .directory := by
      rw [inserted, FileTree.find?_insert _ _ _ _ below, if_pos rfl]
    refine ⟨.resumed confined writesIn planned alike leads agree
      (.inr ⟨holds, below, free, held⟩), ?_⟩
    refine ⟨?_, fun _ unheld => ?_, fun _ _ => unused, fun held => absurd rfl held⟩
    · rw [inserted]
      exact FileTree.sameOutside_insert files _ below (Path.isWithin_iff.mpr (List.prefix_refl _))
    · rw [Phase.workspace_resumed, holds] at unheld
      cases unheld

theorem step_stage (confined : task.transformer.runner.IsLocal)
    (underway : Underway task preparation tree files (.working (stage :: later) progress))
    (other : stage ≠ .launch) :
    let performed := task.perform { progress with files } stage
    Underway task preparation tree performed.2.files (.resumed later performed) ∧
      Framed task files performed.2.files (.working (stage :: later) progress)
        (.resumed later performed) := by
  intro performed
  cases underway with
  | working lone owned holds planned alike leads =>
    obtain ⟨⟨own, writesIn⟩, behind⟩ := List.forall_mem_cons.mp planned
    have agree := (Task.perform_alike_of_isLocal confined alike writesIn preparation).2.files
    have held := task.directory_of_perform { progress with files } owned.held own other
    have still : performed.2.workspace = some task.workspace :=
      (Task.workspace_perform own).trans holds
    refine ⟨.resumed confined writesIn behind alike leads agree
      (.inr ⟨still, owned.below, owned.free, held⟩), ?_⟩
    have keeps : task.KeepsOutside files { progress with files } := ⟨holds, .refl _ _⟩
    have kept := Task.keepsOutside_perform confined.staysInDirectory keeps writesIn
    have holds' := (Phase.workspace_resumed later performed).trans still
    exact .of_held kept.outside holds holds'

theorem step_launch (underway : Underway task preparation tree files
      (.working (.launch :: later) progress)) :
    Underway task preparation tree files (.running later { progress with files }) ∧
      Framed task files files (.working (.launch :: later) progress)
        (.running later { progress with files }) := by
  cases underway with
  | working lone owned holds planned alike leads =>
    obtain ⟨-, behind⟩ := List.forall_mem_cons.mp planned
    have above := (FileTree.sameAlong_iff.mp alike.files).1
    exact ⟨.running lone owned holds behind alike above leads, .of_held (.refl _ _) holds holds⟩

theorem step_scribble (underway : Underway task preparation tree files (.running later progress))
    (below : FileTree.SameButBelow task.workspace.directory files left) :
    Underway task preparation tree left (.running later progress) ∧
      Framed task files left (.running later progress) (.running later progress) := by
  cases underway with
  | running lone owned holds planned alike above leads =>
    have above' : FileTree.SameAbove task.workspace.directory lone.files left :=
      fun path upper => (below.sameAbove path upper).trans (above path upper)
    exact ⟨.running lone (owned.of_sameAbove below.sameAbove) holds planned alike above' leads,
      .of_held below.sameOutside holds holds⟩

theorem step_finish (confined : task.transformer.runner.IsLocal)
    (underway : Underway task preparation tree files (.running later progress))
    (leaves : ∀ path, left.find? path =
      if Path.isBelow task.workspace.directory path then
        (task.perform progress .launch).2.files.find? path
      else files.find? path) :
    Underway task preparation tree left (.resumed later (task.perform progress .launch)) ∧
      Framed task files left (.running later progress)
        (.resumed later (task.perform progress .launch)) := by
  have below : FileTree.SameButBelow task.workspace.directory files left :=
    fun path upper => (leaves path).trans (if_neg upper)
  cases underway with
  | running lone owned holds planned alike above leads =>
    have writesIn : Stage.WritesIn task.workspace.directory .launch := trivial
    have agree := (Task.perform_alike_of_isLocal confined alike writesIn preparation).2.files
    have own : Stage.launch ≠ .acquisition := nofun
    have still : (task.perform progress .launch).2.workspace = some task.workspace :=
      (Task.workspace_perform own).trans holds
    have same : FileTree.SameAlong task.workspace.directory
        ((task.prepared preparation).perform lone .launch).2.files left := by
      intro path along
      by_cases inside : Path.isBelow task.workspace.directory path
      · rw [leaves, if_pos inside]
        exact agree path along
      · have upper := along.prefix_of_not_isBelow inside
        have kept := Task.sameAbove_launch (task.prepared preparation) lone confined path upper
        rw [leaves, if_neg inside, above path upper, kept]
    refine ⟨.resumed confined writesIn planned alike leads same
      (.inr ⟨still, owned.of_sameAbove below.sameAbove⟩), ?_⟩
    have holds' := (Phase.workspace_resumed later (task.perform progress .launch)).trans still
    exact .of_held below.sameOutside holds holds'

theorem step_conclude (underway : Underway task preparation tree files (.working [] progress)) :
    Underway task preparation tree files
        (.closing (.answered (.ok (task.result { progress with files }))) progress.workspace) ∧
      Framed task files files (.working [] progress)
        (.closing (.answered (.ok (task.result { progress with files }))) progress.workspace) := by
  cases underway with
  | working lone owned holds planned alike leads =>
    have told : Told task preparation tree
        (.answered (.ok (task.result { progress with files }))) := by
      rw [Task.endingOf_nil] at leads
      refine Eq.trans ?_ leads
      simp only [Ending.timeless, Task.result_alike (fun _ => id) alike preparation]
    rw [holds]
    exact ⟨.closing owned told, .of_held (.refl _ _) holds rfl⟩

theorem step_sweep {workspace : Workspace}
    (underway : Underway task preparation tree files (.closing ending (some workspace)))
    (below : FileTree.SameButBelow task.workspace.directory files left) :
    Underway task preparation tree left (.closing ending (some workspace)) ∧
      Framed task files left (.closing ending (some workspace))
        (.closing ending (some workspace)) := by
  cases underway with
  | closing owned told =>
    exact ⟨.closing (owned.of_sameAbove below.sameAbove) told, .of_held below.sameOutside rfl rfl⟩

theorem step_release {workspace : Workspace}
    (underway : Underway task preparation tree files (.closing ending (some workspace))) :
    Underway task preparation tree (workspace.release files) (.ended ending) ∧
      Framed task files (workspace.release files) (.closing ending (some workspace))
        (.ended ending) := by
  cases underway with
  | closing owned told =>
    have removed := FileTree.find?_remove files owned.below
    refine ⟨.ended told, fun path outside => ?_, nofun, fun _ held => absurd rfl held,
      fun _ _ path within => ?_⟩
    · exact (removed path).trans (if_neg outside)
    · exact (removed path).trans (if_pos within)

theorem step_leave (underway : Underway task preparation tree files (.closing ending none)) :
    Underway task preparation tree files (.ended ending) ∧
      Framed task files files (.closing ending none) (.ended ending) := by
  cases underway with
  | leaving told =>
    exact ⟨.ended told, .refl _ _, fun _ _ => rfl, fun _ held => absurd rfl held,
      fun held => absurd rfl held⟩

/-- A call that has not begun, or one that goes the way it goes alone. -/
def Follows (task : Task) (preparation : Duration) (tree files : FileTree) (phase : Phase) : Prop :=
  phase = .working task.stages (.start tree) ∨ Underway task preparation tree files phase

/-- A turn of a call, where nobody holds anything along its workspace when it begins. -/
theorem Follows.step (confined : task.transformer.runner.IsLocal)
    (follows : Follows task preparation tree files phase)
    (clear : files.find? task.workspace.directory = none →
      FileTree.SameAlong task.workspace.directory tree files)
    (step : Step task files phase left after) :
    Underway task preparation tree left after ∧ Framed task files left phase after := by
  obtain rfl | underway := follows
  · rw [task.stages_eq_cons] at step ⊢
    cases step with
    | stage _ _ _ _ unused => exact step_acquisition confined (clear (unused rfl)) (unused rfl)
  · cases step with
    | stage stage later progress other => exact step_stage confined underway other
    | launch later progress => exact step_launch underway
    | scribble later progress left below => exact step_scribble underway below
    | finish later progress left leaves => exact step_finish confined underway leaves
    | conclude progress => exact step_conclude underway
    | sweep ending workspace left below => exact step_sweep underway below
    | release ending workspace => exact step_release underway
    | leave ending => exact step_leave underway

theorem Underway.frame (underway : Underway task preparation tree files phase)
    (same : phase.workspace ≠ none → FileTree.SameAlong task.workspace.directory files left) :
    Underway task preparation tree left phase := by
  cases underway with
  | @working later progress lone owned holds planned alike leads =>
    have held : progress.workspace ≠ none := by
      rw [holds]
      nofun
    have owned' := owned.of_sameAbove (FileTree.sameAlong_iff.mp (same held)).1
    exact .working lone owned' holds planned
      ⟨alike.workspace, alike.diagnostics, alike.output, alike.files.trans (same held)⟩ leads
  | @running later progress lone owned holds planned alike above leads =>
    have held : progress.workspace ≠ none := by
      rw [holds]
      nofun
    have same_above := (FileTree.sameAlong_iff.mp (same held)).1
    exact .running lone (owned.of_sameAbove same_above) holds planned alike
      (fun path upper => (same_above path upper).trans (above path upper)) leads
  | closing owned told =>
    have same_above := (FileTree.sameAlong_iff.mp (same nofun)).1
    exact .closing (owned.of_sameAbove same_above) told
  | leaving told => exact .leaving told
  | ended told => exact .ended told

theorem Underway.owned (underway : Underway task preparation tree files phase)
    (held : phase.workspace ≠ none) : Owned task tree files := by
  cases underway with
  | working lone owned => exact owned
  | running lone owned => exact owned
  | closing owned => exact owned
  | leaving => exact absurd rfl held
  | ended => exact absurd rfl held

theorem Underway.exists_step (underway : Underway task preparation tree files phase) :
    (∃ ending, phase = .ended ending) ∨
      ∃ left after, Step task files phase left after ∧ after.owed < phase.owed := by
  suffices advances : (∃ ending, phase = .ended ending) ∨
      ∃ left after, advance? task files phase = some (left, after) from
    advances.imp_right fun ⟨left, after, advances⟩ => ⟨left, after, step_of_advance? advances⟩
  cases underway with
  | @working later progress lone owned holds planned alike leads =>
    refine .inr ?_
    cases later with
    | nil => exact ⟨_, _, rfl⟩
    | cons stage later =>
      have own := (planned stage List.mem_cons_self).1
      by_cases launches : stage = .launch
      · exact ⟨_, _, if_pos launches⟩
      · exact ⟨_, _, (if_neg launches).trans (if_neg fun waits => own waits.1)⟩
  | running => exact .inr ⟨_, _, rfl⟩
  | closing => exact .inr ⟨_, _, rfl⟩
  | leaving => exact .inr ⟨_, _, rfl⟩
  | @ended ending told => exact .inl ⟨ending, rfl⟩

end Course

end Concurrent

end StylesheetRunner
