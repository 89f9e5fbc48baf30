import Mathlib.Logic.Function.Basic
import Mathlib.Logic.Relation
import StylesheetRunner.Proofs.Transformation.Locality

/-!
Calls that transform at the same time, over one file tree. Each of them takes its own stages in
order, and their turns come in any order. A launch is no single turn: from its beginning to its end
other calls take turns, and what it has written so far stands in the tree. So it is with the removal
of a workspace.
-/

namespace StylesheetRunner.Concurrent

/-- How far a call has come. A running launch has the files as they were at its beginning. -/
inductive Phase where
  | working (later : List Stage) (progress : Progress)
  | running (later : List Stage) (progress : Progress)
  | closing (ending : Ending) (workspace : Option Workspace)
  | ended (ending : Ending)

namespace Phase

def workspace : Phase → Option Workspace
  | .working _ progress => progress.workspace
  | .running _ progress => progress.workspace
  | .closing _ workspace => workspace
  | .ended _ => none

/-- Behind a stage: the call goes on with the later ones, unless the stage has failed. -/
def resumed (later : List Stage) : Option Ending × Progress → Phase
  | (none, progress) => .working later progress
  | (some ending, progress) => .closing ending progress.workspace

/-- How many turns a call still takes at most that bring it on. -/
def owed : Phase → Nat
  | .working later _ => 2 * later.length + 2
  | .running later _ => 2 * later.length + 3
  | .closing .. => 1
  | .ended _ => 0

theorem owed_resumed (later : List Stage) (performed : Option Ending × Progress) :
    (resumed later performed).owed ≤ 2 * later.length + 2 := by
  obtain ⟨_ | ending, progress⟩ := performed
  · exact Nat.le_refl _
  · exact Nat.le_add_left 1 _

end Phase

/-- What one turn of a call makes of the files and of the call. A name for a new workspace is one
that is not in use. -/
inductive Step (task : Task) (files : FileTree) : Phase → FileTree → Phase → Prop where
  | stage (stage : Stage) (later : List Stage) (progress : Progress) (other : stage ≠ .launch)
    (unused : stage = .acquisition → files.find? task.workspace.directory = none) :
    Step task files (.working (stage :: later) progress)
      (task.perform { progress with files } stage).2.files
      (.resumed later (task.perform { progress with files } stage))
  | launch (later : List Stage) (progress : Progress) :
    Step task files (.working (.launch :: later) progress) files
      (.running later { progress with files })
  | scribble (later : List Stage) (progress : Progress) (left : FileTree)
    (below : FileTree.SameButBelow task.workspace.directory files left) :
    Step task files (.running later progress) left (.running later progress)
  /-- The launch ends. Below its directory the files are those that it leaves. -/
  | finish (later : List Stage) (progress : Progress) (left : FileTree)
    (leaves : ∀ path, left.find? path =
      if Path.isBelow task.workspace.directory path then
        (task.perform progress .launch).2.files.find? path
      else files.find? path) :
    Step task files (.running later progress) left
      (.resumed later (task.perform progress .launch))
  | conclude (progress : Progress) :
    Step task files (.working [] progress) files
      (.closing (.answered (.ok (task.result { progress with files }))) progress.workspace)
  /-- A part of the workspace has been removed. -/
  | sweep (ending : Ending) (workspace : Workspace) (left : FileTree)
    (below : FileTree.SameButBelow task.workspace.directory files left) :
    Step task files (.closing ending (some workspace)) left (.closing ending (some workspace))
  | release (ending : Ending) (workspace : Workspace) :
    Step task files (.closing ending (some workspace)) (workspace.release files) (.ended ending)
  | leave (ending : Ending) : Step task files (.closing ending none) files (.ended ending)

/-- The turn that brings a call on, if it can take one. A launch that runs comes to its end. -/
def advance? (task : Task) (files : FileTree) : Phase → Option (FileTree × Phase)
  | .working [] progress =>
    some (files,
      .closing (.answered (.ok (task.result { progress with files }))) progress.workspace)
  | .working (stage :: later) progress =>
    if stage = .launch then some (files, .running later { progress with files })
    else if stage = .acquisition ∧ files.holds task.workspace.directory then none
    else
      let performed := task.perform { progress with files } stage
      some (performed.2.files, .resumed later performed)
  | .running later progress =>
    let performed := task.perform progress .launch
    some (.graft task.workspace.directory files performed.2.files, .resumed later performed)
  | .closing ending (some workspace) => some (workspace.release files, .ended ending)
  | .closing ending none => some (files, .ended ending)
  | .ended _ => none

theorem step_of_advance? {task : Task} {files left : FileTree} {phase after : Phase}
    (advances : advance? task files phase = some (left, after)) :
    Step task files phase left after ∧ after.owed < phase.owed := by
  cases phase with
  | working later progress =>
    cases later with
    | nil =>
      cases advances
      exact ⟨.conclude progress, Nat.lt_succ_self 1⟩
    | cons stage later =>
      rw [advance?] at advances
      split at advances
      next launches =>
        cases advances
        subst launches
        exact ⟨.launch later progress, Nat.lt_succ_self _⟩
      next other =>
        split at advances
        next => cases advances
        next unused =>
          cases advances
          refine ⟨.stage stage later progress other fun same => ?_, ?_⟩
          · simpa [same, FileTree.holds] using unused
          · refine Nat.lt_of_le_of_lt (Phase.owed_resumed later _) ?_
            simp only [Phase.owed, List.length_cons]
            omega
  | running later progress =>
    cases advances
    exact ⟨.finish later progress _ (FileTree.find?_graft _ files _),
      Nat.lt_succ_of_le (Phase.owed_resumed later _)⟩
  | closing ending workspace =>
    cases workspace with
    | some workspace =>
      cases advances
      exact ⟨.release ending workspace, Nat.lt_succ_self 0⟩
    | none =>
      cases advances
      exact ⟨.leave ending, Nat.lt_succ_self 0⟩
  | ended ending => cases advances

structure Calls (ι : Type) where
  files : FileTree
  phase : ι → Phase

section Running
variable {ι : Type} [DecidableEq ι]

def Calls.start (tasks : ι → Task) (tree : FileTree) : Calls ι :=
  ⟨tree, fun call => .working (tasks call).stages (.start tree)⟩

def Calls.after (calls : Calls ι) (call : ι) (files : FileTree) (phase : Phase) : Calls ι :=
  ⟨files, Function.update calls.phase call phase⟩

inductive Turn (tasks : ι → Task) (calls : Calls ι) : Calls ι → Prop where
  | take (call : ι) (files : FileTree) (phase : Phase)
    (step : Step (tasks call) calls.files (calls.phase call) files phase) :
    Turn tasks calls (calls.after call files phase)

abbrev Reaches (tasks : ι → Task) : Calls ι → Calls ι → Prop :=
  Relation.ReflTransGen (Turn tasks)

/-- Calls take turns as a schedule says; a turn that a call cannot take is left out. -/
def Calls.play (tasks : ι → Task) (calls : Calls ι) : List ι → Calls ι
  | [] => calls
  | call :: later =>
    match advance? (tasks call) calls.files (calls.phase call) with
    | some (files, phase) => (calls.after call files phase).play tasks later
    | none => calls.play tasks later

theorem reaches_play (tasks : ι → Task) (calls : Calls ι) (schedule : List ι) :
    Reaches tasks calls (calls.play tasks schedule) := by
  induction schedule generalizing calls with
  | nil => exact .refl
  | cons call later ih =>
    rw [Calls.play]
    split
    next files phase advances =>
      exact .head (.take call files phase (step_of_advance? advances).1) (ih _)
    next => exact ih calls

/-- No place of a workspace lies below another, as places side by side in one directory do not. -/
def Apart (tasks : ι → Task) : Prop :=
  ∀ call other, Path.isWithin (tasks call).workspace.directory (tasks other).workspace.directory →
    (tasks call).workspace.directory = (tasks other).workspace.directory

omit [DecidableEq ι] in
theorem apart_of_siblings {tasks : ι → Task} {temporary : Path}
    (siblings : ∀ call, ∃ name, (tasks call).workspace.directory = temporary ++ [name]) :
    Apart tasks := by
  intro call other within
  obtain ⟨name, place⟩ := siblings call
  obtain ⟨name', place'⟩ := siblings other
  rw [Path.isWithin_iff, place, place'] at within
  have length : (temporary ++ [name]).length = (temporary ++ [name']).length := by simp
  rw [place, place']
  exact within.eq_of_length length

end Running

end StylesheetRunner.Concurrent
