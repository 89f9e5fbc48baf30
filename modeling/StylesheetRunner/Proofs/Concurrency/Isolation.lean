import StylesheetRunner.Proofs.Concurrency.Course

/-!
Calls at the same time are isolated. Whatever stands outside the workspaces that are held is as it
was at the start, no two calls hold one place, and each call is where it would be alone. Every turn
of every call keeps this, so it holds in all runs.
-/

namespace StylesheetRunner.Concurrent

variable {ι : Type} [DecidableEq ι] {tasks : ι → Task} {preparation : ι → Duration}
  {tree : FileTree} {calls next : Calls ι} {call other : ι}

omit [DecidableEq ι] in
theorem Apart.outside (apart : Apart tasks)
    (different : (tasks call).workspace.directory ≠ (tasks other).workspace.directory) :
    ¬ Path.isWithin (tasks call).workspace.directory (tasks other).workspace.directory :=
  fun within => different (apart call other within)

theorem Follows.owned {task : Task} {preparation : Duration} {files : FileTree} {phase : Phase}
    (follows : Follows task preparation tree files phase) (held : phase.workspace ≠ none) :
    Owned task tree files := by
  obtain rfl | underway := follows
  · exact absurd rfl held
  · exact underway.owned held

structure Sound (tasks : ι → Task) (preparation : ι → Duration) (tree : FileTree)
    (calls : Calls ι) : Prop where
  follows : ∀ call,
    Follows (tasks call) (preparation call) tree calls.files (calls.phase call)
  distinct : ∀ call other, (calls.phase call).workspace ≠ none →
    (calls.phase other).workspace ≠ none →
    (tasks call).workspace.directory = (tasks other).workspace.directory → call = other
  untouched : ∀ path,
    (∀ call, (calls.phase call).workspace ≠ none →
      ¬ Path.isWithin (tasks call).workspace.directory path) →
    calls.files.find? path = tree.find? path

omit [DecidableEq ι] in
theorem sound_start (tasks : ι → Task) (preparation : ι → Duration) (tree : FileTree) :
    Sound tasks preparation tree (.start tasks tree) :=
  ⟨fun _ => .inl rfl, fun _ _ held => absurd rfl held, fun _ _ => rfl⟩

omit [DecidableEq ι] in
theorem Sound.clear (sound : Sound tasks preparation tree calls) (apart : Apart tasks)
    (unused : calls.files.find? (tasks call).workspace.directory = none) :
    FileTree.SameAlong (tasks call).workspace.directory tree calls.files := by
  intro path along
  refine sound.untouched path fun other held => ?_
  have stands := ((sound.follows other).owned held).held
  have different : (tasks call).workspace.directory ≠ (tasks other).workspace.directory := by
    intro same
    rw [← same, unused] at stands
    cases stands
  exact Path.not_isWithin_of_isAlong along (apart.outside different)
    (apart.outside different.symm)

theorem Calls.phase_after (calls : Calls ι) (call : ι) (files : FileTree) (phase : Phase)
    (other : ι) :
    (calls.after call files phase).phase other =
      if other = call then phase else calls.phase other :=
  Function.update_apply ..

section Turn
variable {left : FileTree} {after : Phase}
  (framed : Framed (tasks call) calls.files left (calls.phase call) after)
include framed

omit [DecidableEq ι] in
theorem Sound.place_ne (sound : Sound tasks preparation tree calls) (different : other ≠ call)
    (held : (calls.phase other).workspace ≠ none)
    (active : (calls.phase call).workspace ≠ none ∨ after.workspace ≠ none) :
    (tasks call).workspace.directory ≠ (tasks other).workspace.directory := by
  intro same
  by_cases idle : (calls.phase call).workspace = none
  · have unused := framed.taken idle (active.resolve_left fun before => before idle)
    rw [same, ((sound.follows other).owned held).held] at unused
    cases unused
  · exact different (sound.distinct call other idle held same).symm

omit [DecidableEq ι] in
theorem Sound.sameAlong_of_other (sound : Sound tasks preparation tree calls)
    (apart : Apart tasks) (different : other ≠ call)
    (held : (calls.phase other).workspace ≠ none) :
    FileTree.SameAlong (tasks other).workspace.directory calls.files left := by
  by_cases active : (calls.phase call).workspace ≠ none ∨ after.workspace ≠ none
  · have apart_from := sound.place_ne framed different held active
    exact framed.outside.sameAlong (apart.outside apart_from.symm) (apart.outside apart_from)
  · rw [not_or, not_not, not_not] at active
    rw [framed.idle active.1 active.2]
    exact fun _ _ => rfl

theorem Sound.untouched_after (sound : Sound tasks preparation tree calls)
    (grounded : tree.IsGrounded) {path : Path}
    (outside : ∀ other, ((calls.after call left after).phase other).workspace ≠ none →
      ¬ Path.isWithin (tasks other).workspace.directory path) :
    left.find? path = tree.find? path := by
  have outside_others : ∀ other, other ≠ call → (calls.phase other).workspace ≠ none →
      ¬ Path.isWithin (tasks other).workspace.directory path := by
    intro other different held
    refine outside other ?_
    rwa [Calls.phase_after, if_neg different]
  by_cases within : Path.isWithin (tasks call).workspace.directory path
  · have idle' : after.workspace = none := by
      by_contra active
      refine outside call ?_ within
      rwa [Calls.phase_after, if_pos rfl]
    by_cases idle : (calls.phase call).workspace = none
    · rw [framed.idle idle idle']
      refine sound.untouched path fun other held => outside_others other ?_ held
      rintro rfl
      exact held idle
    · -- The workspace has been removed, and at the start nothing stood there.
      obtain ⟨names, rfl⟩ := Path.isWithin_iff.mp within
      have free := ((sound.follows call).owned idle).free
      rw [framed.released idle idle' _ within, grounded _ names free]
  · refine (framed.outside path within).trans (sound.untouched path fun other held => ?_)
    by_cases same : other = call
    · exact same ▸ within
    · exact outside_others other same held

end Turn

section Turns
variable (confined : ∀ call, (tasks call).transformer.runner.IsLocal) (apart : Apart tasks)
  (grounded : tree.IsGrounded)
include confined apart grounded

theorem Sound.take (sound : Sound tasks preparation tree calls) {left : FileTree} {after : Phase}
    (step : Step (tasks call) calls.files (calls.phase call) left after) :
    Sound tasks preparation tree (calls.after call left after) := by
  obtain ⟨underway, framed⟩ := (sound.follows call).step (confined call) (sound.clear apart) step
  refine ⟨fun other => ?follows, fun one other => ?distinct, fun path outside => ?untouched⟩
  case follows =>
    rw [Calls.phase_after]
    split
    next same =>
      subst same
      exact .inr underway
    next different =>
      refine (sound.follows other).imp_right fun going => going.frame fun held => ?_
      exact sound.sameAlong_of_other framed apart different held
  case distinct =>
    rw [Calls.phase_after, Calls.phase_after]
    intro held held' same
    split at held
    next first =>
      split at held'
      next second => exact first.trans second.symm
      next second => exact absurd (first ▸ same) (sound.place_ne framed second held' (.inr held))
    next first =>
      split at held'
      next second =>
        exact absurd (second ▸ same).symm (sound.place_ne framed first held (.inr held'))
      next => exact sound.distinct one other held held' same
  case untouched =>
    exact sound.untouched_after framed grounded outside

theorem Sound.reaches (sound : Sound tasks preparation tree calls)
    (run : Reaches tasks calls next) : Sound tasks preparation tree next := by
  induction run with
  | refl => exact sound
  | tail run turn ih =>
    obtain ⟨call, files, phase, step⟩ := turn
    exact ih.take confined apart grounded step

theorem Sound.exists_ended (sound : Sound tasks preparation tree calls)
    (underway : Underway (tasks call) (preparation call) tree calls.files (calls.phase call)) :
    ∃ next, Reaches tasks calls next ∧ (∃ ending, next.phase call = .ended ending) ∧
      ∀ other, other ≠ call → next.phase other = calls.phase other := by
  induction owes : (calls.phase call).owed using Nat.strongRecOn generalizing calls with
  | ind count ih =>
    obtain ⟨ending, ended⟩ | ⟨left, after, step, fewer⟩ := underway.exists_step
    · exact ⟨calls, .refl, ⟨ending, ended⟩, fun _ _ => rfl⟩
    · have own : (calls.after call left after).phase call = after := by
        rw [Calls.phase_after, if_pos rfl]
      have going := ((sound.follows call).step (confined call) (sound.clear apart) step).1
      obtain ⟨next, run, ended, others⟩ :=
        ih after.owed (owes ▸ fewer) (sound.take confined apart grounded step)
          (own.symm ▸ going) (congrArg Phase.owed own)
      refine ⟨next, .head (.take call left after step) run, ended, fun other different => ?_⟩
      rw [others other different, Calls.phase_after, if_neg different]

theorem Sound.exists_ended_of_step (sound : Sound tasks preparation tree calls) {left : FileTree}
    {after : Phase} (step : Step (tasks call) calls.files (calls.phase call) left after) :
    ∃ next, Reaches tasks calls next ∧ ∃ ending, next.phase call = .ended ending := by
  have own : (calls.after call left after).phase call = after := by
    rw [Calls.phase_after, if_pos rfl]
  have going := ((sound.follows call).step (confined call) (sound.clear apart) step).1
  obtain ⟨next, run, ended, -⟩ :=
    (sound.take confined apart grounded step).exists_ended confined apart grounded
      (own.symm ▸ going)
  exact ⟨next, .head (.take call left after step) run, ended⟩

theorem Sound.exists_ended_of_unused (sound : Sound tasks preparation tree calls)
    (fresh : calls.phase call = .working (tasks call).stages (.start tree))
    (unused : calls.files.find? (tasks call).workspace.directory = none) :
    ∃ next, Reaches tasks calls next ∧ ∃ ending, next.phase call = .ended ending := by
  have step := Step.stage .acquisition (tasks call).laterStages (.start tree) nofun fun _ => unused
  rw [← Task.stages_eq_cons, ← fresh] at step
  exact sound.exists_ended_of_step confined apart grounded step

/-- Every call whose place was free at the start can come to its end, whatever has happened. -/
theorem Sound.exists_ended_of_free (sound : Sound tasks preparation tree calls)
    (free : tree.find? (tasks call).workspace.directory = none) :
    ∃ next, Reaches tasks calls next ∧ ∃ ending, next.phase call = .ended ending := by
  obtain fresh | underway := sound.follows call
  · by_cases unused : calls.files.find? (tasks call).workspace.directory = none
    · exact sound.exists_ended_of_unused confined apart grounded fresh unused
    · -- Somebody else holds the place. It comes to its end first.
      have taken : ∃ other, (calls.phase other).workspace ≠ none ∧
          (tasks other).workspace.directory = (tasks call).workspace.directory := by
        by_contra nobody
        refine unused ((sound.untouched _ fun other held within => ?_).trans free)
        exact nobody ⟨other, held, apart other call within⟩
      obtain ⟨other, held, same⟩ := taken
      have different : call ≠ other := by
        rintro rfl
        rw [fresh] at held
        exact held rfl
      have going : Underway (tasks other) (preparation other) tree calls.files
          (calls.phase other) := by
        refine (sound.follows other).resolve_left fun fresh => ?_
        rw [fresh] at held
        exact held rfl
      obtain ⟨between, run, ⟨ending, ended⟩, others⟩ :=
        sound.exists_ended confined apart grounded going
      have sound' := sound.reaches confined apart grounded run
      have unused' : between.files.find? (tasks call).workspace.directory = none := by
        refine (sound'.untouched _ fun third held' within => ?_).trans free
        have third_other : third ≠ other := by
          rintro rfl
          rw [ended] at held'
          exact held' rfl
        rw [others third third_other] at held'
        exact third_other
          (sound.distinct third other held' held ((apart third call within).trans same.symm))
      obtain ⟨next, run', ended'⟩ := sound'.exists_ended_of_unused confined apart grounded
        ((others call different).trans fresh) unused'
      exact ⟨next, run.trans run', ended'⟩
  · obtain ⟨next, run, ended, -⟩ := sound.exists_ended confined apart grounded underway
    exact ⟨next, run, ended⟩

end Turns

/-- **Calls at the same time are isolated.** Each ends as it ends alone in the same place, up to
times; when all have ended the files are as at the start; and no call can be kept from its end. -/
theorem calls_are_isolated (tasks : ι → Task) (tree : FileTree)
    (confined : ∀ call, (tasks call).transformer.runner.IsLocal) (apart : Apart tasks)
    (grounded : tree.IsGrounded) (run : Reaches tasks (.start tasks tree) calls) :
    (∀ call ending, calls.phase call = .ended ending → ∀ preparation,
      ending.timeless =
        (((tasks call).prepared preparation).transform tree).ending.timeless) ∧
    ((∀ call, ∃ ending, calls.phase call = .ended ending) →
      ∀ path, calls.files.find? path = tree.find? path) ∧
    ∀ call, tree.find? (tasks call).workspace.directory = none →
      ∃ next, Reaches tasks calls next ∧ ∃ ending, next.phase call = .ended ending := by
  have sound : ∀ preparation, Sound tasks preparation tree calls := fun preparation =>
    (sound_start tasks preparation tree).reaches confined apart grounded run
  refine ⟨?alike, ?restored, ?ends⟩
  case alike =>
    intro call ending ended preparation
    have follows := (sound fun _ => preparation).follows call
    rw [ended] at follows
    obtain fresh | underway := follows
    · cases fresh
    · cases underway with
      | ended told => exact told
  case restored =>
    intro ended path
    refine (sound fun _ => ⟨0⟩).untouched path fun call held => ?_
    obtain ⟨ending, ended⟩ := ended call
    rw [ended] at held
    exact absurd rfl held
  case ends =>
    intro call free
    exact (sound fun _ => ⟨0⟩).exists_ended_of_free confined apart grounded free

def copying : Runner := fun command _ files =>
  match files.find? (command.directory ++ ["param_0"]) with
  | some (.file bytes) =>
    (.finished "" ⟨1000000⟩, files.insert (command.directory ++ ["result.xml"]) (.file bytes))
  | _ => (.failed (.process "no parameter"), files)

theorem isLocal_copying : copying.IsLocal where
  below command budget files := by
    have inside : Path.isBelow command.directory (command.directory ++ ["result.xml"]) := by
      rw [Path.isBelow_iff]
      exact ⟨List.prefix_append _ _, by simp⟩
    unfold copying
    split
    · exact FileTree.sameButBelow_insert files _ inside
    · exact fun _ _ => rfl
  determined command budget budget' files files' same := by
    have read := same _ (List.prefix_append command.directory ["param_0"])
    unfold copying
    rw [read]
    rcases files.find? (command.directory ++ ["param_0"]) with _ | bytes | _ | _
    case some.file =>
      refine ⟨rfl, fun path inside => ?_⟩
      have below : command.directory ++ ["result.xml"] ≠ [] := by simp
      rw [FileTree.find?_insert _ _ _ _ below, FileTree.find?_insert _ _ _ _ below,
        same path inside]
    all_goals exact ⟨rfl, same⟩

def Phase.output? : Phase → Option String
  | .ended (.answered (.ok result)) => some result.result
  | _ => none

/-- Two calls that take turns. Their launches overlap, and so does all else. -/
theorem calls_are_isolated_of_two :
    let value (second : Bool) : String := if second then "two" else "one"
    let tasks (second : Bool) : Task :=
      ⟨⟨⟨"java", [], "/opt/saxon/*", "Runner"⟩, .ofMilliseconds 10000, copying⟩,
        ⟨["tmp", if second then "xslt2" else "xslt1"], ⟨5⟩⟩,
        ⟨"<xsl/>", none, .ofList [("id", value second)], false⟩⟩
    let tree := FileTree.empty.insert ["tmp"] .directory
    let calls := (Calls.start tasks tree).play tasks
      ((List.replicate 11 [false, true]).flatten)
    (∀ call, (calls.phase call).output? = some (value call)) ∧
      (∀ call ending, calls.phase call = .ended ending →
        ending.timeless = (((tasks call).prepared ⟨0⟩).transform tree).ending.timeless) ∧
      (∀ path, calls.files.find? path = tree.find? path) ∧
      ∃ next, Reaches tasks calls next ∧ ∃ ending, next.phase false = .ended ending := by
  intro value tasks tree calls
  have outputs : ∀ call, (calls.phase call).output? = some (value call) := by decide +kernel
  have siblings : ∀ call, ∃ name, (tasks call).workspace.directory = ["tmp"] ++ [name] :=
    fun call => ⟨_, rfl⟩
  have apart := apart_of_siblings siblings
  have grounded : tree.IsGrounded := FileTree.isGrounded_empty.insert _ (by simp) nofun
  obtain ⟨alike, restored, ends⟩ := calls_are_isolated tasks tree (fun _ => isLocal_copying) apart
    grounded (reaches_play tasks (.start tasks tree) _)
  refine ⟨outputs, fun call ending ended => alike call ending ended ⟨0⟩, restored fun call => ?_,
    ends false (by decide +kernel)⟩
  have output := outputs call
  unfold Phase.output? at output
  split at output
  next result ended => exact ⟨_, ended⟩
  next => cases output

end StylesheetRunner.Concurrent
