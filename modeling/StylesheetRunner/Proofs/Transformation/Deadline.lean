import StylesheetRunner.Proofs.Duration
import StylesheetRunner.Proofs.Transformation.Outcome

/-!
The time that a successful transformation reports. The runner is given what the preparation has left
of the deadline, so what both take stays within the deadline as long as the preparation does. A
preparation that takes longer is not noticed: the runner is given no time, and one that needs none
succeeds.
-/

namespace StylesheetRunner

/-- The contract of a runner: a launch that finishes takes no more than the time it is given. -/
def KeepsBudget (runner : Runner) : Prop :=
  ∀ command budget files diagnostics elapsed left,
    runner command budget files = (.finished diagnostics elapsed, left) →
      elapsed.nanoseconds ≤ budget.nanoseconds

namespace Task

variable {task : Task} {tree : FileTree} {result : Result}

theorem exists_elapsed_of_success (keeps : KeepsBudget task.transformer.runner)
    (success : (task.transform tree).ending = .answered (.ok result)) :
    ∃ elapsed : Duration,
      elapsed.nanoseconds ≤ task.transformer.deadline.nanoseconds -
        task.circumstances.preparation.nanoseconds ∧
      result.durationMilliseconds =
        (task.circumstances.preparation + elapsed).cappedMilliseconds := by
  rcases transform_cases_own task tree with ⟨failure, left, stops⟩ | ⟨files, launches⟩
  · rw [stops] at success
    cases success
  rw [launches] at success
  obtain ⟨diagnostics, elapsed, left, ended, collected⟩ := conclude_eq_ok success
  refine ⟨elapsed, keeps _ _ _ diagnostics elapsed left ended, ?_⟩
  unfold Transformer.collect at collected
  split at collected
  next => cases collected
  next output read =>
    cases collected
    rfl

end Task

namespace Transformer

section

variable {configuration : Configuration} {runner : Runner} {circumstances : Circumstances}
  {request : Request} {tree : FileTree} {result : Result}

/-- **The reported time and the deadline.** A success with a runner that keeps its budget reports at
most the deadline exactly if its preparation, counted in whole milliseconds, does not exceed it. A
preparation beyond the deadline leaves the runner no time, and is itself what is reported. -/
theorem duration_le_deadline_iff (keeps : KeepsBudget runner)
    (success : ((ofConfiguration configuration runner).transform circumstances request
      tree).ending = .answered (.ok result)) :
    (result.durationMilliseconds ≤ configuration.timeoutMilliseconds ↔
      circumstances.preparation.cappedMilliseconds ≤ configuration.timeoutMilliseconds) ∧
    (circumstances.preparation.nanoseconds ≤ configuration.deadline.nanoseconds →
      result.durationMilliseconds ≤ configuration.timeoutMilliseconds) ∧
    (configuration.deadline.nanoseconds < circumstances.preparation.nanoseconds →
      result.durationMilliseconds = circumstances.preparation.cappedMilliseconds) := by
  let task : Task := ⟨ofConfiguration configuration runner, circumstances, request⟩
  have success : (task.transform tree).ending = .answered (.ok result) := success
  obtain ⟨⟨elapsed⟩, within, reported⟩ := Task.exists_elapsed_of_success keeps success
  change elapsed ≤ configuration.deadline.nanoseconds - circumstances.preparation.nanoseconds
    at within
  change _ = Duration.cappedMilliseconds ⟨circumstances.preparation.nanoseconds + elapsed⟩
    at reported
  have in_time
      (early : circumstances.preparation.nanoseconds ≤ configuration.deadline.nanoseconds) :
      result.durationMilliseconds ≤ configuration.timeoutMilliseconds := by
    rw [reported]
    exact Duration.cappedMilliseconds_le_of_within (Nat.add_le_of_le_sub' early within)
  have overdue
      (late : configuration.deadline.nanoseconds < circumstances.preparation.nanoseconds) :
      result.durationMilliseconds = circumstances.preparation.cappedMilliseconds := by
    -- Nothing is left for the launch: the subtraction stops at zero.
    rw [Nat.sub_eq_zero_of_le (Nat.le_of_lt late)] at within
    rw [reported, Nat.eq_zero_of_le_zero within, Nat.add_zero]
  refine ⟨?_, in_time, overdue⟩
  rcases Nat.lt_or_ge configuration.deadline.nanoseconds
    circumstances.preparation.nanoseconds with late | early
  · rw [overdue late]
  · exact iff_of_true (in_time early) (Duration.cappedMilliseconds_le_of_within early)

end

theorem duration_le_deadline_of_whole_budget :
    let runner : Runner := fun command budget files =>
      (.finished "" budget, files.insert (command.directory ++ ["result.xml"]) (.file [0x3C]))
    let configuration : Configuration := { Configuration.default with timeoutMilliseconds := 20 }
    let done := (ofConfiguration configuration runner).transform
      ⟨["tmp", "xslt1"], ⟨3400000⟩⟩ ⟨"<xsl/>", none, .empty, false⟩
      (FileTree.empty.insert ["tmp"] .directory)
    ∃ result, KeepsBudget runner ∧ done.ending = .answered (.ok result) ∧
      result.durationMilliseconds ≤ configuration.timeoutMilliseconds := by
  intro runner configuration done
  have keeps : KeepsBudget runner := by
    rintro command budget files diagnostics elapsed left ⟨⟩
    exact Nat.le_refl _
  have success : done.ending = .answered (.ok
      ⟨"<", (⟨3400000⟩ + configuration.deadline.remaining ⟨3400000⟩ : Duration).cappedMilliseconds,
        [], ""⟩) := by rfl
  exact ⟨_, keeps, success, (duration_le_deadline_iff keeps success).2.1 (by decide)⟩

/-- Three milliseconds of preparation under a deadline of one: the launch is given no time, takes
none, and the success reports three. -/
theorem duration_exceeds_deadline :
    let runner : Runner := fun command _ files =>
      (.finished "" ⟨0⟩, files.insert (command.directory ++ ["result.xml"]) (.file [0x3C]))
    let configuration : Configuration := { Configuration.default with timeoutMilliseconds := 1 }
    let done := (ofConfiguration configuration runner).transform
      ⟨["tmp", "xslt1"], .ofMilliseconds 3⟩ ⟨"<xsl/>", none, .empty, false⟩
      (FileTree.empty.insert ["tmp"] .directory)
    ∃ result, KeepsBudget runner ∧ done.ending = .answered (.ok result) ∧
      ¬ result.durationMilliseconds ≤ configuration.timeoutMilliseconds := by
  intro runner configuration done
  have keeps : KeepsBudget runner := by
    rintro command budget files diagnostics elapsed left ⟨⟩
    exact Nat.zero_le _
  have success : done.ending = .answered (.ok ⟨"<", 3, [], ""⟩) := by rfl
  exact ⟨_, keeps, success, by decide⟩

end Transformer

end StylesheetRunner
