import StylesheetRunner.Process.Machine
import StylesheetRunner.Proofs.Process.Race

/-!
What the runner returns, and that nothing keeps it from returning once the deadline has passed.
-/

namespace StylesheetRunner

namespace Race

variable {deadline : Duration} {first race next : Race} {acts : List Act} {act : Act}
  {answer : Except Failure String} {seen : Supervision}

/-! What a return says. -/

def Returns (deadline : Duration) (first : Race) (acts : List Act)
    (answer : Except Failure String) : Prop :=
  ∃ race, Run deadline first acts race ∧ race.stand = .returned answer

theorem Returns.run?_eq (returns : Returns deadline launched acts answer) :
    ∃ verdict, Supervision.run? (eventsOf acts) = some verdict ∧
      verdict.answer deadline = answer := by
  obtain ⟨race, run, stands⟩ := returns
  have follows := run.follows
  rw [Supervision.run?_eq_verdict?]
  generalize (eventsOf acts).foldl Supervision.step .start = seen at follows
  cases follows with
  | returned reader captured expired verdict silent =>
    exact ⟨verdict, rfl, Stand.returned.inj stands⟩
  | _ => cases stands

theorem Run.reaped (run : Run deadline launched acts race)
    (stands : race.stand = .returned answer) :
    race.program = .reaped ∧ race.reader ≠ .reading := by
  have follows := run.follows
  generalize (eventsOf acts).foldl Supervision.step .start = seen at follows
  cases follows with
  | returned reader captured expired verdict silent => exact ⟨rfl, silent⟩
  | _ => cases stands

/-- What the runner has done since it saw the deadline. -/
def trail : Stand → List Act
  | .killing => [.seesDeadline]
  | .waiting => [.seesDeadline, .kills]
  | .stopping => [.seesDeadline, .kills, .reaps]
  | .returned (.error (.timeout _)) => [.seesDeadline, .kills, .reaps, .stops]
  | _ => []

theorem trail_answerOf (captured : List UInt8) (succeeded : Bool) :
    trail (.returned (answerOf deadline captured succeeded)) = [] := by
  cases succeeded <;> rfl

theorem trail_step (step : Step deadline race act next) :
    (trail next.stand).Sublist (trail race.stand ++ [act]) := by
  cases step with
  | launches | isRefused => exact List.nil_sublist _
  | ends | expires | reads | closes => exact List.sublist_append_left _ _
  | seesExit => exact List.nil_sublist _
  | seesDeadline racing => rw [racing]; exact .refl _
  | kills killing => rw [killing]; exact .refl _
  | reaps waiting => rw [waiting]; exact .refl _
  | stops stopping => rw [stopping]; exact .refl _
  | gathers | givesUp => rw [trail_answerOf]; exact List.nil_sublist _

theorem Run.trail_sublist (run : Run deadline launched acts race) :
    (trail race.stand).Sublist acts := by
  induction run with
  | nil => exact .refl _
  | snoc run step ih => exact (trail_step step).trans (ih.append_right _)

def textOf (events : List ProcessEvent) : String :=
  String.ofList (Text.Utf8.decodeLossy (Supervision.gathered events))

theorem Returns.settled (returns : Returns deadline launched acts answer) :
    match Supervision.decider? (eventsOf acts) with
    | some .deadlineReached =>
      answer = .error (.timeout deadline) ∧
        [Act.seesDeadline, .kills, .reaps, .stops].Sublist acts
    | some (.exited true) => answer = .ok (textOf (eventsOf acts))
    | some (.exited false) => answer = .error (.process (textOf (eventsOf acts)))
    | _ => False := by
  obtain ⟨verdict, judged, answered⟩ := returns.run?_eq
  obtain ⟨race, run, stands⟩ := returns
  have trodden := run.trail_sublist
  rw [stands] at trodden
  rw [Supervision.run?_eq_judged, Supervision.judged] at judged
  split at judged
  next succeeded decided =>
    rw [decided]
    split at judged
    next silenced =>
      obtain rfl := Option.some.inj judged
      cases succeeded <;> exact answered.symm
    next => cases judged
  next decided =>
    obtain rfl := Option.some.inj judged
    rw [decided]
    obtain rfl := answered
    exact ⟨rfl, trodden⟩
  next => cases judged

/-! The return cannot be kept off. -/

theorem owed_step (step : Step deadline race act next) :
    ([act].countP Act.isOwn) + next.stand.owed ≤ race.stand.owed := by
  cases step with
  | launches command launching => rw [launching]; exact (by decide : 1 + 4 ≤ 5)
  | isRefused command cause launching => rw [launching]; exact (by decide : 1 + 0 ≤ 5)
  | ends | expires | reads | closes => exact Nat.le_of_eq (Nat.zero_add _)
  | seesExit succeeded racing => rw [racing]; exact (by decide : 1 + 1 ≤ 4)
  | seesDeadline racing => rw [racing]; exact (by decide : 1 + 3 ≤ 4)
  | kills killing => rw [killing]; exact (by decide : 1 + 2 ≤ 3)
  | reaps waiting => rw [waiting]; exact (by decide : 1 + 1 ≤ 2)
  | stops stopping => rw [stopping]; exact (by decide : 1 + 0 ≤ 1)
  | gathers succeeded draining => rw [draining]; exact (by decide : 1 + 0 ≤ 1)
  | givesUp succeeded draining => rw [draining]; exact (by decide : 1 + 0 ≤ 1)

theorem Run.owed_le (run : Run deadline first acts race) :
    acts.countP Act.isOwn + race.stand.owed ≤ first.stand.owed := by
  induction run with
  | nil => exact Nat.le_of_eq (Nat.zero_add _)
  | snoc run step ih =>
    have last := owed_step step
    rw [List.countP_append]
    omega

theorem Follows.exists_step (follows : Follows deadline race seen)
    (expired : race.isExpired = true) :
    (∃ answer, race.stand = .returned answer) ∨
      ∃ act next, act.isOwn = true ∧ Step deadline race act next := by
  cases follows with
  | reading | read => exact .inr ⟨.seesDeadline, _, rfl, .seesDeadline rfl expired⟩
  | draining _ succeeded => exact .inr ⟨.givesUp, _, rfl, .givesUp succeeded rfl rfl expired⟩
  | drained _ _ succeeded => exact .inr ⟨.gathers, _, rfl, .gathers succeeded rfl rfl⟩
  | killing => exact .inr ⟨.kills, _, rfl, .kills rfl⟩
  | waiting _ _ _ _ ceased => exact .inr ⟨.reaps, _, rfl, .reaps rfl ceased⟩
  | stopping => exact .inr ⟨.stops, _, rfl, .stops rfl⟩
  | returned _ _ _ verdict => exact .inl ⟨verdict.answer deadline, rfl⟩

theorem expired_step (step : Step deadline race act next) (expired : race.isExpired = true) :
    next.isExpired = true := by
  cases step with
  | expires => rfl
  | _ => exact expired

/-- Whatever the others have done by the deadline, the runner comes to its return alone. -/
theorem Run.returns_of_expired (run : Run deadline launched acts race)
    (expired : race.isExpired = true) :
    ∃ later answer, later.all Act.isOwn = true ∧
      Returns deadline launched (acts ++ later) answer := by
  -- Each step of the runner lowers what it owes, so the induction is on that.
  induction owes : race.stand.owed using Nat.strongRecOn generalizing acts race with
  | ind count ih =>
    obtain ⟨answer, stands⟩ | ⟨act, next, own, step⟩ := run.follows.exists_step expired
    · refine ⟨[], answer, rfl, race, ?_, stands⟩
      rwa [List.append_nil]
    · have fewer : next.stand.owed < count := by
        have owed := owed_step step
        rw [List.countP_singleton, if_pos own] at owed
        omega
      obtain ⟨later, answer, all_own, returns⟩ :=
        ih _ fewer (run.snoc step) (expired_step step expired) rfl
      refine ⟨act :: later, answer, ?_, ?_⟩
      · rw [List.all_cons, own, all_own]
        rfl
      · rwa [List.append_cons]

/-! Every order of the events is one that a race can take. -/

def isOrderly (closed exited : Bool) : List ProcessEvent → Bool
  | [] => true
  | .diagnostics _ :: rest => !closed && isOrderly closed exited rest
  | .diagnosticsClosed :: rest => !closed && isOrderly true exited rest
  | .exited _ :: rest => !exited && isOrderly closed true rest
  | .deadlineReached :: _ => true

def ReturnsOn (deadline : Duration) (first : Race) (events : List ProcessEvent) : Prop :=
  ∃ acts answer, Returns deadline first acts answer ∧ eventsOf acts <+: events

variable {events : List ProcessEvent}

theorem ReturnsOn.of_run {answer : Except Failure String} (run : Run deadline first acts race)
    (stands : race.stand = .returned answer) (seen : eventsOf acts <+: events) :
    ReturnsOn deadline first events :=
  ⟨acts, answer, ⟨race, run, stands⟩, seen⟩

theorem ReturnsOn.after {event : ProcessEvent} (run : Run deadline first acts race)
    (seen : eventsOf acts = [event]) (rest : ReturnsOn deadline race events) :
    ReturnsOn deadline first (event :: events) := by
  obtain ⟨later, answer, ⟨last, onward, stands⟩, begins⟩ := rest
  refine .of_run (run.append onward) stands ?_
  rw [eventsOf_append, seen]
  exact List.prefix_append_right_inj [event] |>.mpr begins

theorem returnsOn_draining (captured : List UInt8) (succeeded : Bool)
    (orderly : isOrderly false true events = true) (reached : .deadlineReached ∈ events) :
    ReturnsOn deadline ⟨.reaped, .reading, captured, false, .draining succeeded⟩ events := by
  induction events generalizing captured with
  | nil => cases reached
  | cons event events ih =>
    cases event with
    | diagnostics bytes =>
      have remains : .deadlineReached ∈ events := by simpa using reached
      exact .after (.of_step (.reads bytes rfl)) rfl (ih _ orderly remains)
    | diagnosticsClosed =>
      have closed : Run deadline ⟨.reaped, .reading, captured, false, .draining succeeded⟩
          [.closes] ⟨.reaped, .finished, captured, false, .draining succeeded⟩ :=
        .of_step (.closes rfl)
      exact .of_run (closed.snoc (.gathers succeeded rfl rfl)) rfl ⟨events, rfl⟩
    | exited again => cases orderly
    | deadlineReached =>
      have expired : Run deadline ⟨.reaped, .reading, captured, false, .draining succeeded⟩
          [.expires] ⟨.reaped, .reading, captured, true, .draining succeeded⟩ :=
        .of_step .expires
      exact .of_run (expired.snoc (.givesUp succeeded rfl rfl rfl)) rfl ⟨events, rfl⟩

theorem returnsOn_deadline (reader : Reader) (captured : List UInt8) :
    ReturnsOn deadline ⟨.running, reader, captured, false, .racing⟩
      (.deadlineReached :: events) := by
  have expired : Run deadline ⟨.running, reader, captured, false, .racing⟩ [.expires]
      ⟨.running, reader, captured, true, .racing⟩ :=
    .of_step .expires
  have seen := expired.snoc (.seesDeadline rfl rfl)
  have killed := seen.snoc (.kills rfl)
  have reaped := killed.snoc (.reaps rfl nofun)
  exact .of_run (reaped.snoc (.stops rfl)) rfl ⟨events, rfl⟩

theorem run_exit (deadline : Duration) (reader : Reader) (captured : List UInt8)
    (succeeded : Bool) :
    Run deadline ⟨.running, reader, captured, false, .racing⟩
      [.ends succeeded, .seesExit succeeded]
      ⟨.reaped, reader, captured, false, .draining succeeded⟩ :=
  (Run.of_step (.ends succeeded rfl)).snoc (.seesExit succeeded rfl rfl)

theorem returnsOn_read (captured : List UInt8) (orderly : isOrderly true false events = true)
    (reached : .deadlineReached ∈ events) :
    ReturnsOn deadline ⟨.running, .finished, captured, false, .racing⟩ events := by
  cases events with
  | nil => cases reached
  | cons event events =>
    cases event with
    | diagnostics bytes => cases orderly
    | diagnosticsClosed => cases orderly
    | exited succeeded =>
      have exited := run_exit deadline .finished captured succeeded
      exact .of_run (exited.snoc (.gathers succeeded rfl rfl)) rfl ⟨events, rfl⟩
    | deadlineReached => exact returnsOn_deadline .finished captured

theorem returnsOn_reading (captured : List UInt8) (orderly : isOrderly false false events = true)
    (reached : .deadlineReached ∈ events) :
    ReturnsOn deadline ⟨.running, .reading, captured, false, .racing⟩ events := by
  induction events generalizing captured with
  | nil => cases reached
  | cons event events ih =>
    cases event with
    | diagnostics bytes =>
      have remains : .deadlineReached ∈ events := by simpa using reached
      exact .after (.of_step (.reads bytes rfl)) rfl (ih _ orderly remains)
    | diagnosticsClosed =>
      have remains : .deadlineReached ∈ events := by simpa using reached
      exact .after (.of_step (.closes rfl)) rfl (returnsOn_read captured orderly remains)
    | exited succeeded =>
      have remains : .deadlineReached ∈ events := by simpa using reached
      exact .after (run_exit deadline .reading captured succeeded) rfl
        (returnsOn_draining captured succeeded orderly remains)
    | deadlineReached => exact returnsOn_deadline .reading captured

/-! The launch itself. -/

/-- How a run stands to the launch. Before it there is only the clock, which a launched program
meets as it is, and behind a refusal there is only the clock too. -/
inductive Attempted (deadline : Duration) (command : Command) : List Act → Race → Prop where
  | untried {acts : List Act} (expired : Bool) (waited : ∀ act ∈ acts, act = .expires)
    (ready : Run deadline launched acts ⟨.running, .reading, [], expired, .racing⟩) :
    Attempted deadline command acts ⟨.absent, .stopped, [], expired, .launching command⟩
  | refused {acts : List Act} (cause : IoError) (expired : Bool)
    (only : ∀ act ∈ acts, act = .expires ∨ act = .isRefused cause) :
    Attempted deadline command acts
      ⟨.absent, .stopped, [], expired, .returned (.error (refusal command cause))⟩
  | launched {before after : List Act} {race : Race} (waited : ∀ act ∈ before, act = .expires)
    (run : Run deadline launched (before ++ after) race) :
    Attempted deadline command (before ++ .launches :: after) race

theorem Attempted.step {command : Command} (attempted : Attempted deadline command acts race)
    (step : Step deadline race act next) : Attempted deadline command (acts ++ [act]) next := by
  cases attempted with
  | untried expired waited ready =>
    cases step with
    | expires =>
      refine .untried true ?_ (ready.snoc .expires)
      exact List.forall_mem_append.mpr ⟨waited, List.forall_mem_singleton.mpr rfl⟩
    | launches command launching =>
      rw [← List.append_nil acts] at ready
      exact .launched waited ready
    | isRefused command cause launching =>
      obtain rfl := Stand.launching.inj launching
      refine .refused cause expired (List.forall_mem_append.mpr ⟨?_, ?_⟩)
      · exact fun act member => .inl (waited act member)
      · exact List.forall_mem_singleton.mpr (.inr rfl)
    | ends succeeded running => cases running
    | reads bytes reading => cases reading
    | closes reading => cases reading
    | seesExit succeeded racing => cases racing
    | seesDeadline racing => cases racing
    | kills killing => cases killing
    | reaps waiting => cases waiting
    | stops stopping => cases stopping
    | gathers succeeded draining => cases draining
    | givesUp succeeded draining => cases draining
  | refused cause expired only =>
    cases step with
    | expires =>
      refine .refused cause true (List.forall_mem_append.mpr ⟨only, ?_⟩)
      exact List.forall_mem_singleton.mpr (.inl rfl)
    | launches command launching => cases launching
    | isRefused command cause launching => cases launching
    | ends succeeded running => cases running
    | reads bytes reading => cases reading
    | closes reading => cases reading
    | seesExit succeeded racing => cases racing
    | seesDeadline racing => cases racing
    | kills killing => cases killing
    | reaps waiting => cases waiting
    | stops stopping => cases stopping
    | gathers succeeded draining => cases draining
    | givesUp succeeded draining => cases draining
  | launched waited run =>
    rw [List.append_assoc, List.cons_append]
    refine .launched waited ?_
    rw [← List.append_assoc]
    exact run.snoc step

theorem Run.attempted {command : Command} (run : Run deadline (prepared command) acts race) :
    Attempted deadline command acts race := by
  induction run with
  | nil => exact .untried false nofun .nil
  | snoc run step ih => exact ih.step step

theorem eventsOf_of_silent (silent : ∀ act ∈ acts, act.event? = none) : eventsOf acts = [] :=
  List.filterMap_eq_nil_iff.mpr silent

theorem Run.not_isRefused (run : Run deadline launched acts race) {cause : IoError} :
    .isRefused cause ∉ acts := by
  induction run with
  | nil => exact List.not_mem_nil
  | snoc run step ih =>
    intro member
    rcases List.mem_append.mp member with earlier | last
    · exact ih earlier
    · obtain rfl := List.mem_singleton.mp last
      have follows := run.follows
      cases step with
      | isRefused command _ launching =>
        generalize (eventsOf _).foldl Supervision.step .start = seen at follows
        cases follows <;> cases launching

theorem Run.of_refused {command : Command} {cause : IoError}
    (run : Run deadline (prepared command) acts race) (refused : .isRefused cause ∈ acts) :
    race.stand = .returned (.error (refusal command cause)) ∧ race.program = .absent ∧
      eventsOf acts = [] := by
  cases run.attempted with
  | untried expired waited => cases waited _ refused
  | refused other expired only =>
    obtain rfl : cause = other := by
      rcases only _ refused with impossible | same
      · cases impossible
      · exact Act.isRefused.inj same
    refine ⟨rfl, rfl, eventsOf_of_silent fun act member => ?_⟩
    rcases only act member with rfl | rfl
    · rfl
    · rfl
  | launched waited launch =>
    rcases List.mem_append.mp refused with earlier | later
    · cases waited _ earlier
    · rcases List.mem_cons.mp later with impossible | later
      · cases impossible
      · exact absurd (List.mem_append_right _ later) launch.not_isRefused

theorem Run.of_launches {command : Command} (run : Run deadline (prepared command) acts race)
    (launches : .launches ∈ acts) :
    ∃ before after, acts = before ++ .launches :: after ∧ (∀ act ∈ before, act = .expires) ∧
      Run deadline launched (before ++ after) race := by
  cases run.attempted with
  | untried expired waited => cases waited _ launches
  | refused cause expired only =>
    rcases only _ launches with impossible | impossible
    · cases impossible
    · cases impossible
  | @launched before after _ waited launch => exact ⟨before, after, rfl, waited, launch⟩

end Race

def LaunchEnd.answer? : LaunchEnd → Option (Except Failure String)
  | .finished diagnostics _ => some (.ok diagnostics)
  | .failed failure => some (.error failure)
  | .broken => none

namespace Machine

variable {machine : Machine} {command : Command} {deadline : Duration} {tree : FileTree}

def attempt (command : Command) (tree : FileTree) : Race.Act :=
  match refusal? command tree with
  | some cause => .isRefused cause
  | none => .launches

theorem run_of_refusal {cause : IoError} (refuses : refusal? command tree = some cause) :
    machine.run command deadline tree = (.failed (Race.refusal command cause), tree) := by
  unfold run
  rw [refuses]
  rfl

theorem answer?_run {verdict : RunVerdict} (accepted : refusal? command tree = none)
    (judged : Supervision.run? (events (machine.execute command deadline.milliseconds tree)
      deadline.milliseconds) = some verdict) :
    (machine.run command deadline tree).1.answer? = some (verdict.answer deadline) := by
  unfold run
  simp only [accepted, judged]
  cases verdict <;> rfl

theorem events_of_silent {session : Shell.Session} {deadline : Nat} (silent : session.said = [])
    (ended : session.control = .proceed) (succeeded : session.status = 0)
    (left : session.heldUntil ≤ session.milliseconds) (early : session.milliseconds < deadline) :
    events session deadline = [.exited true, .diagnosticsClosed, .deadlineReached] := by
  simp [events, silent, ended, succeeded, Nat.max_eq_left left, Nat.le_of_lt early,
    List.mergeSort]

end Machine

namespace Race

variable {deadline : Duration} {acts other : List Act} {answer answer' : Except Failure String}

theorem Returns.eq_of_bytewise_eq (returns : Returns deadline launched acts answer)
    (again : Returns deadline launched other answer')
    (same : Supervision.bytewise (eventsOf acts) = Supervision.bytewise (eventsOf other)) :
    answer = answer' := by
  obtain ⟨verdict, judged, answered⟩ := returns.run?_eq
  obtain ⟨verdict', judged', answered'⟩ := again.run?_eq
  rw [Supervision.run?_of_bytewise_eq same, judged'] at judged
  rw [← answered, ← answered', Option.some.inj judged]

theorem Returns.answer?_run {command : Command} {machine : Machine} {tree : FileTree}
    (returns : Returns deadline (prepared command) acts answer)
    (tried : Machine.attempt command tree ∈ acts)
    (begins : eventsOf acts <+: Machine.events
      (machine.execute command deadline.milliseconds tree) deadline.milliseconds) :
    (machine.run command deadline tree).1.answer? = some answer := by
  obtain ⟨race, run, stands⟩ := returns
  unfold Machine.attempt at tried
  split at tried
  next cause refuses =>
    obtain ⟨refused, -, -⟩ := run.of_refused tried
    rw [refused] at stands
    rw [Machine.run_of_refusal refuses, ← Stand.returned.inj stands]
    rfl
  next accepted =>
    obtain ⟨before, after, rfl, waited, launch⟩ := run.of_launches tried
    have launch_returns : Returns deadline launched (before ++ after) answer :=
      ⟨race, launch, stands⟩
    obtain ⟨verdict, judged, rfl⟩ := launch_returns.run?_eq
    have same : eventsOf (before ++ .launches :: after) = eventsOf (before ++ after) := by
      rw [List.append_cons, eventsOf_append, eventsOf_append, eventsOf_append, eventsOf_single]
      simp [Act.event?]
    rw [same] at begins
    exact Machine.answer?_run accepted (Supervision.run?_of_prefix judged begins)

/-- **Completion and deadline race each other.** The first that the runner sees decides, and a
timeout is returned behind the kill and the wait for the killed program; the diagnostics of an
answer are the bytes read up to their close or the deadline, wherever they were cut. The runner
takes four steps at most, needs nobody else from the deadline on, and returns on every order of the
events. A refused launch returns why it was refused, and has no events. On a machine the answer is
what the machine comes to. -/
theorem completion_races_deadline (deadline : Duration) (command : Command) :
    (∀ acts race answer, Run deadline launched acts race → race.stand = .returned answer →
      race.program = .reaped ∧ race.reader ≠ .reading ∧
      match Supervision.decider? (eventsOf acts) with
      | some .deadlineReached =>
        answer = .error (.timeout deadline) ∧
          [Act.seesDeadline, .kills, .reaps, .stops].Sublist acts
      | some (.exited true) => answer = .ok (textOf (eventsOf acts))
      | some (.exited false) => answer = .error (.process (textOf (eventsOf acts)))
      | _ => False) ∧
    (∀ acts other answer answer', Returns deadline launched acts answer →
      Returns deadline launched other answer' →
      Supervision.bytewise (eventsOf acts) = Supervision.bytewise (eventsOf other) →
      answer = answer') ∧
    (∀ acts race, Run deadline launched acts race →
      acts.countP Act.isOwn ≤ 4 ∧
      (race.isExpired = true → ∃ later answer,
        later.all Act.isOwn = true ∧ Returns deadline launched (acts ++ later) answer)) ∧
    (∀ events, isOrderly false false events = true → .deadlineReached ∈ events →
      ReturnsOn deadline launched events) ∧
    (∀ acts race, Run deadline (prepared command) acts race →
      (∀ cause, .isRefused cause ∈ acts →
        race.stand = .returned (.error (refusal command cause)) ∧ race.program = .absent ∧
          eventsOf acts = []) ∧
      (.launches ∈ acts → ∃ before after, acts = before ++ .launches :: after ∧
        (∀ act ∈ before, act = .expires) ∧ Run deadline launched (before ++ after) race)) ∧
    ∀ (machine : Machine) tree,
      (∀ acts answer, Returns deadline (prepared command) acts answer →
        Machine.attempt command tree ∈ acts →
        eventsOf acts <+: Machine.events
          (machine.execute command deadline.milliseconds tree) deadline.milliseconds →
        (machine.run command deadline tree).1.answer? = some answer) ∧
      (∀ cause, Machine.attempt command tree = .isRefused cause →
        (machine.run command deadline tree).2 = tree) := by
  refine ⟨?settled, ?uncut, ?bounded, ?ordered, ?refused, ?machine⟩
  case settled =>
    intro acts race answer run stands
    obtain ⟨reaped, silent⟩ := run.reaped stands
    have settled : Returns deadline launched acts answer := ⟨race, run, stands⟩
    exact ⟨reaped, silent, settled.settled⟩
  case uncut =>
    intro acts other answer answer' returns again same
    exact returns.eq_of_bytewise_eq again same
  case bounded =>
    intro acts race run
    have owed := run.owed_le
    exact ⟨Nat.le_of_add_right_le owed, run.returns_of_expired⟩
  case ordered =>
    intro events orderly reached
    exact returnsOn_reading [] orderly reached
  case refused =>
    intro acts race run
    exact ⟨fun cause => run.of_refused, run.of_launches⟩
  case machine =>
    intro machine tree
    constructor
    · intro acts answer returns tried begins
      exact returns.answer?_run tried begins
    · intro cause tried
      unfold Machine.attempt at tried
      split at tried
      next refuses => rw [Machine.run_of_refusal refuses]
      next => cases tried

theorem run_reads (deadline : Duration) (bytes : List UInt8) :
    Run deadline launched [.reads bytes] ⟨.running, .reading, bytes, false, .racing⟩ :=
  .of_step (.reads bytes rfl)

theorem returns_of_held (captured : List UInt8)
    (run : Run deadline launched acts ⟨.running, .reading, captured, false, .racing⟩) :
    Returns deadline launched (acts ++ [.ends true, .seesExit true, .expires, .givesUp])
      (answerOf deadline captured true) := by
  have expired := (run_exit deadline .reading captured true).snoc .expires
  have given_up := expired.snoc (.givesUp true rfl rfl rfl)
  exact ⟨_, run.append given_up, rfl⟩

theorem completion_races_deadline_of_held_diagnostics :
    (∃ answer, answer = .ok "é" ∧
      Returns (.ofMilliseconds 500) launched
        [.reads [0xC3], .reads [0xA9], .ends true, .seesExit true, .expires, .givesUp] answer ∧
      Returns (.ofMilliseconds 500) launched
        [.reads [0xC3, 0xA9], .ends true, .seesExit true, .expires, .givesUp] answer) ∧
    (∃ answer, answer = .error (.timeout (.ofMilliseconds 500)) ∧
      Returns (.ofMilliseconds 500) launched
        [.expires, .seesDeadline, .ends true, .kills, .reaps, .stops] answer) ∧
    (∃ later answer, later.all Act.isOwn = true ∧
      Returns (.ofMilliseconds 500) launched ([.reads [0xC3], .expires] ++ later) answer) ∧
    ReturnsOn (.ofMilliseconds 500) launched [.diagnosticsClosed, .deadlineReached, .exited true] ∧
    ((⟨[]⟩ : Machine).run ⟨"true", [], ["tmp"]⟩ (.ofMilliseconds 500) Machine.files).1.answer? =
      some (.ok "") ∧
    ((⟨[]⟩ : Machine).run ⟨"saxon", [], ["tmp"]⟩ (.ofMilliseconds 500) Machine.files).1.answer? =
      some (.error
        (.process "failed to launch saxon: No such file or directory (os error 2)")) := by
  obtain ⟨settled, uncut, bounded, ordered, -, machine⟩ :=
    completion_races_deadline (.ofMilliseconds 500) ⟨"true", [], ["tmp"]⟩
  refine ⟨?held, ?overtaken, ?bounded, ?ordered, ?machine, ?refused⟩
  case held =>
    have first := run_reads (.ofMilliseconds 500) [0xC3]
    have split := returns_of_held [0xC3, 0xA9] (first.snoc (.reads [0xA9] rfl))
    have whole := returns_of_held [0xC3, 0xA9] (run_reads (.ofMilliseconds 500) [0xC3, 0xA9])
    obtain ⟨race, run, stands⟩ := split
    obtain ⟨-, -, text⟩ := settled _ _ _ run stands
    have same := uncut _ _ _ _ ⟨race, run, stands⟩ whole rfl
    rw [same] at text stands
    exact ⟨_, text.trans (congrArg Except.ok (by decide +kernel)), ⟨race, run, stands⟩, whole⟩
  case overtaken =>
    have expired : Run (.ofMilliseconds 500) launched [.expires]
        ⟨.running, .reading, [], true, .racing⟩ :=
      .of_step .expires
    have ended := (expired.snoc (.seesDeadline rfl rfl)).snoc (.ends true rfl)
    have reaped := (ended.snoc (.kills rfl)).snoc (.reaps rfl nofun)
    have returns := reaped.snoc (.stops rfl)
    obtain ⟨-, -, timeout, -⟩ := settled _ _ _ returns rfl
    exact ⟨_, timeout, _, returns, rfl⟩
  case bounded =>
    have first := run_reads (.ofMilliseconds 500) [0xC3]
    exact (bounded _ _ (first.snoc .expires)).2 rfl
  case ordered =>
    exact ordered _ rfl (by decide)
  case machine =>
    have accepted : Machine.attempt ⟨"true", [], ["tmp"]⟩ Machine.files = .launches := by
      decide +kernel
    have launch : Run (.ofMilliseconds 500) (prepared ⟨"true", [], ["tmp"]⟩) [.launches] launched :=
      .of_step (.launches _ rfl)
    have closed := (run_exit (.ofMilliseconds 500) .reading [] true).snoc (.closes rfl)
    refine (machine ⟨[]⟩ Machine.files).1 _ _
      ⟨_, launch.append (closed.snoc (.gathers true rfl rfl)), rfl⟩ ?_ ⟨[.deadlineReached], ?_⟩
    · rw [accepted]
      exact List.mem_cons_self
    · rw [Duration.milliseconds_ofMilliseconds, Machine.events_of_silent (by decide +kernel)
        (by decide +kernel) (by decide +kernel) (by decide +kernel) (by decide +kernel)]
      rfl
  case refused =>
    have absent : Machine.attempt ⟨"saxon", [], ["tmp"]⟩ Machine.files = .isRefused .notFound := by
      decide +kernel
    obtain ⟨-, -, -, -, -, machine⟩ :=
      completion_races_deadline (.ofMilliseconds 500) ⟨"saxon", [], ["tmp"]⟩
    have refused : Run (.ofMilliseconds 500) (prepared ⟨"saxon", [], ["tmp"]⟩)
        [.isRefused .notFound] _ := .of_step (.isRefused _ .notFound rfl)
    refine (machine ⟨[]⟩ Machine.files).1 _ _ ⟨_, refused, rfl⟩ ?_ (List.nil_prefix)
    rw [absent]
    exact List.mem_cons_self

end Race

end StylesheetRunner
