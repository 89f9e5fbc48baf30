import StylesheetRunner.Invocation
import StylesheetRunner.Proofs.Process.Verdicts

/-!
Three parties of one launch: the program, the task that reads its diagnostics, and the runner with
its timer. They take steps in any order, once the runner has launched the program. The runner takes
one of the branches that are ready, its timer is ready no earlier than the deadline, and a program
that is killed ends.
-/

namespace StylesheetRunner

namespace Race

inductive Program where
  | absent
  | running
  | ended (succeeded : Bool)
  | killed
  | reaped
deriving DecidableEq, Repr

def Program.afterKill : Program → Program
  | .running => .killed
  | program => program

inductive Reader where
  | reading
  | finished
  | stopped
deriving DecidableEq, Repr

def Reader.afterStop : Reader → Reader
  | .reading => .stopped
  | reader => reader

inductive Stand where
  | launching (command : Command)
  | racing
  | draining (succeeded : Bool)
  | killing
  | waiting
  | stopping
  | returned (answer : Except Failure String)

def Stand.owed : Stand → Nat
  | .launching _ => 5
  | .racing => 4
  | .killing => 3
  | .waiting => 2
  | .stopping => 1
  | .draining _ => 1
  | .returned _ => 0

end Race

structure Race where
  program : Race.Program
  reader : Race.Reader
  captured : List UInt8
  isExpired : Bool
  stand : Race.Stand

namespace Race

def prepared (command : Command) : Race := ⟨.absent, .stopped, [], false, .launching command⟩

def launched : Race := ⟨.running, .reading, [], false, .racing⟩

def refusal (command : Command) (cause : IoError) : Failure :=
  .process s!"failed to launch {command.program}: {cause.message}"

inductive Act where
  | launches
  | isRefused (cause : IoError)
  | ends (succeeded : Bool)
  | expires
  | reads (bytes : List UInt8)
  | closes
  | seesExit (succeeded : Bool)
  | seesDeadline
  | kills
  | reaps
  | stops
  | gathers
  /-- The diagnostics are still open at the deadline; what was read is kept. -/
  | givesUp
deriving DecidableEq, Repr

namespace Act

/-- Whether the runner takes the step, and neither the program nor the reader nor the clock. -/
def isOwn : Act → Bool
  | .ends _ | .expires | .reads _ | .closes => false
  | _ => true

def event? : Act → Option ProcessEvent
  | .reads bytes => some (.diagnostics bytes)
  | .closes => some .diagnosticsClosed
  | .seesExit succeeded => some (.exited succeeded)
  | .seesDeadline | .givesUp => some .deadlineReached
  | _ => none

end Act

def eventsOf (acts : List Act) : List ProcessEvent :=
  acts.filterMap Act.event?

def answerOf (deadline : Duration) (captured : List UInt8) (succeeded : Bool) :
    Except Failure String :=
  (RunVerdict.ofExit captured succeeded).answer deadline

inductive Step (deadline : Duration) (race : Race) : Act → Race → Prop where
  | launches (command : Command) (launching : race.stand = .launching command) :
    Step deadline race .launches
      { race with program := .running, reader := .reading, stand := .racing }
  | isRefused (command : Command) (cause : IoError) (launching : race.stand = .launching command) :
    Step deadline race (.isRefused cause)
      { race with stand := .returned (.error (refusal command cause)) }
  | ends (succeeded : Bool) (running : race.program = .running) :
    Step deadline race (.ends succeeded) { race with program := .ended succeeded }
  | expires : Step deadline race .expires { race with isExpired := true }
  | reads (bytes : List UInt8) (reading : race.reader = .reading) :
    Step deadline race (.reads bytes) { race with captured := race.captured ++ bytes }
  | closes (reading : race.reader = .reading) :
    Step deadline race .closes { race with reader := .finished }
  | seesExit (succeeded : Bool) (racing : race.stand = .racing)
    (ended : race.program = .ended succeeded) :
    Step deadline race (.seesExit succeeded)
      { race with program := .reaped, stand := .draining succeeded }
  | seesDeadline (racing : race.stand = .racing) (expired : race.isExpired = true) :
    Step deadline race .seesDeadline { race with stand := .killing }
  | kills (killing : race.stand = .killing) :
    Step deadline race .kills { race with program := race.program.afterKill, stand := .waiting }
  | reaps (waiting : race.stand = .waiting) (ceased : race.program ≠ .running) :
    Step deadline race .reaps { race with program := .reaped, stand := .stopping }
  | stops (stopping : race.stand = .stopping) :
    Step deadline race .stops
      { race with reader := race.reader.afterStop, stand := .returned (.error (.timeout deadline)) }
  | gathers (succeeded : Bool) (draining : race.stand = .draining succeeded)
    (finished : race.reader = .finished) :
    Step deadline race .gathers
      { race with stand := .returned (answerOf deadline race.captured succeeded) }
  | givesUp (succeeded : Bool) (draining : race.stand = .draining succeeded)
    (reading : race.reader = .reading) (expired : race.isExpired = true) :
    Step deadline race .givesUp
      { race with
        reader := .stopped, stand := .returned (answerOf deadline race.captured succeeded) }

inductive Run (deadline : Duration) (first : Race) : List Act → Race → Prop where
  | nil : Run deadline first [] first
  | snoc {acts : List Act} {race next : Race} {act : Act} (run : Run deadline first acts race)
    (step : Step deadline race act next) : Run deadline first (acts ++ [act]) next

variable {deadline : Duration} {first race next : Race} {acts : List Act} {act : Act}
  {answer : Except Failure String}

theorem eventsOf_append (acts later : List Act) :
    eventsOf (acts ++ later) = eventsOf acts ++ eventsOf later :=
  List.filterMap_append

theorem eventsOf_single (act : Act) : eventsOf [act] = act.event?.toList := by
  unfold eventsOf
  cases held : act.event? <;> simp [held]

theorem Run.append {later : List Act} (run : Run deadline first acts race)
    (rest : Run deadline race later next) : Run deadline first (acts ++ later) next := by
  induction rest with
  | nil => simpa using run
  | snoc rest step ih =>
    rw [← List.append_assoc]
    exact ih.snoc step

theorem Run.of_step (step : Step deadline race act next) : Run deadline race [act] next :=
  Run.nil.snoc step

/-! The supervision goes along with the race. -/

/-- A race, and the supervision that has seen its events. -/
inductive Follows (deadline : Duration) : Race → Supervision → Prop where
  | reading (program : Program) (expired : Bool) (pieces : List (List UInt8)) :
    Follows deadline ⟨program, .reading, pieces.reverse.flatten, expired, .racing⟩
      (.running pieces false)
  | read (program : Program) (expired : Bool) (pieces : List (List UInt8)) :
    Follows deadline ⟨program, .finished, pieces.reverse.flatten, expired, .racing⟩
      (.running pieces true)
  | draining (expired succeeded : Bool) (pieces : List (List UInt8)) :
    Follows deadline ⟨.reaped, .reading, pieces.reverse.flatten, expired, .draining succeeded⟩
      (.draining pieces succeeded)
  | drained (captured : List UInt8) (expired succeeded : Bool) :
    Follows deadline ⟨.reaped, .finished, captured, expired, .draining succeeded⟩
      (.over (.ofExit captured succeeded))
  | killing (program : Program) (reader : Reader) (captured : List UInt8) (expired : Bool) :
    Follows deadline ⟨program, reader, captured, expired, .killing⟩ (.over .timedOut)
  | waiting (program : Program) (reader : Reader) (captured : List UInt8) (expired : Bool)
    (ceased : program ≠ .running) :
    Follows deadline ⟨program, reader, captured, expired, .waiting⟩ (.over .timedOut)
  | stopping (reader : Reader) (captured : List UInt8) (expired : Bool) :
    Follows deadline ⟨.reaped, reader, captured, expired, .stopping⟩ (.over .timedOut)
  | returned (reader : Reader) (captured : List UInt8) (expired : Bool) (verdict : RunVerdict)
    (silent : reader ≠ .reading) :
    Follows deadline ⟨.reaped, reader, captured, expired, .returned (verdict.answer deadline)⟩
      (.over verdict)

variable {seen : Supervision}

/-! The clock and the reader go on at every stand of the runner. The reader is seen until a deadline
has been seen, and has stopped at the return. -/

theorem Follows.expires (follows : Follows deadline race seen) :
    Follows deadline { race with isExpired := true } seen := by
  cases follows with
  | reading program _ pieces => exact .reading program true pieces
  | read program _ pieces => exact .read program true pieces
  | draining _ succeeded pieces => exact .draining true succeeded pieces
  | drained captured _ succeeded => exact .drained captured true succeeded
  | killing program reader captured _ => exact .killing program reader captured true
  | waiting program reader captured _ ceased => exact .waiting program reader captured true ceased
  | stopping reader captured _ => exact .stopping reader captured true
  | returned reader captured _ verdict silent =>
    exact .returned reader captured true verdict silent

theorem Follows.reads (follows : Follows deadline race seen) (bytes : List UInt8)
    (reading : race.reader = .reading) :
    Follows deadline { race with captured := race.captured ++ bytes }
      (seen.step (.diagnostics bytes)) := by
  cases follows with
  | reading program expired pieces =>
    rw [← Supervision.flatten_reverse_cons]
    exact .reading program expired (bytes :: pieces)
  | draining expired succeeded pieces =>
    rw [← Supervision.flatten_reverse_cons]
    exact .draining expired succeeded (bytes :: pieces)
  | killing program reader captured expired => exact .killing program reader _ expired
  | waiting program reader captured expired ceased =>
    exact .waiting program reader _ expired ceased
  | stopping reader captured expired => exact .stopping reader _ expired
  | returned reader captured expired verdict silent => exact absurd reading silent
  | _ => cases reading

theorem Follows.closes (follows : Follows deadline race seen) (reading : race.reader = .reading) :
    Follows deadline { race with reader := .finished } (seen.step .diagnosticsClosed) := by
  cases follows with
  | reading program expired pieces => exact .read program expired pieces
  | draining expired succeeded pieces => exact .drained _ expired succeeded
  | killing program reader captured expired => exact .killing program _ captured expired
  | waiting program reader captured expired ceased =>
    exact .waiting program _ captured expired ceased
  | stopping reader captured expired => exact .stopping _ captured expired
  | returned reader captured expired verdict silent => exact absurd reading silent
  | _ => cases reading

theorem Follows.step (follows : Follows deadline race seen) (step : Step deadline race act next) :
    Follows deadline next (act.event?.toList.foldl Supervision.step seen) := by
  cases step with
  -- A launch is over before anything is seen.
  | launches command launching => cases follows <;> cases launching
  | isRefused command cause launching => cases follows <;> cases launching
  -- The program goes on at every stand of the runner, and nothing of it is seen.
  | ends succeeded running =>
    cases follows with
    | reading _ expired pieces => exact .reading _ expired pieces
    | read _ expired pieces => exact .read _ expired pieces
    | killing _ reader captured expired => exact .killing _ reader captured expired
    | waiting _ reader captured expired ceased => exact .waiting _ reader captured expired nofun
    | _ => cases running
  | expires => exact follows.expires
  | reads bytes reading => exact follows.reads bytes reading
  | closes reading => exact follows.closes reading
  -- The runner takes each of its steps at one stand only.
  | seesExit succeeded racing ended =>
    cases follows with
    | reading program expired pieces => exact .draining expired succeeded pieces
    | read program expired pieces => exact .drained _ expired succeeded
    | _ => cases racing
  | seesDeadline racing expired =>
    cases follows with
    | reading program _ pieces => exact .killing program _ _ _
    | read program _ pieces => exact .killing program _ _ _
    | _ => cases racing
  | kills killing =>
    cases follows with
    | killing program reader captured expired =>
      refine .waiting _ reader captured expired ?_
      cases program <;> exact nofun
    | _ => cases killing
  | reaps waiting ceased =>
    cases follows with
    | waiting program reader captured expired => exact .stopping reader captured expired
    | _ => cases waiting
  | stops stopping =>
    cases follows with
    | stopping reader captured expired =>
      refine .returned _ captured expired .timedOut ?_
      cases reader <;> exact nofun
    | _ => cases stopping
  | gathers succeeded draining finished =>
    cases follows with
    | draining => cases finished
    | drained captured expired _ =>
      obtain rfl := Stand.draining.inj draining
      exact .returned .finished captured expired (.ofExit captured _) nofun
    | _ => cases draining
  | givesUp succeeded draining reading expired =>
    cases follows with
    | draining _ _ pieces =>
      obtain rfl := Stand.draining.inj draining
      exact .returned .stopped _ _ (.ofExit pieces.reverse.flatten _) nofun
    | drained => cases reading
    | _ => cases draining

theorem Run.follows (run : Run deadline launched acts race) :
    Follows deadline race ((eventsOf acts).foldl Supervision.step .start) := by
  induction run with
  | nil => exact .reading .running false []
  | snoc run step ih =>
    rw [eventsOf_append, List.foldl_append, eventsOf_single]
    exact ih.step step

end Race

end StylesheetRunner
