import StylesheetRunner.Process.Supervision

/-!
The verdict on a run, told from its events at once. The first of exit and deadline decides; behind
an exit the diagnostics count up to where they close or the deadline is reached. How their bytes
were cut into pieces does not show.
-/

namespace StylesheetRunner

namespace ProcessEvent

def decides : ProcessEvent → Bool
  | .exited _ => true
  | .deadlineReached => true
  | _ => false

/-- Nothing that is read behind the event counts. -/
def silences : ProcessEvent → Bool
  | .diagnosticsClosed => true
  | .deadlineReached => true
  | _ => false

def bytes : ProcessEvent → List UInt8
  | .diagnostics bytes => bytes
  | _ => []

def bytewise : ProcessEvent → List ProcessEvent
  | .diagnostics bytes => bytes.map fun byte => .diagnostics [byte]
  | event => [event]

end ProcessEvent

def RunVerdict.ofExit (diagnostics : List UInt8) (succeeded : Bool) : RunVerdict :=
  if succeeded then .succeeded diagnostics else .failed diagnostics

namespace Supervision

def decider? (events : List ProcessEvent) : Option ProcessEvent :=
  events.find? ProcessEvent.decides

def isSilenced (events : List ProcessEvent) : Bool :=
  events.any ProcessEvent.silences

def gathered (events : List ProcessEvent) : List UInt8 :=
  (events.takeWhile fun event => !event.silences).flatMap ProcessEvent.bytes

def judged (events : List ProcessEvent) : Option RunVerdict :=
  match decider? events with
  | some (.exited succeeded) =>
    if isSilenced events then some (.ofExit (gathered events) succeeded) else none
  | some .deadlineReached => some .timedOut
  | _ => none

def verdict? : Supervision → Option RunVerdict
  | .over verdict => some verdict
  | _ => none

theorem run?_eq_verdict? (events : List ProcessEvent) :
    run? events = (events.foldl step start).verdict? := by
  unfold run? verdict?
  cases events.foldl step start <;> rfl

theorem eq_over_of_verdict? {state : Supervision} {verdict : RunVerdict}
    (judged : state.verdict? = some verdict) : state = .over verdict := by
  unfold verdict? at judged
  split at judged
  next held => rw [Option.some.inj judged]
  next => cases judged

theorem verdict_eq_ofExit (pieces : List (List UInt8)) (succeeded : Bool) :
    verdict pieces succeeded = .ofExit pieces.reverse.flatten succeeded :=
  rfl

theorem foldl_step_over (verdict : RunVerdict) (events : List ProcessEvent) :
    events.foldl step (.over verdict) = .over verdict := by
  induction events with
  | nil => rfl
  | cons event events ih => exact ih

theorem flatten_reverse_cons (piece : List UInt8) (pieces : List (List UInt8)) :
    (piece :: pieces).reverse.flatten = pieces.reverse.flatten ++ piece := by
  simp

theorem verdict?_foldl_draining (pieces : List (List UInt8)) (succeeded : Bool)
    (events : List ProcessEvent) :
    (events.foldl step (.draining pieces succeeded)).verdict? =
      if isSilenced events then
        some (.ofExit (pieces.reverse.flatten ++ gathered events) succeeded)
      else none := by
  induction events generalizing pieces with
  | nil => rfl
  | cons event events ih =>
    rw [List.foldl_cons]
    cases event with
    | diagnostics bytes =>
      rw [step, ih, flatten_reverse_cons, List.append_assoc]
      rfl
    | diagnosticsClosed =>
      rw [step, foldl_step_over, verdict_eq_ofExit]
      simp [isSilenced, gathered, ProcessEvent.silences, verdict?]
    | exited again =>
      rw [step, ih]
      rfl
    | deadlineReached =>
      rw [step, foldl_step_over, verdict_eq_ofExit]
      simp [isSilenced, gathered, ProcessEvent.silences, verdict?]

theorem verdict?_foldl_running_closed (pieces : List (List UInt8)) (events : List ProcessEvent) :
    (events.foldl step (.running pieces true)).verdict? =
      match decider? events with
      | some (.exited succeeded) => some (.ofExit pieces.reverse.flatten succeeded)
      | some .deadlineReached => some .timedOut
      | _ => none := by
  induction events with
  | nil => rfl
  | cons event events ih =>
    rw [List.foldl_cons]
    cases event with
    | diagnostics bytes => exact ih
    | diagnosticsClosed => exact ih
    | exited succeeded =>
      simp only [step, if_true, foldl_step_over]
      rfl
    | deadlineReached =>
      simp only [step, foldl_step_over]
      rfl

theorem verdict?_foldl_running (pieces : List (List UInt8)) (events : List ProcessEvent) :
    (events.foldl step (.running pieces false)).verdict? =
      match decider? events with
      | some (.exited succeeded) =>
        if isSilenced events then
          some (.ofExit (pieces.reverse.flatten ++ gathered events) succeeded)
        else none
      | some .deadlineReached => some .timedOut
      | _ => none := by
  induction events generalizing pieces with
  | nil => rfl
  | cons event events ih =>
    rw [List.foldl_cons]
    cases event with
    | diagnostics bytes =>
      simp only [step, Bool.false_eq_true, if_false, ih, flatten_reverse_cons, List.append_assoc]
      rfl
    | diagnosticsClosed =>
      -- What counts of the diagnostics is settled here, the rest of the run is not.
      have nothing : gathered (.diagnosticsClosed :: events) = [] := rfl
      simp only [step, verdict?_foldl_running_closed, nothing, List.append_nil]
      rfl
    | exited succeeded =>
      simp only [step, Bool.false_eq_true, if_false, verdict?_foldl_draining]
      rfl
    | deadlineReached =>
      simp only [step, foldl_step_over]
      rfl

theorem run?_eq_judged (events : List ProcessEvent) : run? events = judged events := by
  rw [run?_eq_verdict?, start, verdict?_foldl_running]
  rfl

theorem run?_of_prefix {events more : List ProcessEvent} {verdict : RunVerdict}
    (judged : run? events = some verdict) (begins : events <+: more) :
    run? more = some verdict := by
  obtain ⟨rest, rfl⟩ := begins
  rw [run?_eq_verdict?] at judged ⊢
  rw [List.foldl_append, eq_over_of_verdict? judged, foldl_step_over]
  rfl

/-! Cutting the diagnostics in other places. -/

def bytewise (events : List ProcessEvent) : List ProcessEvent :=
  events.flatMap ProcessEvent.bytewise

theorem decider?_bytewise (events : List ProcessEvent) :
    decider? (bytewise events) = decider? events := by
  induction events with
  | nil => rfl
  | cons event events ih =>
    unfold decider? bytewise at ih ⊢
    rw [List.flatMap_cons, List.find?_append, ih]
    cases event with
    | diagnostics bytes =>
      have undecided : (ProcessEvent.bytewise (.diagnostics bytes)).find? ProcessEvent.decides =
          none := by
        rw [List.find?_eq_none]
        intro event member
        obtain ⟨byte, -, rfl⟩ := List.mem_map.mp member
        exact Bool.false_ne_true
      rw [undecided]
      rfl
    | _ => rfl

theorem isSilenced_bytewise (events : List ProcessEvent) :
    isSilenced (bytewise events) = isSilenced events := by
  induction events with
  | nil => rfl
  | cons event events ih =>
    unfold isSilenced bytewise at ih ⊢
    rw [List.flatMap_cons, List.any_append, List.any_cons, ih]
    congr 1
    cases event with
    | diagnostics bytes =>
      have unsilenced : (ProcessEvent.bytewise (.diagnostics bytes)).any ProcessEvent.silences =
          false := by
        rw [List.any_eq_false]
        intro event member
        obtain ⟨byte, -, rfl⟩ := List.mem_map.mp member
        exact Bool.false_ne_true
      rw [unsilenced]
      rfl
    | _ => rfl

theorem gathered_map_append (bytes : List UInt8) (events : List ProcessEvent) :
    gathered ((bytes.map fun byte => .diagnostics [byte]) ++ events) =
      bytes ++ gathered events := by
  induction bytes with
  | nil => rfl
  | cons byte bytes ih =>
    have first : gathered (.diagnostics [byte] ::
        ((bytes.map fun byte => .diagnostics [byte]) ++ events)) =
        byte :: gathered ((bytes.map fun byte => .diagnostics [byte]) ++ events) := rfl
    rw [List.map_cons, List.cons_append, first, ih]
    rfl

theorem gathered_bytewise (events : List ProcessEvent) :
    gathered (bytewise events) = gathered events := by
  induction events with
  | nil => rfl
  | cons event events ih =>
    unfold bytewise at ih ⊢
    rw [List.flatMap_cons]
    cases event with
    | diagnostics bytes =>
      rw [ProcessEvent.bytewise, gathered_map_append, ih]
      rfl
    | diagnosticsClosed => rfl
    | exited succeeded => exact ih
    | deadlineReached => rfl

/-- Two runs that read the same bytes between the same other events get the same verdict. -/
theorem run?_of_bytewise_eq {events events' : List ProcessEvent}
    (same : bytewise events = bytewise events') : run? events = run? events' := by
  have cut_free : ∀ events, judged (bytewise events) = judged events := by
    intro events
    unfold judged
    rw [decider?_bytewise, isSilenced_bytewise, gathered_bytewise]
  rw [run?_eq_judged, run?_eq_judged, ← cut_free, same, cut_free]

end Supervision

end StylesheetRunner
