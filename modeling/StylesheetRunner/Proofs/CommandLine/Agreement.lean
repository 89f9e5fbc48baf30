import StylesheetRunner.Proofs.CommandLine.OneShot
import StylesheetRunner.Proofs.CommandLine.Words
import StylesheetRunner.Proofs.Concurrency.Isolation
import StylesheetRunner.Proofs.Http.BodyLimit

/-!
The two front ends agree. Words for a command and the body of a request that give the same
stylesheet, parameters and flag lead to one request, and with one configuration and one runner to
the same launches and the same answer, up to times.
-/

namespace StylesheetRunner

open Json Text.Utf8

namespace Request

/-- The members of a request that lists its parameters, names perhaps more than once. -/
def listed (stylesheet : String) (parameters : List (String × String)) (trace : Bool) :
    List (String × Value) :=
  [("xslt", .text stylesheet),
    ("parameters", .object (parameters.map fun parameter => (parameter.1, .text parameter.2))),
    ("trace", .boolean trace)]

/-- A body spells an object that lists parameters. The members stand in any order, perhaps with
others among them that a request does not know. -/
inductive Lists (stylesheet : String) (parameters : List (String × String)) (trace : Bool) :
    List UInt8 → Prop
  | spelled {members added : List (String × Value)} {before text after : List Char}
      (same : members.Perm (listed stylesheet parameters trace ++ added))
      (unknown : ∀ member ∈ added, member.1 ∉ shape.names)
      (spelled : Spelled (.object members) text) (blank_before : IsGap before)
      (blank_after : IsGap after) :
      Lists stylesheet parameters trace (encode (before ++ text ++ after))

/-- A body that lists parameters is read as the request for them, in which of the parameters with
one name the last counts. -/
theorem read_of_lists {stylesheet : String} {parameters : List (String × String)} {trace : Bool}
    {body : List UInt8} (lists : Lists stylesheet parameters trace body) :
    read body = .ok ⟨stylesheet, none, .ofList parameters, trace⟩ := by
  obtain ⟨same, unknown, spelled, blank_before, blank_after⟩ := lists
  refine readWhole_spelled ?_ spelled blank_before blank_after
  let asked : Request := ⟨stylesheet, none, .ofList parameters, trace⟩
  have rearranged : (shape.schema fun _ => .plain).Rearranged
      (.object (listed stylesheet parameters trace)) (.object _) :=
    ⟨_, _, List.forall₂_same.mpr fun _ _ => ⟨rfl, rfl⟩, unknown, same⟩
  refine RecordShape.takes_rearranged asked.partly rfl rearranged (by simp [listed]) ?_ ?_
  · intro member mem value inside
    simp only [listed, List.mem_cons, List.not_mem_nil, or_false] at mem
    rcases mem with rfl | rfl | rfl
    · exact RecordShape.recalls_ofMember rfl (fun _ => rfl) (fun _ => by simp [partly])
        (takes_plain (takes_string _) inside)
    · exact RecordShape.recalls_ofMember rfl (fun _ => rfl) (fun _ => by simp [partly])
        (takes_plain (takes_textMap_ofList _) inside)
    · exact RecordShape.recalls_ofMember rfl (fun _ => rfl) (fun _ => by simp [partly])
        (takes_plain (takes_boolean _) inside)
  · intro names same
    simp [shape, partly, heldOnce, same.mem_iff, blank, listed, asked]

end Request

namespace Http

structure Request.Carries (request : Request) (stylesheet : String)
    (parameters : List (String × String)) (trace : Bool) (limit : Nat) : Prop where
  post : request.method = "POST"
  place : request.path = "/transform".toList
  lists : StylesheetRunner.Request.Lists stylesheet parameters trace request.body
  within : request.body.length ≤ limit
  honest : request.DeclaresHonestly

theorem answer_of_carries (settings : Settings) (moment : Moment) (state : State)
    {request : Request} {stylesheet : String} {parameters : List (String × String)} {trace : Bool}
    (carries : request.Carries stylesheet parameters trace settings.bodyLimit) :
    let asked : StylesheetRunner.Request := ⟨stylesheet, none, .ofList parameters, trace⟩
    let done := settings.transformer.transform moment.circumstances asked state.files
    let reply := answer settings moment request state
    Tells reply.response done.ending ∧ reply.launches = done.launches := by
  intro asked done reply
  obtain ⟨admitted, whole⟩ := admits_of_honest carries.within carries.honest
  have answered : reply = _ := answer_at_transform carries.post carries.place admitted
  have read : StylesheetRunner.Request.read request.body = .ok asked :=
    StylesheetRunner.Request.read_of_lists carries.lists
  simp only [answerTransform, whole, Bool.false_eq_true, if_false, read] at answered
  rw [answered]
  exact ⟨tells_transform done, rfl⟩

end Http

namespace CommandLine

structure Outcome.Reports (outcome : Outcome) (report : ErrorReport) : Prop where
  fails : outcome.Fails
  shown : ∃ front, outcome.errors = front ++ report.shown

def Outcome.Shows (outcome : Outcome) : Ending → Prop
  | .answered (.ok result) => outcome.Prints result
  | .answered (.error failure) => outcome.Reports (failureReport failure)
  | .broken => outcome.Reports brokenReport

namespace Outcome

variable {outcome : Outcome} {console : Logging.ConsoleOutput}

theorem Reports.behindLog {report : ErrorReport} (reports : outcome.Reports report)
    (other : console ≠ .stdout) (lines : List String) :
    (outcome.behindLog console lines).Reports report := by
  obtain ⟨fails, front, shown⟩ := reports
  refine ⟨fails.behindLog other lines, ?_⟩
  cases console with
  | stdout => exact ⟨front, shown⟩
  | stderr => exact ⟨String.join lines ++ front, by simp [behindLog, shown, String.append_assoc]⟩
  | silent => exact ⟨front, shown⟩

theorem Shows.behindLog {ending : Ending} (shows : outcome.Shows ending)
    (other : console ≠ .stdout) (lines : List String) :
    (outcome.behindLog console lines).Shows ending := by
  rcases ending with (failure | result) | _
  · exact Reports.behindLog shows other lines
  · exact Prints.behindLog shows other lines
  · exact Reports.behindLog shows other lines

theorem shows_ofTransformation (done : Transformation) :
    (ofTransformation done).Shows done.ending := by
  rcases ended : done.ending with (failure | result) | _
  · refine ⟨fails_ofTransformation (by simp [ended]), "", ?_⟩
    simp [ofTransformation, ended, Outcome.failure]
  · exact prints_ofTransformation ended
  · refine ⟨fails_ofTransformation (by simp [ended]), "", ?_⟩
    simp [ofTransformation, ended, Outcome.failure]

theorem launches_behindLog (console : Logging.ConsoleOutput) (lines : List String)
    (outcome : Outcome) : (outcome.behindLog console lines).launches = outcome.launches := by
  cases console <;> rfl

end Outcome

/-- A run and a reply that launched alike, and of which the one shows what the other tells but for
times. -/
structure Outcome.Matches (outcome : Outcome) (seen : Path → Prop) (reply : Http.Reply) : Prop where
  launches : List.Forall₂ (Launch.Alike seen) outcome.launches reply.launches
  told : ∃ ending ending', outcome.Shows ending ∧ Http.Tells reply.response ending' ∧
    ending'.timeless = ending.timeless

/-- A command and a request over the network that ask the same of one configuration and one runner,
for one workspace, in files that agree on what the runner sees. -/
structure Counterparts (surroundings : Surroundings) (log : Logging.Facility) (words : List String)
    (arguments : TransformArguments) (configuration : Configuration) (stylesheet : String)
    (files : FileTree) (seen : Path → Prop) (request : Http.Request) (moment : Http.Moment)
    (state : Http.State) : Prop where
  read : CommandLine.read words = .ok (.transform arguments)
  logged : ∃ console, prepareLog surroundings log (.transform arguments) = .ok (console, files)
  configured :
    configure surroundings files arguments.config none arguments.timeout = .ok configuration
  held : readStylesheet surroundings files arguments.stylesheet = .ok stylesheet
  carries : request.Carries stylesheet arguments.parameters arguments.trace
    configuration.bodyLimit.toNat
  place : moment.circumstances.workspace = surroundings.circumstances.workspace
  covers : ∀ path, Path.IsAlong surroundings.circumstances.workspace path → seen path
  repeats : Task.Repeats ⟨.ofConfiguration configuration surroundings.runner, moment.circumstances,
    arguments.request stylesheet⟩ surroundings.circumstances.preparation seen
  same : FileTree.SameOn seen files state.files

theorem Counterparts.matches {surroundings : Surroundings} {log : Logging.Facility}
    {words : List String} {arguments : TransformArguments} {configuration : Configuration}
    {stylesheet : String} {files : FileTree} {seen : Path → Prop} {request : Http.Request}
    {moment : Http.Moment} {state : Http.State}
    (counterparts : Counterparts surroundings log words arguments configuration stylesheet files
      seen request moment state) :
    (runLogged surroundings log words).Matches seen
      (Http.answer (.ofConfiguration configuration surroundings.runner) moment request state) := by
  obtain ⟨read, ⟨console, logged⟩, configured, held, carries, place, covers, repeats, same⟩ :=
    counterparts
  -- The transformation of the command is that of the request, but for the time of preparation.
  obtain ⟨⟨workspace, preparation⟩, now⟩ := moment
  obtain rfl : workspace = surroundings.circumstances.workspace := place
  let task : Task := ⟨.ofConfiguration configuration surroundings.runner,
    ⟨surroundings.circumstances.workspace, preparation⟩, arguments.request stylesheet⟩
  let lone := task.prepared surroundings.circumstances.preparation
  obtain ⟨ends, launches⟩ := task.transform_alike repeats covers same
  have ran : runLogged surroundings log words =
      (Outcome.ofTransformation (lone.transform files)).behindLog console log.lines :=
    runLogged_of_stylesheet read logged configured held
  have other : console ≠ .stdout := prepareLog_transform_ne_stdout logged
  have shown := (Outcome.shows_ofTransformation (lone.transform files)).behindLog other log.lines
  obtain ⟨tells, launched⟩ := Http.answer_of_carries
    (.ofConfiguration configuration surroundings.runner) _ state carries
  constructor
  · rw [ran, Outcome.launches_behindLog, launched]
    exact launches
  · rw [ran]
    exact ⟨(lone.transform files).ending, (task.transform state.files).ending, shown, tells, ends⟩

/-- **The two front ends agree.** Texts for parameters, each of which is accepted, make words for a
command with these parameters, and a command with parameters asks for what a body that lists them is
read as: the names in order, however often each comes, and each with its value. With one
configuration and one runner both then launch the same command in the same files, and what the one
shows and the other tells is the same but for times. -/
theorem front_ends_agree {texts : List String} {parameters : List (String × String)}
    (accepted : List.Forall₂ (fun text parameter => splitParameter text = .ok parameter)
      texts parameters) :
    (∀ (trace : Bool) (path : String), path ≠ "" →
      read (transformWords texts trace path) =
        .ok (.transform ⟨path, parameters, trace, defaultConfig, none⟩)) ∧
    (∀ (arguments : TransformArguments) (stylesheet : String) (body : List UInt8),
      Request.Lists stylesheet arguments.parameters arguments.trace body →
      Request.read body = .ok (arguments.request stylesheet)) ∧
    ∀ {surroundings log words arguments configuration stylesheet files seen request moment state},
      Counterparts surroundings log words arguments configuration stylesheet files seen request
        moment state →
      (runLogged surroundings log words).Matches seen
        (Http.answer (.ofConfiguration configuration surroundings.runner) moment request
          state) := by
  refine ⟨?_, ?_, ?_⟩
  · intro trace path named
    exact read_transformWords accepted trace named
  · intro arguments stylesheet body lists
    exact Request.read_of_lists lists
  · intro surroundings log words arguments configuration stylesheet files seen request moment state
    exact Counterparts.matches

/-- Parameters one of which comes twice, in words and in a body with its members in another order
and one more: the command and the request run the same, though their preparations take different
times. -/
theorem front_ends_agree_of_repeated_names :
    let parameters := [("b", " x=1"), ("a", "é"), ("b", "2")]
    let files := (FileTree.empty.insert ["tmp"] .directory).insert ["a.xsl"]
      (.file (encode "<xsl/>".toList))
    let surroundings : Surroundings :=
      ⟨files, [], ⟨[]⟩, Concurrent.copying, ⟨["tmp", "xslt1"], ⟨0⟩⟩, fun _ => none⟩
    let words := transformWords ["b= x=1", " a =é", "b=2"] true "a.xsl"
    let members := [("trace", .boolean true), ("more", .null),
      ("parameters", .object (parameters.map fun parameter => (parameter.1, .text parameter.2))),
      ("xslt", .text "<xsl/>")]
    let body := Value.object members
    let request : Http.Request := ⟨"POST", "/transform", [], encode body.compact⟩
    let settings : Http.Settings := .ofConfiguration .default Concurrent.copying
    let outcome := runLogged surroundings .quiet words
    let reply := Http.answer settings ⟨⟨["tmp", "xslt1"], ⟨5⟩⟩, ⟨0⟩⟩ request ⟨none, files⟩
    Request.read request.body = .ok ⟨"<xsl/>", none, .ofList parameters, true⟩ ∧
      List.Forall₂ (Launch.Alike (Path.IsAlong ["tmp", "xslt1"])) outcome.launches
        reply.launches ∧
      ∃ result result', outcome.Prints result ∧
        Http.Tells reply.response (.answered (.ok result')) ∧
        result'.timeless = result.timeless := by
  intro parameters files surroundings words members body request settings outcome reply
  have accepted : List.Forall₂ (fun text parameter => splitParameter text = .ok parameter)
      ["b= x=1", " a =é", "b=2"] parameters :=
    .cons (by decide +kernel) (.cons (by decide +kernel) (.cons (by decide +kernel) .nil))
  let arguments : TransformArguments := ⟨"a.xsl", parameters, true, defaultConfig, none⟩
  have lists : Request.Lists "<xsl/>" parameters true request.body := by
    have same : members.Perm (Request.listed "<xsl/>" parameters true ++ [("more", .null)]) :=
      (List.reverse_perm members).symm.trans (.cons _ (.cons _ (.swap _ _ _)))
    have lists := Request.Lists.spelled same (by decide) (written_compact body).spelled isGap_nil
      isGap_nil
    rwa [List.nil_append, List.append_nil] at lists
  have undeclared : request.declaredLength? = none := by decide +kernel
  have honest : request.DeclaresHonestly := by
    intro declared same
    cases undeclared.symm.trans same
  obtain ⟨reads, asks, agree⟩ := front_ends_agree accepted
  have counterparts : Counterparts surroundings .quiet words arguments .default "<xsl/>" files
      (Path.IsAlong ["tmp", "xslt1"]) request ⟨⟨["tmp", "xslt1"], ⟨5⟩⟩, ⟨0⟩⟩ ⟨none, files⟩ :=
    { read := reads true "a.xsl" (by decide)
      logged := ⟨.stderr, by decide +kernel⟩
      configured := by decide +kernel
      held := by decide +kernel
      carries := ⟨rfl, by decide +kernel, lists, by decide +kernel, honest⟩
      place := rfl
      covers := fun _ => id
      repeats := Task.repeats_of_isLocal Concurrent.isLocal_copying _
      same := fun _ _ => rfl }
  obtain ⟨launches, ending, ending', shown, told, alike⟩ := agree counterparts
  have succeeds : outcome.exitCode = 0 := by decide +kernel
  refine ⟨asks arguments "<xsl/>" request.body lists, launches, ?_⟩
  rcases ending with (failure | result) | _
  · cases succeeds.symm.trans shown.fails.exitCode
  · rcases ending' with (failure' | result') | _
    · cases alike
    · exact ⟨result, result', shown, told, Except.ok.inj (Ending.answered.inj alike)⟩
    · cases alike
  · cases succeeds.symm.trans shown.fails.exitCode

end CommandLine

end StylesheetRunner
