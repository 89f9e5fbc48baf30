import StylesheetRunner.Proofs.Invocation.Provision

/-!
Building that fails. The first parameter that does not pass the check decides before anything is
written; else the first file at whose name a directory stands decides, and the files in front of it
are the only ones that are new.
-/

namespace StylesheetRunner

/-- The first of some items that has a property, between those in front of it and those behind. -/
structure FirstIn {α : Type} (property : α → Prop) (items front : List α) (found : α)
    (back : List α) : Prop where
  split : items = front ++ found :: back
  here : property found
  earlier : ∀ item ∈ front, ¬ property item

theorem exists_firstIn {α : Type} {property : α → Prop} {items : List α}
    (some_item : ∃ item ∈ items, property item) :
    ∃ front found back, FirstIn property items front found back := by
  induction items with
  | nil =>
    obtain ⟨item, member, -⟩ := some_item
    cases member
  | cons first rest ih =>
    by_cases here : property first
    · exact ⟨[], first, rest, rfl, here, nofun⟩
    · obtain ⟨item, member, holds⟩ := some_item
      have later : item ∈ rest := by
        rcases List.mem_cons.mp member with rfl | later
        · exact absurd holds here
        · exact later
      obtain ⟨front, found, back, split, found_holds, earlier⟩ := ih ⟨item, later, holds⟩
      exact ⟨first :: front, found, back, by rw [split]; rfl, found_holds,
        List.forall_mem_cons.mpr ⟨here, earlier⟩⟩

theorem FirstIn.unique {α : Type} {property : α → Prop} {items front front' back back' : List α}
    {found found' : α} (first : FirstIn property items front found back)
    (first' : FirstIn property items front' found' back') :
    front = front' ∧ found = found' ∧ back = back' := by
  rcases List.append_eq_append_iff.mp (first.split.symm.trans first'.split) with
    ⟨middle, split, rest⟩ | ⟨middle, split, rest⟩
  · cases middle with
    | nil => exact ⟨by rw [split, List.append_nil], List.cons.inj rest⟩
    | cons item middle =>
      obtain ⟨rfl, -⟩ := List.cons.inj rest
      exact absurd first.here (first'.earlier found (by simp [split]))
  · cases middle with
    | nil =>
      obtain ⟨same, behind⟩ := List.cons.inj rest
      exact ⟨by rw [split, List.append_nil], same.symm, behind.symm⟩
    | cons item middle =>
      obtain ⟨rfl, -⟩ := List.cons.inj rest
      exact absurd first'.here (first.earlier found' (by simp [split]))

namespace Invocation

/-- What building leaves where a directory stands in the way of a file: the files in front of that
one are new, those behind it are not there, and every directory is as it was. -/
structure StopsAt (workspace : Workspace) (blocked : Set String) (front : List PlannedFile)
    (stopped : PlannedFile) (back : List PlannedFile) (before : FileTree)
    (outcome : Except Failure Invocation × FileTree) : Prop where
  failure : outcome.1 = .error (.file stopped.role .isADirectory)
  written : workspace.Gains front before outcome.2
  nothing_behind : ∀ file ∈ back, file.name ∉ blocked →
    outcome.2.find? (workspace.file file.name) = none
  no_arguments : outcome.2.isFile (workspace.file "args") = false
  directories : ∀ name ∈ blocked,
    outcome.2.find? (workspace.file name) = before.find? (workspace.file name)

variable {processor : Processor} {workspace : Workspace} {request : Request} {tree : FileTree}
  {blocked : Set String} {entries before after : List (String × String)}
  {entry : String × String} {arguments : List String} {stopped : PlannedFile}
  {front back : List PlannedFile}

theorem checkParameters_of_first
    (first : FirstIn (fun entry => Parameter.check entry.1 entry.2 ≠ .ok ()) entries before entry
      after) : checkParameters entries = .error (.invalidParameter entry.1) := by
  obtain ⟨rfl, refused, earlier⟩ := first
  induction before with
  | nil =>
    obtain ⟨name, value⟩ := entry
    simp only [List.nil_append, checkParameters]
    cases outcome : Parameter.check name value with
    | ok passed => exact absurd outcome refused
    | error failure => rw [Parameter.check_eq_error outcome]
  | cons passed before ih =>
    obtain ⟨name, value⟩ := passed
    obtain ⟨passes, later⟩ := List.forall_mem_cons.mp earlier
    simp only [List.cons_append, checkParameters, Decidable.not_not.mp passes]
    exact ih later

section Planned
variable (split : request.plannedFiles arguments = front ++ stopped :: back)
include split

theorem exists_arguments_behind : ∃ file ∈ stopped :: back, file.name = "args" := by
  have last : (request.plannedFiles arguments).getLast? = some ⟨"args", .argumentList,
      Text.Utf8.encode (Text.joinLines (arguments.map String.toList))⟩ := List.getLast?_concat
  rw [split, List.getLast?_append_of_ne_nil _ (List.cons_ne_nil stopped back)] at last
  exact ⟨_, List.mem_of_getLast? last, rfl⟩

theorem nodup_front : (front.map PlannedFile.name).Nodup := by
  have distinct := request.nodup_plannedNames arguments
  rw [split, List.map_append] at distinct
  exact (List.nodup_append.mp distinct).1

theorem name_ne_of_behind {file later : PlannedFile} (member : file ∈ front)
    (behind : later ∈ stopped :: back) : later.name ≠ file.name := by
  have distinct := request.nodup_plannedNames arguments
  rw [split, List.map_append] at distinct
  exact ((List.nodup_append.mp distinct).2.2 _ (List.mem_map_of_mem member) _
    (List.mem_map_of_mem behind)).symm

end Planned

/-- Where a directory stands in the way of some file, building stops at the first such. -/
theorem stopsAt_of_first (fresh : workspace.HoldsOnly blocked tree)
    (accepted : checkParameters request.parameters.entries = .ok ())
    (first : FirstIn (fun file => file.name ∈ blocked)
      (request.plannedFiles (argumentsOf processor workspace request)) front stopped back) :
    StopsAt workspace blocked front stopped back tree
      (build processor workspace request tree) := by
  obtain ⟨split, here, earlier⟩ := first
  have free : ∀ file ∈ front, tree.find? (workspace.file file.name) = none :=
    fun file member => fresh.find?_eq_none (earlier file member)
  obtain ⟨after, gains, goes_on⟩ :=
    Workspace.performAll_of_free fresh.stands free (nodup_front split)
  -- What is not in front has a name of its own, so it is as it was.
  have kept {file : PlannedFile} (behind : file ∈ stopped :: back) :
      after.find? (workspace.file file.name) = tree.find? (workspace.file file.name) :=
    gains.elsewhere _ fun other member same =>
      name_ne_of_behind split member behind (Workspace.file_inj.mp same)
  have blocked_kept : ∀ name ∈ blocked,
      after.find? (workspace.file name) = tree.find? (workspace.file name) := by
    intro name member
    refine gains.elsewhere _ fun other in_front same => ?_
    exact earlier other in_front (Workspace.file_inj.mp same ▸ member)
  have in_the_way : after.isDirectory (workspace.file stopped.name) = true := by
    unfold FileTree.isDirectory
    rw [kept List.mem_cons_self]
    exact fresh.directories stopped.name here
  have outcome : build processor workspace request tree =
      (.error (.file stopped.role .isADirectory), after) := by
    unfold build
    rw [accepted, writes_eq, split, List.map_append, goes_on, List.map_cons]
    simp only [FileWrite.performAll, Workspace.perform_of_directory in_the_way]
  have no_arguments : after.isFile (workspace.file "args") = false := by
    obtain ⟨file, behind, name_eq⟩ := exists_arguments_behind split
    unfold FileTree.isFile
    rw [← name_eq, kept behind]
    exact fresh.isFile_eq_false file.name
  rw [outcome]
  exact
    { failure := rfl
      written := gains
      nothing_behind := fun file behind absent =>
        (kept (List.mem_cons_of_mem _ behind)).trans (fresh.find?_eq_none absent)
      no_arguments := no_arguments
      directories := blocked_kept }

theorem build_of_free (processor : Processor) (fresh : workspace.HoldsOnly blocked tree)
    (accepted : checkParameters request.parameters.entries = .ok ())
    (free : ∀ file ∈ request.plannedFiles (argumentsOf processor workspace request),
      file.name ∉ blocked) :
    ∃ after, build processor workspace request tree =
        (.ok (ofRequest processor workspace request), after) ∧
      workspace.Gains (request.plannedFiles (argumentsOf processor workspace request)) tree
        after := by
  obtain ⟨after, gains, goes_on⟩ := Workspace.performAll_of_free fresh.stands
    (fun file member => fresh.find?_eq_none (free file member)) (request.nodup_plannedNames _)
  have done := goes_on []
  rw [List.append_nil] at done
  refine ⟨after, ?_, gains⟩
  unfold build
  rw [accepted, writes_eq, done]
  rfl

/-- **Building that fails.** The first parameter that does not pass the check is named, and nothing
is written. Where all pass, building fails exactly if a directory stands at the name of some planned
file: it stops at the first such and tells of its role, the files in front of it are there with all
their bytes, nothing behind it is, and every directory is as it was. -/
theorem build_stops_at_first_obstacle (processor : Processor) {workspace : Workspace}
    (request : Request) {blocked : Set String} {tree : FileTree}
    (fresh : workspace.HoldsOnly blocked tree) :
    let entries := request.parameters.entries
    let files := request.plannedFiles (argumentsOf processor workspace request)
    let outcome := build processor workspace request tree
    let refused (entry : String × String) : Prop := Parameter.check entry.1 entry.2 ≠ .ok ()
    ((∃ entry ∈ entries, refused entry) →
      ∃ front entry back, FirstIn refused entries front entry back ∧
        outcome = (.error (.invalidParameter entry.1), tree)) ∧
    ((∀ entry ∈ entries, ¬ refused entry) →
      ((∃ failure, outcome.1 = .error failure) ↔ ∃ file ∈ files, file.name ∈ blocked) ∧
      ((∃ file ∈ files, file.name ∈ blocked) →
        ∃ front stopped back, FirstIn (fun file => file.name ∈ blocked) files front stopped back ∧
          StopsAt workspace blocked front stopped back tree outcome)) := by
  intro entries files outcome refused
  constructor
  · intro some_refused
    obtain ⟨front, entry, back, first⟩ := exists_firstIn some_refused
    have checked : checkParameters request.parameters.entries =
        .error (.invalidParameter entry.1) := checkParameters_of_first first
    refine ⟨front, entry, back, first, ?_⟩
    simp only [outcome, build, checked]
  · intro all_pass
    have accepted : checkParameters request.parameters.entries = .ok () :=
      checkParameters_eq_ok_iff.mpr fun entry member => Decidable.not_not.mp (all_pass entry member)
    have stops (obstacle : ∃ file ∈ files, file.name ∈ blocked) :
        ∃ front stopped back, FirstIn (fun file => file.name ∈ blocked) files front stopped back ∧
          StopsAt workspace blocked front stopped back tree outcome := by
      obtain ⟨front, stopped, back, first⟩ := exists_firstIn obstacle
      exact ⟨front, stopped, back, first, stopsAt_of_first fresh accepted first⟩
    refine ⟨⟨?_, ?_⟩, stops⟩
    · rintro ⟨failure, failed⟩
      by_contra none_blocked
      have free : ∀ file ∈ files, file.name ∉ blocked := fun file member here =>
        none_blocked ⟨file, member, here⟩
      obtain ⟨after, done, -⟩ := build_of_free processor fresh accepted free
      simp only [outcome, done] at failed
      cases failed
    · intro obstacle
      obtain ⟨_, _, _, -, stopped⟩ := stops obstacle
      exact ⟨_, stopped.failure⟩

/-- Directories at the names of the second parameter and of the arguments, and a third that is in
the way of nothing; and the same where a value breaks its line. -/
theorem build_stops_at_first_obstacle_of_taken_names :
    let processor : Processor := ⟨"java", [], "", "Runner"⟩
    let workspace : Workspace := ⟨["xslt1"]⟩
    let blocked : Set String := {"result.xml", "args", "param_1"}
    let tree := (((FileTree.empty.insert ["xslt1"] .directory).insert ["xslt1", "param_1"]
      .directory).insert ["xslt1", "args"] .directory).insert ["xslt1", "result.xml"] .directory
    let request : Request :=
      ⟨"<xsl/>", none, .ofList [("c", "3"), ("b", "<b/>"), ("a", "1")], false⟩
    let broken : Request := ⟨"<xsl/>", none, .ofList [("b", "2\r-T"), ("a", "1")], false⟩
    let outcome := build processor workspace request tree
    workspace.HoldsOnly blocked tree ∧
      outcome.1 = .error (.file .parameter .isADirectory) ∧
      outcome.2.find? ["xslt1", "transform.xsl"] =
        some (.file (Workspace.bytesOf "<xsl/>")) ∧
      outcome.2.find? ["xslt1", "param_0"] = some (.file (Workspace.bytesOf "1")) ∧
      outcome.2.find? ["xslt1", "param_2"] = none ∧
      outcome.2.isFile ["xslt1", "args"] = false ∧
      build processor workspace broken tree = (.error (.invalidParameter "b"), tree) := by
  intro processor workspace blocked tree request broken outcome
  have fresh : workspace.HoldsOnly blocked tree := by
    have acquired : Workspace.acquire ["xslt1"] .empty =
        .ok (workspace, FileTree.empty.insert ["xslt1"] .directory) := rfl
    have empty := Workspace.holdsOnly_of_acquire FileTree.isGrounded_empty acquired
    have taken := ((empty.insert_directory "param_1").insert_directory "args").insert_directory
      "result.xml"
    rwa [LawfulSingleton.insert_empty_eq] at taken
  obtain ⟨-, on_pass⟩ := build_stops_at_first_obstacle processor request fresh
  obtain ⟨on_refusal, -⟩ := build_stops_at_first_obstacle processor broken fresh
  have all_pass : ∀ entry ∈ request.parameters.entries,
      Parameter.check entry.1 entry.2 = .ok () := by decide
  have expected : FirstIn (fun file => file.name ∈ blocked)
      (request.plannedFiles (argumentsOf processor workspace request))
      [⟨"transform.xsl", .program, Workspace.bytesOf "<xsl/>"⟩,
        ⟨"input.xml", .input, Workspace.bytesOf "<root/>"⟩,
        ⟨"param_0", .parameter, Workspace.bytesOf "1"⟩]
      ⟨"param_1", .parameter, Workspace.bytesOf "<b/>"⟩
      [⟨"param_2", .parameter, Workspace.bytesOf "3"⟩,
        ⟨"args", .argumentList, Text.Utf8.encode (Text.joinLines
          ((argumentsOf processor workspace request).map String.toList))⟩] :=
    ⟨rfl, by simp [blocked], by simp [blocked]⟩
  have obstacle : ∃ file ∈ request.plannedFiles (argumentsOf processor workspace request),
      file.name ∈ blocked := ⟨_, expected.split ▸ List.mem_append_cons_self, expected.here⟩
  obtain ⟨front, stopped, back, first, stops⟩ :=
    (on_pass fun entry member refused => refused (all_pass entry member)).2 obstacle
  obtain ⟨rfl, rfl, rfl⟩ := first.unique expected
  have expected_refused : FirstIn (fun entry => Parameter.check entry.1 entry.2 ≠ .ok ())
      broken.parameters.entries [("a", "1")] ("b", "2\r-T") [] :=
    ⟨rfl, by decide, by decide⟩
  obtain ⟨before, entry, after, first_refused, refused⟩ :=
    on_refusal ⟨("b", "2\r-T"), by decide, by decide⟩
  obtain ⟨rfl, rfl, rfl⟩ := first_refused.unique expected_refused
  exact ⟨fresh, stops.failure, stops.written.held _ List.mem_cons_self,
    stops.written.held ⟨"param_0", .parameter, Workspace.bytesOf "1"⟩ (by simp),
    stops.nothing_behind _ List.mem_cons_self (by simp [blocked]), stops.no_arguments, refused⟩

end Invocation

end StylesheetRunner
