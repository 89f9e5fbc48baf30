import StylesheetRunner.CommandLine.Arguments
import StylesheetRunner.Proofs.Invocation.LineOpenings
import StylesheetRunner.Proofs.Text.Trimming
import StylesheetRunner.Proofs.TextMap

/-!
Reading the argument line of an inline parameter as the command line reads a parameter: parted at
the first equals sign, with the name trimmed. A line joins name and value with that sign, but the
check in front of it looks only at line breaks, so a name with a sign of its own moves the place
where the line is parted, and blanks around a name are lost.
-/

namespace StylesheetRunner

namespace Parameter

/-- A name that is found again in front of the equals sign: there is one, it has no such sign and no
blank at either end. -/
structure NamedReadably (name : String) : Prop where
  nonempty : name ≠ ""
  unsigned : '=' ∉ name.toList
  unpadded : Text.trim name.toList = name.toList

instance (name : String) : Decidable (NamedReadably name) :=
  decidable_of_iff (name ≠ "" ∧ '=' ∉ name.toList ∧ Text.trim name.toList = name.toList)
    ⟨fun ⟨nonempty, unsigned, unpadded⟩ => ⟨nonempty, unsigned, unpadded⟩,
      fun ⟨nonempty, unsigned, unpadded⟩ => ⟨nonempty, unsigned, unpadded⟩⟩

/-- The name goes on behind the other name and a sign, and the other value begins with what follows
that sign. -/
def Overlaps (name value otherName otherValue : String) : Prop :=
  ∃ middle, name = otherName ++ "=" ++ middle ∧ otherValue = middle ++ "=" ++ value

variable {name value otherName otherValue : String}

theorem toList_inline (name value : String) :
    (name ++ "=" ++ value).toList = name.toList ++ '=' :: value.toList := by
  rw [String.toList_append, String.toList_append, List.append_assoc]
  rfl

theorem splitParameter_eq_ok_iff {text : String} :
    CommandLine.splitParameter text = .ok (name, value) ↔
      ∃ front, text.toList = front ++ '=' :: value.toList ∧ '=' ∉ front ∧
        Text.trim front = name.toList ∧ name ≠ "" := by
  unfold CommandLine.splitParameter
  constructor
  · intro accepted
    split at accepted
    next => cases accepted
    next front back parted =>
      obtain ⟨parts, unsigned⟩ := Text.splitAtFirst?_eq_some_iff.mp parted
      split at accepted
      next => cases accepted
      next named =>
        cases accepted
        refine ⟨front, ?_, unsigned, ?_, fun empty => named ?_⟩
        · rw [String.toList_ofList, parts]
        · rw [String.toList_ofList]
        · rw [← String.toList_ofList (l := Text.trim front), empty, String.toList_empty]
  · rintro ⟨front, parts, unsigned, trimmed, nonempty⟩
    have named : name.toList ≠ [] := fun empty => nonempty (String.toList_eq_nil_iff.mp empty)
    rw [Text.splitAtFirst?_eq_some_iff.mpr ⟨parts, unsigned⟩]
    simp only [trimmed, if_neg named, String.ofList_toList]

theorem namedReadably_of_splitParameter {text : String}
    (accepted : CommandLine.splitParameter text = .ok (name, value)) : NamedReadably name := by
  obtain ⟨front, -, unsigned, trimmed, nonempty⟩ := splitParameter_eq_ok_iff.mp accepted
  obtain ⟨⟨before, behind, parts, -, -⟩, front_kept, back_kept⟩ := Text.trimmed_trim front
  refine ⟨nonempty, fun sign => unsigned ?_, ?_⟩
  · rw [← trimmed] at sign
    rw [parts]
    exact List.mem_append_left _ (List.mem_append_right _ sign)
  · rw [← trimmed]
    exact Text.trim_eq_of_trimmed ⟨⟨[], [], by simp, nofun, nofun⟩, front_kept, back_kept⟩

/-- Reading undoes the joining of name and value for readable names, and for no others. -/
theorem splitParameter_inline_iff :
    CommandLine.splitParameter (name ++ "=" ++ value) = .ok (name, value) ↔
      NamedReadably name := by
  refine ⟨namedReadably_of_splitParameter, fun ⟨nonempty, unsigned, unpadded⟩ => ?_⟩
  exact splitParameter_eq_ok_iff.mpr
    ⟨name.toList, toList_inline name value, unsigned, unpadded, nonempty⟩

theorem not_namedReadably_of_overlaps (overlaps : Overlaps name value otherName otherValue) :
    ¬ NamedReadably name := by
  obtain ⟨middle, rfl, -⟩ := overlaps
  intro readable
  refine readable.unsigned ?_
  rw [toList_inline]
  exact List.mem_append_right _ List.mem_cons_self

theorem inline_eq_of_overlaps (overlaps : Overlaps name value otherName otherValue) :
    name ++ "=" ++ value = otherName ++ "=" ++ otherValue := by
  obtain ⟨middle, rfl, rfl⟩ := overlaps
  simp only [String.append_assoc]

/-- When one name begins with the other, the rest of it is nothing or begins with the sign that ends
the other name in its line. -/
theorem overlaps_of_append {rest : List Char} (longer : name.toList = otherName.toList ++ rest)
    (others : '=' :: otherValue.toList = rest ++ '=' :: value.toList) :
    name = otherName ∧ value = otherValue ∨ Overlaps name value otherName otherValue := by
  cases rest with
  | nil =>
    rw [List.append_nil] at longer
    exact .inl ⟨String.toList_inj.mp longer,
      (String.toList_inj.mp (List.cons.inj others).2).symm⟩
  | cons sign middle =>
    obtain ⟨rfl, behind⟩ := List.cons.inj others
    refine .inr ⟨String.ofList middle, String.toList_inj.mp ?_, String.toList_inj.mp ?_⟩
    · rw [toList_inline, String.toList_ofList, longer]
    · rw [toList_inline, String.toList_ofList, behind]
      rfl

/-- Two parameters have one line when they are the same, or when the line can be parted at two of
its signs. -/
theorem inline_eq_iff :
    name ++ "=" ++ value = otherName ++ "=" ++ otherValue ↔
      name = otherName ∧ value = otherValue ∨
        Overlaps name value otherName otherValue ∨ Overlaps otherName otherValue name value := by
  constructor
  · intro same
    have letters := congrArg String.toList same
    rw [toList_inline, toList_inline] at letters
    rcases List.append_eq_append_iff.mp letters with
      ⟨rest, longer, others⟩ | ⟨rest, longer, others⟩
    · obtain ⟨rfl, rfl⟩ | overlaps := overlaps_of_append longer others
      · exact .inl ⟨rfl, rfl⟩
      · exact .inr (.inr overlaps)
    · exact (overlaps_of_append longer others).imp_right .inl
  · rintro (⟨rfl, rfl⟩ | overlaps | overlaps)
    · rfl
    · exact inline_eq_of_overlaps overlaps
    · exact (inline_eq_of_overlaps overlaps).symm

end Parameter

/-- The parameter at a place of the request, with a value that is written into its line. -/
def Request.BindsInline (request : Request) (index : Nat) (name value : String) : Prop :=
  request.parameters.entries[index]? = some (name, value) ∧ ParameterKind.ofValue value = .inline

namespace Invocation

variable {processor : Processor} {workspace : Workspace} {request : Request} {tree : FileTree}
  {invocation : Invocation}

theorem getElem?_arguments_of_bindsInline {index : Nat} {name value : String}
    (binds : request.BindsInline index name value) :
    (argumentsOf processor workspace request)[
        (leadingArguments processor workspace request).length + index]? =
      some (name ++ "=" ++ value) := by
  rw [getElem?_arguments, binds.1, Option.map_some, Parameter.binding, binds.2]

/-- Two inline parameters share a line exactly when the line can be parted at two of its signs. -/
theorem inline_lines_eq_iff {first second : Nat} {name value otherName otherValue : String}
    (binds : request.BindsInline first name value)
    (otherBinds : request.BindsInline second otherName otherValue) (apart : first ≠ second) :
    (argumentsOf processor workspace request)[
          (leadingArguments processor workspace request).length + first]? =
        (argumentsOf processor workspace request)[
          (leadingArguments processor workspace request).length + second]? ↔
      Parameter.Overlaps name value otherName otherValue ∨
        Parameter.Overlaps otherName otherValue name value := by
  rw [getElem?_arguments_of_bindsInline binds, getElem?_arguments_of_bindsInline otherBinds,
    Option.some.injEq, Parameter.inline_eq_iff]
  refine or_iff_right fun ⟨same, _⟩ => apart ?_
  subst same
  exact TextMap.index_eq_of_key binds.1 otherBinds.1

/-- The inline parameters of an accepted request are read back from their lines, and no two of them
share a line, exactly when all their names are readable. -/
theorem inline_lines_read_back_iff
    (success : (build processor workspace request tree).1 = .ok invocation) :
    let line? (index : Nat) : Option String :=
      invocation.arguments[(leadingArguments processor workspace request).length + index]?
    ((∀ index name value, request.BindsInline index name value →
        ∃ line, line? index = some line ∧
          CommandLine.splitParameter line = .ok (name, value)) ∧
      ∀ first second name value otherName otherValue,
        request.BindsInline first name value → request.BindsInline second otherName otherValue →
          first ≠ second → line? first ≠ line? second) ↔
      ∀ index name value, request.BindsInline index name value →
        Parameter.NamedReadably name := by
  intro line?
  obtain ⟨-, rfl, -⟩ := build_eq_ok success
  have held (index : Nat) (name value : String)
      (binds : request.BindsInline index name value) :
      line? index = some (name ++ "=" ++ value) :=
    getElem?_arguments_of_bindsInline binds
  constructor
  · rintro ⟨reads, -⟩ index name value binds
    obtain ⟨line, here, read⟩ := reads index name value binds
    cases (held index name value binds).symm.trans here
    exact Parameter.splitParameter_inline_iff.mp read
  · intro readable
    constructor
    · intro index name value binds
      exact ⟨_, held index name value binds,
        Parameter.splitParameter_inline_iff.mpr (readable index name value binds)⟩
    · intro first second name value otherName otherValue binds otherBinds apart same
      rcases (inline_lines_eq_iff binds otherBinds apart).mp same with overlaps | overlaps
      · exact Parameter.not_namedReadably_of_overlaps overlaps
          (readable first name value binds)
      · exact Parameter.not_namedReadably_of_overlaps overlaps
          (readable second otherName otherValue otherBinds)

/-- A value may hold signs of its own, and the line of a document is not asked about. -/
theorem inline_lines_read_back_of_readable_names :
    let processor : Processor := ⟨"java", [], "", "Runner"⟩
    let workspace : Workspace := ⟨["tmp"]⟩
    let request : Request :=
      ⟨"", none, .ofList [("count", "-3"), ("test", "@id=1"), (" doc", "<a/>")], false⟩
    let invocation := ofRequest processor workspace request
    let line? (index : Nat) : Option String :=
      invocation.arguments[(leadingArguments processor workspace request).length + index]?
    (build processor workspace request (FileTree.empty.insert ["tmp"] .directory)).1 =
        .ok invocation ∧
      (∀ index name value, request.BindsInline index name value →
        ∃ line, line? index = some line ∧
          CommandLine.splitParameter line = .ok (name, value)) ∧
      ∀ first second name value otherName otherValue,
        request.BindsInline first name value → request.BindsInline second otherName otherValue →
          first ≠ second → line? first ≠ line? second := by
  intro processor workspace request invocation line?
  have success : (build processor workspace request
      (FileTree.empty.insert ["tmp"] .directory)).1 = .ok invocation := rfl
  have readable : ∀ entry ∈ request.parameters.entries,
      ParameterKind.ofValue entry.2 = .inline → Parameter.NamedReadably entry.1 := by decide
  exact ⟨success, (inline_lines_read_back_iff success).mpr fun index name value binds =>
    readable (name, value) (List.mem_of_getElem? binds.1) binds.2⟩

theorem inline_lines_overlap :
    let processor : Processor := ⟨"java", [], "", "Runner"⟩
    let workspace : Workspace := ⟨["tmp"]⟩
    let request : Request := ⟨"", none, .ofList [("a", "b=c"), ("a=b", "c")], false⟩
    let invocation := ofRequest processor workspace request
    (build processor workspace request (FileTree.empty.insert ["tmp"] .directory)).1 =
        .ok invocation ∧
      request.BindsInline 0 "a" "b=c" ∧ request.BindsInline 1 "a=b" "c" ∧
      invocation.arguments.drop (leadingArguments processor workspace request).length =
        ["a=b=c", "a=b=c"] ∧
      CommandLine.splitParameter "a=b=c" = .ok ("a", "b=c") := by
  refine ⟨rfl, ⟨?_, ?_⟩, ⟨?_, ?_⟩, ?_, ?_⟩ <;> decide

end Invocation

end StylesheetRunner
