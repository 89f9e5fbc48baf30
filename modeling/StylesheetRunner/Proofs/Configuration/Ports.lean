import StylesheetRunner.Proofs.Configuration.Layers
import StylesheetRunner.Proofs.Files.Writing
import StylesheetRunner.Proofs.Json.Refusals

/-!
The ways to give the port below the command line: as a text or as a number in an object file, and as
a variable of the environment. They agree on which port a text names, and on which texts name none;
only what follows then differs, for the file is rejected and the variable says nothing.
-/

namespace StylesheetRunner

open Json Text.Utf8

/-- A text names a number: between blanks it holds a decimal numeral of it. -/
def Text.Denotes (text : String) (value : Nat) : Prop :=
  ∃ kept, Trimmed text.toList kept ∧ IsNumeral kept value

theorem Text.denotes_iff {text : String} {value : Nat} :
    Denotes text value ↔ IsNumeral (trim text.toList) value := by
  constructor
  · rintro ⟨kept, trimmed, numeral⟩
    rwa [trim_eq_of_trimmed trimmed]
  · intro numeral
    exact ⟨_, trimmed_trim text.toList, numeral⟩

theorem Text.denotes_naturalText_iff {number value : Nat} :
    Denotes (String.ofList (naturalText number)) value ↔ value = number := by
  have trimmed : trim (naturalText number) = naturalText number :=
    trim_eq_of_trimmed (trimmed_of_shown fun _ member =>
      isBlank_of_isDigit (isDigit_of_mem_naturalText member))
  rw [denotes_iff, String.toList_ofList, trimmed]
  constructor
  · intro numeral
    exact numeral.unique (isNumeral_naturalText number)
  · rintro rfl
    exact isNumeral_naturalText value

namespace Environment

def without (environment : Environment) (name : String) : Environment :=
  ⟨environment.entries.filter fun entry => entry.1 ≠ name⟩

variable (environment : Environment) (name : String)

theorem text?_without_self : (environment.without name).text? name = none := by
  have missing := lookup_filter (fun other => decide (other ≠ name)) environment.entries name
  simp only [ne_eq, not_true_eq_false, decide_false, Bool.false_eq_true, if_false] at missing
  simp only [text?, without, ne_eq, missing]

theorem text?_without_of_ne {other : String} (different : other ≠ name) :
    (environment.without name).text? other = environment.text? other := by
  have kept := lookup_filter (fun other => decide (other ≠ name)) environment.entries other
  simp only [ne_eq, different, not_false_eq_true, decide_true, if_true] at kept
  simp only [text?, without, ne_eq, kept]

end Environment

namespace Configuration

/-! What a written port is read as. -/

section Reading

variable {text : String} {number : Nat} {given : Option UInt16}

theorem portOfText_names_iff {value : Nat} :
    (portOfText text).toOption.map UInt16.toNat = some value ↔
      Text.Denotes text value ∧ value ≤ 65535 := by
  rw [Text.denotes_iff]
  refine Iff.trans ?_ (@Text.readNatural_eq_ok_iff Text.portLimit _ _)
  unfold portOfText
  cases read : Text.readNatural Text.portLimit (Text.trim text.toList) with
  | error fault => simp [Except.map, Except.toOption]
  | ok number =>
    have small : number ≤ Text.portLimit := (Text.readNatural_eq_ok_iff.mp read).2
    have same : (UInt16.ofNat number).toNat = number :=
      UInt16.toNat_ofNat_of_lt' (Nat.lt_succ_of_le small)
    simp [Except.map, Except.toOption, same]

/-- What becomes of a written port: it is taken as the port that it gives, or refused if it gives
none. -/
def Answers (written : Value) : Option UInt16 → Prop
  | some port => readPort.Takes written port
  | none => readPort.Refuses written

theorem answers_text (text : String) : Answers (.text text) (portOfText text).toOption := by
  cases read : portOfText text with
  | ok port =>
    rintro _ ⟨_, spelled, rfl⟩ gap rest blank ends
    cases spelled with
    | text spelled =>
      unfold readPort
      rw [innerDepth, readUntyped_text 126 blank spelled rest]
      simp only [read]
  | error fault =>
    rintro _ ⟨_, spelled, rfl⟩ gap rest blank ends
    cases spelled with
    | text spelled =>
      refine ⟨.unplaced (.numeral fault) rest, ?_⟩
      unfold readPort
      rw [innerDepth, readUntyped_text 126 blank spelled rest]
      simp only [read]

/-- A number that is too large for a port is refused, whether or not it is still exact. -/
theorem refuses_port (large : Text.portLimit < number) : readPort.Refuses (.natural number) := by
  rintro _ ⟨_, ⟨_⟩, rfl⟩ gap rest blank ends
  change ∃ fault, readPort (gap ++ (encode (Text.naturalText number) ++ rest)) = _
  rw [encode_naturalText]
  unfold readPort
  rw [innerDepth]
  by_cases exact_number : number ≤ Text.wordLimit
  · rw [readUntyped_numeral exact_number 126 blank ends]
    exact ⟨_, if_neg (Nat.not_le.mpr large)⟩
  · have beyond := Nat.lt_of_not_le exact_number
    rcases readUntyped_of_large beyond 126 blank ends with read | ⟨fault, read⟩
    · exact ⟨.unplaced (.noVariant "Port") rest, by rw [read]⟩
    · exact ⟨fault, by rw [read]⟩

theorem answers_natural
    (names : ∀ value, given.map UInt16.toNat = some value ↔ value = number ∧ value ≤ 65535) :
    Answers (.natural number) given := by
  cases given with
  | some port =>
    obtain ⟨rfl, -⟩ := (names port.toNat).mp rfl
    exact takes_port port
  | none =>
    refine refuses_port (Nat.lt_of_not_le fun small => ?_)
    exact nomatch (names number).mpr ⟨rfl, small⟩

end Reading

/-! Files that give the port. -/

section Files

variable {others : Configuration} {written : Value} {bytes : List UInt8} {port : UInt16}
  {tree : FileTree} {directory : Path} {path : String} {given : Option UInt16}

/-- A member has a name of the settings and says of it what they say, rearranged or not. -/
def Tells (settings : Configuration) (member : String × Value) : Prop :=
  ∃ members value, settings.toValue = .object members ∧ (member.1, value) ∈ members ∧
    (memberSchema member.1).Rearranged value member.2

/-- The texts of settings that have a member for the port, written in whatever way. The other
members say what the settings say, or are unknown; what is left out has its default. -/
inductive WritesPort (others : Configuration) (written : Value) : List UInt8 → Prop
  | object {members : List (String × Value)} {before text after : List Char}
      (distinct : (shape.known members).Nodup) (given : ("port", written) ∈ members)
      (said : ∀ member ∈ members, member.1 ∈ shape.names → member.1 ≠ "port" → others.Tells member)
      (left_out : (others.partly (shape.known members)).complete = others)
      (spelled : Spelled (.object members) text) (blank_before : IsGap before)
      (blank_after : IsGap after) :
      WritesPort others written (encode (before ++ text ++ after))

theorem Tells.with_port {member : String × Value} (tells : others.Tells member)
    (different : member.1 ≠ "port") (port : UInt16) :
    Tells { others with port := port } member := by
  obtain ⟨members, value, written, mem, inside⟩ := tells
  cases written
  rcases List.mem_cons.mp mem with same | mem
  · exact absurd (congrArg Prod.fst same) different
  · exact ⟨_, value, rfl, List.mem_cons_of_mem _ mem, inside⟩

theorem Tells.recalls {member : String × Value} (tells : others.Tells member) :
    shape.Recalls others.partly member := by
  obtain ⟨members, value, written, mem, inside⟩ := tells
  exact Configuration.recalls written mem inside

theorem partly_reverse (settings : Configuration) (names : List String) :
    settings.partly names.reverse = settings.partly names := by
  simp only [partly, heldOnce, List.mem_reverse]

theorem complete_partly_with_port {names : List String} (given : "port" ∈ names) (port : UInt16) :
    (partly { others with port := port } names).complete =
      { (others.partly names).complete with port := port } := by
  simp only [partly, Draft.complete, heldOnce, if_pos given, Option.getD_some]

theorem eq_port_of_name {members : List (String × Value)} {member : String × Value}
    (distinct : (shape.known members).Nodup) (given : ("port", written) ∈ members)
    (mem : member ∈ members) (same : member.1 = "port") : member = ("port", written) := by
  have port_known : "port" ∈ shape.names := by decide
  exact RecordShape.eq_of_known_nodup distinct given mem port_known same

theorem WritesPort.read_of_takes (writes : WritesPort others written bytes)
    (takes : readPort.Takes written port) : read bytes = .ok { others with port := port } := by
  cases writes with
  | @object members _ _ _ distinct given said left_out spelled blank_before blank_after =>
    let settings : Configuration := { others with port := port }
    have recalls : ∀ member ∈ members, member.1 ∈ shape.names →
        shape.Recalls settings.partly member := by
      intro member mem known
      by_cases same : member.1 = "port"
      · rw [eq_port_of_name distinct given mem same]
        exact RecordShape.recalls_ofMember rfl (fun _ => rfl) (fun _ => by simp [partly]) takes
      · exact ((said member mem known same).with_port same port).recalls
    have port_known : "port" ∈ shape.known members :=
      List.mem_filter.mpr ⟨List.mem_map.mpr ⟨_, given, rfl⟩, by decide⟩
    have finished :
        shape.finish (settings.partly (shape.known members).reverse) = .ok settings := by
      rw [partly_reverse]
      change Except.ok _ = _
      rw [complete_partly_with_port port_known, left_out]
    exact readWhole_spelled (RecordShape.takes_object rfl recalls distinct finished) spelled
      blank_before blank_after

theorem WritesPort.read_of_refuses (writes : WritesPort others written bytes)
    (refuses : readPort.Refuses written) : ∃ fault, read bytes = .error fault := by
  cases writes with
  | @object members _ _ _ distinct given said _ spelled blank_before blank_after =>
    have port_refused : shape.Refuses ("port", written) :=
      RecordShape.refuses_ofMember rfl refuses
    have outcome : ∀ member ∈ members, member.1 ∈ shape.names →
        shape.Recalls others.partly member ∨ shape.Refuses member := by
      intro member mem known
      by_cases same : member.1 = "port"
      · rw [eq_port_of_name distinct given mem same]
        exact .inr port_refused
      · exact .inl (said member mem known same).recalls
    exact readWhole_refused
      (RecordShape.refuses_object rfl outcome ⟨_, given, port_refused⟩ distinct)
      spelled blank_before blank_after

structure ObjectFile (tree : FileTree) (directory : Path) (path : String) (bytes : List UInt8) :
    Prop where
  holds : tree.readAt directory path.toList = .ok bytes
  no_table : namesTable path = false

/-- What a file does to the port: it gives one along with the other settings, or it is rejected as a
whole. -/
inductive Gives (tree : FileTree) (directory : Path) (path : String) (others : Configuration) :
    Option UInt16 → Prop
  | port {port : UInt16}
      (loaded : loadFile tree directory path = .ok (some { others with port := port })) :
      Gives tree directory path others (some port)
  | rejected {cause : String}
      (refused : loadFile tree directory path = .error (.malformed path cause)) :
      Gives tree directory path others none

theorem ObjectFile.gives_of_answers (file : ObjectFile tree directory path bytes)
    (writes : WritesPort others written bytes) (answers : Answers written given) :
    Gives tree directory path others given := by
  obtain ⟨characters, decoded⟩ : ∃ characters, Text.Utf8.decode? bytes = some characters := by
    cases writes
    exact ⟨_, decode?_encode _⟩
  have present : tree.holdsAt directory path.toList = true := FileTree.holdsAt_of_readAt file.holds
  have loaded : loadFile tree directory path = (ofFileText path bytes).map some := by
    rw [loadFile, if_pos present, file.holds]
  rw [ofFileText, decoded, file.no_table] at loaded
  cases given with
  | some port =>
    rw [writes.read_of_takes answers] at loaded
    exact .port loaded
  | none =>
    obtain ⟨fault, read⟩ := writes.read_of_refuses answers
    rw [read] at loaded
    exact .rejected loaded

end Files

/-! The variable. -/

/-- A variable for the port sets it to what the text gives, and is as good as unset if it gives
none. -/
theorem override_of_sets {environment : Environment} {text : String}
    (set : environment.Sets "PORT" text) (base : Configuration) :
    base.override environment =
      override { base with port := (portOfText text).toOption.getD base.port }
        (environment.without "PORT") := by
  have others {name : String} (different : name ≠ "PORT") :
      (environment.without "PORT").text? name = environment.text? name :=
    environment.text?_without_of_ne "PORT" different
  simp only [override, Environment.nonempty?, Environment.sets_iff.mp set,
    environment.text?_without_self "PORT", others (show "SAXON_CLASSPATH" ≠ "PORT" by decide),
    others (show "JAVA_BIN" ≠ "PORT" by decide), others (show "XSLT_TIMEOUT_MS" ≠ "PORT" by decide),
    others (show "PLAYGROUND_PRO" ≠ "PORT" by decide)]
  cases portOfText text <;> rfl

/-- **The ways to give the port agree.** A text as the port of an object file and as the variable
for the port gives the number that it names, if that is at most 65535; otherwise the file is
rejected, and the variable changes nothing. A number as the port of an object file gives what its
numeral gives as a text: that number, or a rejected file. -/
theorem ways_to_give_the_port_agree (tree : FileTree) (directory : Path) (others : Configuration) :
    (∀ path bytes text environment, ObjectFile tree directory path bytes →
      WritesPort others (.text text) bytes → environment.Sets "PORT" text →
      ∃ given : Option UInt16,
        (∀ value, given.map UInt16.toNat = some value ↔ Text.Denotes text value ∧ value ≤ 65535) ∧
        Gives tree directory path others given ∧
        ∀ base : Configuration, base.override environment =
          override { base with port := given.getD base.port } (environment.without "PORT")) ∧
    ∀ path text_path bytes text_bytes number, ObjectFile tree directory path bytes →
      ObjectFile tree directory text_path text_bytes →
      WritesPort others (.natural number) bytes →
      WritesPort others (.text (String.ofList (Text.naturalText number))) text_bytes →
      ∃ given : Option UInt16,
        (∀ value, given.map UInt16.toNat = some value ↔ value = number ∧ value ≤ 65535) ∧
        Gives tree directory path others given ∧ Gives tree directory text_path others given := by
  constructor
  · intro path bytes text environment file writes set
    exact ⟨(portOfText text).toOption, fun _ => portOfText_names_iff,
      file.gives_of_answers writes (answers_text text), override_of_sets set⟩
  · intro path text_path bytes text_bytes number file text_file writes writes_text
    have names (value : Nat) :
        (portOfText (String.ofList (Text.naturalText number))).toOption.map UInt16.toNat =
          some value ↔ value = number ∧ value ≤ 65535 := by
      rw [portOfText_names_iff, Text.denotes_naturalText_iff]
    exact ⟨_, names, file.gives_of_answers writes (answers_natural names),
      text_file.gives_of_answers writes_text (answers_text _)⟩

/-- The greatest port between blanks, with a plus sign and a leading zero, and the next number both
as a number and as a text. -/
theorem ways_to_give_the_port_agree_at_its_limit :
    let others : Configuration := { Configuration.default with timeoutMilliseconds := 250 }
    let file (port : Value) : List UInt8 :=
      encode (Value.object
        [("timeout_ms", .natural 250), ("port", port), ("comment", .null)]).compact
    let text := "\u2003+065535\n"
    let environment : Environment := ⟨[("PORT", encode text.toList)]⟩
    let files := ((FileTree.empty.insert ["app.config"] (.file (file (.text text)))).insert
      ["number.json"] (.file (file (.natural 65536)))).insert
        ["text.json"] (.file (file (.text "65536")))
    loadFile files [] "app.config" = .ok (some { others with port := 65535 }) ∧
      (default.override environment).port = 65535 ∧
      (∃ cause, loadFile files [] "number.json" = .error (.malformed "number.json" cause)) ∧
      ∃ cause, loadFile files [] "text.json" = .error (.malformed "text.json" cause) := by
  intro others file text environment files
  have writes (port : Value) : WritesPort others port (file port) := by
    let members : List (String × Value) :=
      [("timeout_ms", .natural 250), ("port", port), ("comment", .null)]
    have known : shape.known members = ["timeout_ms", "port"] := rfl
    have said : ∀ member ∈ members, member.1 ∈ shape.names → member.1 ≠ "port" →
        others.Tells member := by
      intro member mem is_known different
      simp only [members, List.mem_cons, List.not_mem_nil, or_false] at mem
      rcases mem with rfl | rfl | rfl
      · exact ⟨_, .natural 250, rfl, by simp [others], rfl⟩
      · exact absurd rfl different
      · exact absurd is_known (by decide)
    have spelled := (written_compact (Value.object members)).spelled
    have writes := WritesPort.object (known ▸ (by decide : ["timeout_ms", "port"].Nodup))
      (show ("port", port) ∈ members by simp [members]) said (by rw [known]; rfl) spelled
      isGap_nil isGap_nil
    rwa [List.nil_append, List.append_nil] at writes
  have written_file : ObjectFile files [] "app.config" (file (.text text)) := ⟨rfl, by decide⟩
  have number_file : ObjectFile files [] "number.json" (file (.natural 65536)) := ⟨rfl, by decide⟩
  have text_file : ObjectFile files [] "text.json" (file (.text "65536")) := ⟨rfl, by decide⟩
  have set : environment.Sets "PORT" text := ⟨_, rfl, decode?_encode _⟩
  obtain ⟨agree, agree_numbers⟩ := ways_to_give_the_port_agree files [] others
  obtain ⟨given, names, gives, overrides⟩ := agree _ _ _ _ written_file (writes _) set
  obtain ⟨given_beyond, names_beyond, number_gives, text_gives⟩ :=
    agree_numbers _ _ _ _ 65536 number_file text_file (writes _) (writes _)
  have read : Text.readNatural Text.portLimit (Text.trim text.toList) = .ok 65535 := by
    decide +kernel
  have denotes : Text.Denotes text 65535 :=
    Text.denotes_iff.mpr (Text.readNatural_eq_ok_iff.mp read).1
  obtain ⟨port, rfl, same⟩ :=
    Option.map_eq_some_iff.mp ((names 65535).mpr ⟨denotes, Nat.le_refl _⟩)
  obtain rfl : port = 65535 := UInt16.toNat_inj.mp same
  obtain rfl : given_beyond = none := by
    cases given_beyond with
    | none => rfl
    | some port =>
      obtain ⟨same, small⟩ := (names_beyond port.toNat).mp rfl
      omega
  cases gives with
  | port loaded =>
    cases number_gives with
    | rejected refused =>
      cases text_gives with
      | rejected refused_text =>
        refine ⟨loaded, ?_, ⟨_, refused⟩, _, refused_text⟩
        rw [overrides]
        rfl

end Configuration

end StylesheetRunner
