import Mathlib.Data.List.Forall2
import Mathlib.Data.List.TakeWhile
import StylesheetRunner.Proofs.Json.Numbers
import StylesheetRunner.Proofs.Json.Spelling
import StylesheetRunner.TextMap

/-!
The bytes that stand for data, told without a reader. A form says which bytes stand for which data,
blanks around them left out. Lists and objects are rows of pieces with commas between them; a piece
of an object has a name and the bytes of a value, and what these say is another form. Values that
nobody asks for have the form of a value, but what stands between two quotes need not be a text, and
a number may be of any size.
-/

namespace StylesheetRunner.Json

open Text.Utf8

/-- Only bytes that may stand between two parts: spaces, line feeds, tabs and carriage returns. -/
def IsBlank (bytes : List UInt8) : Prop :=
  ∀ byte ∈ bytes, byte ∈ [0x20, 0x0A, 0x09, 0x0D]

/-- What stands before a piece of a row: blanks, and a comma among them unless it is the first. -/
inductive Leads : (first : Bool) → List UInt8 → Prop
  | opening {gap : List UInt8} (blank : IsBlank gap) : Leads true gap
  | comma {gap before : List UInt8} (blank : IsBlank gap) (blank_before : IsBlank before) :
      Leads false (gap ++ byteOf ',' :: before)

/-- The bytes of pieces with commas between them and blanks around each, from the beginning of the
row or from behind a piece. -/
inductive Row : (first : Bool) → List (List UInt8) → List UInt8 → Prop
  | nil {first : Bool} {gap : List UInt8} (blank : IsBlank gap) : Row first [] gap
  | cons {first : Bool} {lead piece body : List UInt8} {pieces : List (List UInt8)}
      (leads : Leads first lead) (later : Row false pieces body) :
      Row first (piece :: pieces) (lead ++ (piece ++ body))

/-- Which bytes stand for which data. -/
abbrev Form (α : Type) := List UInt8 → α → Prop

namespace Form
variable {α : Type}

def text : Form String := fun bytes text => ∃ quoted, Quoted text quoted ∧ bytes = encode quoted

def boolean : Form Bool := fun bytes flag =>
  bytes = encode (if flag then "true" else "false").toList

def optional (form : Form α) : Form (Option α) := fun bytes data? =>
  (data? = none ∧ bytes = encode "null".toList) ∨ ∃ data, data? = some data ∧ form bytes data

def list : Form (List (List UInt8)) := fun bytes pieces =>
  ∃ body, Row true pieces body ∧ bytes = byteOf '[' :: (body ++ [byteOf ']'])

/-- A piece of an object: a name of some form, and the bytes of a value. -/
inductive Member (name : Form α) : Form (α × List UInt8)
  | named {key : α} {named before behind value : List UInt8} (spelled : name named key)
      (blank_before : IsBlank before) (blank_behind : IsBlank behind) :
      Member name (named ++ (before ++ byteOf ':' :: (behind ++ value))) (key, value)

theorem Member.length_le {name : Form α} {piece : List UInt8} {member : α × List UInt8}
    (form : Member name piece member) : member.2.length ≤ piece.length := by
  cases form
  simp only [List.length_append, List.length_cons]
  omega

def object (name : Form α) : Form (List (α × List UInt8)) := fun bytes members =>
  ∃ pieces body, Row true pieces body ∧ List.Forall₂ (Member name) pieces members ∧
    bytes = byteOf '{' :: (body ++ [byteOf '}'])

/-- An object of texts. Of members with one name the last counts. -/
def textMap : Form TextMap := fun bytes map =>
  ∃ members entries, object text bytes members ∧
    List.Forall₂ (fun member entry => member.1 = entry.1 ∧ text member.2 entry.2) members entries ∧
    map = TextMap.ofList entries

/-- A text that holds the bytes of a form, perhaps between blanks, and nothing else. -/
def alone (form : Form α) : Form α := fun bytes data =>
  ∃ before own after, IsBlank before ∧ form own data ∧ IsBlank after ∧
    bytes = before ++ (own ++ after)

end Form

section Blanks
variable {gap bytes rest : List UInt8} {byte : UInt8}

theorem isBlank_nil : IsBlank [] := nofun

theorem isBlank_append (first : IsBlank gap) (second : IsBlank bytes) : IsBlank (gap ++ bytes) := by
  intro byte member
  exact (List.mem_append.mp member).elim (first byte) (second byte)

theorem isBlankByte_iff : isBlankByte byte = true ↔ byte ∈ [0x20, 0x0A, 0x09, 0x0D] := by
  have same : [byteOf ' ', byteOf '\n', byteOf '\t', byteOf '\r'] = [0x20, 0x0A, 0x09, 0x0D] := by
    decide
  rw [← same]
  simp [isBlankByte, or_assoc]

theorem skipBlanks_of_isBlank (blank : IsBlank gap) (bytes : List UInt8) :
    skipBlanks (gap ++ bytes) = skipBlanks bytes :=
  List.dropWhile_append_of_pos fun byte member => isBlankByte_iff.mpr (blank byte member)

theorem exists_isBlank_of_skipBlanks (left : skipBlanks bytes = rest) :
    ∃ gap, IsBlank gap ∧ bytes = gap ++ rest := by
  refine ⟨bytes.takeWhile isBlankByte, fun byte member => ?_, ?_⟩
  · exact isBlankByte_iff.mp (List.mem_takeWhile_imp member)
  · rw [← left]
    exact List.takeWhile_append_dropWhile.symm

end Blanks

/-! Values that nobody asks for. -/

/-- What stands between the quotes of a text that nobody reads. Of an escape the form counts. -/
inductive PassableText : List UInt8 → Prop
  | nil : PassableText []
  | plain {byte : UInt8} {rest : List UInt8} (stands : StandsInText byte)
      (later : PassableText rest) : PassableText (byte :: rest)
  | letter {byte : UInt8} {rest : List UInt8} (known : (simpleEscape? byte).isSome = true)
      (later : PassableText rest) : PassableText (byteOf '\\' :: byte :: rest)
  | number {a b c d : UInt8} {rest : List UInt8}
      (digits : ∀ digit ∈ [a, b, c, d], (hexDigit? digit).isSome = true)
      (later : PassableText rest) :
      PassableText (byteOf '\\' :: byteOf 'u' :: a :: b :: c :: d :: rest)

def PassableName : Form Unit := fun bytes _ =>
  ∃ inside, PassableText inside ∧ bytes = byteOf '"' :: (inside ++ [byteOf '"'])

def IsDigits (bytes : List UInt8) : Prop :=
  bytes ≠ [] ∧ ∀ byte ∈ bytes, isDigitByte byte = true

/-- The digits of a whole number, which begins with a zero only if that is all of it. -/
inductive IsWhole : List UInt8 → Prop
  | zero : IsWhole [byteOf '0']
  | other {first : UInt8} {rest : List UInt8} (digit : isDigitByte first = true)
      (no_zero : first ≠ byteOf '0') (digits : ∀ byte ∈ rest, isDigitByte byte = true) :
      IsWhole (first :: rest)

inductive IsDecimals : List UInt8 → Prop
  | none : IsDecimals []
  | point {digits : List UInt8} (some_digits : IsDigits digits) :
      IsDecimals (byteOf '.' :: digits)

inductive IsPower : List UInt8 → Prop
  | none : IsPower []
  | power {letter : UInt8} {sign digits : List UInt8}
      (e : letter = byteOf 'e' ∨ letter = byteOf 'E')
      (signed : sign ∈ [[], [byteOf '+'], [byteOf '-']]) (some_digits : IsDigits digits) :
      IsPower (letter :: (sign ++ digits))

inductive IsNumber : List UInt8 → Prop
  | number {whole decimals power : List UInt8} (is_whole : IsWhole whole)
      (is_decimals : IsDecimals decimals) (is_power : IsPower power) :
      IsNumber (whole ++ (decimals ++ power))

/-- A value that may be passed over. -/
inductive Passable : List UInt8 → Prop
  | null : Passable (encode "null".toList)
  | boolean (flag : Bool) : Passable (encode (if flag then "true" else "false").toList)
  | number {bytes : List UInt8} (unsigned : IsNumber bytes) : Passable bytes
  | negative {bytes : List UInt8} (unsigned : IsNumber bytes) : Passable (byteOf '-' :: bytes)
  | text {bytes : List UInt8} (named : PassableName bytes ()) : Passable bytes
  | list {bytes : List UInt8} {pieces : List (List UInt8)} (split : Form.list bytes pieces)
      (each : ∀ piece ∈ pieces, Passable piece) : Passable bytes
  | object {bytes : List UInt8} {members : List (Unit × List UInt8)}
      (split : Form.object PassableName bytes members)
      (each : ∀ member ∈ members, Passable member.2) : Passable bytes

/-- A record, as its members: an object in which each name of the record stands once at most, and in
which others may be passed over, or a list of the values of the first members in order. -/
inductive Form.record (names : List String) : Form (List (String × List UInt8))
  | object {bytes : List UInt8} {members : List (String × List UInt8)}
      (split : Form.object .text bytes members)
      (once : ((members.map Prod.fst).filter (· ∈ names)).Nodup)
      (others : ∀ member ∈ members, member.1 ∉ names → Passable member.2) :
      Form.record names bytes members
  | list {bytes : List UInt8} {pieces : List (List UInt8)} (split : Form.list bytes pieces)
      (few : pieces.length ≤ names.length) : Form.record names bytes (names.zip pieces)

/-- What members say of a name: what the value of the member with that name stands for, or, if there
is none, what stands for a missing one. -/
inductive Given {α : Type} (members : List (String × List UInt8)) (name : String) (form : Form α)
    (missing : α) : α → Prop
  | value {value : List UInt8} {data : α} (member : (name, value) ∈ members)
      (here : form value data) : Given members name form missing data
  | missing (absent : name ∉ members.map Prod.fst) : Given members name form missing missing

/-! What a reader meets at the front of a row, and behind its pieces. -/

section Rows
variable {gap body value bytes rest : List UInt8} {pieces : List (List UInt8)} {byte : UInt8}

structure OpensValue (byte : UInt8) : Prop where
  shown : isBlankByte byte = false
  no_bracket : byte ≠ byteOf ']'

def Opened (bytes : List UInt8) : Prop :=
  ∃ byte rest, bytes = byte :: rest ∧ OpensValue byte

theorem Opened.length_pos (opened : Opened bytes) : 0 < bytes.length := by
  obtain ⟨byte, rest, rfl, -⟩ := opened
  exact Nat.zero_lt_succ _

theorem opensValue_of_isDigitByte (digit : isDigitByte byte = true) : OpensValue byte := by
  refine ⟨?_, ne_of_isDigitByte digit (by decide)⟩
  have apart {character : Char} (no_digit : isDigitByte (byteOf character) = false) :
      decide (byte = byteOf character) = false :=
    decide_eq_false (ne_of_isDigitByte digit no_digit)
  simp only [isBlankByte, Bool.or_eq_false_iff]
  exact ⟨⟨⟨apart (by decide), apart (by decide)⟩, apart (by decide)⟩, apart (by decide)⟩

theorem IsNumber.opens (is_number : IsNumber bytes) :
    ∃ byte rest, bytes = byte :: rest ∧ isDigitByte byte = true := by
  obtain ⟨is_whole, -, -⟩ := is_number
  cases is_whole with
  | zero => exact ⟨byteOf '0', _, rfl, by decide⟩
  | other digit _ _ => exact ⟨_, _, rfl, digit⟩

theorem Passable.opens (passable : Passable value) : Opened value := by
  cases passable with
  | null => exact ⟨byteOf 'n', _, rfl, by decide, by decide⟩
  | boolean flag =>
    cases flag with
    | false => exact ⟨byteOf 'f', _, rfl, by decide, by decide⟩
    | true => exact ⟨byteOf 't', _, rfl, by decide, by decide⟩
  | number unsigned =>
    obtain ⟨byte, rest, rfl, digit⟩ := unsigned.opens
    exact ⟨byte, rest, rfl, opensValue_of_isDigitByte digit⟩
  | negative unsigned => exact ⟨byteOf '-', _, rfl, by decide, by decide⟩
  | text named =>
    obtain ⟨inside, -, rfl⟩ := named
    exact ⟨byteOf '"', _, rfl, by decide, by decide⟩
  | list split _ =>
    obtain ⟨body, -, rfl⟩ := split
    exact ⟨byteOf '[', _, rfl, by decide, by decide⟩
  | object split _ =>
    obtain ⟨_, body, -, -, rfl⟩ := split
    exact ⟨byteOf '{', _, rfl, by decide, by decide⟩

theorem skipBlanks_of_shown (shown : isBlankByte byte = false) (bytes : List UInt8) :
    skipBlanks (byte :: bytes) = byte :: bytes :=
  List.dropWhile_cons_of_neg (by simp [shown])

theorem skipBlanks_shown (blank : IsBlank gap) (shown : isBlankByte byte = false)
    (bytes : List UInt8) : skipBlanks (gap ++ byte :: bytes) = byte :: bytes := by
  rw [skipBlanks_of_isBlank blank, skipBlanks_of_shown shown]

theorem endsValue_nil : EndsValue [] := nofun

theorem endsValue_cons (bytes : List UInt8)
    (closes : byte = byteOf ',' ∨ byte = byteOf ']' ∨ byte = byteOf '}') :
    EndsValue (byte :: bytes) := by
  rintro first ⟨⟩
  exact .inr closes

theorem EndsValue.behind_blank (ends : EndsValue rest) (blank : IsBlank gap) :
    EndsValue (gap ++ rest) := by
  cases gap with
  | nil => exact ends
  | cons first others =>
    rintro byte ⟨⟩
    exact .inl (isBlankByte_iff.mpr (blank first List.mem_cons_self))

theorem Row.endsValue (row : Row false pieces body)
    (closes : byte = byteOf ',' ∨ byte = byteOf ']' ∨ byte = byteOf '}') (rest : List UInt8) :
    EndsValue (body ++ byte :: rest) := by
  cases row with
  | nil blank => exact (endsValue_cons rest closes).behind_blank blank
  | cons leads _ =>
    cases leads with
    | comma blank _ =>
      rw [List.append_assoc, List.append_assoc]
      exact (endsValue_cons _ (.inl rfl)).behind_blank blank

theorem Row.behind_comma {piece : List UInt8} (blank : IsBlank gap)
    (row : Row true (piece :: pieces) body) :
    Row false (piece :: pieces) (gap ++ byteOf ',' :: body) := by
  cases row with
  | cons leads later =>
    cases leads with
    | opening blank_before =>
      rw [← List.cons_append, ← List.append_assoc]
      exact .cons (.comma blank blank_before) later

theorem Row.before_blank {first : Bool} (row : Row first pieces body) (blank : IsBlank gap) :
    Row first pieces (body ++ gap) := by
  induction row with
  | nil blank_body => exact .nil (isBlank_append blank_body blank)
  | cons leads _ ih =>
    rw [List.append_assoc, List.append_assoc]
    exact .cons leads ih

theorem Row.length_le {first : Bool} (row : Row first pieces body)
    (positive : ∀ piece ∈ pieces, 0 < piece.length) : pieces.length ≤ body.length := by
  induction row with
  | nil => exact Nat.zero_le _
  | cons _ _ ih =>
    obtain ⟨here, later⟩ := List.forall_mem_cons.mp positive
    have fewer := ih later
    simp only [List.length_append, List.length_cons]
    omega

theorem Leads.before_blank {first : Bool} {lead : List UInt8} (leads : Leads first lead)
    (blank : IsBlank gap) : Leads first (lead ++ gap) := by
  cases leads with
  | opening blank_front => exact .opening (isBlank_append blank_front blank)
  | comma blank_front blank_before =>
    rw [List.append_assoc, List.cons_append]
    exact .comma blank_front (isBlank_append blank_before blank)

theorem Form.Member.length_pos {α : Type} {name : Form α} {piece : List UInt8}
    {member : α × List UInt8} (form : Form.Member name piece member) : 0 < piece.length := by
  cases form
  simp only [List.length_append, List.length_cons]
  omega

end Rows

end StylesheetRunner.Json
