import StylesheetRunner.Text.Utf8

/-!
Reading undoes writing: the bytes of a text, read as UTF-8, give that text and leave no gap. The
reader is followed through the bytes of one character at a time, in the four lengths they come in.
-/

namespace StylesheetRunner.Text.Utf8

namespace Decoder

theorem step_last {gathered least greatest : Nat} {byte : UInt8} (pieces : List (Option Char))
    (inRange : least ≤ byte.toNat ∧ byte.toNat ≤ greatest) :
    step ⟨some ⟨1, gathered, least, greatest⟩, pieces⟩ byte =
      ⟨none, some (Char.ofNat (gathered * 0x40 + (byte.toNat - 0x80))) :: pieces⟩ := by
  simp only [step, if_pos inRange, Nat.le_refl, if_true]

theorem step_more {owed gathered least greatest : Nat} {byte : UInt8}
    (pieces : List (Option Char)) (inRange : least ≤ byte.toNat ∧ byte.toNat ≤ greatest) :
    step ⟨some ⟨owed + 2, gathered, least, greatest⟩, pieces⟩ byte =
      ⟨some ⟨owed + 1, gathered * 0x40 + (byte.toNat - 0x80), 0x80, 0xBF⟩, pieces⟩ := by
  have another : ¬ owed + 2 ≤ 1 := by omega
  simp only [step, if_pos inRange, if_neg another]
  rfl

theorem begin_two {byte : Nat} (pieces : List (Option Char))
    (first : 0xC2 ≤ byte ∧ byte ≤ 0xDF) :
    begin ⟨none, pieces⟩ byte = ⟨some ⟨1, byte - 0xC0, 0x80, 0xBF⟩, pieces⟩ := by
  have long : ¬ byte < 0x80 := by omega
  simp only [begin, if_neg long, if_pos first]

def leastAfterThree (byte : Nat) : Nat := if byte = 0xE0 then 0xA0 else 0x80

def greatestAfterThree (byte : Nat) : Nat := if byte = 0xED then 0x9F else 0xBF

theorem begin_three {byte : Nat} (pieces : List (Option Char))
    (first : 0xE0 ≤ byte ∧ byte ≤ 0xEF) :
    begin ⟨none, pieces⟩ byte =
      ⟨some ⟨2, byte - 0xE0, leastAfterThree byte, greatestAfterThree byte⟩, pieces⟩ := by
  have long : ¬ byte < 0x80 := by omega
  have longer : ¬ (0xC2 ≤ byte ∧ byte ≤ 0xDF) := by omega
  unfold begin leastAfterThree greatestAfterThree
  rw [if_neg long, if_neg longer]
  by_cases lowest : byte = 0xE0
  · subst lowest
    rfl
  · by_cases surrogates : byte = 0xED
    · subst surrogates
      rfl
    · have ordinary : 0xE1 ≤ byte ∧ byte ≤ 0xEF := by omega
      simp only [if_neg lowest, if_neg surrogates, if_pos ordinary]

def leastAfterFour (byte : Nat) : Nat := if byte = 0xF0 then 0x90 else 0x80

def greatestAfterFour (byte : Nat) : Nat := if byte = 0xF4 then 0x8F else 0xBF

theorem begin_four {byte : Nat} (pieces : List (Option Char))
    (first : 0xF0 ≤ byte ∧ byte ≤ 0xF4) :
    begin ⟨none, pieces⟩ byte =
      ⟨some ⟨3, byte - 0xF0, leastAfterFour byte, greatestAfterFour byte⟩, pieces⟩ := by
  have long : ¬ byte < 0x80 := by omega
  have longer : ¬ (0xC2 ≤ byte ∧ byte ≤ 0xDF) := by omega
  have longest : ¬ (0xE1 ≤ byte ∧ byte ≤ 0xEF) := by omega
  have notLowest : byte ≠ 0xE0 := by omega
  have notSurrogates : byte ≠ 0xED := by omega
  unfold begin leastAfterFour greatestAfterFour
  rw [if_neg long, if_neg longer, if_neg notLowest, if_neg notSurrogates, if_neg longest]
  by_cases lowest : byte = 0xF0
  · subst lowest
    rfl
  · by_cases highest : byte = 0xF4
    · subst highest
      rfl
    · have ordinary : 0xF1 ≤ byte ∧ byte ≤ 0xF3 := by omega
      simp only [if_neg lowest, if_neg highest, if_pos ordinary]

end Decoder

private theorem toNat_byte {value : Nat} (small : value < 0x100) :
    (UInt8.ofNat value).toNat = value := by
  simpa using small

theorem toNat_bounds (character : Char) :
    character.toNat < 0xD800 ∨ 0xDFFF < character.toNat ∧ character.toNat < 0x110000 :=
  character.valid

section Lengths
open Decoder
variable {point : Nat} (pieces : List (Option Char))

theorem foldl_step_one (small : point < 0x80) :
    [UInt8.ofNat point].foldl step ⟨none, pieces⟩ =
      ⟨none, some (Char.ofNat point) :: pieces⟩ := by
  change begin ⟨none, pieces⟩ (UInt8.ofNat point).toNat = _
  rw [toNat_byte (by omega)]
  simp only [begin, if_pos small]

theorem foldl_step_two (least : 0x80 ≤ point) (small : point < 0x800) :
    [UInt8.ofNat (0xC0 + point / 0x40), UInt8.ofNat (0x80 + point % 0x40)].foldl step
        ⟨none, pieces⟩ =
      ⟨none, some (Char.ofNat point) :: pieces⟩ := by
  have first := toNat_byte (show 0xC0 + point / 0x40 < 0x100 by omega)
  have second := toNat_byte (show 0x80 + point % 0x40 < 0x100 by omega)
  have whole : (0xC0 + point / 0x40 - 0xC0) * 0x40 + (0x80 + point % 0x40 - 0x80) = point := by
    omega
  change step (begin ⟨none, pieces⟩ (UInt8.ofNat _).toNat) _ = _
  rw [first, begin_two _ (by omega), step_last _ (by omega), second, whole]

theorem foldl_step_three (least : 0x800 ≤ point) (small : point < 0x10000)
    (noSurrogate : point < 0xD800 ∨ 0xDFFF < point) :
    [UInt8.ofNat (0xE0 + point / 0x1000), UInt8.ofNat (0x80 + point / 0x40 % 0x40),
        UInt8.ofNat (0x80 + point % 0x40)].foldl step ⟨none, pieces⟩ =
      ⟨none, some (Char.ofNat point) :: pieces⟩ := by
  have first := toNat_byte (show 0xE0 + point / 0x1000 < 0x100 by omega)
  have second := toNat_byte (show 0x80 + point / 0x40 % 0x40 < 0x100 by omega)
  have third := toNat_byte (show 0x80 + point % 0x40 < 0x100 by omega)
  -- The narrowed second byte keeps out what two bytes can say and the surrogates.
  have inRange : leastAfterThree (0xE0 + point / 0x1000) ≤ 0x80 + point / 0x40 % 0x40 ∧
      0x80 + point / 0x40 % 0x40 ≤ greatestAfterThree (0xE0 + point / 0x1000) := by
    unfold leastAfterThree greatestAfterThree
    constructor <;> split <;> omega
  have whole : ((0xE0 + point / 0x1000 - 0xE0) * 0x40 + (0x80 + point / 0x40 % 0x40 - 0x80)) *
      0x40 + (0x80 + point % 0x40 - 0x80) = point := by
    omega
  change step (step (begin ⟨none, pieces⟩ (UInt8.ofNat _).toNat) _) _ = _
  rw [first, begin_three _ (by omega), step_more _ (by rw [second]; exact inRange),
    step_last _ (by omega), second, third, whole]

theorem foldl_step_four (least : 0x10000 ≤ point) (small : point < 0x110000) :
    [UInt8.ofNat (0xF0 + point / 0x40000), UInt8.ofNat (0x80 + point / 0x1000 % 0x40),
        UInt8.ofNat (0x80 + point / 0x40 % 0x40), UInt8.ofNat (0x80 + point % 0x40)].foldl step
        ⟨none, pieces⟩ =
      ⟨none, some (Char.ofNat point) :: pieces⟩ := by
  have first := toNat_byte (show 0xF0 + point / 0x40000 < 0x100 by omega)
  have second := toNat_byte (show 0x80 + point / 0x1000 % 0x40 < 0x100 by omega)
  have third := toNat_byte (show 0x80 + point / 0x40 % 0x40 < 0x100 by omega)
  have fourth := toNat_byte (show 0x80 + point % 0x40 < 0x100 by omega)
  -- The narrowed second byte keeps out what three bytes can say and what lies too far.
  have inRange : leastAfterFour (0xF0 + point / 0x40000) ≤ 0x80 + point / 0x1000 % 0x40 ∧
      0x80 + point / 0x1000 % 0x40 ≤ greatestAfterFour (0xF0 + point / 0x40000) := by
    unfold leastAfterFour greatestAfterFour
    constructor <;> split <;> omega
  have whole : (((0xF0 + point / 0x40000 - 0xF0) * 0x40 +
      (0x80 + point / 0x1000 % 0x40 - 0x80)) * 0x40 + (0x80 + point / 0x40 % 0x40 - 0x80)) *
      0x40 + (0x80 + point % 0x40 - 0x80) = point := by
    omega
  change step (step (step (begin ⟨none, pieces⟩ (UInt8.ofNat _).toNat) _) _) _ = _
  rw [first, begin_four _ (by omega), step_more _ (by rw [second]; exact inRange),
    step_more _ (by omega), step_last _ (by omega), second, third, fourth, whole]

/-- The bytes of a character, read between two characters, add that character and nothing else. -/
theorem foldl_step_encodeCharacter (character : Char) :
    (encodeCharacter character).foldl step ⟨none, pieces⟩ =
      ⟨none, some character :: pieces⟩ := by
  have bounds := toNat_bounds character
  have back : Char.ofNat character.toNat = character := Char.ofNat_toNat character
  unfold encodeCharacter
  generalize character.toNat = point at bounds back ⊢
  rw [← back]
  simp only
  split
  next one => exact foldl_step_one pieces one
  next notOne =>
  split
  next two => exact foldl_step_two pieces (Nat.le_of_not_lt notOne) two
  next notTwo =>
  split
  next three =>
    exact foldl_step_three pieces (Nat.le_of_not_lt notTwo) three (bounds.imp_right And.left)
  next notThree => exact foldl_step_four pieces (Nat.le_of_not_lt notThree) (by omega)

end Lengths

theorem foldl_step_encode (text : List Char) (pieces : List (Option Char)) :
    (encode text).foldl Decoder.step ⟨none, pieces⟩ =
      ⟨none, (text.map some).reverse ++ pieces⟩ := by
  unfold encode
  induction text generalizing pieces with
  | nil => rfl
  | cons character rest ih =>
    rw [List.flatMap_cons, List.foldl_append, foldl_step_encodeCharacter, ih]
    simp only [List.map_cons, List.reverse_cons, List.append_assoc, List.singleton_append]

theorem pieces_encode (text : List Char) : pieces (encode text) = text.map some := by
  unfold pieces Decoder.start
  rw [foldl_step_encode]
  simp only [Decoder.finish, List.append_nil, List.reverse_reverse]

theorem decode?_encode (text : List Char) : decode? (encode text) = some text := by
  unfold decode?
  rw [pieces_encode]
  induction text with
  | nil => rfl
  | cons character rest ih => simp_all

/-! The bytes of a text, piece by piece. -/

theorem encode_append (first second : List Char) :
    encode (first ++ second) = encode first ++ encode second :=
  List.flatMap_append

theorem encode_cons (character : Char) (text : List Char) :
    encode (character :: text) = encodeCharacter character ++ encode text :=
  List.flatMap_cons

theorem encode_singleton (character : Char) : encode [character] = encodeCharacter character :=
  List.flatMap_singleton encodeCharacter character

theorem encodeCharacter_of_ascii {character : Char} (ascii : character.toNat < 0x80) :
    encodeCharacter character = [character.toUInt8] := by
  simp only [encodeCharacter, if_pos ascii]
  rfl

theorem encode_cons_of_ascii {character : Char} (ascii : character.toNat < 0x80)
    (text : List Char) : encode (character :: text) = character.toUInt8 :: encode text := by
  rw [encode_cons, encodeCharacter_of_ascii ascii, List.singleton_append]

theorem encode_of_ascii {text : List Char} (ascii : ∀ character ∈ text, character.toNat < 0x80) :
    encode text = text.map Char.toUInt8 := by
  induction text with
  | nil => rfl
  | cons character text ih =>
    obtain ⟨here, later⟩ := List.forall_mem_cons.mp ascii
    rw [encode_cons_of_ascii here, ih later, List.map_cons]

theorem toNat_toUInt8_of_ascii {character : Char} (ascii : character.toNat < 0x80) :
    character.toUInt8.toNat = character.toNat := by
  change character.toNat % 256 = character.toNat
  exact Nat.mod_eq_of_lt (by omega)

theorem le_toNat_of_mem_encodeCharacter {character : Char} (wide : 0x80 ≤ character.toNat)
    {byte : UInt8} (member : byte ∈ encodeCharacter character) : 0x80 ≤ byte.toNat := by
  have bounds := toNat_bounds character
  have large {value : Nat} (least : 0x80 ≤ value) (small : value < 0x100) :
      0x80 ≤ (UInt8.ofNat value).toNat := by
    rw [toNat_byte small]
    exact least
  unfold encodeCharacter at member
  generalize character.toNat = point at wide bounds member
  simp only at member
  split at member
  next one => omega
  next =>
  split at member
  next two =>
    simp only [List.mem_cons, List.not_mem_nil, or_false] at member
    rcases member with rfl | rfl
    all_goals exact large (by omega) (by omega)
  next =>
  split at member
  next three =>
    simp only [List.mem_cons, List.not_mem_nil, or_false] at member
    rcases member with rfl | rfl | rfl
    all_goals exact large (by omega) (by omega)
  next =>
    simp only [List.mem_cons, List.not_mem_nil, or_false] at member
    rcases member with rfl | rfl | rfl | rfl
    all_goals exact large (by omega) (by omega)

theorem encodeCharacter_ne_nil (character : Char) : encodeCharacter character ≠ [] := by
  unfold encodeCharacter
  simp only
  split
  · exact List.cons_ne_nil _ _
  · split
    · exact List.cons_ne_nil _ _
    · split <;> exact List.cons_ne_nil _ _

end StylesheetRunner.Text.Utf8
