/-!
Characters as bytes and back. Reading is a machine that takes one byte at a time, so a stream may
be cut anywhere; each maximal ill-formed part yields one gap, which lenient reading shows as the
replacement character and strict reading refuses.
-/

namespace StylesheetRunner.Text.Utf8

def encodeCharacter (character : Char) : List UInt8 :=
  let point := character.toNat
  if point < 0x80 then [UInt8.ofNat point]
  else if point < 0x800 then
    [UInt8.ofNat (0xC0 + point / 0x40), UInt8.ofNat (0x80 + point % 0x40)]
  else if point < 0x10000 then
    [UInt8.ofNat (0xE0 + point / 0x1000), UInt8.ofNat (0x80 + point / 0x40 % 0x40),
      UInt8.ofNat (0x80 + point % 0x40)]
  else
    [UInt8.ofNat (0xF0 + point / 0x40000), UInt8.ofNat (0x80 + point / 0x1000 % 0x40),
      UInt8.ofNat (0x80 + point / 0x40 % 0x40), UInt8.ofNat (0x80 + point % 0x40)]

def encode (text : List Char) : List UInt8 :=
  text.flatMap encodeCharacter

/-- What a reader still owes: continuation bytes, the bits gathered so far, and the range in which
the next continuation byte must lie. -/
structure Pending where
  owed : Nat
  gathered : Nat
  least : Nat
  greatest : Nat
deriving DecidableEq, Repr

/-- A reader between two bytes. The pieces read are held newest first; `none` is a gap. -/
structure Decoder where
  pending : Option Pending
  pieces : List (Option Char)
deriving DecidableEq, Repr

namespace Decoder

def start : Decoder := ⟨none, []⟩

def begin (decoder : Decoder) (byte : Nat) : Decoder :=
  if byte < 0x80 then ⟨none, some (Char.ofNat byte) :: decoder.pieces⟩
  else if 0xC2 ≤ byte ∧ byte ≤ 0xDF then ⟨some ⟨1, byte - 0xC0, 0x80, 0xBF⟩, decoder.pieces⟩
  else if byte = 0xE0 then ⟨some ⟨2, 0, 0xA0, 0xBF⟩, decoder.pieces⟩
  else if byte = 0xED then ⟨some ⟨2, 0xD, 0x80, 0x9F⟩, decoder.pieces⟩
  else if 0xE1 ≤ byte ∧ byte ≤ 0xEF then ⟨some ⟨2, byte - 0xE0, 0x80, 0xBF⟩, decoder.pieces⟩
  else if byte = 0xF0 then ⟨some ⟨3, 0, 0x90, 0xBF⟩, decoder.pieces⟩
  else if byte = 0xF4 then ⟨some ⟨3, 4, 0x80, 0x8F⟩, decoder.pieces⟩
  else if 0xF1 ≤ byte ∧ byte ≤ 0xF3 then ⟨some ⟨3, byte - 0xF0, 0x80, 0xBF⟩, decoder.pieces⟩
  else ⟨none, none :: decoder.pieces⟩

/-- The reader after one more byte. A byte that cannot continue the character at hand leaves a gap
and is read again as a first byte. -/
def step (decoder : Decoder) (byte : UInt8) : Decoder :=
  match decoder.pending with
  | none => decoder.begin byte.toNat
  | some pending =>
    if pending.least ≤ byte.toNat ∧ byte.toNat ≤ pending.greatest then
      let gathered := pending.gathered * 0x40 + (byte.toNat - 0x80)
      if pending.owed ≤ 1 then ⟨none, some (Char.ofNat gathered) :: decoder.pieces⟩
      else ⟨some ⟨pending.owed - 1, gathered, 0x80, 0xBF⟩, decoder.pieces⟩
    else begin ⟨none, none :: decoder.pieces⟩ byte.toNat

def finish (decoder : Decoder) : List (Option Char) :=
  match decoder.pending with
  | none => decoder.pieces.reverse
  | some _ => (none :: decoder.pieces).reverse

end Decoder

def pieces (bytes : List UInt8) : List (Option Char) :=
  (bytes.foldl Decoder.step Decoder.start).finish

def replacement : Char := '\uFFFD'

def decodeLossy (bytes : List UInt8) : List Char :=
  (pieces bytes).map fun piece => piece.getD replacement

def decode? (bytes : List UInt8) : Option (List Char) :=
  (pieces bytes).mapM id

def wellFormedLength (bytes : List UInt8) : Nat :=
  (encode ((pieces bytes).takeWhile Option.isSome).reduceOption).length

end StylesheetRunner.Text.Utf8
