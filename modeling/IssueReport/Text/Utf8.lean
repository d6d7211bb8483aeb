/-!
UTF-8. Texts are written by the encoder of the core library and read back by its checked decoder;
`decodeLossy` is the forgiving reader for document sources and for what programs print, in which
each ill-formed stretch of bytes becomes one replacement character.
-/

namespace IssueReport.Text

def utf8 (text : String) : List UInt8 :=
  text.toUTF8.data.toList

def decode? (bytes : List UInt8) : Option String :=
  String.fromUTF8? ⟨bytes.toArray⟩

/-! ### Reading that never fails -/

/-- What a character begun by a lead byte still needs: the bits gathered so far, the number of
bytes to come, and the range of the next one. -/
structure Unfinished where
  bits : Nat
  missing : Nat
  low : UInt8
  high : UInt8

inductive Lead where
  | whole (character : Char)
  | opens (unfinished : Unfinished)
  | illFormed

/-- The ranges of the second byte leave out overlong forms, surrogates and code points above the
last one. -/
def Lead.ofByte (byte : UInt8) : Lead :=
  let value := byte.toNat
  if value < 0x80 then .whole (Char.ofNat value)
  else if value < 0xC2 then .illFormed
  else if value < 0xE0 then .opens ⟨value - 0xC0, 1, 0x80, 0xBF⟩
  else if value = 0xE0 then .opens ⟨0, 2, 0xA0, 0xBF⟩
  else if value = 0xED then .opens ⟨0xD, 2, 0x80, 0x9F⟩
  else if value < 0xF0 then .opens ⟨value - 0xE0, 2, 0x80, 0xBF⟩
  else if value = 0xF0 then .opens ⟨0, 3, 0x90, 0xBF⟩
  else if value < 0xF4 then .opens ⟨value - 0xF0, 3, 0x80, 0xBF⟩
  else if value = 0xF4 then .opens ⟨4, 3, 0x80, 0x8F⟩
  else .illFormed

def replacement : Char := '\uFFFD'

/-- The characters of a byte sequence after an unfinished character. A byte that cannot continue
it ends the ill-formed stretch and is read again as a start. -/
def decodeAfter : Option Unfinished → List UInt8 → List Char
  | none, [] => []
  | some _, [] => [replacement]
  | none, byte :: rest => start byte rest
  | some unfinished, byte :: rest =>
      if unfinished.low ≤ byte ∧ byte ≤ unfinished.high then
        let bits := unfinished.bits * 64 + (byte.toNat - 0x80)
        match unfinished.missing with
        | missing + 2 => decodeAfter (some ⟨bits, missing + 1, 0x80, 0xBF⟩) rest
        | _ => Char.ofNat bits :: decodeAfter none rest
      else
        replacement :: start byte rest
where
  start (byte : UInt8) (rest : List UInt8) : List Char :=
    match Lead.ofByte byte with
    | .whole character => character :: decodeAfter none rest
    | .opens unfinished => decodeAfter (some unfinished) rest
    | .illFormed => replacement :: decodeAfter none rest

def decodeLossy (bytes : List UInt8) : String :=
  String.ofList (decodeAfter none bytes)

end IssueReport.Text
