import IssueReport.Json.Byte
import IssueReport.Text.Utf8
import IssueReport.Json.ReadError
/-!
Reading JSON from left to right. A reader takes the bytes that are left and gives a result with the
bytes after it, or the first fault. This module holds readers for words, strings and the marks
between the parts of arrays and objects.
-/

namespace IssueReport.Json

abbrev Input := List UInt8

abbrev Reader (Reason Result : Type) := Input → Except (ReadError Reason) (Result × Input)

variable {Reason Result Next : Type}

def Reader.pure (result : Result) : Reader Reason Result :=
  fun input => .ok (result, input)

def Reader.fail (fault : Mismatch) : Reader Reason Result :=
  fun _ => .error (.mismatch fault)

def Reader.andThen (reader : Reader Reason Result) (next : Result → Reader Reason Next) :
    Reader Reason Next :=
  fun input =>
    match reader input with
    | .ok (result, rest) => next result rest
    | .error fault => .error fault

def Reader.map (reader : Reader Reason Result) (change : Result → Next) : Reader Reason Next :=
  reader.andThen fun result => Reader.pure (change result)

instance : Monad (Reader Reason) where
  pure := Reader.pure
  bind := Reader.andThen

def skipBlanks (input : Input) : Input :=
  input.dropWhile Byte.isBlank

def Reader.look (next : UInt8 → Input → Reader Reason Result) : Reader Reason Result :=
  fun input =>
    match skipBlanks input with
    | [] => .error .ended
    | byte :: rest => next byte rest (byte :: rest)

def word : List Char → Reader Reason Unit
  | [], input => .ok ((), input)
  | _ :: _, [] => .error .ended
  | letter :: letters, byte :: rest =>
      if byte.toNat = letter.toNat then word letters rest else .error .malformed

def wordNull : Reader Reason Unit := word ['u', 'l', 'l']
def wordTrue : Reader Reason Unit := word ['r', 'u', 'e']
def wordFalse : Reader Reason Unit := word ['a', 'l', 's', 'e']

/-! ### Strings -/

/-- Where in a string the reader stands: in plain text, after a backslash, in the four digits of an
escape (which may be the second half of a pair begun by a high surrogate), or between the halves. -/
inductive StringState where
  | plain
  | escape
  | digits (high : Option Nat) (seen : List UInt8)
  | pairBackslash (high : Nat)
  | pairLetter (high : Nat)

def shortEscape? : UInt8 → Option UInt8
  | Byte.quote => some Byte.quote
  | Byte.backslash => some Byte.backslash
  | Byte.solidus => some Byte.solidus
  | Byte.letterB => some 0x08
  | Byte.letterF => some 0x0C
  | Byte.letterN => some 0x0A
  | Byte.letterR => some 0x0D
  | Byte.letterT => some 0x09
  | _ => none

def codePointBytes (code : Nat) : List UInt8 :=
  (Char.ofNat code).toString.toUTF8.data.toList

def pairCode (high low : Nat) : Nat :=
  0x10000 + (high - 0xD800) * 0x400 + (low - 0xDC00)

def resolveDigits (high : Option Nat) (digits : List UInt8) :
    Option (List UInt8 × StringState) :=
  match Byte.hexValues? digits, high with
  | none, _ => none
  | some code, none =>
      if 0xD800 ≤ code ∧ code ≤ 0xDBFF then some ([], .pairBackslash code)
      else if 0xDC00 ≤ code ∧ code ≤ 0xDFFF then none
      else some (codePointBytes code, .plain)
  | some code, some high =>
      if 0xDC00 ≤ code ∧ code ≤ 0xDFFF then some (codePointBytes (pairCode high code), .plain)
      else none

/-- The bytes that a string denotes, up to its closing quote. The four digits of an escape are
judged together, so a text that ends among them has ended and is not malformed. -/
def stringBytes (state : StringState) (gathered : List UInt8) : Reader Reason (List UInt8)
  | [] => .error .ended
  | byte :: rest =>
      match state with
      | .plain =>
          if byte = Byte.quote then .ok (gathered.reverse, rest)
          else if byte = Byte.backslash then stringBytes .escape gathered rest
          else if Byte.isControl byte then .error .malformed
          else stringBytes .plain (byte :: gathered) rest
      | .escape =>
          if byte = Byte.letterU then stringBytes (.digits none []) gathered rest
          else
            match shortEscape? byte with
            | some denoted => stringBytes .plain (denoted :: gathered) rest
            | none => .error .malformed
      | .digits high seen =>
          if seen.length < 3 then stringBytes (.digits high (seen ++ [byte])) gathered rest
          else
            match resolveDigits high (seen ++ [byte]) with
            | some (bytes, next) => stringBytes next (bytes.reverse ++ gathered) rest
            | none => .error .malformed
      | .pairBackslash high =>
          if byte = Byte.backslash then stringBytes (.pairLetter high) gathered rest
          else .error .malformed
      | .pairLetter high =>
          if byte = Byte.letterU then stringBytes (.digits (some high) []) gathered rest
          else .error .malformed

def stringText : Reader Reason String :=
  fun input =>
    match stringBytes .plain [] input with
    | .error fault => .error fault
    | .ok (bytes, rest) =>
        match Text.decode? bytes with
        | some decoded => .ok (decoded, rest)
        | none => .error .malformed

/-! ### Arrays and objects -/

/-- After the opening bracket or an item: whether another item follows. The closing bracket is left
to be read. -/
def anotherItem (first : Bool) : Reader Reason Bool :=
  Reader.look fun byte rest here =>
    if byte = Byte.closeBracket then .ok (false, here)
    else if first then .ok (true, here)
    else if byte = Byte.comma then
      match skipBlanks rest with
      | [] => .error .ended
      | next :: after =>
          if next = Byte.closeBracket then .error .malformed else .ok (true, next :: after)
    else .error .malformed

def anotherName (first : Bool) : Reader Reason (Option String) :=
  Reader.look fun byte rest here =>
    if byte = Byte.closeBrace then .ok (none, here)
    else if first then
      if byte = Byte.quote then stringText.map some rest else .error .malformed
    else if byte = Byte.comma then
      match skipBlanks rest with
      | [] => .error .ended
      | next :: after =>
          if next = Byte.quote then stringText.map some after else .error .malformed
    else .error .malformed

def colon : Reader Reason Unit :=
  Reader.look fun byte rest _ => if byte = Byte.colon then .ok ((), rest) else .error .malformed

def endOfArray : Reader Reason Unit :=
  Reader.look fun byte rest _ =>
    if byte = Byte.closeBracket then .ok ((), rest) else .error .malformed

def endOfObject : Reader Reason Unit :=
  Reader.look fun byte rest _ =>
    if byte = Byte.closeBrace then .ok ((), rest) else .error .malformed

/-- The items of an array up to its closing bracket. Every item takes at least one byte, so the
bound on their number may be the number of bytes. -/
def itemsWithin (item : Reader Reason Result) : (bound : Nat) → (first : Bool) →
    Reader Reason (List Result)
  | 0, _ => fun _ => .error .malformed
  | bound + 1, first =>
      (anotherItem first).andThen fun another =>
        if another then
          item.andThen fun result => (itemsWithin item bound false).map (result :: ·)
        else Reader.pure []

def items (item : Reader Reason Result) : Reader Reason (List Result) :=
  fun input => itemsWithin item (input.length + 1) true input

def membersWithin (member : Result → String → Reader Reason Result) : (bound : Nat) →
    (first : Bool) → Result → Reader Reason Result
  | 0, _, _ => fun _ => .error .malformed
  | bound + 1, first, result =>
      (anotherName first).andThen fun
        | some name =>
            (member result name).andThen fun next => membersWithin member bound false next
        | none => Reader.pure result

def members (member : Result → String → Reader Reason Result) (initial : Result) :
    Reader Reason Result :=
  fun input => membersWithin member (input.length + 1) true initial input

def readAll (reader : Reader Reason Result) (input : Input) :
    Except (ReadError Reason) Result :=
  match reader input with
  | .error fault => .error fault
  | .ok (result, rest) => if (skipBlanks rest).isEmpty then .ok result else .error .malformed

end IssueReport.Json
