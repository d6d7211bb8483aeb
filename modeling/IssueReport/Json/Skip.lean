import IssueReport.Json.Reader
/-!
Passing over a JSON value that is not wanted. The form of the value is checked, but not what it
denotes: surrogates need no partner, bytes of strings need not be well formed, numbers may be too
large, and nesting has no limit.
-/

namespace IssueReport.Json

variable {Reason : Type}

/-- Where in a skipped string the reader stands; `digits` counts those of an escape still to come,
and whether all so far were hexadecimal. -/
inductive SkipState where
  | plain
  | escape
  | digits (missing : Nat) (wellFormed : Bool)

def skipStringFrom (state : SkipState) : Reader Reason Unit
  | [] => .error .ended
  | byte :: rest =>
      match state with
      | .plain =>
          if byte = Byte.quote then .ok ((), rest)
          else if byte = Byte.backslash then skipStringFrom .escape rest
          else if Byte.isControl byte then .error .malformed
          else skipStringFrom .plain rest
      | .escape =>
          if byte = Byte.letterU then skipStringFrom (.digits 3 true) rest
          else if (shortEscape? byte).isSome then skipStringFrom .plain rest
          else .error .malformed
      | .digits missing wellFormed =>
          let stillFormed := wellFormed && (Byte.hexValue? byte).isSome
          match missing with
          | more + 1 => skipStringFrom (.digits more stillFormed) rest
          | 0 => if stillFormed then skipStringFrom .plain rest else .error .malformed

def skipString : Reader Reason Unit :=
  skipStringFrom .plain

/-- The rest of an exponent after its letter. A text that ends here is malformed. -/
def skipExponent : Reader Reason Unit :=
  fun input =>
    let unsigned :=
      match input with
      | Byte.plus :: rest => rest
      | Byte.minus :: rest => rest
      | _ => input
    match unsigned with
    | byte :: rest =>
        if Byte.isDigit byte then .ok ((), rest.dropWhile Byte.isDigit) else .error .malformed
    | [] => .error .malformed

def skipAfterDigits : Reader Reason Unit
  | Byte.letterE :: rest => skipExponent rest
  | Byte.capitalE :: rest => skipExponent rest
  | rest => .ok ((), rest)

def skipUnsigned : Reader Reason Unit
  | [] => .error .malformed
  | byte :: rest =>
      if !Byte.isDigit byte then .error .malformed
      else if byte = Byte.zero ∧ rest.head?.any Byte.isDigit then .error .malformed
      else
        match rest.dropWhile Byte.isDigit with
        | Byte.point :: after =>
            if after.head?.any Byte.isDigit then skipAfterDigits (after.dropWhile Byte.isDigit)
            else .error .malformed
        | after => skipAfterDigits after

inductive Frame where
  | array
  | object

def Frame.closing : Frame → UInt8
  | .array => Byte.closeBracket
  | .object => Byte.closeBrace

def skipScalar (byte : UInt8) : Reader Reason Unit :=
  fun rest =>
    if byte = Byte.letterN then wordNull rest
    else if byte = Byte.letterT then wordTrue rest
    else if byte = Byte.letterF then wordFalse rest
    else if byte = Byte.quote then skipString rest
    else if byte = Byte.minus then skipUnsigned rest
    else if Byte.isDigit byte then skipUnsigned (byte :: rest)
    else .error .malformed

def skipName : Reader Reason Unit :=
  (Reader.look fun byte rest _ =>
    if byte = Byte.quote then skipString rest else .error .malformed).andThen fun _ => colon

def skipBefore : Frame → Reader Reason Unit
  | .array => Reader.pure ()
  | .object => skipName

inductive SkipPlace where
  | beforeValue
  | opened
  | afterValue

abbrev SkipTask := Option (SkipPlace × List Frame)

def skipToValue (frame : Frame) (frames : List Frame) : Reader Reason SkipTask :=
  (skipBefore frame).map fun _ => some (.beforeValue, frame :: frames)

def skipStep : SkipPlace → List Frame → Reader Reason SkipTask
  | .beforeValue, frames =>
      Reader.look fun byte rest =>
        if byte = Byte.openBracket then fun _ => .ok (some (.opened, .array :: frames), rest)
        else if byte = Byte.openBrace then fun _ => .ok (some (.opened, .object :: frames), rest)
        else fun _ => (skipScalar byte).map (fun _ => some (.afterValue, frames)) rest
  | .opened, [] => Reader.pure none
  | .afterValue, [] => Reader.pure none
  | .opened, frame :: frames =>
      Reader.look fun byte rest =>
        if byte = frame.closing then fun _ => .ok (some (.afterValue, frames), rest)
        else skipToValue frame frames
  | .afterValue, frame :: frames =>
      Reader.look fun byte rest =>
        if byte = frame.closing then fun _ => .ok (some (.afterValue, frames), rest)
        else if byte = Byte.comma then fun _ => skipToValue frame frames rest
        else fun _ => .error .malformed

/-- Steps until nothing is left to be done. All steps but the last and those that open a first item
take a byte, so a bound above twice the number of bytes is never reached. -/
def skipWithin : (bound : Nat) → SkipPlace → List Frame → Reader Reason Unit
  | 0, _, _, _ => .error .malformed
  | bound + 1, place, frames, input =>
      match skipStep place frames input with
      | .error fault => .error fault
      | .ok (none, rest) => .ok ((), rest)
      | .ok (some (next, opened), rest) => skipWithin bound next opened rest

def skipValue : Reader Reason Unit :=
  fun input => skipWithin (2 * input.length + 2) .beforeValue [] input

end IssueReport.Json
