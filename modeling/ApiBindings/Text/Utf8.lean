import ApiBindings.Text.Quoted

/-!
# UTF-8

Bytes are read one character at a time. Where they are no UTF-8 the reader says which bytes are
at fault, where they stand and what is wrong with them: a byte that cannot start a character,
one that cannot continue it, or an end in the middle of one. A text is written unless it holds
halves of surrogate pairs, for which there are no bytes. In file names some of them stand for bytes
that are no UTF-8.
-/
namespace ApiBindings.Utf8

inductive Fault
  | invalidStart
  | invalidContinuation
  | unexpectedEnd
  deriving DecidableEq, Repr

def Fault.message : Fault → String
  | .invalidStart => "invalid start byte"
  | .invalidContinuation => "invalid continuation byte"
  | .unexpectedEnd => "unexpected end of data"

/-- The bytes at fault, their position, and what is wrong with them. -/
structure DecodeError where
  bytes : List UInt8
  position : Nat
  fault : Fault
  deriving DecidableEq, Repr

def DecodeError.message (error : DecodeError) : String :=
  let subject := match error.bytes with
    | [byte] =>
      "byte 0x" ++ String.ofList (Text.hexDigits 2 byte.toNat) ++ " in position "
        ++ toString error.position
    | bytes =>
      "bytes in position " ++ toString error.position ++ "-"
        ++ toString (error.position + bytes.length - 1)
  "'utf-8' codec can't decode " ++ subject ++ ": " ++ error.fault.message

/-- The number of bytes that follow a first byte, and its share of the code point. -/
def lead? (byte : Nat) : Option (Nat × Nat) :=
  if byte < 0x80 then some (0, byte)
  else if 0xc2 ≤ byte ∧ byte ≤ 0xdf then some (1, byte - 0xc0)
  else if 0xe0 ≤ byte ∧ byte ≤ 0xef then some (2, byte - 0xe0)
  else if 0xf0 ≤ byte ∧ byte ≤ 0xf4 then some (3, byte - 0xf0)
  else none

/-- Whether a byte may stand second after a first one. -/
def continuesFirst (first byte : Nat) : Bool :=
  let low := if first = 0xe0 then 0xa0 else if first = 0xf0 then 0x90 else 0x80
  let high := if first = 0xed then 0x9f else if first = 0xf4 then 0x8f else 0xbf
  low ≤ byte && byte ≤ high

def continues (byte : Nat) : Bool := 0x80 ≤ byte && byte ≤ 0xbf

/-- How many of the bytes continue a character, up to a count. -/
def accepted (first : Nat) (second : Bool) : Nat → List UInt8 → Nat
  | 0, _ => 0
  | _, [] => 0
  | count + 1, byte :: rest =>
    if (if second then continuesFirst first byte.toNat else continues byte.toNat) then
      1 + accepted first false count rest
    else 0

def codePoint (share : Nat) (bytes : List UInt8) : Nat :=
  bytes.foldl (fun value byte => 64 * value + (byte.toNat - 0x80)) share

/-- Reads bytes from a position on; `covered` bytes still belong to the last character. -/
def decodeFrom (position : Nat) : Nat → List UInt8 → Except DecodeError (List Char)
  | _, [] => .ok []
  | covered + 1, _ :: rest => decodeFrom (position + 1) covered rest
  | 0, byte :: rest =>
    match lead? byte.toNat with
    | none => .error ⟨[byte], position, .invalidStart⟩
    | some (count, share) =>
      let good := accepted byte.toNat true count rest
      if good = count then
        match decodeFrom (position + 1) count rest with
        | .ok text => .ok (Char.ofNat (codePoint share (rest.take count)) :: text)
        | .error error => .error error
      else
        .error ⟨byte :: rest.take good, position,
          if good < rest.length then .invalidContinuation else .unexpectedEnd⟩

def decode (bytes : List UInt8) : Except DecodeError (List Char) := decodeFrom 0 0 bytes

/-- The code points that cannot be written, next to each other, and their position. -/
structure EncodeError where
  codes : List Nat
  position : Nat
  deriving DecidableEq, Repr

def EncodeError.message (error : EncodeError) : String :=
  let subject := match error.codes with
    | [code] =>
      "character '\\u" ++ String.ofList (Text.hexDigits 4 code) ++ "' in position "
        ++ toString error.position
    | codes =>
      "characters in position " ++ toString error.position ++ "-"
        ++ toString (error.position + codes.length - 1)
  "'utf-8' codec can't encode " ++ subject ++ ": surrogates not allowed"

/-- The first halves of surrogate pairs in a text, where some of them pass. -/
def halves (passes : Char → Bool) (text : List Char) : EncodeError :=
  let rest := text.dropWhile fun c => !Text.isHalf c || passes c
  ⟨(rest.takeWhile Text.isHalf).map Text.codePoint, text.length - rest.length⟩

/-- The bytes of a text. -/
def encode (text : String) : Except EncodeError (List UInt8) :=
  if text.toList.any Text.isHalf then .error (halves (fun _ => false) text.toList)
  else .ok text.toUTF8.toList

/-- A half that stands for a byte in a file name. -/
def isNameByte (c : Char) : Bool := 0xdc80 ≤ Text.codePoint c && Text.codePoint c < 0xdd00

/-- Whether a character can stand in a file name as far as it is written in bytes. -/
def isNameable (c : Char) : Bool := !Text.isHalf c || isNameByte c

/-- The number of bytes of a part of a file name. -/
def nameSize (part : String) : Nat :=
  part.toList.foldl (fun size c => size + if isNameByte c then 1 else c.utf8Size) 0

end ApiBindings.Utf8
