import UnitForge.Text.Basic

set_option autoImplicit false

/-!
# Text as bytes

A file holds bytes; a text is read from them as UTF-8. Overlong forms, surrogates and points
beyond the last plane are refused at the first byte that rules them out.

## Main definitions

* `UnitForge.Text.Utf8Error`: why bytes are no text, with its wording.
* `UnitForge.Text.decodeUtf8`, `UnitForge.Text.encodeUtf8`: bytes to text and back.
* `UnitForge.Text.nextScalar`: the first character of some bytes, with its length in bytes.
-/

namespace UnitForge.Text

/-- Why a byte sequence is not the encoding of a text. -/
inductive Utf8Fault where
  /-- The byte begins no character. -/
  | start
  /-- A byte that should continue a character does not. -/
  | continuation
  /-- The bytes end inside a character. -/
  | truncated
  deriving DecidableEq, Repr

/-- A fault in bytes: the positions of the first and the last byte concerned, and the first byte. -/
structure Utf8Error where
  /-- What is wrong. -/
  fault : Utf8Fault
  /-- The position of the first byte of the broken character. -/
  first : Nat
  /-- The position of its last byte that fits. -/
  last : Nat
  /-- The first byte of the broken character. -/
  byte : UInt8
  deriving DecidableEq, Repr

/-- The outcome of reading one character. -/
inductive Scalar where
  /-- A character, and the number of its bytes. -/
  | char (c : Char) (size : Nat)
  /-- The first `size` bytes are no character. -/
  | broken (fault : Utf8Fault) (size : Nat)
  deriving DecidableEq, Repr

/-- Reads `count` continuation bytes after `size` bytes with the value `value`. The first of them
must lie between `lo` and `hi`. -/
def continueScalar (value size lo hi : Nat) : Nat → List UInt8 → Scalar
  | 0, _ => .char (Char.ofNat value) size
  | _ + 1, [] => .broken .truncated size
  | count + 1, b :: rest =>
    if lo ≤ b.toNat && b.toNat ≤ hi then
      continueScalar (value * 64 + b.toNat % 64) (size + 1) 0x80 0xbf count rest
    else .broken .continuation size

/-- Reads the character that begins with the byte `b`. -/
def nextScalar (b : UInt8) (rest : List UInt8) : Scalar :=
  let n := b.toNat
  if n < 0x80 then .char (Char.ofNat n) 1
  else if n < 0xc2 then .broken .start 1
  else if n < 0xe0 then continueScalar (n % 32) 1 0x80 0xbf 1 rest
  else if n == 0xe0 then continueScalar 0 1 0xa0 0xbf 2 rest
  else if n == 0xed then continueScalar 13 1 0x80 0x9f 2 rest
  else if n < 0xf0 then continueScalar (n % 16) 1 0x80 0xbf 2 rest
  else if n == 0xf0 then continueScalar 0 1 0x90 0xbf 3 rest
  else if n == 0xf4 then continueScalar 4 1 0x80 0x8f 3 rest
  else if n < 0xf4 then continueScalar (n % 8) 1 0x80 0xbf 3 rest
  else .broken .start 1

/-- Decodes from position `position` on; `skip` bytes belong to a character already read. -/
def decodeFrom (position : Nat) : Nat → List UInt8 → Except Utf8Error Text
  | _, [] => .ok []
  | skip + 1, _ :: rest => decodeFrom (position + 1) skip rest
  | 0, b :: rest =>
    match nextScalar b rest with
    | .char c size => (decodeFrom (position + 1) (size - 1) rest).map (c :: ·)
    | .broken fault size => .error ⟨fault, position, position + size - 1, b⟩

/-- The text that the bytes encode. -/
def decodeUtf8 (bytes : List UInt8) : Except Utf8Error Text := decodeFrom 0 0 bytes

/-- The bytes of a text. -/
def encodeUtf8 (text : Text) : List UInt8 := text.flatMap String.utf8EncodeChar

/-- The wording of a fault in bytes. -/
def Utf8Error.message (e : Utf8Error) : Text :=
  let reason := match e.fault with
    | .start => "invalid start byte"
    | .continuation => "invalid continuation byte"
    | .truncated => "unexpected end of data"
  let hex := Nat.toDigits 16 e.byte.toNat
  let place := if e.first == e.last then
      lit "byte 0x" ++ List.replicate (2 - hex.length) '0' ++ hex ++ lit " in position " ++
        Nat.toDigits 10 e.first
    else
      lit "bytes in position " ++ Nat.toDigits 10 e.first ++ lit "-" ++ Nat.toDigits 10 e.last
  lit "'utf-8' codec can't decode " ++ place ++ lit ": " ++ lit reason

end UnitForge.Text
