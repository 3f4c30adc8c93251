import Pageflow.Text.Quoted
/-!
Decoding of UTF-8: either with the place and the reason of the first failure, or with a
replacement character for everything that cannot be decoded. Addresses write the bytes in percent
form.
-/
namespace Pageflow.Utf8

inductive Reason where
  | start
  | continuation
  | truncated
deriving DecidableEq

def Reason.text : Reason → String
  | .start => "invalid start byte"
  | .continuation => "invalid continuation byte"
  | .truncated => "unexpected end of data"

/-- A failure: `count` bytes from `position` on, the first of them `byte`, cannot be decoded. -/
structure Failure where
  reason : Reason
  position : Nat
  count : Nat
  byte : Nat
deriving DecidableEq

def Failure.message (f : Failure) : String :=
  let place :=
    if f.count = 1 then
      "byte 0x" ++ Text.hex 2 f.byte ++ " in position " ++ toString f.position
    else
      "bytes in position " ++ toString f.position ++ "-" ++ toString (f.position + f.count - 1)
  "'utf-8' codec can't decode " ++ place ++ ": " ++ f.reason.text

/-- How many bytes a character takes that starts with `b`, and the bounds of its second byte. -/
def lead? (b : Nat) : Option (Nat × Nat × Nat) :=
  if 0xc2 ≤ b && b ≤ 0xdf then some (2, 0x80, 0xbf)
  else if b = 0xe0 then some (3, 0xa0, 0xbf)
  else if b = 0xed then some (3, 0x80, 0x9f)
  else if 0xe1 ≤ b && b ≤ 0xef then some (3, 0x80, 0xbf)
  else if b = 0xf0 then some (4, 0x90, 0xbf)
  else if b = 0xf4 then some (4, 0x80, 0x8f)
  else if 0xf1 ≤ b && b ≤ 0xf3 then some (4, 0x80, 0xbf)
  else none

/-- Reads the `need` continuation bytes of a character after `seen` of its bytes. -/
def continuation (value seen : Nat) : (need lo hi : Nat) → List Nat →
    Except (Reason × Nat) (Nat × List Nat)
  | 0, _, _, bytes => .ok (value, bytes)
  | _ + 1, _, _, [] => .error (.truncated, seen)
  | need + 1, lo, hi, b :: rest =>
    if lo ≤ b && b ≤ hi then continuation (value * 64 + (b - 0x80)) (seen + 1) need 0x80 0xbf rest
    else .error (.continuation, seen)

/-- The code of the character that starts with byte `b`, its number of bytes and what follows it;
or why and for how many bytes there is none. -/
def first (b : Nat) (rest : List Nat) : Except (Reason × Nat) (Nat × Nat × List Nat) :=
  if b < 0x80 then .ok (b, 1, rest)
  else
    match lead? b with
    | none => .error (.start, 1)
    | some (size, lo, hi) =>
      let bits := if size = 2 then b - 0xc0 else if size = 3 then b - 0xe0 else b - 0xf0
      (continuation bits 1 (size - 1) lo hi rest).map fun (value, rest) => (value, size, rest)

/-- Decodes the bytes from `position` on; `fuel` bounds the number of characters. -/
def decodeFrom : (fuel position : Nat) → List Nat → List Char → Except Failure (List Char)
  | 0, _, _, seen => .ok seen.reverse
  | _ + 1, _, [], seen => .ok seen.reverse
  | fuel + 1, position, b :: rest, seen =>
    match first b rest with
    | .ok (value, size, rest) => decodeFrom fuel (position + size) rest (Char.ofNat value :: seen)
    | .error (reason, count) => .error ⟨reason, position, count, b⟩

/-- The characters that a sequence of bytes encodes. -/
def decode (bytes : List Nat) : Except Failure (List Char) :=
  decodeFrom bytes.length 0 bytes []

/-- The character that stands for bytes that cannot be decoded. -/
def replacement : Char := '\ufffd'

/-- Decodes bytes and passes over failures; `fuel` bounds the number of characters. -/
def repairFrom : (fuel : Nat) → List Nat → List Char
  | 0, _ => []
  | _ + 1, [] => []
  | fuel + 1, b :: rest =>
    match first b rest with
    | .ok (value, _, rest) => Char.ofNat value :: repairFrom fuel rest
    | .error (_, count) => replacement :: repairFrom fuel (rest.drop (count - 1))

/-- The characters that a sequence of bytes encodes, with one replacement character for each start
of a character that is broken off and for each byte that starts none. -/
def repair (bytes : List Nat) : List Char := repairFrom bytes.length bytes

end Pageflow.Utf8

/-! ## Percent encoding -/
namespace Pageflow.Text

/-- One byte in percent form, with upper-case digits. -/
def percentByte (b : UInt8) : String :=
  "%" ++ String.ofList ((hex 2 b.toNat).toList.map Char.toUpper)

/-- Characters that stand for themselves in the path of a file address. -/
def isPathSafe (c : Char) : Bool :=
  c.isAlphanum || c == '_' || c == '.' || c == '-' || c == '~' || c == '/'

/-- A path with everything but its safe characters percent-encoded in UTF-8. -/
def percentEncode (s : String) : String :=
  String.join <| s.toList.map fun c =>
    if isPathSafe c then c.toString
    else String.join (c.toString.toUTF8.toList.map percentByte)

/-- The value of a hexadecimal digit. -/
def hexDigit? (c : Char) : Option Nat :=
  if '0' ≤ c ∧ c ≤ '9' then some (c.toNat - 48)
  else if 'a' ≤ c ∧ c ≤ 'f' then some (c.toNat - 87)
  else if 'A' ≤ c ∧ c ≤ 'F' then some (c.toNat - 55)
  else none

/-- The bytes of a percent-encoded text; a percent sign without two digits stands for itself. -/
def percentBytes : List Char → List UInt8
  | '%' :: a :: b :: rest =>
    match hexDigit? a, hexDigit? b with
    | some x, some y => UInt8.ofNat (16 * x + y) :: percentBytes rest
    | _, _ => 37 :: percentBytes (a :: b :: rest)
  | c :: rest => c.toString.toUTF8.toList ++ percentBytes rest
  | [] => []

/-- A percent-encoded text decoded; bytes that are no UTF-8 give replacement characters. -/
def percentDecode (s : String) : String :=
  String.ofList (Utf8.repair ((percentBytes s.toList).map UInt8.toNat))

end Pageflow.Text
