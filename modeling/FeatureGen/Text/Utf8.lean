/-!
# UTF-8

Octets are read as UTF-8 in two ways.  `decodeUtf8` refuses octets that encode no text and says
where the first fault lies.  `decodeUtf8Lossy` puts the replacement character in place of each
fault.  A fault covers the octets that start a character up to the first that cannot continue it.
-/

namespace FeatureGen.Text

/-- Why octets encode no character. -/
inductive Utf8Reason
  /-- The first octet starts no character. -/
  | invalidStart
  /-- An octet that should continue the character does not. -/
  | invalidContinuation
  /-- The octets end within the character. -/
  | unexpectedEnd
  deriving DecidableEq, Repr

/-- What is wrong, in words. -/
def Utf8Reason.message : Utf8Reason → String
  | .invalidStart => "invalid start byte"
  | .invalidContinuation => "invalid continuation byte"
  | .unexpectedEnd => "unexpected end of data"

/-- Octets within a sequence that encode no character. -/
structure Utf8Fault where
  /-- The position of the first of them. -/
  position : Nat
  /-- The first of them. -/
  octet : UInt8
  /-- How many they are. -/
  length : Nat
  /-- Why they encode nothing. -/
  reason : Utf8Reason
  deriving DecidableEq, Repr

/-- How many octets must follow the first octet of a character, and the bounds of the next one. -/
def continuation? (b : UInt8) : Option (Nat × UInt8 × UInt8) :=
  if 0xC2 ≤ b && b ≤ 0xDF then some (1, 0x80, 0xBF)
  else if b == 0xE0 then some (2, 0xA0, 0xBF)
  else if b == 0xED then some (2, 0x80, 0x9F)
  else if 0xE1 ≤ b && b ≤ 0xEF then some (2, 0x80, 0xBF)
  else if b == 0xF0 then some (3, 0x90, 0xBF)
  else if 0xF1 ≤ b && b ≤ 0xF3 then some (3, 0x80, 0xBF)
  else if b == 0xF4 then some (3, 0x80, 0x8F)
  else none

/-- The fault in a character that lacks `missing` more octets after the first `length`, where the
next one lies between `lo` and `hi`.  It is asked only where there is one. -/
def faultWithin (bytes : ByteArray) (start length : Nat) (octet lo hi : UInt8) :
    Nat → Utf8Fault
  | 0 => ⟨start, octet, length, .invalidContinuation⟩
  | missing + 1 =>
    match bytes[start + length]? with
    | none => ⟨start, octet, length, .unexpectedEnd⟩
    | some b =>
      if lo ≤ b && b ≤ hi then faultWithin bytes start (length + 1) octet 0x80 0xBF missing
      else ⟨start, octet, length, .invalidContinuation⟩

/-- The fault at a position where no character is encoded. -/
def faultAt (bytes : ByteArray) (start : Nat) (octet : UInt8) : Utf8Fault :=
  match continuation? octet with
  | none => ⟨start, octet, 1, .invalidStart⟩
  | some (count, lo, hi) => faultWithin bytes start 1 octet lo hi count

/-- The characters from a position on, each fault replaced by `U+FFFD`, together with the faults.
The fuel bounds the number of characters. -/
def decodeFrom (bytes : ByteArray) : Nat → Nat → List (Char × Option Utf8Fault)
  | 0, _ => []
  | fuel + 1, i =>
    match bytes[i]? with
    | none => []
    | some octet =>
      match bytes.utf8DecodeChar? i with
      | some c => (c, none) :: decodeFrom bytes fuel (i + c.utf8Size)
      | none =>
        let fault := faultAt bytes i octet
        ('\ufffd', some fault) :: decodeFrom bytes fuel (i + fault.length)

/-- The first fault of octets that encode no text. -/
def firstFault (bytes : ByteArray) : Utf8Fault :=
  ((decodeFrom bytes bytes.size 0).findSome? (·.2)).getD ⟨0, 0, 1, .invalidStart⟩

/-- The text that octets encode, or the first fault. -/
def decodeUtf8 (bytes : ByteArray) : Except Utf8Fault String :=
  match String.fromUTF8? bytes with
  | some s => .ok s
  | none => .error (firstFault bytes)

/-- The text that octets encode, with `U+FFFD` in place of every fault. -/
def decodeUtf8Lossy (bytes : ByteArray) : String :=
  match String.fromUTF8? bytes with
  | some s => s
  | none => String.ofList ((decodeFrom bytes bytes.size 0).map (·.1))

/-- Text is read back from its own octets. -/
@[simp] theorem decodeUtf8_toByteArray (s : String) : decodeUtf8 s.toByteArray = .ok s := by
  simp [decodeUtf8, String.fromUTF8?, s.isValidUTF8]
  rfl

@[simp] theorem decodeUtf8Lossy_toByteArray (s : String) : decodeUtf8Lossy s.toByteArray = s := by
  simp [decodeUtf8Lossy, String.fromUTF8?, s.isValidUTF8]
  rfl

end FeatureGen.Text
