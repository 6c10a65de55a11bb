import FlatTables.Text.Line
import FlatTables.Text.Quoted

/-!
# Encoded text

Files hold UTF-8. A file that is not valid UTF-8 cannot be read, and the fault says which bytes
are to blame and why. A file read line by line is decoded in blocks, so the lines that were
complete in the blocks before the faulty one have been seen when the fault is met.
-/

namespace FlatTables
namespace Text

/-- Why a byte sequence is no character. -/
inductive EncodingReason
  | invalidStart
  | invalidContinuation
  | unexpectedEnd
  deriving DecidableEq, Repr

/-- The wording of a reason. -/
def EncodingReason.wording : EncodingReason → String
  | .invalidStart => "invalid start byte"
  | .invalidContinuation => "invalid continuation byte"
  | .unexpectedEnd => "unexpected end of data"

/-- The first byte sequence of a text that is no character: it starts at byte `first`, ends
before byte `stop` and opens with the byte `lead`. -/
structure EncodingFault where
  first : Nat
  stop : Nat
  lead : UInt8
  reason : EncodingReason
  deriving DecidableEq, Repr

/-- The message of an encoding fault names the one byte, or the range of bytes, to blame. -/
def EncodingFault.message (fault : EncodingFault) : String :=
  let place :=
    if fault.stop = fault.first + 1 then
      "byte 0x" ++ String.ofList (hexDigits 2 fault.lead.toNat) ++ " in position "
        ++ toString fault.first
    else
      "bytes in position " ++ toString fault.first ++ "-" ++ toString (fault.stop - 1)
  "'utf-8' codec can't decode " ++ place ++ ": " ++ fault.reason.wording

/-- The byte continues a character. -/
def isContinuation (byte : UInt8) : Bool :=
  0x80 ≤ byte && byte ≤ 0xBF

/-- The byte may follow the first byte `lead` of a character of three or four bytes. -/
def isSecond (lead byte : UInt8) : Bool :=
  isContinuation byte &&
    (if lead = 0xE0 then 0xA0 ≤ byte
     else if lead = 0xED then byte ≤ 0x9F
     else if lead = 0xF0 then 0x90 ≤ byte
     else if lead = 0xF4 then byte ≤ 0x8F
     else true)

/-- What stands at the front of a byte sequence. -/
inductive Front
  | character (length : Nat)
  | faulty (length : Nat) (reason : EncodingReason)
  deriving DecidableEq, Repr

/-- Check the continuation bytes of a character of which `seen` bytes have been accepted and
`missing` are still due. -/
def continuationFront : (missing seen : Nat) → List UInt8 → Front
  | 0, seen, _ => .character seen
  | _ + 1, seen, [] => .faulty seen .unexpectedEnd
  | missing + 1, seen, byte :: rest =>
      if isContinuation byte then continuationFront missing (seen + 1) rest
      else .faulty seen .invalidContinuation

/-- Check a character whose second byte is restricted by its first one. -/
def restrictedFront (lead : UInt8) (missing : Nat) : List UInt8 → Front
  | [] => .faulty 1 .unexpectedEnd
  | byte :: rest =>
      if isSecond lead byte then continuationFront missing 2 rest
      else .faulty 1 .invalidContinuation

/-- Check the character that starts with the byte `lead`. -/
def front (lead : UInt8) (rest : List UInt8) : Front :=
  if lead < 0x80 then .character 1
  else if lead < 0xC2 then .faulty 1 .invalidStart
  else if lead < 0xE0 then continuationFront 1 1 rest
  else if lead < 0xF0 then restrictedFront lead 1 rest
  else if lead < 0xF5 then restrictedFront lead 2 rest
  else .faulty 1 .invalidStart

/-- The first fault of a byte sequence whose first byte stands at `position`; the first `skip`
bytes belong to a character already checked. -/
def findFault : (position skip : Nat) → List UInt8 → Option EncodingFault
  | _, _, [] => none
  | position, skip + 1, _ :: rest => findFault (position + 1) skip rest
  | position, 0, lead :: rest =>
      match front lead rest with
      | .character length => findFault (position + 1) (length - 1) rest
      | .faulty length reason => some ⟨position, position + length, lead, reason⟩

/-- The fault reported for bytes that are no valid text. -/
def faultOf (bytes : ByteArray) : EncodingFault :=
  (findFault 0 0 bytes.toList).getD ⟨0, 1, 0, .invalidStart⟩

/-- Read bytes as a whole. -/
def decode (bytes : ByteArray) : Except EncodingFault String :=
  match String.fromUTF8? bytes with
  | some text => .ok text
  | none => .error (faultOf bytes)

/-- How many bytes are decoded at a time when a file is read line by line. -/
def blockSize : Nat := 8192

/-- The byte where the fault shows: the first one that does not fit, or the end of the file. -/
def EncodingFault.shownAt (fault : EncodingFault) : Nat :=
  if fault.reason = .invalidStart then fault.first else fault.stop

/-- The end of the last whole character among the first `count` bytes, all of which belong to
valid characters. -/
def lastBoundary (bytes : ByteArray) : (count : Nat) → Nat
  | 0 => 0
  | count + 1 =>
      if (bytes[count + 1]?).any isContinuation then lastBoundary bytes count else count + 1

/-- The bytes decoded before the block in which the fault shows. -/
def decodedBefore (bytes : ByteArray) (fault : EncodingFault) : Nat :=
  if fault.reason = .unexpectedEnd then fault.first
  else
    let blockStart := fault.shownAt / blockSize * blockSize
    if fault.first < blockStart then fault.first else lastBoundary bytes blockStart

/-- A text read line by line: what can be read, and the fault that ends it, counted from the
start of the block it shows in. -/
structure Stream where
  text : String
  fault : Option EncodingFault

/-- Read bytes block by block. -/
def decodeStream (bytes : ByteArray) : Stream :=
  match decode bytes with
  | .ok text => ⟨text, none⟩
  | .error fault =>
      let known := decodedBefore bytes fault
      ⟨(String.fromUTF8? (bytes.extract 0 known)).getD "",
        some { fault with first := fault.first - known, stop := fault.stop - known }⟩

/-- The part of a text up to its last break. A carriage return at the very end does not count,
since a line feed might follow it. -/
def completeLines (s : List Char) : List Char :=
  let known := if s.getLast? = some '\r' then s.dropLast else s
  (known.reverse.dropWhile (!isNewline ·)).reverse

/-- The lines that can be read before the fault, if there is one. -/
def Stream.lines (stream : Stream) : List String :=
  match stream.fault with
  | none => Text.lines stream.text
  | some _ => (splitLines isNewline (completeLines stream.text.toList)).map String.ofList

end Text
end FlatTables
