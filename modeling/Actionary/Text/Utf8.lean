import Actionary.Text.Quoted

/-!
# Characters from bytes, and texts that have bytes

Bytes are read as UTF-8. A sequence that is not well formed gives a fault: where the sequence
starts, how many bytes belong to it, and what is wrong with it. Every character has an encoding; a
half of a surrogate pair has none, so a text with a half in it cannot be written.
-/

namespace Actionary.Text.Utf8

inductive Reason where
  | invalidStart
  | invalidContinuation
  | truncated
deriving DecidableEq, Repr

def Reason.text : Reason → Text
  | .invalidStart => "invalid start byte"
  | .invalidContinuation => "invalid continuation byte"
  | .truncated => "unexpected end of data"

/-- A sequence of bytes that is not well formed, by its first byte. -/
structure Fault where
  byte : UInt8
  position : Nat
  length : Nat
  reason : Reason
deriving DecidableEq, Repr

def Fault.message (f : Fault) : Text :=
  let place :=
    if f.length == 1 then
      "byte 0x" ++ Text.ofList (hexPadded 2 f.byte.toNat) ++ " in position " ++
        toString f.position
    else
      "bytes in position " ++ toString f.position ++ "-" ++ toString (f.position + f.length - 1)
  "'utf-8' codec can't decode " ++ place ++ ": " ++ f.reason.text

def isContinuation (b : UInt8) : Bool :=
  0x80 ≤ b && b < 0xC0

def payload (b : UInt8) : Nat :=
  b.toNat % 0x40

def width? (b : UInt8) : Option Nat :=
  if b < 0x80 then some 1
  else if b < 0xC2 then none
  else if b < 0xE0 then some 2
  else if b < 0xF0 then some 3
  else if b < 0xF5 then some 4
  else none

/-- Whether the second byte of a character fits its first: overlong forms, surrogates and code
points beyond the last plane are excluded here. -/
def fits (first second : UInt8) : Bool :=
  isContinuation second &&
    !(first == 0xE0 && second < 0xA0) && !(first == 0xED && 0xA0 ≤ second) &&
    !(first == 0xF0 && second < 0x90) && !(first == 0xF4 && 0x90 ≤ second)

/-- How many bytes of a malformed sequence belong together, and why it is malformed; nothing if the
bytes after the first are as many as wanted and all fit. -/
def defect? (first : UInt8) (wanted : Nat) : List UInt8 → Option (Nat × Reason)
  | [] => if wanted == 0 then none else some (1, .truncated)
  | second :: rest =>
    if wanted == 0 then none
    else if !fits first second then some (1, .invalidContinuation)
    else
      let good := (rest.take (wanted - 1)).takeWhile isContinuation
      if good.length == wanted - 1 then none
      else if good.length == rest.length then some (2 + good.length, .truncated)
      else some (2 + good.length, .invalidContinuation)

/-- The characters of a sequence of bytes that starts at the given position. -/
def decodeFrom (position : Nat) : List UInt8 → Except Fault (List Code)
  | [] => .ok []
  | b :: rest =>
    match width? b with
    | none => .error ⟨b, position, 1, .invalidStart⟩
    | some width =>
      match defect? b (width - 1) rest with
      | some (length, reason) => .error ⟨b, position, length, reason⟩
      | none =>
        let lead := if width == 1 then b.toNat else b.toNat % Nat.pow 2 (7 - width)
        let code := (rest.take (width - 1)).foldl (fun n c => n * 0x40 + payload c) lead
        (decodeFrom (position + width) (rest.drop (width - 1))).map (Code.ofNat code :: ·)
termination_by bytes => bytes.length
decreasing_by simp only [List.length_drop, List.length_cons]; omega

def decode (bytes : List UInt8) : Except Fault (List Code) :=
  decodeFrom 0 bytes

def decode? (bytes : List UInt8) : Option Text :=
  match decode bytes with
  | .ok cs => some (Text.ofList cs)
  | .error _ => none

/-- The first code points of a text that have no encoding: where they start, and all that stand in a
row. -/
structure Unencodable where
  position : Nat
  halves : List Code
deriving DecidableEq, Repr

def Unencodable.message (u : Unencodable) : Text :=
  let place : Text :=
    match u.halves with
    | [c] =>
      "character '\\u" ++ Text.ofList (hexPadded 4 c.toNat) ++ "' in position " ++
        toString u.position
    | cs =>
      "characters in position " ++ toString u.position ++ "-" ++
        toString (u.position + cs.length - 1)
  "'utf-8' codec can't encode " ++ place ++ ": surrogates not allowed"

def encode (t : Text) : Except Unencodable String :=
  match t.string? with
  | some s => .ok s
  | none =>
    .error ⟨(t.toList.takeWhile (!·.isHalf)).length,
      (t.toList.dropWhile (!·.isHalf)).takeWhile (·.isHalf)⟩

end Actionary.Text.Utf8
