import Actionary.Text.Code

/-!
# Base64

Bytes written with sixty-four characters, six bits each. Reading passes over all other characters
and stops where padding completes a group of four.
-/

namespace Actionary.Yaml.Base64

def letters : List Code :=
  Text.toList "ABCDEFGHIJKLMNOPQRSTUVWXYZabcdefghijklmnopqrstuvwxyz0123456789+/"

def value? (c : Code) : Option Nat :=
  letters.findIdx? (· == c)

def letter (n : Nat) : Code :=
  letters.getD n 'A'

inductive Fault where
  | leftOver (count : Nat)
  | padding
deriving DecidableEq, Repr

def Fault.message : Fault → Text
  | .leftOver count =>
    "Invalid base64-encoded string: number of data characters (" ++ toString count ++
      ") cannot be 1 more than a multiple of 4"
  | .padding => "Incorrect padding"

/-- Goes on reading. `count` is the number of characters in the current group, `left` holds the bits
of the last one that are not written yet, `pads` counts the padding since then. -/
def decodeFrom (count left pads : Nat) (done : List UInt8) : List Code → Except Fault (List UInt8)
  | [] =>
    if count == 0 then .ok done.reverse
    else if count == 1 then .error (.leftOver (done.length / 3 * 4 + 1))
    else .error .padding
  | c :: cs =>
    if c == '=' then
      if count ≥ 2 then
        if count + pads + 1 ≥ 4 then .ok done.reverse else decodeFrom count left (pads + 1) done cs
      else decodeFrom count left pads done cs
    else
      match value? c with
      | none => decodeFrom count left pads done cs
      | some n =>
        match count with
        | 0 => decodeFrom 1 n 0 done cs
        | 1 => decodeFrom 2 (n % 16) 0 ((left * 4 + n / 16).toUInt8 :: done) cs
        | 2 => decodeFrom 3 (n % 4) 0 ((left * 16 + n / 4).toUInt8 :: done) cs
        | _ => decodeFrom 0 0 0 ((left * 64 + n).toUInt8 :: done) cs

def decode (text : List Code) : Except Fault (List UInt8) :=
  decodeFrom 0 0 0 [] text

def encode : List UInt8 → List Code
  | [] => []
  | [a] =>
    let n := a.toNat
    [letter (n / 4), letter (n % 4 * 16), '=', '=']
  | [a, b] =>
    let n := a.toNat * 256 + b.toNat
    [letter (n / 1024), letter (n / 16 % 64), letter (n % 16 * 4), '=']
  | a :: b :: c :: rest =>
    let n := (a.toNat * 256 + b.toNat) * 256 + c.toNat
    letter (n / 262144) :: letter (n / 4096 % 64) :: letter (n / 64 % 64) :: letter (n % 64) ::
      encode rest

def encodeLines (bytes : List UInt8) : List Code :=
  go (bytes.length + 1) bytes
where
  go : Nat → List UInt8 → List Code
    | 0, _ => []
    | fuel + 1, bytes =>
      if bytes.isEmpty then []
      else encode (bytes.take 57) ++ .char '\n' :: go fuel (bytes.drop 57)

end Actionary.Yaml.Base64
