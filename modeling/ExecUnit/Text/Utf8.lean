/-!
Texts as bytes, in UTF-8, and bytes read as a text. A fault names the place where the
first ill-formed sequence starts, and the length of that sequence unless the input ends
in it.
-/

namespace ExecUnit.Utf8

def encode (text : String) : List UInt8 :=
  text.toUTF8.data.toList

structure Fault where
  index : Nat
  length? : Option Nat
  deriving DecidableEq, Repr

def Fault.message (fault : Fault) : String :=
  match fault.length? with
  | some length => s!"invalid utf-8 sequence of {length} bytes from index {fault.index}"
  | none => s!"incomplete utf-8 byte sequence from index {fault.index}"

def isTail (byte : Nat) : Bool :=
  0x80 ≤ byte && byte ≤ 0xbf

/-- How many bytes a sequence takes that starts with `lead`; some bytes start
none. -/
def sequenceLength? (lead : Nat) : Option Nat :=
  if lead ≤ 0x7f then some 1
  else if 0xc2 ≤ lead ∧ lead ≤ 0xdf then some 2
  else if 0xe0 ≤ lead ∧ lead ≤ 0xef then some 3
  else if 0xf0 ≤ lead ∧ lead ≤ 0xf4 then some 4
  else none

/-- Second bytes that would make a sequence longer than it need be, a surrogate
or too large are excluded. -/
def fitsSecond (lead second : Nat) : Bool :=
  isTail second &&
    !(lead = 0xe0 && second < 0xa0) && !(lead = 0xed && 0x9f < second) &&
    !(lead = 0xf0 && second < 0x90) && !(lead = 0xf4 && 0x8f < second)

/-- The character and its length at the start of `bytes`, or the length of an
ill-formed sequence, unknown if the bytes end before they become ill-formed. -/
def first (lead : Nat) (rest : List Nat) : Except (Option Nat) (Char × Nat) :=
  match sequenceLength? lead, rest with
  | some 1, _ => .ok (.ofNat lead, 1)
  | some _, [] => .error none
  | some length, second :: rest =>
      if fitsSecond lead second then
        match length, rest with
        | 2, _ => .ok (.ofNat ((lead - 0xc0) * 64 + (second - 0x80)), 2)
        | _, [] => .error none
        | length, third :: rest =>
            if isTail third then
              match length, rest with
              | 3, _ =>
                  .ok (.ofNat (((lead - 0xe0) * 64 + (second - 0x80)) * 64 + (third - 0x80)), 3)
              | _, [] => .error none
              | _, fourth :: _ =>
                  if isTail fourth then
                    .ok (.ofNat ((((lead - 0xf0) * 64 + (second - 0x80)) * 64 +
                      (third - 0x80)) * 64 + (fourth - 0x80)), 4)
                  else .error (some 3)
            else .error (some 2)
      else .error (some 1)
  | none, _ => .error (some 1)

/-- Reads on from `index`. `skip` bytes belong to the last of the characters
read, which are kept in reverse. -/
def decodeFrom (index skip : Nat) (read : List Char) : List Nat → Except Fault (List Char)
  | [] => .ok read.reverse
  | byte :: rest =>
      match skip with
      | skip + 1 => decodeFrom (index + 1) skip read rest
      | 0 =>
          match first byte rest with
          | .ok (char, length) => decodeFrom (index + 1) (length - 1) (char :: read) rest
          | .error length? => .error ⟨index, length?⟩

def decode (bytes : List UInt8) : Except Fault String :=
  (decodeFrom 0 0 [] (bytes.map UInt8.toNat)).map String.ofList

end ExecUnit.Utf8
