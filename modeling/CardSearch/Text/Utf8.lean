import CardSearch.Text.Basic
/-!
Decoding of UTF-8. Bytes that begin no character are replaced where decoding must not fail: one
replacement character stands for a byte that cannot begin one, or for the longest beginning of a character
that is broken off. Otherwise the first bytes that would be replaced are a fault.
-/
namespace CardSearch.Text.Utf8

def replacement : Char := '\ufffd'

/-- How a character continues: the range of its second byte, and how many bytes follow that one. -/
structure Lead where
  least : Nat
  greatest : Nat
  further : Nat
  bits : Nat
deriving Repr, DecidableEq

def Lead.next (lead : Lead) (byte : UInt8) : Lead :=
  ⟨0x80, 0xbf, lead.further - 1, lead.bits * 64 + byte.toNat % 64⟩

def lead? (byte : Nat) : Option Lead :=
  if 0xc2 ≤ byte ∧ byte ≤ 0xdf then some ⟨0x80, 0xbf, 0, byte % 32⟩
  else if 0xe0 ≤ byte ∧ byte ≤ 0xef then
    -- No shorter form of a character counts, and no half of a pair of UTF-16.
    some ⟨if byte = 0xe0 then 0xa0 else 0x80, if byte = 0xed then 0x9f else 0xbf, 1, byte % 16⟩
  else if 0xf0 ≤ byte ∧ byte ≤ 0xf4 then
    some ⟨if byte = 0xf0 then 0x90 else 0x80, if byte = 0xf4 then 0x8f else 0xbf, 2, byte % 8⟩
  else none

inductive State where
  | start
  /-- Inside a character: what is expected next, and the bits so far. -/
  | inside (lead : Lead)

def decodeFrom : State → List UInt8 → Text
  | .start, [] => []
  | .inside _, [] => [replacement]
  | .start, byte :: rest =>
    let b := byte.toNat
    if b < 0x80 then Char.ofNat b :: decodeFrom .start rest
    else match lead? b with
      | some lead => decodeFrom (.inside lead) rest
      | none => replacement :: decodeFrom .start rest
  | .inside lead, byte :: rest =>
    let b := byte.toNat
    if lead.least ≤ b ∧ b ≤ lead.greatest then
      if lead.further = 0 then Char.ofNat (lead.next byte).bits :: decodeFrom .start rest
      else decodeFrom (.inside (lead.next byte)) rest
    else if b < 0x80 then replacement :: Char.ofNat b :: decodeFrom .start rest
    else match lead? b with
      | some next => replacement :: decodeFrom (.inside next) rest
      | none => replacement :: replacement :: decodeFrom .start rest

def decode (bytes : List UInt8) : Text := decodeFrom .start bytes

inductive Defect where
  | noLead
  | noContinuation
  | brokenOff
deriving Repr, DecidableEq

def Defect.reason : Defect → String
  | noLead => "invalid start byte"
  | noContinuation => "invalid continuation byte"
  | brokenOff => "unexpected end of data"

structure Fault where
  position : Nat
  bytes : List UInt8
  defect : Defect
deriving Repr, DecidableEq

def Fault.message (fault : Fault) : String :=
  let place := match fault.bytes with
    | [byte] =>
      let digits := [byte.toNat / 16, byte.toNat % 16].map Nat.digitChar
      "byte 0x" ++ String.ofList digits ++ " in position " ++ toString fault.position
    | bytes =>
      "bytes in position " ++ toString fault.position ++ "-" ++
        toString (fault.position + bytes.length - 1)
  "'utf-8' codec can't decode " ++ place ++ ": " ++ fault.defect.reason

/-- The first fault of some bytes. `begun` are the bytes so far of a character that begins at
`position`. -/
def faultFrom? : (position : Nat) → (begun : List UInt8) → State → List UInt8 → Option Fault
  | _, _, .start, [] => none
  | position, begun, .inside _, [] => some ⟨position, begun, .brokenOff⟩
  | position, _, .start, byte :: rest =>
    if byte.toNat < 0x80 then faultFrom? (position + 1) [] .start rest
    else match lead? byte.toNat with
      | some lead => faultFrom? position [byte] (.inside lead) rest
      | none => some ⟨position, [byte], .noLead⟩
  | position, begun, .inside lead, byte :: rest =>
    if lead.least ≤ byte.toNat ∧ byte.toNat ≤ lead.greatest then
      if lead.further = 0 then faultFrom? (position + begun.length + 1) [] .start rest
      else faultFrom? position (begun ++ [byte]) (.inside (lead.next byte)) rest
    else some ⟨position, begun, .noContinuation⟩

def read (bytes : List UInt8) : Except Fault String :=
  match faultFrom? 0 [] .start bytes with
  | some fault => .error fault
  | none => .ok (String.ofList (decode bytes))

end CardSearch.Text.Utf8
