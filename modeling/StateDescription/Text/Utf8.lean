/-!
UTF-8 that is not well formed: where the first broken sequence stands and why it is broken.
-/

namespace StateDescription.Utf8

inductive Fault
  | invalidStart
  | invalidContinuation
  | unexpectedEnd

def Fault.reason : Fault → String
  | .invalidStart => "invalid start byte"
  | .invalidContinuation => "invalid continuation byte"
  | .unexpectedEnd => "unexpected end of data"

/-- What a lead byte asks for: the number of continuation bytes, and the bounds of the first. -/
structure Lead where
  count : Nat
  low : UInt8
  high : UInt8

def Lead.ofByte? (b : UInt8) : Option Lead :=
  if b < 0xc2 then none
  else if b ≤ 0xdf then some ⟨1, 0x80, 0xbf⟩
  else if b = 0xe0 then some ⟨2, 0xa0, 0xbf⟩
  else if b = 0xed then some ⟨2, 0x80, 0x9f⟩
  else if b ≤ 0xef then some ⟨2, 0x80, 0xbf⟩
  else if b = 0xf0 then some ⟨3, 0x90, 0xbf⟩
  else if b ≤ 0xf3 then some ⟨3, 0x80, 0xbf⟩
  else if b = 0xf4 then some ⟨3, 0x80, 0x8f⟩
  else none

/-- The bytes after a lead byte that continue it, as many as are in order. -/
def Lead.continuation (lead : Lead) : List UInt8 → List UInt8
  | [] => []
  | b :: bytes =>
    if lead.low ≤ b ∧ b ≤ lead.high then
      b :: (bytes.take (lead.count - 1)).takeWhile (fun b => 0x80 ≤ b && b ≤ 0xbf)
    else []

/-- A broken sequence: the position of its first byte, and its bytes up to the fault. -/
structure Broken where
  position : Nat
  bytes : List UInt8
  fault : Fault

/-- The first broken sequence of ill-formed bytes, the first of which stands at `position`. -/
def firstBroken (position : Nat) : List UInt8 → Broken
  | [] => ⟨position, [], .unexpectedEnd⟩
  | b :: bytes =>
    if b < 0x80 then firstBroken (position + 1) bytes
    else
      match Lead.ofByte? b with
      | none => ⟨position, [b], .invalidStart⟩
      | some lead =>
        let continuation := lead.continuation bytes
        if continuation.length = lead.count then
          firstBroken (position + 1 + lead.count) (bytes.drop lead.count)
        else if continuation.length = bytes.length then
          ⟨position, b :: continuation, .unexpectedEnd⟩
        else ⟨position, b :: continuation, .invalidContinuation⟩
termination_by bytes => bytes.length
decreasing_by all_goals simp only [List.length_cons, List.length_drop]; omega

end StateDescription.Utf8
