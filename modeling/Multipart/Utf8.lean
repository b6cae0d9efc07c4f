import Mathlib.Data.List.Basic

/-! Rust's `String`, bytes that are well-formed UTF-8, and `String::from_utf8`, which accepts
exactly the byte sequences of the Unicode table of well-formed UTF-8. -/

namespace Multipart

/-- A continuation byte, `80..=BF`. -/
def isContinuation (byte : UInt8) : Bool := 0x80 ≤ byte && byte ≤ 0xBF

/-- The second byte a three-byte lead allows: no overlong forms after `E0`, no surrogates
after `ED`. -/
def threeByteSecond (lead second : UInt8) : Bool :=
  if lead = 0xE0 then 0xA0 ≤ second && second ≤ 0xBF
  else if lead = 0xED then 0x80 ≤ second && second ≤ 0x9F
  else isContinuation second

/-- The second byte a four-byte lead allows: no overlong forms after `F0`, nothing past
`U+10FFFF` after `F4`. -/
def fourByteSecond (lead second : UInt8) : Bool :=
  if lead = 0xF0 then 0x90 ≤ second && second ≤ 0xBF
  else if lead = 0xF4 then 0x80 ≤ second && second ≤ 0x8F
  else isContinuation second

/-- Well-formed UTF-8, as `core::str::from_utf8` checks it: an ASCII byte, or a lead byte
`C2..=F4` followed by the continuation bytes its width asks for. -/
def validUtf8 : List UInt8 → Bool
  | [] => true
  | lead :: rest =>
    if lead ≤ 0x7F then validUtf8 rest
    else if 0xC2 ≤ lead && lead ≤ 0xDF then
      match rest with
      | second :: rest => isContinuation second && validUtf8 rest
      | [] => false
    else if 0xE0 ≤ lead && lead ≤ 0xEF then
      match rest with
      | second :: third :: rest =>
        threeByteSecond lead second && isContinuation third && validUtf8 rest
      | _ => false
    else if 0xF0 ≤ lead && lead ≤ 0xF4 then
      match rest with
      | second :: third :: fourth :: rest =>
        fourByteSecond lead second && isContinuation third && isContinuation fourth &&
          validUtf8 rest
      | _ => false
    else false

example : validUtf8 [0x68, 0xC3, 0xA9, 0xE2, 0x82, 0xAC, 0xF0, 0x9F, 0x98, 0x80] = true := by
  decide

example : validUtf8 [0xC0, 0x80] = false ∧ validUtf8 [0xED, 0xA0, 0x80] = false ∧
    validUtf8 [0xF4, 0x90, 0x80, 0x80] = false ∧ validUtf8 [0xE2, 0x82] = false := by
  decide

/-- A byte `FF` never starts well-formed UTF-8, whatever follows it. -/
theorem validUtf8_ff (rest : List UInt8) : validUtf8 (0xFF :: rest) = false := by
  rcases rest with _ | ⟨_, _ | ⟨_, _ | ⟨_, _⟩⟩⟩ <;> rfl

/-- Rust's `String`: bytes that are well-formed UTF-8. -/
structure RustString where
  bytes : List UInt8
  valid : validUtf8 bytes = true
  deriving DecidableEq

/-- `String::from_utf8`: the same bytes as a `String` when they are well-formed. -/
def fromUtf8 (bytes : List UInt8) : Option RustString :=
  if valid : validUtf8 bytes = true then some ⟨bytes, valid⟩ else none

theorem fromUtf8_bytes {bytes : List UInt8} {text : RustString} (decoded : fromUtf8 bytes = some text) :
    text.bytes = bytes := by
  unfold fromUtf8 at decoded
  split at decoded <;> simp_all only [Option.some.injEq, reduceCtorEq]
  subst decoded; rfl

theorem fromUtf8_eq_none {bytes : List UInt8} : fromUtf8 bytes = none ↔ validUtf8 bytes = false := by
  unfold fromUtf8; split <;> simp_all

end Multipart
