/-!
Bytes as text. Bytes that are no valid UTF-8 are either reported or replaced by U+FFFD, one for each
longest prefix that a valid character could begin with.
-/

namespace TypeLineage.Utf8

/-- What is wrong at a position. -/
inductive Reason where
  | invalidStart
  | invalidContinuation
  | endOfData
  deriving DecidableEq, Repr

def Reason.message : Reason → String
  | .invalidStart => "invalid start byte"
  | .invalidContinuation => "invalid continuation byte"
  | .endOfData => "unexpected end of data"

/-- A number of bytes at an offset that cannot be decoded, the first of which is given. -/
structure Fault where
  offset : Nat
  length : Nat
  first : UInt8
  reason : Reason
  deriving DecidableEq, Repr

/-- One step of decoding: a character, or bytes that are none. -/
inductive Step where
  | char (c : Char) (length : Nat)
  | bad (length : Nat) (reason : Reason)

/-- The number of bytes after a first byte, and the range of the second. -/
def shape? (b : Nat) : Option (Nat × Nat × Nat) :=
  if 0xC2 ≤ b ∧ b ≤ 0xDF then some (1, 0x80, 0xBF)
  else if b = 0xE0 then some (2, 0xA0, 0xBF)
  else if b = 0xED then some (2, 0x80, 0x9F)
  else if 0xE1 ≤ b ∧ b ≤ 0xEF then some (2, 0x80, 0xBF)
  else if b = 0xF0 then some (3, 0x90, 0xBF)
  else if 0xF1 ≤ b ∧ b ≤ 0xF3 then some (3, 0x80, 0xBF)
  else if b = 0xF4 then some (3, 0x80, 0x8F)
  else none

/-- Reads continuation bytes, the next of which lies between `low` and `high`. -/
def continuation (value length : Nat) : (remaining low high : Nat) → List UInt8 → Step
  | 0, _, _, _ => .char (Char.ofNat value) length
  | _ + 1, _, _, [] => .bad length .endOfData
  | remaining + 1, low, high, b :: rest =>
    if low ≤ b.toNat ∧ b.toNat ≤ high then
      continuation (64 * value + b.toNat % 64) (length + 1) remaining 0x80 0xBF rest
    else .bad length .invalidContinuation

/-- The significant bits of a first byte with a number of bytes after it. -/
def leading (b following : Nat) : Nat :=
  b % Nat.pow 2 (6 - following)

def step (b : UInt8) (rest : List UInt8) : Step :=
  if b.toNat < 0x80 then .char (Char.ofNat b.toNat) 1
  else
    match shape? b.toNat with
    | none => .bad 1 .invalidStart
    | some (following, low, high) =>
      continuation (leading b.toNat following) 1 following low high rest

/-- Decodes bytes, the first few of which are skipped; the text read so far is latest first. -/
def replacingFrom : (skip : Nat) → (read : List Char) → List UInt8 → List Char
  | _, read, [] => read.reverse
  | skip + 1, read, _ :: rest => replacingFrom skip read rest
  | 0, read, b :: rest =>
    match step b rest with
    | .char c length => replacingFrom (length - 1) (c :: read) rest
    | .bad length _ => replacingFrom (length - 1) (Char.ofNat 0xFFFD :: read) rest

/-- The first fault, after skipping some bytes. -/
def faultFrom? : (offset skip : Nat) → List UInt8 → Option Fault
  | _, _, [] => none
  | offset, skip + 1, _ :: rest => faultFrom? (offset + 1) skip rest
  | offset, 0, b :: rest =>
    match step b rest with
    | .char _ length => faultFrom? (offset + 1) (length - 1) rest
    | .bad length reason => some ⟨offset, length, b, reason⟩

/-- Decodes all bytes, replacing what is invalid. -/
def replacing (bytes : List UInt8) : List Char :=
  replacingFrom 0 [] bytes

/-- Decodes valid bytes, or reports the first fault. -/
def decode (bytes : List UInt8) : Except Fault (List Char) :=
  match faultFrom? 0 0 bytes with
  | some fault => .error fault
  | none => .ok (replacing bytes)

def encode (s : List Char) : List UInt8 :=
  s.flatMap String.utf8EncodeChar

/-- Line ends of all kinds as line feeds: a carriage return counts as one unless a line feed follows
it. -/
def unifyLineEnds (s : List Char) : List Char :=
  (s.foldr
    (fun c (out, beforeFeed) =>
      if c = '\r' then (if beforeFeed then out else '\n' :: out, false)
      else (c :: out, c == '\n'))
    ([], false)).1

end TypeLineage.Utf8
