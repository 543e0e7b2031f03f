/-!
# Bytes and characters

A text is stored as bytes: each character by one to four of them, of which
only the first is below 128 or above 191. Reading takes one character at a
time; at bytes that no character is written by, the strict reading stops
with the fault and the lenient one puts a replacement character and goes on.
-/

namespace CommitLint.Text

namespace Utf8

abbrev Bytes := List UInt8

def encodeChar (c : Char) : Bytes :=
  let code := c.toNat
  if code < 0x80 then [code.toUInt8]
  else if code < 0x800 then [(0xC0 + code / 64).toUInt8, (0x80 + code % 64).toUInt8]
  else if code < 0x10000 then
    [(0xE0 + code / 4096).toUInt8, (0x80 + code / 64 % 64).toUInt8, (0x80 + code % 64).toUInt8]
  else
    [(0xF0 + code / 262144).toUInt8, (0x80 + code / 4096 % 64).toUInt8,
      (0x80 + code / 64 % 64).toUInt8, (0x80 + code % 64).toUInt8]

def encode (text : List Char) : Bytes :=
  text.flatMap encodeChar

theorem encode_append (first second : List Char) :
    encode (first ++ second) = encode first ++ encode second := by
  simp [encode]

/-- Why no character can be read. -/
inductive Reason where
  | invalidStart
  | invalidContinuation
  | truncated
deriving DecidableEq, Repr

/-- What stands at the front of some bytes: a character, or bytes to be given up, with their
number. -/
inductive Front where
  | char (c : Char) (width : Nat)
  | fault (reason : Reason) (width : Nat)

def isContinuation (byte : UInt8) : Bool :=
  0x80 ≤ byte && byte < 0xC0

def low (byte : UInt8) : Nat :=
  byte.toNat % 64

/-- Whether `second` may follow `lead`: neither an overlong form, nor a surrogate, nor beyond the
last plane. -/
def mayFollow (lead second : UInt8) : Bool :=
  isContinuation second &&
    !(lead == 0xE0 && second < 0xA0) && !(lead == 0xED && 0xA0 ≤ second) &&
    !(lead == 0xF0 && second < 0x90) && !(lead == 0xF4 && 0x90 ≤ second)

/-- The first character of nonempty bytes `lead :: rest`, or the fault there. -/
def front (lead : UInt8) (rest : Bytes) : Front :=
  if lead < 0x80 then .char (Char.ofNat lead.toNat) 1
  else if lead < 0xC2 then .fault .invalidStart 1
  else if lead < 0xE0 then
    match rest with
    | [] => .fault .truncated 1
    | second :: _ =>
        if isContinuation second then .char (Char.ofNat ((lead.toNat - 0xC0) * 64 + low second)) 2
        else .fault .invalidContinuation 1
  else if lead < 0xF0 then
    match rest with
    | [] => .fault .truncated 1
    | [second] =>
        if mayFollow lead second then .fault .truncated 2 else .fault .invalidContinuation 1
    | second :: third :: _ =>
        if !mayFollow lead second then .fault .invalidContinuation 1
        else if !isContinuation third then .fault .invalidContinuation 2
        else .char (Char.ofNat ((lead.toNat - 0xE0) * 4096 + low second * 64 + low third)) 3
  else if lead < 0xF5 then
    match rest with
    | [] => .fault .truncated 1
    | [second] =>
        if mayFollow lead second then .fault .truncated 2 else .fault .invalidContinuation 1
    | [second, third] =>
        if !mayFollow lead second then .fault .invalidContinuation 1
        else if !isContinuation third then .fault .invalidContinuation 2
        else .fault .truncated 3
    | second :: third :: fourth :: _ =>
        if !mayFollow lead second then .fault .invalidContinuation 1
        else if !isContinuation third then .fault .invalidContinuation 2
        else if !isContinuation fourth then .fault .invalidContinuation 3
        else
          .char (Char.ofNat ((lead.toNat - 0xF0) * 262144 + low second * 4096 + low third * 64 +
            low fourth)) 4
  else .fault .invalidStart 1

/-- Where a reading failed, and the bytes that it failed on. -/
structure Fault where
  reason : Reason
  position : Nat
  bytes : Bytes
deriving DecidableEq, Repr

/-- Read bytes from `position` of the whole on; the step past the front takes at least one byte. -/
def decodeFrom (position : Nat) : Bytes → Except Fault (List Char)
  | [] => .ok []
  | lead :: rest =>
      match front lead rest with
      | .char c width => do
          let tail ← decodeFrom (position + width) (rest.drop (width - 1))
          return c :: tail
      | .fault reason width => .error ⟨reason, position, (lead :: rest).take width⟩
termination_by bytes => bytes.length
decreasing_by simp only [List.length_drop, List.length_cons]; omega

def decode (bytes : Bytes) : Except Fault (List Char) :=
  decodeFrom 0 bytes

/-- Every fault becomes one replacement character. -/
def decodeLossy : Bytes → List Char
  | [] => []
  | lead :: rest =>
      match front lead rest with
      | .char c width => c :: decodeLossy (rest.drop (width - 1))
      | .fault _ width => Char.ofNat 0xFFFD :: decodeLossy (rest.drop (width - 1))
termination_by bytes => bytes.length
decreasing_by all_goals simp only [List.length_drop, List.length_cons]; omega

end Utf8

end CommitLint.Text
