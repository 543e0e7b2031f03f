/-!
# Bytes in sixty-four signs

Four signs of six bits each stand for three bytes; one or two padding signs
fill up the last four. Other characters are passed over.
-/

namespace CommitLint.Yaml.Base64

def signValue? (c : Char) : Option Nat :=
  let code := c.toNat
  if 65 ≤ code && code ≤ 90 then some (code - 65)
  else if 97 ≤ code && code ≤ 122 then some (code - 71)
  else if 48 ≤ code && code ≤ 57 then some (code + 4)
  else if c == '+' then some 62
  else if c == '/' then some 63
  else none

/-- Take signs: `held` is the value of the `count` signs of this group, `pads` counts the
padding. -/
def decodeFrom (count held pads : Nat) : List Char → Option (List UInt8)
  | [] => if count = 0 then some [] else none
  | c :: rest =>
      if c == '=' then
        if 2 ≤ count && 4 ≤ count + pads + 1 then some []
        else decodeFrom count held (if 2 ≤ count then pads + 1 else pads) rest
      else
        match signValue? c with
        | none => decodeFrom count held pads rest
        | some value =>
            let byte (code : Nat) : Option (List UInt8) → Option (List UInt8) :=
              Option.map (code.toUInt8 :: ·)
            match count with
            | 0 => decodeFrom 1 value 0 rest
            | 1 => byte (held * 4 + value / 16) (decodeFrom 2 (value % 16) 0 rest)
            | 2 => byte (held * 16 + value / 4) (decodeFrom 3 (value % 4) 0 rest)
            | _ => byte (held * 64 + value) (decodeFrom 0 0 0 rest)

/-- The bytes of a text of the basic alphabet. -/
def decode (text : List Char) : Option (List UInt8) :=
  if text.all fun c => c.toNat < 128 then decodeFrom 0 0 0 text else none

end CommitLint.Yaml.Base64
