/-!
Bytes as text. Where they are no UTF-8, each longest beginning of a character that is not completed,
or else a single byte, is shown as the replacement character.
-/
set_option autoImplicit false

namespace RuleMatrix.Text

def replacement : Char := '\uFFFD'

-- The bits that a first byte gives to its character, and the least and greatest value of each byte
-- that has to follow.
def opening (byte : UInt8) : Nat × List (UInt8 × UInt8) :=
  let tail := (0x80, 0xBF)
  if byte < 0xC2 ∨ 0xF4 < byte then (0, [])
  else if byte < 0xE0 then (byte.toNat % 32, [tail])
  else if byte = 0xE0 then (0, [(0xA0, 0xBF), tail])
  else if byte = 0xED then (13, [(0x80, 0x9F), tail])
  else if byte < 0xF0 then (byte.toNat % 16, [tail, tail])
  else if byte = 0xF0 then (0, [(0x90, 0xBF), tail, tail])
  else if byte = 0xF4 then (4, [(0x80, 0x8F), tail, tail])
  else (byte.toNat % 8, [tail, tail, tail])

def lossyFrom (bits : Nat) (waiting : List (UInt8 × UInt8)) : List UInt8 → List Char
  | [] => if waiting.isEmpty then [] else [replacement]
  | byte :: rest =>
      let fresh :=
        if byte < 0x80 then Char.ofNat byte.toNat :: lossyFrom 0 [] rest
        else match opening byte with
          | (_, []) => replacement :: lossyFrom 0 [] rest
          | (bits, asked) => lossyFrom bits asked rest
      match waiting with
      | [] => fresh
      | (least, greatest) :: others =>
          let bits := 64 * bits + byte.toNat % 64
          if byte < least ∨ greatest < byte then replacement :: fresh
          else if others.isEmpty then Char.ofNat bits :: lossyFrom 0 [] rest
          else lossyFrom bits others rest

def lossy (bytes : ByteArray) : String := String.ofList (lossyFrom 0 [] bytes.data.toList)

end RuleMatrix.Text
