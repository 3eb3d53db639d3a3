import DeliveryCheck.Text.Hexadecimal

namespace DeliveryCheck

structure Uuid where
  bits : BitVec 128
deriving DecidableEq, Inhabited

namespace Uuid

def ofNat (n : Nat) : Uuid := ⟨BitVec.ofNat 128 n⟩

def nil : Uuid := ofNat 0

/-- The hexadecimal digit at a position counted from the least significant one. -/
def digitAt (id : Uuid) (position : Nat) : Nat := id.bits.toNat / Nat.pow 16 position % 16

def group (id : Uuid) (top : Nat) : (count : Nat) → List Char
  | 0 => []
  | count + 1 => Hexadecimal.digitChar (id.digitAt (top - 1)) :: group id (top - 1) count

def text (id : Uuid) : String :=
  String.ofList (id.group 32 8 ++ '-' :: id.group 24 4 ++ '-' :: id.group 20 4 ++ '-' ::
    id.group 16 4 ++ '-' :: id.group 12 12)

def version (id : Uuid) : Nat := id.digitAt 19

/-- A random identifier: version 4 and its variant written over the given bits. -/
def ofRandomBits (bits : BitVec 128) : Uuid :=
  let kept := bits &&& ~~~(BitVec.ofNat 128 0xf000c000000000000000)
  ⟨kept ||| BitVec.ofNat 128 0x40008000000000000000⟩

end Uuid

end DeliveryCheck
