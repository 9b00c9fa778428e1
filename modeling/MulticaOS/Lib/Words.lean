import Mathlib

/-!
Machine words of 32 bits as JavaScript keeps them, in signed numbers, and as `UInt32` does.
-/

namespace WordLib

def toInt32 (number : Int) : Int := number.bmod (2 ^ 32)

def xor32 (left right : Int) : Int := (BitVec.ofInt 32 left ^^^ BitVec.ofInt 32 right).toInt

def imul (left right : Int) : Int := toInt32 (toInt32 left * toInt32 right)

def toUint32 (number : Int) : Nat := (BitVec.ofInt 32 number).toNat

def SameBits (number : Int) (word : UInt32) : Prop := BitVec.ofInt 32 number = word.toBitVec

@[simp] theorem ofInt_toInt32 (number : Int) :
    BitVec.ofInt 32 (toInt32 number) = BitVec.ofInt 32 number := by
  have wrapped : toInt32 number = (BitVec.ofInt 32 number).toInt := (BitVec.toInt_ofInt number).symm
  rw [wrapped, BitVec.ofInt_toInt]

theorem SameBits.xor32 {left right : Int} {first second : UInt32} (one : SameBits left first)
    (two : SameBits right second) : SameBits (xor32 left right) (first ^^^ second) := by
  rw [SameBits, WordLib.xor32, BitVec.ofInt_toInt, one, two, UInt32.toBitVec_xor]

theorem SameBits.imul {left right : Int} {first second : UInt32} (one : SameBits left first)
    (two : SameBits right second) : SameBits (imul left right) (first * second) := by
  rw [SameBits, WordLib.imul, ofInt_toInt32, BitVec.ofInt_mul, ofInt_toInt32, ofInt_toInt32, one, two,
    UInt32.toBitVec_mul]

theorem SameBits.toUint32 {number : Int} {word : UInt32} (same : SameBits number word) :
    toUint32 number = word.toNat := by
  rw [WordLib.toUint32, same]
  rfl

theorem sameBits_byte (byte : UInt8) : SameBits (byte.toNat : Int) byte.toUInt32 := by
  rw [SameBits, BitVec.ofInt_natCast]
  apply BitVec.eq_of_toNat_eq
  have small := byte.toNat_lt
  simp only [BitVec.toNat_ofNat, UInt32.toNat_toBitVec, UInt8.toNat_toUInt32]
  omega

end WordLib
