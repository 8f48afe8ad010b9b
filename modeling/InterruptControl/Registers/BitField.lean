/-!
Bit fields of registers: `width` bits from bit `offset` of a register of `w` bits.

A field lies inside its register and is not empty, so no shift below reaches the width of
the register.
-/

namespace InterruptControl

structure BitField (w : Nat) where
  offset : Nat
  width : Nat
  width_pos : 0 < width
  fits : offset + width ≤ w
deriving DecidableEq

namespace BitField

variable {w : Nat}

/-- The field of `width` bits from bit `offset`. -/
def of (offset width : Nat) (width_pos : 0 < width := by decide)
    (fits : offset + width ≤ w := by decide) : BitField w :=
  ⟨offset, width, width_pos, fits⟩

/-- The field of one bit. -/
def bit (offset : Nat) (fits : offset + 1 ≤ w := by decide) : BitField w :=
  ⟨offset, 1, Nat.one_pos, fits⟩

def mask (f : BitField w) : BitVec w := (BitVec.allOnes f.width).setWidth w <<< f.offset

def get (f : BitField w) (r : BitVec w) : BitVec w := (r &&& f.mask) >>> f.offset

def isSet (f : BitField w) (r : BitVec w) : Bool := r &&& f.mask != 0

/-- A register whose field holds the low bits of `v` and whose other bits are zero. -/
def val (f : BitField w) (v : BitVec w) : BitVec w := (v <<< f.offset) &&& f.mask

def set (f : BitField w) (r v : BitVec w) : BitVec w := (r &&& ~~~f.mask) ||| f.val v

def clear (f : BitField w) (r : BitVec w) : BitVec w := r &&& ~~~f.mask

theorem offset_lt (f : BitField w) : f.offset < w := by
  have := f.width_pos
  have := f.fits
  omega

end BitField

end InterruptControl
