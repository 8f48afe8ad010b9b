import InterruptControl.Program
import Std.Data.HashMap
import Std.Data.TreeMap

/-!
A machine without a controller: bytes of memory and system registers that keep what was
written, and are zero before.
-/

namespace InterruptControl.Bus

structure Memory where
  bytes : Std.TreeMap Nat (BitVec 8) := {}
  system : Std.HashMap SystemRegister (BitVec 64) := {}

namespace Memory

def byte (m : Memory) (address : Nat) : BitVec 8 := (m.bytes[address]?).getD 0

/-- `n` bytes from `address` on, the lowest first. -/
def load (m : Memory) (address : Nat) : (n : Nat) → Nat
  | 0 => 0
  | n + 1 => (m.byte address).toNat + 256 * m.load (address + 1) n

def store (m : Memory) (address : Nat) : (n value : Nat) → Memory
  | 0, _ => m
  | n + 1, value =>
    { m with bytes := m.bytes.insert address (BitVec.ofNat 8 value) }.store (address + 1) n
      (value / 256)

def read (m : Memory) (address : Nat) (w : Width) : BitVec w.bits :=
  BitVec.ofNat w.bits (m.load address w.bytes)

def write (m : Memory) (address : Nat) (w : Width) (v : BitVec w.bits) : Memory :=
  m.store address w.bytes v.toNat

def readSystem (m : Memory) (r : SystemRegister) : BitVec 64 := (m.system[r]?).getD 0

def writeSystem (m : Memory) (r : SystemRegister) (v : BitVec 64) : Memory :=
  { m with system := m.system.insert r v }

end Memory

end InterruptControl.Bus
