import InterruptControl.Bus.Memory
import InterruptControl.Hardware.CpuInterface
import InterruptControl.Hardware.Events
import InterruptControl.Hardware.Redistributor

/-!
The board that the software runs on: a controller, or plain memory in its place, seen
through windows at fixed addresses. Only the first byte of an access has to lie in a window.
-/

namespace InterruptControl.Bus

/-- The blocks of registers, each behind a window. -/
inductive Region where
  | distributor
  | interface
  | redistributors
deriving DecidableEq, Repr

namespace Region

def name : Region → String
  | distributor => "D"
  | interface => "C"
  | redistributors => "R"

def base : Region → Nat
  | distributor => 0x08000000
  | interface => 0x08010000
  | redistributors => 0x080a0000

def all : List Region := [distributor, interface, redistributors]

end Region

inductive Board where
  | memory (m : Memory)
  | controller (s : Hardware.State)

namespace Board

/-- How much of a region there is. -/
def extent : Board → Region → Nat
  | _, .distributor => 0x10000
  | memory _, .interface => 0x2000
  | memory _, .redistributors => 0x09000000 - 0x080a0000
  | controller s, .interface => if s.isRouted then 0 else 0x2000
  | controller s, .redistributors =>
    if s.isRouted then s.options.cpus * s.options.stride else 0

/-- Where software looks for the registers of a core that come next to the distributor,
unless it is told otherwise: a CPU interface if there is a GICv2, redistributors if not. -/
def coreRegion : Board → Region
  | memory _ => .redistributors
  | controller s => if s.isRouted then .redistributors else .interface

/-- The region behind an address, and the offset in it. -/
def decode (b : Board) (address : Nat) : Option (Region × Nat) :=
  let a := wrapAddress address
  (Region.all.find? fun r => decide (r.base ≤ a) && decide (a < r.base + b.extent r)).map
    fun r => (r, a - r.base)

def readRegion (s : Hardware.State) (r : Region) (offset : Nat) (w : Width) :
    BitVec w.bits × Hardware.State :=
  match r with
  | .distributor => (s.readDistributor offset w, s)
  | .interface => s.readInterface offset w
  | .redistributors => (s.readRedistributor offset w, s)

def writeRegion (s : Hardware.State) (r : Region) (offset : Nat) (w : Width)
    (v : BitVec w.bits) : Except Fault Hardware.State :=
  match r with
  | .distributor => .ok (s.writeDistributor offset w v)
  | .interface => s.writeInterface offset (v.setWidth 32)
  | .redistributors => .ok (s.writeRedistributor offset w v)

def read (b : Board) (r : Region) (offset : Nat) (w : Width) : BitVec w.bits × Board :=
  match b with
  | memory m => (m.read (r.base + offset) w, b)
  | controller s =>
    let (v, s) := readRegion s r offset w
    (v, controller s)

def write (b : Board) (r : Region) (offset : Nat) (w : Width) (v : BitVec w.bits) :
    Except Failure Board :=
  match b with
  | memory m => .ok (memory (m.write (r.base + offset) w v))
  | controller s => ((writeRegion s r offset w v).map controller).mapError .fault

def readSystem (b : Board) (r : SystemRegister) : Except Failure (BitVec 64) × Board :=
  match b with
  | memory m => (.ok (m.readSystem r), b)
  | controller s =>
    let (v, s) := s.readSystem r
    (v, controller s)

def writeSystem (b : Board) (r : SystemRegister) (v : BitVec 64) : Except Failure Board :=
  match b with
  | memory m => .ok (memory (m.writeSystem r v))
  | controller s => (s.writeSystem r v).map controller

/-- The board as a device. Barriers and notices change nothing. -/
def answer : Device Board := fun b q =>
  match q with
  | .read w address =>
    match b.decode address with
    | none => (.error (.unmapped (wrapAddress address)), b)
    | some (r, offset) =>
      let (v, b) := b.read r offset w
      (.ok v, b)
  | .write w address v =>
    match b.decode address with
    | none => (.error (.unmapped (wrapAddress address)), b)
    | some (r, offset) =>
      match b.write r offset w v with
      | .ok b => (.ok (), b)
      | .error e => (.error e, b)
  | .readSystem r => b.readSystem r
  | .writeSystem r v =>
    match b.writeSystem r v with
    | .ok b => (.ok (), b)
    | .error e => (.error e, b)
  | .barrier | .notify _ => (.ok (), b)

/-- The controller of the board; without one, it is as if nothing were built in. -/
def hardware : Board → Hardware.State
  | memory _ => .reset .absent
  | controller s => s

/-- Puts a changed controller back in place. -/
def setHardware : Board → Hardware.State → Board
  | memory m, _ => memory m
  | controller _, s => controller s

end Board

end InterruptControl.Bus
