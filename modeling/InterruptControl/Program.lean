import InterruptControl.Failure
import InterruptControl.Notice

/-!
Calls of the controller's software, as trees of requests to the machine below it.

A request is one register access, a barrier, or a notice; the call goes on with the answer.
A device answers requests, and `run` performs a call on a device. Nothing a device did
before a failure is undone.
-/

namespace InterruptControl

/-- The sizes of a register access. -/
inductive Width where
  | byte
  | word
  | doubleword
deriving DecidableEq, Repr

namespace Width

def bytes : Width → Nat
  | byte => 1
  | word => 4
  | doubleword => 8

abbrev bits : Width → Nat
  | byte => 8
  | word => 32
  | doubleword => 64

end Width

/-- Addresses have 64 bits. -/
def wrapAddress (a : Nat) : Nat := a % 0x10000000000000000

/-- The registers of a core that the controller's software uses. -/
inductive SystemRegister where
  | coreAffinity
  | systemEnable
  | control
  | priorityMask
  | binaryPoint1
  | runningPriority
  | groupEnable0
  | groupEnable1
  | acknowledge1
  | endOfInterrupt1
  | deactivate
  | highestPending1
  | softwareInterrupt1
deriving DecidableEq, Repr, Hashable

namespace SystemRegister

def name : SystemRegister → String
  | coreAffinity => "MPIDR_EL1"
  | systemEnable => "ICC_SRE_EL1"
  | control => "ICC_CTLR_EL1"
  | priorityMask => "ICC_PMR_EL1"
  | binaryPoint1 => "ICC_BPR1_EL1"
  | runningPriority => "ICC_RPR_EL1"
  | groupEnable0 => "ICC_IGRPEN0_EL1"
  | groupEnable1 => "ICC_IGRPEN1_EL1"
  | acknowledge1 => "ICC_IAR1_EL1"
  | endOfInterrupt1 => "ICC_EOIR1_EL1"
  | deactivate => "ICC_DIR_EL1"
  | highestPending1 => "ICC_HPPIR1_EL1"
  | softwareInterrupt1 => "ICC_SGI1R_EL1"

def all : List SystemRegister :=
  [coreAffinity, systemEnable, control, priorityMask, binaryPoint1, runningPriority,
    groupEnable0, groupEnable1, acknowledge1, endOfInterrupt1, deactivate, highestPending1,
    softwareInterrupt1]

def byName? (s : String) : Option SystemRegister := all.find? (·.name == s)

end SystemRegister

inductive Request where
  | read (w : Width) (address : Nat)
  | write (w : Width) (address : Nat) (value : BitVec w.bits)
  | readSystem (r : SystemRegister)
  | writeSystem (r : SystemRegister) (value : BitVec 64)
  | barrier
  | notify (n : Notice)

/-- What a request is answered with. -/
abbrev Request.Answer : Request → Type
  | read w _ => BitVec w.bits
  | readSystem _ => BitVec 64
  | write .. | writeSystem .. | barrier | notify _ => Unit

inductive Program (α : Type) where
  | done (a : α)
  | fail (f : Failure)
  | ask (q : Request) (k : q.Answer → Program α)

namespace Program

variable {α β : Type}

def bind : Program α → (α → Program β) → Program β
  | done a, f => f a
  | fail e, _ => fail e
  | ask q k, f => ask q fun v => (k v).bind f

instance : Monad Program where
  pure := done
  bind := bind

/-- One request, and its answer as the result. -/
def request (q : Request) : Program q.Answer := ask q done

def read (w : Width) (address : Nat) : Program (BitVec w.bits) := request (.read w address)

def write (w : Width) (address : Nat) (value : BitVec w.bits) : Program Unit :=
  request (.write w address value)

def read8 (address : Nat) : Program (BitVec 8) := read .byte address
def read32 (address : Nat) : Program (BitVec 32) := read .word address
def read64 (address : Nat) : Program (BitVec 64) := read .doubleword address
def write8 (address : Nat) (value : BitVec 8) : Program Unit := write .byte address value
def write32 (address : Nat) (value : BitVec 32) : Program Unit := write .word address value
def write64 (address : Nat) (value : BitVec 64) : Program Unit := write .doubleword address value

def readSystem (r : SystemRegister) : Program (BitVec 64) := request (.readSystem r)
def writeSystem (r : SystemRegister) (value : BitVec 64) : Program Unit :=
  request (.writeSystem r value)

def barrier : Program Unit := request .barrier

def notify (n : Notice) : Program Unit := request (.notify n)

/-- The caller has to make sure of `b`. -/
def require (b : Bool) : Program Unit := if b then done () else fail .assertion

/-- The caller has to make sure that there is a value. -/
def expect : Option α → Program α
  | some a => done a
  | none => fail .assertion

/-- A refusal is not acceptable here. -/
def insist : Except Refusal α → Program α
  | .ok a => done a
  | .error r => fail (.refused r)

end Program

/-- Something that answers requests, with states `σ`. -/
abbrev Device (σ : Type) := σ → (q : Request) → Except Failure q.Answer × σ

namespace Program

variable {α β σ : Type}

def run (d : Device σ) : Program α → σ → Except Failure α × σ
  | done a, s => (.ok a, s)
  | fail e, s => (.error e, s)
  | ask q k, s =>
    match d s q with
    | (.ok v, s') => (k v).run d s'
    | (.error e, s') => (.error e, s')

@[simp] theorem run_done (d : Device σ) (a : α) (s : σ) : (done a).run d s = (.ok a, s) := rfl

@[simp] theorem run_fail (d : Device σ) (e : Failure) (s : σ) :
    (fail e : Program α).run d s = (.error e, s) := rfl

theorem run_ask (d : Device σ) (q : Request) (k : q.Answer → Program α) (s : σ) :
    (ask q k).run d s =
      match d s q with
      | (.ok v, s') => (k v).run d s'
      | (.error e, s') => (.error e, s') := by
  rw [run]

theorem run_bind (d : Device σ) (p : Program α) (f : α → Program β) (s : σ) :
    (p >>= f).run d s =
      match p.run d s with
      | (.ok a, s') => (f a).run d s'
      | (.error e, s') => (.error e, s') := by
  induction p generalizing s with
  | done a => rfl
  | fail e => rfl
  | ask q k ih =>
    show (ask q fun v => (k v).bind f).run d s = _
    rw [run_ask, run_ask]
    split <;> rename_i h
    · exact ih _ _
    · rfl

end Program

end InterruptControl
