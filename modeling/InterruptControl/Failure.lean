import InterruptControl.Affinity
import InterruptControl.Text.Hex

/-!
What can go wrong. A refusal is an answer to the caller, who goes on; a failure ends the
call at once.
-/

namespace InterruptControl

/-- The classes that refusals fall into. -/
inductive Refusal.Code where
  | responseTimeout
  | badParameters
  | notInitialized
  | cantRepeat
  | notSupported
  | invalidFormat
  | notFound
deriving DecidableEq, Repr

def Refusal.Code.name : Refusal.Code → String
  | responseTimeout => "ResponseTimeout"
  | badParameters => "BadParameters"
  | notInitialized => "NotInitialized"
  | cantRepeat => "CantRepeat"
  | notSupported => "NotSupported"
  | invalidFormat => "InvalidFormat"
  | notFound => "NotFound"

/-- Why a call was turned down. -/
inductive Refusal where
  | timeout
  | idOutOfRange
  | tooFewCells
  | cellType
  | missingSense
  | sense
  | bankedRepeated
  | bankedNotReady
  | routedRepeated
  | routedNotReady
  | unknownVersion
  | noPhysicalLpis
  | noRedistributor
deriving DecidableEq, Repr

namespace Refusal

def code : Refusal → Code
  | timeout => .responseTimeout
  | idOutOfRange | tooFewCells => .badParameters
  | cellType | missingSense | sense => .invalidFormat
  | bankedRepeated | routedRepeated => .cantRepeat
  | bankedNotReady | routedNotReady => .notInitialized
  | unknownVersion | noPhysicalLpis => .notSupported
  | noRedistributor => .notFound

def message : Refusal → String
  | timeout => "Device did not response in time"
  | idOutOfRange => "Interrupt id is outside of every architectural range"
  | tooFewCells => "Invalid IRQ configuration: need at least 3 parameters"
  | cellType => "Invalid IRQ type"
  | missingSense => "IRQ_TYPE_NONE is not allowed for IRQ type"
  | sense => "Invalid IRQ trigger type"
  | bankedRepeated => "GICv2 distributor was already initialized"
  | bankedNotReady => "GICv2 per-core init requires the distributor to be initialized first"
  | routedRepeated => "GICv3 distributor was already initialized"
  | routedNotReady => "GICv3 per-core init requires the distributor to be initialized first"
  | unknownVersion => "Unknown GIC architecture version"
  | noPhysicalLpis => "Redistributor does not support physical LPIs"
  | noRedistributor => "No redistributor matches the requested affinity"

/-- No refusal carries a code of the device itself. -/
def deviceCode : Refusal → Nat := fun _ => 0

end Refusal

/-- What the hardware does not put up with. The number is the core or the interrupt. -/
inductive Fault where
  | noSuchCpu (cpu : Nat)
  | raiseUnimplemented (id : Nat)
  | raiseUnimplementedLpi (id : Nat)
  | queryUnimplemented (id : Nat)
  | endOfSpecial (id : Nat)
  | endOfIdle (id : Nat)
  | deactivateSpecial (id : Nat)
  | deactivateLpi (id : Nat)
deriving DecidableEq, Repr

namespace Fault

def text : Fault → String
  | noSuchCpu _ => "no such cpu"
  | raiseUnimplemented _ => "raising an interrupt that is not implemented"
  | raiseUnimplementedLpi _ => "raising an LPI that is not implemented"
  | queryUnimplemented _ => "querying an interrupt that is not implemented"
  | endOfSpecial _ => "EOI of a special INTID"
  | endOfIdle _ => "EOI of an interrupt that was not acknowledged"
  | deactivateSpecial _ => "deactivation of a special INTID"
  | deactivateLpi _ => "deactivation of an LPI"

def value : Fault → Nat
  | noSuchCpu n | raiseUnimplemented n | raiseUnimplementedLpi n | queryUnimplemented n
  | endOfSpecial n | endOfIdle n | deactivateSpecial n | deactivateLpi n => n

def message (f : Fault) : String := f.text ++ " (" ++ Text.hexInMessage f.value ++ ")"

end Fault

/-- Why a call ended before it could answer. -/
inductive Failure where
  /-- The caller broke a rule of the operation. -/
  | assertion
  /-- A handler was installed for a number that cannot have one. -/
  | noHandlerSlot (id : Nat)
  /-- No redistributor reports the affinity of a core. -/
  | noRedistributor (a : Affinity)
  /-- A step that has to succeed was refused. -/
  | refused (r : Refusal)
  | fault (f : Fault)
  /-- The hardware was asked about a core that it does not have. -/
  | noSuchCore
  /-- Nothing answers at the address. -/
  | unmapped (address : Nat)
  /-- A loop used up its bound. -/
  | endless
deriving DecidableEq, Repr

namespace Failure

def kind : Failure → String
  | assertion => "assertion"
  | noHandlerSlot _ | noRedistributor _ => "panic"
  | refused _ => "must"
  | fault _ => "fault"
  | noSuchCore => "out_of_range"
  | unmapped _ => "bus"
  | endless => "endless"

def message? : Failure → Option String
  | noHandlerSlot id => some s!"interrupt {id} cannot have a handler"
  | noRedistributor a =>
    let core := ".".intercalate (a.levels.reverse.map toString)
    some s!"no redistributor for this core (affinity {core})"
  | refused r =>
    let device := toString r.deviceCode ++ " (" ++ Text.hexDigits r.deviceCode ++ ")"
    some (" / ".intercalate [r.code.name, device, r.message])
  | fault f => some f.message
  | unmapped address => some (Text.hex address)
  | assertion | noSuchCore | endless => none

end Failure

end InterruptControl
