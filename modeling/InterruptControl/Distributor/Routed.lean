import InterruptControl.Block
import InterruptControl.Registers.Fields
import InterruptControl.Retry

/-!
The distributor of a GICv3 or v4. It is in charge of the SPIs and, where there are any, of
the extended SPIs; private interrupts belong to the redistributors.

What the bits of its control register mean depends on the security state that the software
runs in, which is found by a probe of a register that only the secure state can change.
-/

namespace InterruptControl.Routed

open Program

/-- The security state that the registers are seen from, or the only one there is. -/
inductive SecurityState where
  | single
  | secure
  | nonSecure
deriving DecidableEq, Repr

def SecurityState.name : SecurityState → String
  | single => "single"
  | secure => "secure"
  | nonSecure => "non-secure"

/-- The first number past the SPIs. -/
def idLimit : Nat := 1020

structure Distributor where
  base : Nat
  security : SecurityState := .nonSecure
deriving DecidableEq, Repr

/-- What the distributor tells about itself. -/
structure Status where
  security : SecurityState
  securityExtension : Bool
  lines : Nat
  cpus : Nat
  /-- One past the largest number. -/
  idLimit : Nat
  lpis : Bool
  messageBased : Bool
  nonMaskable : Bool
  extendedSpi : Bool
  extendedSpiCount : Nat
  routingSecure : Bool
  routingNonSecure : Bool
deriving DecidableEq, Repr

namespace Distributor

def controlAddress (d : Distributor) : Nat := d.base
def typeAddress (d : Distributor) : Nat := d.base + 0x4
def identityAddress (d : Distributor) : Nat := d.base + 0x8
def setPendingAddress (d : Distributor) : Nat := d.base + 0x40
def clearPendingAddress (d : Distributor) : Nat := d.base + 0x48
def probeAddress (d : Distributor) : Nat := d.base + 0xe00
def revisionAddress (d : Distributor) : Nat := d.base + 0xffe8

def layout (d : Distributor) : Layout := .ordinary d.base 32 64
def extendedLayout (d : Distributor) : Layout := .extended d.base

/-! ### Security and group control -/

def probeValue : BitVec 32 := 2

/-- The probe puts the old value back. -/
def detectSecurity (d : Distributor) : Program SecurityState := do
  let control ← read32 d.controlAddress
  if DistributorControl.disableSecurity.isSet control then pure .single
  else do
    let old ← read32 d.probeAddress
    write32 d.probeAddress probeValue
    let seen ← read32 d.probeAddress
    write32 d.probeAddress old
    pure (if seen = probeValue then .secure else .nonSecure)

/-- The bits of the control register that enable groups. -/
def groupEnables : SecurityState → BitVec 32
  | .single => SingleControl.enableGroup0.mask ||| SingleControl.enableGroup1.mask
  | .nonSecure => NonSecureControl.enableGroup1.mask ||| NonSecureControl.enableGroup1Routed.mask
  | .secure =>
    SecureControl.enableGroup0.mask ||| SecureControl.enableGroup1NonSecure.mask
      ||| SecureControl.enableGroup1Secure.mask

/-- Group 1 and affinity routing. -/
def runningControl : SecurityState → BitVec 32
  | .single => SingleControl.enableGroup1.mask ||| SingleControl.routing.mask
  | .nonSecure =>
    NonSecureControl.enableGroup1.mask ||| NonSecureControl.enableGroup1Routed.mask
      ||| NonSecureControl.routing.mask
  | .secure =>
    SecureControl.enableGroup1NonSecure.mask ||| SecureControl.routingSecure.mask
      ||| SecureControl.routingNonSecure.mask

/-- Affinity routing stays as it is. -/
def disableGroups (d : Distributor) : Program Unit := do
  let control ← read32 d.controlAddress
  write32 d.controlAddress (control &&& ~~~groupEnables d.security)

def enableGroups (d : Distributor) : Program Unit :=
  write32 d.controlAddress (runningControl d.security)

def maxPolls : Nat := 10000

/-- No write to the distributor is still on its way. -/
def isSettled (d : Distributor) : Program Bool := do
  let control ← read32 d.controlAddress
  pure !DistributorControl.writePending.isSet control

def settle (d : Distributor) : Program (Except Refusal Unit) := do
  let r ← retry d.isSettled maxPolls
  match r with
  | .ok () => pure r
  | .error _ => do
    notify .distributorTimeout
    pure r

/-! ### Identification -/

def linesOf (type : BitVec 32) : Nat :=
  min (((DistributorType.linesNumber.get type).toNat + 1) * 32) Routed.idLimit

def idLimitOf (type : BitVec 32) : Nat := 1 <<< ((DistributorType.idBits.get type).toNat + 1)

def extendedSpiCountOf (type : BitVec 32) : Nat :=
  if DistributorType.extendedSpi.isSet type then
    ((DistributorType.extendedSpiRange.get type).toNat + 1) * 32
  else 0

def lines (d : Distributor) : Program Nat := do
  let type ← read32 d.typeAddress
  pure (linesOf type)

def idLimit (d : Distributor) : Program Nat := do
  let type ← read32 d.typeAddress
  pure (idLimitOf type)

def hasExtendedSpi (d : Distributor) : Program Bool := do
  let type ← read32 d.typeAddress
  pure (DistributorType.extendedSpi.isSet type)

def extendedSpiCount (d : Distributor) : Program Nat := do
  let type ← read32 d.typeAddress
  pure (extendedSpiCountOf type)

def implementer (d : Distributor) : Program Nat := do
  let v ← read32 d.identityAddress
  pure (DistributorIdentity.implementer.get v).toNat

def architecture (d : Distributor) : Program Nat := do
  let v ← read32 d.revisionAddress
  pure (DistributorIdentity.architecture.get v).toNat

/-- Affinity routing as the secure and as the non-secure state see it. -/
def routing (control : BitVec 32) : SecurityState → Bool × Bool
  | .single => (SingleControl.routing.isSet control, SingleControl.routing.isSet control)
  | .secure =>
    (SecureControl.routingSecure.isSet control, SecureControl.routingNonSecure.isSet control)
  | .nonSecure => (false, NonSecureControl.routing.isSet control)

def status (d : Distributor) : Program Status := do
  let type ← read32 d.typeAddress
  let control ← read32 d.controlAddress
  pure {
    security := d.security
    securityExtension := DistributorType.securityExtension.isSet type
    lines := linesOf type
    cpus := (DistributorType.cpuNumber.get type).toNat + 1
    idLimit := idLimitOf type
    lpis := DistributorType.lpis.isSet type
    messageBased := DistributorType.messageBased.isSet type
    nonMaskable := DistributorType.nonMaskable.isSet type
    extendedSpi := DistributorType.extendedSpi.isSet type
    extendedSpiCount := extendedSpiCountOf type
    routingSecure := (routing control d.security).1
    routingNonSecure := (routing control d.security).2 }

/-! ### One interrupt -/

/-- Whether an interrupt is an extended SPI, and its index in the tables of its kind. -/
def place (d : Distributor) (id : IntId) : Program (Bool × Nat) :=
  if id.isExtendedSpi then do
    let count ← d.extendedSpiCount
    require (id.number - Category.extendedSpi.first < count)
    pure (true, id.number - Category.extendedSpi.first)
  else do
    require id.isSpi
    pure (false, id.number)

def block (d : Distributor) : Block where
  locate id := do
    let p ← d.place id
    pure ⟨if p.1 then d.extendedLayout else d.layout, p.2⟩

def routeAddress (d : Distributor) (id : IntId) : Program Nat := do
  let p ← d.place id
  pure (d.base + (if p.1 then 0x8000 else 0x6000) + 8 * p.2)

def setRoute (d : Distributor) (id : IntId) (a : Affinity) : Program Unit := do
  require !id.isPrivate
  let address ← d.routeAddress id
  write64 address a.toRoute

/-- Any core that takes part may serve the interrupt. -/
def setRouteAny (d : Distributor) (id : IntId) : Program Unit := do
  require !id.isPrivate
  let address ← d.routeAddress id
  write64 address Route.anyCore.mask

/-- Whether any core may serve the interrupt, and the core it goes to otherwise. -/
def route (d : Distributor) (id : IntId) : Program (Bool × Affinity) := do
  let address ← d.routeAddress id
  let v ← read64 address
  pure (Route.anyCore.isSet v, .ofRoute v)

/-- Sets an SPI pending by a message. -/
def signal (d : Distributor) (id : IntId) : Program Unit := do
  require (id.isSpi || id.isExtendedSpi)
  write32 d.setPendingAddress (messageId.val id.raw)

/-- Takes the message back. -/
def unsignal (d : Distributor) (id : IntId) : Program Unit := do
  require (id.isSpi || id.isExtendedSpi)
  write32 d.clearPendingAddress (messageId.val id.raw)

/-! ### All interrupts below a bound -/

def clearAll (d : Distributor) (f : Flag) (bound : BitVec 32) : Program Unit :=
  (d.layout.clearingTable f).fill bound (.allOnes 32)

def setGroup1All (d : Distributor) (bound : BitVec 32) : Program Unit :=
  (d.layout.plainTable .group1).fill bound (.allOnes 32)

def clearModifierAll (d : Distributor) (bound : BitVec 32) : Program Unit :=
  (d.layout.plainTable .groupModifier).fill bound 0

def setPriorityAll (d : Distributor) (bound : BitVec 32) (p : Priority) : Program Unit :=
  each (fun i => write8 (d.layout.priorities + i) p) 32 (min bound.toNat Routed.idLimit - 32)

/-- The first two words of triggers belong to the private interrupts. -/
def setLevelAll (d : Distributor) (bound : BitVec 32) : Program Unit :=
  d.layout.triggerTable.fillLevel 2 bound

/-- The extended SPIs: disabled, neither pending nor active, in the non-secure group 1,
level triggered, with the given priority. -/
def resetExtended (d : Distributor) (p : Priority) : Program Unit := do
  let count ← d.extendedSpiCount
  if count = 0 then pure ()
  else do
    let l := d.extendedLayout
    let bound := BitVec.ofNat 32 count
    (l.clearingTable .enabled).fill bound (.allOnes 32)
    (l.clearingTable .pending).fill bound (.allOnes 32)
    (l.clearingTable .active).fill bound (.allOnes 32)
    (l.plainTable .group1).fill bound (.allOnes 32)
    (l.plainTable .groupModifier).fill bound 0
    l.triggerTable.fillLevel 0 bound
    each (fun i => write8 (l.priorities + i) p) 0 (min count 1024)
    notify (.extendedSpisReset count)

end Distributor

end InterruptControl.Routed
