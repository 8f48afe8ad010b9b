import InterruptControl.Registers.BitField

/-!
The fields of the controller's registers, by register.

`Banked` holds the layouts of a GICv2, `Routed` those of a GICv3 or v4. The distributor's
control register of the latter has three layouts: with a single security state, seen from
the secure state, and seen from the non-secure one.
-/

namespace InterruptControl.Banked

namespace DistributorControl
def enableGroup0 : BitField 32 := .bit 0
def enableGroup1 : BitField 32 := .bit 1
end DistributorControl

namespace DistributorType
def linesNumber : BitField 32 := .of 0 5
def cpuNumber : BitField 32 := .of 5 3
def securityExtension : BitField 32 := .bit 10
def lockableLines : BitField 32 := .of 11 5
end DistributorType

namespace DistributorIdentity
def implementer : BitField 32 := .of 0 12
def revision : BitField 32 := .of 12 4
def variant : BitField 32 := .of 16 4
def product : BitField 32 := .of 24 8
def architecture : BitField 32 := .of 4 4
end DistributorIdentity

namespace SoftwareInterrupt
def id : BitField 32 := .of 0 4
def nonSecure : BitField 32 := .bit 15
def targets : BitField 32 := .of 16 8
def filter : BitField 32 := .of 24 2
end SoftwareInterrupt

namespace CpuControl
def enableGroup0 : BitField 32 := .bit 0
def enableGroup1 : BitField 32 := .bit 1
def acknowledgeControl : BitField 32 := .bit 2
def fastEnable : BitField 32 := .bit 3
def commonBinaryPoint : BitField 32 := .bit 4
def twoStep : BitField 32 := .bit 9
end CpuControl

namespace Acknowledge
def id : BitField 32 := .of 0 10
def cpu : BitField 32 := .of 10 3
end Acknowledge

def priorityMask : BitField 32 := .of 0 8

def binaryPoint : BitField 32 := .of 0 3

end InterruptControl.Banked

namespace InterruptControl.Routed

namespace DistributorControl
def writePending : BitField 32 := .bit 31
def disableSecurity : BitField 32 := .bit 6
end DistributorControl

namespace SecureControl
def enableGroup0 : BitField 32 := .bit 0
def enableGroup1NonSecure : BitField 32 := .bit 1
def enableGroup1Secure : BitField 32 := .bit 2
def routingSecure : BitField 32 := .bit 4
def routingNonSecure : BitField 32 := .bit 5
end SecureControl

namespace NonSecureControl
def enableGroup1 : BitField 32 := .bit 0
def enableGroup1Routed : BitField 32 := .bit 1
def routing : BitField 32 := .bit 4
end NonSecureControl

namespace SingleControl
def enableGroup0 : BitField 32 := .bit 0
def enableGroup1 : BitField 32 := .bit 1
def routing : BitField 32 := .bit 4
end SingleControl

namespace DistributorType
def linesNumber : BitField 32 := .of 0 5
def cpuNumber : BitField 32 := .of 5 3
def extendedSpi : BitField 32 := .bit 8
def nonMaskable : BitField 32 := .bit 9
def securityExtension : BitField 32 := .bit 10
def lpiNumber : BitField 32 := .of 11 5
def messageBased : BitField 32 := .bit 16
def lpis : BitField 32 := .bit 17
def directVirtual : BitField 32 := .bit 18
def idBits : BitField 32 := .of 19 5
def affinity3 : BitField 32 := .bit 24
def noOneOfN : BitField 32 := .bit 25
def rangeSelector : BitField 32 := .bit 26
def extendedSpiRange : BitField 32 := .of 27 5
end DistributorType

namespace DistributorIdentity
def implementer : BitField 32 := .of 0 12
def revision : BitField 32 := .of 12 4
def variant : BitField 32 := .of 16 4
def product : BitField 32 := .of 24 8
def architecture : BitField 32 := .of 4 4
end DistributorIdentity

namespace Route
def aff0 : BitField 64 := .of 0 8
def aff1 : BitField 64 := .of 8 8
def aff2 : BitField 64 := .of 16 8
def anyCore : BitField 64 := .bit 31
def aff3 : BitField 64 := .of 32 8
end Route

/-- The interrupt that a write to the message registers names. -/
def messageId : BitField 32 := .of 0 13

namespace RedistributorControl
def enableLpis : BitField 32 := .bit 0
def writePending : BitField 32 := .bit 3
def upstreamPending : BitField 32 := .bit 31
end RedistributorControl

namespace RedistributorType
def physicalLpis : BitField 64 := .bit 0
def virtualLpis : BitField 64 := .bit 1
def directLpi : BitField 64 := .bit 3
def last : BitField 64 := .bit 4
def processor : BitField 64 := .of 8 16
def ppiNumber : BitField 64 := .of 27 5
def affinity : BitField 64 := .of 32 32
end RedistributorType

namespace Waker
def processorSleep : BitField 32 := .bit 1
def childrenAsleep : BitField 32 := .bit 2
end Waker

namespace SystemEnable
def registers : BitField 64 := .bit 0
def disableFastBypass : BitField 64 := .bit 1
def disableBypass : BitField 64 := .bit 2
end SystemEnable

namespace CpuControl
def commonBinaryPoint : BitField 64 := .bit 0
def twoStep : BitField 64 := .bit 1
def priorityBits : BitField 64 := .of 8 3
end CpuControl

/-- The interrupt in the acknowledge register. -/
def acknowledgedId : BitField 64 := .of 0 24

namespace SoftwareInterrupt
def targets : BitField 64 := .of 0 16
def aff1 : BitField 64 := .of 16 8
def id : BitField 64 := .of 24 4
def aff2 : BitField 64 := .of 32 8
def allOther : BitField 64 := .bit 40
def range : BitField 64 := .of 44 4
def aff3 : BitField 64 := .of 48 8
end SoftwareInterrupt

namespace CoreAffinity
def aff0 : BitField 64 := .of 0 8
def aff1 : BitField 64 := .of 8 8
def aff2 : BitField 64 := .of 16 8
def aff3 : BitField 64 := .of 32 8
end CoreAffinity

end InterruptControl.Routed
