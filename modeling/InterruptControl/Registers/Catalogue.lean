import InterruptControl.Registers.Fields

/-!
The fields by their architectural names, each with the version of the architecture, the
register and the field: `v2.GICD_TYPER.CPUNumber`.
-/

namespace InterruptControl

/-- A field of a 32-bit or of a 64-bit register. -/
inductive NamedField where
  | word (f : BitField 32)
  | doubleword (f : BitField 64)

namespace NamedField

def banked : List (String × NamedField) :=
  [("v2.GICD_CTLR.EnableGrp0", .word Banked.DistributorControl.enableGroup0),
   ("v2.GICD_CTLR.EnableGrp1", .word Banked.DistributorControl.enableGroup1),
   ("v2.GICD_TYPER.ITLinesNumber", .word Banked.DistributorType.linesNumber),
   ("v2.GICD_TYPER.CPUNumber", .word Banked.DistributorType.cpuNumber),
   ("v2.GICD_TYPER.SecurityExtn", .word Banked.DistributorType.securityExtension),
   ("v2.GICD_TYPER.LSPI", .word Banked.DistributorType.lockableLines),
   ("v2.GICD_IIDR.Implementer", .word Banked.DistributorIdentity.implementer),
   ("v2.GICD_IIDR.Revision", .word Banked.DistributorIdentity.revision),
   ("v2.GICD_IIDR.Variant", .word Banked.DistributorIdentity.variant),
   ("v2.GICD_IIDR.ProductID", .word Banked.DistributorIdentity.product),
   ("v2.GICD_SGIR.SGIINTID", .word Banked.SoftwareInterrupt.id),
   ("v2.GICD_SGIR.NSATT", .word Banked.SoftwareInterrupt.nonSecure),
   ("v2.GICD_SGIR.CPUTargetList", .word Banked.SoftwareInterrupt.targets),
   ("v2.GICD_SGIR.TargetListFilter", .word Banked.SoftwareInterrupt.filter),
   ("v2.GICD_PIDR2.ArchRev", .word Banked.DistributorIdentity.architecture),
   ("v2.GICC_CTLR.EnableGrp0", .word Banked.CpuControl.enableGroup0),
   ("v2.GICC_CTLR.EnableGrp1", .word Banked.CpuControl.enableGroup1),
   ("v2.GICC_CTLR.AckCtl", .word Banked.CpuControl.acknowledgeControl),
   ("v2.GICC_CTLR.FIQEn", .word Banked.CpuControl.fastEnable),
   ("v2.GICC_CTLR.CBPR", .word Banked.CpuControl.commonBinaryPoint),
   ("v2.GICC_CTLR.EOImodeS", .word Banked.CpuControl.twoStep),
   ("v2.GICC_IAR.InterruptID", .word Banked.Acknowledge.id),
   ("v2.GICC_IAR.CPUID", .word Banked.Acknowledge.cpu),
   ("v2.GICC_PMR.Priority", .word Banked.priorityMask),
   ("v2.GICC_BPR.BinaryPoint", .word Banked.binaryPoint)]

def routedDistributor : List (String × NamedField) :=
  [("v3.GICD_CTLR.RWP", .word Routed.DistributorControl.writePending),
   ("v3.GICD_CTLR.DS", .word Routed.DistributorControl.disableSecurity),
   ("v3.GICD_CTLR_S.EnableGrp0", .word Routed.SecureControl.enableGroup0),
   ("v3.GICD_CTLR_S.EnableGrp1NS", .word Routed.SecureControl.enableGroup1NonSecure),
   ("v3.GICD_CTLR_S.EnableGrp1S", .word Routed.SecureControl.enableGroup1Secure),
   ("v3.GICD_CTLR_S.ARE_S", .word Routed.SecureControl.routingSecure),
   ("v3.GICD_CTLR_S.ARE_NS", .word Routed.SecureControl.routingNonSecure),
   ("v3.GICD_CTLR_NS.EnableGrp1", .word Routed.NonSecureControl.enableGroup1),
   ("v3.GICD_CTLR_NS.EnableGrp1A", .word Routed.NonSecureControl.enableGroup1Routed),
   ("v3.GICD_CTLR_NS.ARE_NS", .word Routed.NonSecureControl.routing),
   ("v3.GICD_CTLR_ONE.EnableGrp0", .word Routed.SingleControl.enableGroup0),
   ("v3.GICD_CTLR_ONE.EnableGrp1", .word Routed.SingleControl.enableGroup1),
   ("v3.GICD_CTLR_ONE.ARE", .word Routed.SingleControl.routing),
   ("v3.GICD_TYPER.ITLinesNumber", .word Routed.DistributorType.linesNumber),
   ("v3.GICD_TYPER.CPUNumber", .word Routed.DistributorType.cpuNumber),
   ("v3.GICD_TYPER.ESPI", .word Routed.DistributorType.extendedSpi),
   ("v3.GICD_TYPER.NMI", .word Routed.DistributorType.nonMaskable),
   ("v3.GICD_TYPER.SecurityExtn", .word Routed.DistributorType.securityExtension),
   ("v3.GICD_TYPER.NumLPIs", .word Routed.DistributorType.lpiNumber),
   ("v3.GICD_TYPER.MBIS", .word Routed.DistributorType.messageBased),
   ("v3.GICD_TYPER.LPIS", .word Routed.DistributorType.lpis),
   ("v3.GICD_TYPER.DVIS", .word Routed.DistributorType.directVirtual),
   ("v3.GICD_TYPER.IDbits", .word Routed.DistributorType.idBits),
   ("v3.GICD_TYPER.A3V", .word Routed.DistributorType.affinity3),
   ("v3.GICD_TYPER.No1N", .word Routed.DistributorType.noOneOfN),
   ("v3.GICD_TYPER.RSS", .word Routed.DistributorType.rangeSelector),
   ("v3.GICD_TYPER.ESPI_range", .word Routed.DistributorType.extendedSpiRange),
   ("v3.GICD_IIDR.Implementer", .word Routed.DistributorIdentity.implementer),
   ("v3.GICD_IIDR.Revision", .word Routed.DistributorIdentity.revision),
   ("v3.GICD_IIDR.Variant", .word Routed.DistributorIdentity.variant),
   ("v3.GICD_IIDR.ProductID", .word Routed.DistributorIdentity.product),
   ("v3.GICD_PIDR2.ArchRev", .word Routed.DistributorIdentity.architecture),
   ("v3.GICD_IROUTER.Aff0", .doubleword Routed.Route.aff0),
   ("v3.GICD_IROUTER.Aff1", .doubleword Routed.Route.aff1),
   ("v3.GICD_IROUTER.Aff2", .doubleword Routed.Route.aff2),
   ("v3.GICD_IROUTER.IRM", .doubleword Routed.Route.anyCore),
   ("v3.GICD_IROUTER.Aff3", .doubleword Routed.Route.aff3),
   ("v3.GICD_SETSPI.INTID", .word Routed.messageId)]

def routedCore : List (String × NamedField) :=
  [("v3.GICR_CTLR.EnableLPIs", .word Routed.RedistributorControl.enableLpis),
   ("v3.GICR_CTLR.RWP", .word Routed.RedistributorControl.writePending),
   ("v3.GICR_CTLR.UWP", .word Routed.RedistributorControl.upstreamPending),
   ("v3.GICR_TYPER.PLPIS", .doubleword Routed.RedistributorType.physicalLpis),
   ("v3.GICR_TYPER.VLPIS", .doubleword Routed.RedistributorType.virtualLpis),
   ("v3.GICR_TYPER.DirectLPI", .doubleword Routed.RedistributorType.directLpi),
   ("v3.GICR_TYPER.Last", .doubleword Routed.RedistributorType.last),
   ("v3.GICR_TYPER.ProcessorNumber", .doubleword Routed.RedistributorType.processor),
   ("v3.GICR_TYPER.PPInum", .doubleword Routed.RedistributorType.ppiNumber),
   ("v3.GICR_TYPER.AffinityValue", .doubleword Routed.RedistributorType.affinity),
   ("v3.GICR_WAKER.ProcessorSleep", .word Routed.Waker.processorSleep),
   ("v3.GICR_WAKER.ChildrenAsleep", .word Routed.Waker.childrenAsleep),
   ("v3.ICC_SRE.SRE", .doubleword Routed.SystemEnable.registers),
   ("v3.ICC_SRE.DFB", .doubleword Routed.SystemEnable.disableFastBypass),
   ("v3.ICC_SRE.DIB", .doubleword Routed.SystemEnable.disableBypass),
   ("v3.ICC_CTLR.CBPR", .doubleword Routed.CpuControl.commonBinaryPoint),
   ("v3.ICC_CTLR.EOImode", .doubleword Routed.CpuControl.twoStep),
   ("v3.ICC_CTLR.PRIbits", .doubleword Routed.CpuControl.priorityBits),
   ("v3.ICC_IAR.INTID", .doubleword Routed.acknowledgedId),
   ("v3.ICC_SGI1R.TargetList", .doubleword Routed.SoftwareInterrupt.targets),
   ("v3.ICC_SGI1R.Aff1", .doubleword Routed.SoftwareInterrupt.aff1),
   ("v3.ICC_SGI1R.INTID", .doubleword Routed.SoftwareInterrupt.id),
   ("v3.ICC_SGI1R.Aff2", .doubleword Routed.SoftwareInterrupt.aff2),
   ("v3.ICC_SGI1R.IRM", .doubleword Routed.SoftwareInterrupt.allOther),
   ("v3.ICC_SGI1R.RS", .doubleword Routed.SoftwareInterrupt.range),
   ("v3.ICC_SGI1R.Aff3", .doubleword Routed.SoftwareInterrupt.aff3),
   ("v3.MPIDR.Aff0", .doubleword Routed.CoreAffinity.aff0),
   ("v3.MPIDR.Aff1", .doubleword Routed.CoreAffinity.aff1),
   ("v3.MPIDR.Aff2", .doubleword Routed.CoreAffinity.aff2),
   ("v3.MPIDR.Aff3", .doubleword Routed.CoreAffinity.aff3)]

def all : List (String × NamedField) := banked ++ routedDistributor ++ routedCore

def byName? (name : String) : Option NamedField := all.lookup name

/-- What a field makes of a register and of a value, as numbers. -/
structure Reading where
  mask : Nat
  get : Nat
  isSet : Bool
  val : Nat
  set : Nat
  clear : Nat

def readingOf {w : Nat} (f : BitField w) (reg value : BitVec w) : Reading where
  mask := f.mask.toNat
  get := (f.get reg).toNat
  isSet := f.isSet reg
  val := (f.val value).toNat
  set := (f.set reg value).toNat
  clear := (f.clear reg).toNat

/-- Both numbers are cut to the width of the register. -/
def reading (field : NamedField) (reg value : Nat) : Reading :=
  match field with
  | .word f => readingOf f (BitVec.ofNat 32 reg) (BitVec.ofNat 32 value)
  | .doubleword f => readingOf f (BitVec.ofNat 64 reg) (BitVec.ofNat 64 value)

end NamedField

end InterruptControl
