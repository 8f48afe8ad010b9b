import InterruptControl.Script.Session

/-!
What the single steps do.
-/

namespace InterruptControl.Script

open Hardware (Generation)

/-- Hands a result on in the form that a step reports it. -/
def report {α : Type} (s : Session α) (f : α → Result) : Session Result := do
  let a ← s
  pure (f a)

/-- A step that has nothing to report. -/
def silently (s : Session Unit) : Session Result := report s fun _ => .nothing

open Session

/-- A call that has nothing to report. -/
def act (p : Program Unit) : Session Result := silently (perform p)

/-- A call whose result is reported. -/
def ask {α : Type} (p : Program α) (f : α → Result) : Session Result := report (perform p) f

namespace BlockTarget

def block (t : BlockTarget) (id : IntId) : Session Block :=
  match t with
  | .frontEnd => do
    let g ← currentFrontEnd
    perform (g.block id)
  | .distributor .banked => do
    let d ← currentBanked
    pure d.distributor.block
  | .distributor .routed => do
    let d ← currentRouted
    pure d.distributor.block
  | .redistributor => do
    let r ← heldRedistributor
    pure r.block

end BlockTarget

def InterruptOp.perform (b : Block) (id : IntId) : InterruptOp → Session Result
  | .setFlag f value => act (b.setFlag f id value)
  | .hasFlag f => ask (b.hasFlag f id) .flag
  | .setAttribute a value => act (b.setAttribute a id value)
  | .hasAttribute a => ask (b.hasAttribute a id) .flag
  | .setPriority p => act (b.setPriority id p)
  | .priority => ask (b.priority id) fun p => .number p.toNat
  | .setTrigger t => act (b.setTrigger id t)
  | .trigger => ask (b.trigger id) fun t => .text t.name

/-- The operations of a CPU interface, wherever it is. -/
structure InterfaceCalls where
  acknowledge : Program (Option Ack)
  complete : Ack → Program Unit
  deactivate : Ack → Program Unit
  setPriorityMask : Priority → Program Unit
  priorityMask : Program Priority

namespace InterfaceTarget

def calls : InterfaceTarget → Session InterfaceCalls
  | .frontEnd => do
    let g ← currentFrontEnd
    pure ⟨g.acknowledge, g.complete, g.deactivate, g.setPriorityMask, g.priorityMask⟩
  | .interface .banked => do
    let c := (← currentBanked).cpu
    pure ⟨c.acknowledge, c.complete, c.deactivate, c.setPriorityMask, c.priorityMask⟩
  | .interface .routed => do
    let _ ← currentRouted
    pure ⟨Routed.CpuInterface.acknowledge, Routed.CpuInterface.complete,
      Routed.CpuInterface.deactivate, Routed.CpuInterface.setPriorityMask,
      Routed.CpuInterface.priorityMask⟩

end InterfaceTarget

/-- An acknowledge that finds nothing leaves what was there before. -/
def InterfaceOp.perform (c : InterfaceCalls) : InterfaceOp → Session Result
  | .acknowledge before =>
    ask c.acknowledge fun a => .acknowledged a.isSome (a.getD before)
  | .complete a => act (c.complete a)
  | .deactivate a => act (c.deactivate a)
  | .setPriorityMask mask => act (c.setPriorityMask mask)
  | .priorityMask => ask c.priorityMask fun p => .number p.toNat

/-- What only the CPU interfaces themselves offer. -/
structure InterfaceDetailCalls where
  setBinaryPoint : BitVec 8 → Program Unit
  binaryPoint : Program (BitVec 8)
  runningPriority : Program Priority
  highestPending : Program IntId
  setTwoStep : Bool → Program Unit
  isTwoStep : Program Bool

def interfaceDetails : Generation → Session InterfaceDetailCalls
  | .banked => do
    let c := (← currentBanked).cpu
    pure ⟨c.setBinaryPoint, c.binaryPoint, c.runningPriority, c.highestPending, c.setTwoStep,
      c.isTwoStep⟩
  | .routed => do
    let _ ← currentRouted
    pure ⟨Routed.CpuInterface.setBinaryPoint, Routed.CpuInterface.binaryPoint,
      Routed.CpuInterface.runningPriority, Routed.CpuInterface.highestPending,
      Routed.CpuInterface.setTwoStep, Routed.CpuInterface.isTwoStep⟩

def InterfaceDetailOp.perform (c : InterfaceDetailCalls) : InterfaceDetailOp → Session Result
  | .setBinaryPoint value => act (c.setBinaryPoint value)
  | .binaryPoint => ask c.binaryPoint fun v => .number v.toNat
  | .runningPriority => ask c.runningPriority fun p => .number p.toNat
  | .highestPending => ask c.highestPending fun id => .number id.number
  | .setTwoStep twoStep => act (c.setTwoStep twoStep)
  | .isTwoStep => ask c.isTwoStep .flag

/-- What both distributors offer. -/
structure DistributorCalls where
  clearAll : Flag → BitVec 32 → Program Unit
  setGroup1All : BitVec 32 → Program Unit
  setPriorityAll : BitVec 32 → Priority → Program Unit
  setLevelAll : BitVec 32 → Program Unit
  lines : Program Nat
  implementer : Program Nat
  architecture : Program Nat
  base : Nat

def distributorCalls : Generation → Session DistributorCalls
  | .banked => do
    let d := (← currentBanked).distributor
    pure ⟨d.clearAll, d.setGroup1All, d.setPriorityAll, d.setLevelAll, d.lines, d.implementer,
      d.architecture, d.base⟩
  | .routed => do
    let d := (← currentRouted).distributor
    pure ⟨d.clearAll, d.setGroup1All, d.setPriorityAll, d.setLevelAll, d.lines, d.implementer,
      d.architecture, d.base⟩

def DistributorOp.perform (c : DistributorCalls) : DistributorOp → Session Result
  | .clearAll f bound => act (c.clearAll f bound)
  | .setGroup1All bound => act (c.setGroup1All bound)
  | .setPriorityAll bound p => act (c.setPriorityAll bound p)
  | .setLevelAll bound => act (c.setLevelAll bound)
  | .lines => ask c.lines .number
  | .implementer => ask c.implementer .number
  | .architecture => ask c.architecture .number
  | .base => pure (.hex c.base)

/-- Bring-up keeps the changed software only if it was not refused. -/
def keep {α : Type} (r : Except Refusal α) (store : α → Session Unit) : Session Result := do
  match r with
  | .ok a => do
    store a
    pure (.outcome (.ok ()))
  | .error e => pure (.outcome (.error e))

def FrontEndOp.perform (g : Gic Handler) : FrontEndOp → Session Result
  | .start => do
    let r ← Session.perform g.start
    keep r fun g => setSubject (.frontEnd g)
  | .startCore => ask g.startCore .outcome
  | .name => ask g.name .text
  | .version => pure (.text g.version.name)
  | .completion => pure (.text (if g.twoStep then "two" else "one"))
  | .isStarted => pure (.flag g.isStarted)
  | .mask id => act (g.maskInterrupt id)
  | .unmask id => act (g.unmaskInterrupt id)
  | .configure c => act (g.configure c)
  | .routeTo id a => act (g.routeTo id a)
  | .routeToAny id => act (g.routeToAny id)
  | .sendToCurrent id => act (g.sendToCurrent id)
  | .sendToAllOther id => act (g.sendToAllOther id)
  | .sendToSet id s => act (g.sendToSet id s)
  | .sendToCluster id l => act (g.sendToCluster id l)
  | .banked => ask g.banked fun _ => .nothing
  | .routed => ask g.routed fun _ => .nothing
  | .uninstall id => silently do
    let g ← ofExcept (g.install id none)
    setSubject (.frontEnd g)

def DriverOp.perform : Generation → DriverOp → Session Result
  | .banked, op => do
    let d ← currentBanked
    match op with
    | .start => do
      let r ← Session.perform d.start
      keep r setBanked
    | .startCore twoStep => ask (d.startCore twoStep) .outcome
    | .isStarted => pure (.flag d.started)
  | .routed, op => do
    let d ← currentRouted
    match op with
    | .start => do
      let r ← Session.perform d.start
      keep r setRouted
    | .startCore twoStep => ask (d.startCore twoStep) .outcome
    | .isStarted => pure (.flag d.started)

def BankedOp.perform (g : Banked.Driver) : BankedOp → Session Result
  | .keptLines => pure (.number g.lines)
  | .enable => act g.distributor.enable
  | .disable => act g.distributor.disable
  | .isEnabled => ask g.distributor.isEnabled .flag
  | .cpuCount => ask g.distributor.cpuCount .number
  | .hasSecurity => ask g.distributor.hasSecurity .flag
  | .setTargets id s => act (g.distributor.setTargets id s)
  | .targets id => ask (g.distributor.targets id) fun s => .number s.mask.toNat
  | .currentMask => ask g.distributor.currentMask fun v => .number v.toNat
  | .sendSgi id dest => act (g.distributor.sendSgi id dest)
  | .setTargetsAll bound s => act (g.distributor.setTargetsAll bound s)
  | .resetPrivate => act g.distributor.resetPrivate
  | .startInterface => act g.cpu.start
  | .disableInterface => act g.cpu.disable

def RoutedOp.perform (g : Routed.Driver) : RoutedOp → Session Result
  | .security => pure (.text g.distributor.security.name)
  | .detectSecurity => do
    let g ← Session.perform g.detectSecurity
    setRouted g
    pure (.text g.distributor.security.name)
  | .disableGroups => act g.distributor.disableGroups
  | .enableGroups => act g.distributor.enableGroups
  | .settle => ask g.distributor.settle .outcome
  | .status => ask g.distributor.status .status
  | .idLimit => ask g.distributor.idLimit .number
  | .hasExtendedSpi => ask g.distributor.hasExtendedSpi .flag
  | .extendedSpiCount => ask g.distributor.extendedSpiCount .number
  | .setRoute id a => act (g.distributor.setRoute id a)
  | .setRouteAny id => act (g.distributor.setRouteAny id)
  | .route id => ask (g.distributor.route id) fun r => .route r.1 r.2
  | .signal id => act (g.distributor.signal id)
  | .unsignal id => act (g.distributor.unsignal id)
  | .clearModifierAll bound => act (g.distributor.clearModifierAll bound)
  | .resetExtended p => act (g.distributor.resetExtended p)

/-- The redistributor is at hand from now on. One at address zero counts as none. -/
def hold (r : Routed.Redistributor) : Session Result := do
  modify fun w => { w with redistributor := if r.address = 0 then none else some r }
  pure (.hex r.address)

/-- The base of the redistributor at hand, zero if there is none. -/
def heldBase : Session Nat := do
  pure (((← get).redistributor.map fun r => r.address).getD 0)

def RedistributorChoice.perform : RedistributorChoice → Session Result
  | .current => do
    let g ← currentRouted
    let r ← Session.perform g.currentRedistributor
    hold r
  | .withAffinity a => do
    let g ← currentRouted
    let r ← Session.perform (g.redistributor a)
    hold r
  | .atOffset offset => hold ⟨Bus.Region.redistributors.base + offset⟩
  | .found a stride offset => do
    let region := Bus.Region.redistributors.base + offset
    let r ← Session.perform (Routed.Redistributor.find region stride a)
    match r with
    | .ok r => do
      let _ ← hold r
      pure (.located (.ok ()) r.address)
    | .error e => report heldBase fun base => .located (.error e) base

def RedistributorOp.perform (r : Routed.Redistributor) : RedistributorOp → Session Result
  | .info => ask r.info .redistributor
  | .wake => ask r.wake .outcome
  | .settle => ask r.settle .outcome
  | .setLpis enabled => ask (r.setLpis enabled) .outcome
  | .lpisEnabled => ask r.lpisEnabled .flag
  | .resetPrivate p => act (r.resetPrivate p)

def SystemInterfaceOp.perform : SystemInterfaceOp → Session Result
  | .enableRegisters => act Routed.CpuInterface.enableRegisters
  | .registersEnabled => ask Routed.CpuInterface.registersEnabled .flag
  | .setGroup1 enabled => act (Routed.CpuInterface.setGroup1 enabled)
  | .group1Enabled => ask Routed.CpuInterface.group1Enabled .flag
  | .sendSgi id dest => act (Routed.CpuInterface.sendSgi id dest)

def TableOp.perform (t : Table) : TableOp → Session Result
  | .test index => ask (t.test index) .flag
  | .set index => act (t.set index)
  | .clear index => act (t.clear index)
  | .assign index value => act (t.assign index value)
  | .fill bound value => act (t.fill bound value)
  | .setEdge index edge => act (t.setEdge index edge)
  | .isEdge index => ask (t.isEdge index) .flag

/-- Polls a condition that holds from the evaluation after `after` on. -/
def pollUntil (bound after : Nat) : Except Refusal Unit × Nat :=
  let condition : StateM Nat Bool := do
    modify (· + 1)
    pure (decide (after < (← get)))
  (retry condition bound).run 0

def BusOp.perform : BusOp → Session Result
  | .read w address => ask (Program.read w address) fun v => .hex v.toNat
  | .write w address value => act (Program.write w address (BitVec.ofNat w.bits value))
  | .readSystem r => ask (Program.readSystem r) fun v => .hex v.toNat
  | .writeSystem r value => act (Program.writeSystem r value)
  | .feed t values => silently (modifyMachine fun m => { m with feeds := m.feeds.add t values })
  | .tracing on => silently (modifyMachine fun m => { m with tracing := on })
  | .logging on => silently (modifyMachine fun m => { m with logging := on })
  | .traffic => do pure (.counts (← get).machine.traffic.toList)

def BoardOptions.board : BoardOptions → Bus.Board
  | none => .memory {}
  | some o => .controller (.reset o)

/-- What can be seen of the controller. -/
def see (f : Hardware.State → Except Failure Result) : Session Result := do
  ofExcept (f (← get).machine.board.hardware)

/-- Something happens to the controller. -/
def happen (f : Hardware.State → Except Failure Hardware.State) : Session Result := silently do
  let s ← ofExcept (f (← get).machine.board.hardware)
  modifyMachine fun m => { m with board := m.board.setHardware s }

def HardwareOp.perform : HardwareOp → Session Result
  | .reset o => silently (modifyMachine fun m => { m with board := BoardOptions.board o, tally := {} })
  | .setCurrent cpu => happen (·.setCurrent cpu)
  | .setAffinity cpu v => happen (·.setAffinity cpu v)
  | .raise id cpu => happen (·.raise id cpu)
  | .raiseLpi id p cpu => happen (·.raiseLpi id p cpu)
  | .irq id cpu => see fun s => (s.query id cpu).map .irq
  | .targets id => see fun s => (s.query id 0).map fun q => .number q.targets.toNat
  | .route id => see fun s => (s.query id 0).map fun q => .hex q.route.toNat
  | .control => see fun s => .ok (.number s.control.toNat)
  | .interfaceControl cpu => see fun s => (s.core cpu).map fun c => .number c.mappedControl.toNat
  | .asleep cpu => see fun s => (s.core cpu).map fun c => .flag c.asleep
  | .system cpu r => see fun s => (s.peekSystem cpu r).map fun v => .hex v.toNat
  | .stickDistributor stuck => happen fun s => .ok (s.stickDistributor stuck)
  | .stickRedistributor cpu stuck => happen (·.stickRedistributor cpu stuck)
  | .stickWaker cpu stuck => happen (·.stickWaker cpu stuck)
  | .writeCount r offset => do
    let m := (← get).machine
    pure (.number (if offset < m.board.extent r then m.tally.count (r.base + offset) else 0))
  | .totalWrites => do pure (.number (← get).machine.tally.total)
  | .barriers => do pure (.number (← get).machine.tally.barriers)

def Op.perform : Op → Session Result
  | .interrupt t id op => do
    let b ← t.block id
    op.perform b id
  | .interface t op => do
    let c ← t.calls
    op.perform c
  | .interfaceDetail g op => do
    let c ← interfaceDetails g
    op.perform c
  | .distributor g op => do
    let c ← distributorCalls g
    op.perform c
  | .frontEnd op => do
    let g ← currentFrontEnd
    op.perform g
  | .driver g op => op.perform g
  | .banked op => do
    let d ← currentBanked
    op.perform d
  | .routed op => do
    let d ← currentRouted
    op.perform d
  | .choose c => c.perform
  | .redistributor op => do
    let r ← heldRedistributor
    op.perform r
  | .systemInterface op => do
    let _ ← currentRouted
    op.perform
  | .currentAffinity => ask Affinity.current .affinity
  | .table t op => op.perform t
  | .poll bound after =>
    let (r, polls) := pollUntil bound after
    pure (.polled r polls)
  | .bus op => op.perform
  | .hardware op => op.perform

end InterruptControl.Script
