import InterruptControl.Failure
import InterruptControl.Hardware.Place

/-!
Which interrupt a core is given, and what acknowledging and completing it does.

An interrupt is eligible if it is pending, enabled and not active, belongs to the group in
use, is routed to the core, and has a priority above the mask and above what already runs.
Of the eligible ones the most urgent is taken, and of equally urgent ones the first.
-/

namespace InterruptControl.Hardware

/-- A number that only one core sees. -/
def isCoreNumber (id : Nat) : Bool :=
  decide (id < 32) || (decide (1056 ≤ id) && decide (id < 1120)) || decide (8192 ≤ id)

/-- No interrupt. -/
def spuriousNumber : Nat := 1023

namespace Core

/-- The lowest value any more urgent interrupt has to stay below. -/
def runningPriority (c : Core) : Nat :=
  match c.running with
  | [] => 0xff
  | r :: _ => r.priority.toNat

/-- More urgent than everything that runs. -/
def preempts (c : Core) (p : Priority) : Bool :=
  match c.running with
  | [] => true
  | r :: _ => decide (p.toNat < r.priority.toNat)

end Core

namespace State

/-- The distributor and the CPU interface forward interrupts to the core. -/
def deliveryEnabled (s : State) (c : Core) : Bool :=
  if s.isRouted then
    s.control.getLsbD 1 && c.groupEnable1.getLsbD 0 && c.systemEnable.getLsbD 0
  else (s.control &&& 3) != 0 && (c.mappedControl &&& 3) != 0

def routedTo (s : State) (id : Nat) (q : Irq) (cpu : Nat) (c : Core) : Bool :=
  if isCoreNumber id then true
  else if s.isRouted then
    q.route.getLsbD 31 || packAffinity q.route == packAffinity c.affinityRegister
  else q.targets.getLsbD cpu

def priorityLimit (s : State) (c : Core) : Nat :=
  if s.isRouted then (c.priorityMask.setWidth 32).toNat else c.mappedPriorityMask.toNat

/-- Core `cpu`, which is `c`, may be given the interrupt. -/
def eligible (s : State) (cpu : Nat) (c : Core) (id : Nat) (q : Irq) : Bool :=
  q.pending && q.enabled && !q.active && (!s.isRouted || q.group1) && s.routedTo id q cpu c
    && decide (q.priority.toNat < s.priorityLimit c) && c.preempts q.priority

/-- The numbers that come into question for a core, ascending. -/
def candidates (s : State) (c : Core) : List Nat :=
  List.range s.options.sharedLimit
    ++ (List.range' 32 (s.options.privateCount - 32)).map privateNumber
    ++ List.range' 4096 s.options.extendedCount
    ++ if c.redistributorControl.getLsbD 0 then c.lpis.map Prod.fst else []

/-- The eligible interrupts with their priorities. -/
def eligibleList (s : State) (cpu : Nat) (c : Core) : List (Nat × Priority) :=
  (s.candidates c).filterMap fun id =>
    match s.irq? id cpu with
    | some q => if s.eligible cpu c id q then some (id, q.priority) else none
    | none => none

/-- The interrupt that core `cpu` would be given if delivery is enabled. -/
def highestPending? (s : State) (cpu : Nat) : Option (Nat × Priority) :=
  match s.cores[cpu]? with
  | none => none
  | some c => (s.eligibleList cpu c).minOn? fun e => e.2.toNat

def highestPending (s : State) (cpu : Nat) : Nat :=
  match s.highestPending? cpu with
  | some e => e.1
  | none => spuriousNumber

/-- The interrupt that core `cpu` takes now. -/
def next? (s : State) (cpu : Nat) : Option (Nat × Priority) :=
  match s.cores[cpu]? with
  | none => none
  | some c => if s.deliveryEnabled c then s.highestPending? cpu else none

/-- Core `cpu` has taken the interrupt. LPIs have no active state. -/
def take (s : State) (cpu : Nat) (e : Nat × Priority) : State :=
  (s.modifyIrq e.1 cpu fun q =>
      { q with pending := false, active := q.active || decide (e.1 < 8192) }).modifyCore cpu
    fun c => { c with running := ⟨e.1, e.2⟩ :: c.running }

/-- A banked controller tells the source of an SGI along with its number. -/
def acknowledgeWord (s : State) (cpu id : Nat) : BitVec 32 :=
  if !s.isRouted && decide (id < 16) then
    match s.irq? id cpu with
    | some q => BitVec.ofNat 32 id ||| q.source <<< 10
    | none => BitVec.ofNat 32 id
  else BitVec.ofNat 32 id

/-- The word that core `cpu` reads to acknowledge an interrupt, and what is left. -/
def acknowledge (s : State) (cpu : Nat) : BitVec 32 × State :=
  match s.next? cpu with
  | none => (BitVec.ofNat 32 spuriousNumber, s)
  | some e => (s.acknowledgeWord cpu e.1, s.take cpu e)

/-- Drops the priority of an interrupt that runs on core `cpu`, and makes it inactive unless
that is left to a second step. -/
def endInterrupt (s : State) (cpu id : Nat) (twoStep : Bool) : Except Fault State :=
  if 1020 ≤ id ∧ id < 1024 then .error (.endOfSpecial id)
  else
    match s.cores[cpu]? with
    | none => .error (.endOfIdle id)
    | some c =>
      if c.running.any (·.id == id) then
        let s := s.modifyCore cpu fun c =>
          { c with running := c.running.eraseP (·.id == id) }
        .ok (if twoStep then s else s.modifyIrq id cpu fun q => { q with active := false })
      else .error (.endOfIdle id)

def deactivate (s : State) (cpu id : Nat) : Except Fault State :=
  if 1020 ≤ id ∧ id < 1024 then .error (.deactivateSpecial id)
  else if 8192 ≤ id then .error (.deactivateLpi id)
  else .ok (s.modifyIrq id cpu fun q => { q with active := false })

/-- An SGI from one core to another one, if that exists. -/
def receiveSgi (s : State) (target sgi source : Nat) : State :=
  s.modify (.own target sgi) fun q =>
    { q with pending := true, source := BitVec.ofNat 32 source }

end State

end InterruptControl.Hardware
