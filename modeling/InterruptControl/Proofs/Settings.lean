import InterruptControl.Proofs.Block
import InterruptControl.Proofs.Hardware.Identity
import InterruptControl.Proofs.IntId

/-!
Every operation on one interrupt is an update of one field of one interrupt.

A `Keeper` is a part of the software in charge of interrupts, a `Setting` what its operations
set and show of them. The main theorem says that a keeper sets exactly that of exactly the
interrupt it was asked about, on the core that owns it, and shows it afterwards.
-/

namespace InterruptControl

open Hardware Bus Program

/-! ### Settings -/

/-- What operations set and show of one interrupt. -/
inductive Setting where
  | flag (f : Flag)
  | plain (a : Attribute)
  | priority
  | trigger
  | targets
deriving DecidableEq

namespace Setting

abbrev Value : Setting → Type
  | flag _ | plain _ => Bool
  | priority => Priority
  | trigger => Trigger
  | targets => CpuSet

def get : (a : Setting) → Irq → a.Value
  | flag f, q => q.get f.field
  | plain a, q => q.get a.field
  | priority, q => q.priority
  | trigger, q => .ofIsEdge q.edge
  | targets, q => ⟨q.targets⟩

def put : (a : Setting) → a.Value → Irq → Irq
  | flag f, v, q => q.put f.field v
  | plain a, v, q => q.put a.field v
  | priority, v, q => { q with priority := v }
  | trigger, v, q => { q with edge := v.isEdge }
  | targets, v, q => { q with targets := v.mask }

/-- What is shown of an interrupt that is not implemented. -/
def blank : (a : Setting) → a.Value
  | flag _ | plain _ => false
  | priority => 0
  | trigger => .level
  | targets => .empty

/-- An SGI stays edge triggered, whatever is asked for. -/
def isFixed (a : Setting) (id : IntId) : Bool := a == .trigger && id.isSgi

/-- What is shown of an interrupt, which may not be implemented. -/
def shown (a : Setting) (id : IntId) (q : Option Irq) : a.Value :=
  match a with
  | trigger => if id.isSgi then .edge else (q.map (get .trigger)).getD .level
  | a => (q.map a.get).getD a.blank

@[simp] lemma get_put (a : Setting) (v : a.Value) (q : Irq) : a.get (a.put v q) = v := by
  cases a with
  | flag f => exact Irq.get_put_self ..
  | plain a => exact Irq.get_put_self ..
  | priority => rfl
  | trigger => cases v <;> rfl
  | targets => rfl

/-- Settings are independent of each other. -/
lemma get_put_of_ne {a b : Setting} (h : b ≠ a) (v : a.Value) (q : Irq) :
    b.get (a.put v q) = b.get q := by
  cases a <;> cases b <;> simp only [get, put, ne_eq, not_true_eq_false] at h ⊢
  case flag.flag f g => cases f <;> cases g <;> simp_all [Flag.field, Irq.put, Irq.get]
  case plain.plain f g => cases f <;> cases g <;> simp_all [Attribute.field, Irq.put, Irq.get]
  case flag.plain f g => cases f <;> cases g <;> rfl
  case plain.flag f g => cases f <;> cases g <;> rfl
  case flag.priority f | flag.trigger f | flag.targets f => cases f <;> rfl
  case plain.priority f | plain.trigger f | plain.targets f => cases f <;> rfl
  all_goals rfl

/-- What is shown once `v` was asked for. -/
def kept (a : Setting) (id : IntId) (implemented : Bool) (v : a.Value) : a.Value :=
  match a with
  | trigger => if id.isSgi then .edge else if implemented then v else .level
  | a => if implemented then v else a.blank

lemma shown_put (a : Setting) (id : IntId) (q : Option Irq) (v : a.Value) :
    a.shown id (if a.isFixed id then q else q.map (a.put v)) = a.kept id q.isSome v := by
  cases a with
  | trigger =>
    rcases hsgi : id.isSgi with _ | _
    · rcases q with _ | q <;> simp [shown, kept, isFixed, hsgi, get_put]
    · simp [shown, kept, hsgi]
  | flag f => rcases q with _ | q <;> simp [shown, kept, isFixed, get_put]
  | plain f => rcases q with _ | q <;> simp [shown, kept, isFixed, get_put]
  | priority => rcases q with _ | q <;> simp [shown, kept, isFixed, get_put]
  | targets => rcases q with _ | q <;> simp [shown, kept, isFixed, get_put]

end Setting

/-! ### Keepers -/

/-- A part of the software that is in charge of interrupts, as it finds them on the board. -/
inductive Keeper where
  | banked
  | routed (security : Routed.SecurityState)
  | redistributor (cpu : Nat)

namespace Keeper

def block (o : Options) : Keeper → Block
  | banked => (Banked.Distributor.mk Region.distributor.base).block
  | routed security => (Routed.Distributor.mk Region.distributor.base security).block
  | redistributor cpu => (Routed.Redistributor.mk (Region.redistributors.base + cpu * o.stride)).block

/-- Only the distributor of a banked controller has targets. -/
def set (k : Keeper) (o : Options) : (a : Setting) → IntId → a.Value → Program Unit
  | .flag f, id, v => (k.block o).setFlag f id v
  | .plain a, id, v => (k.block o).setAttribute a id v
  | .priority, id, v => (k.block o).setPriority id v
  | .trigger, id, v => (k.block o).setTrigger id v
  | .targets, id, v => (Banked.Distributor.mk Region.distributor.base).setTargets id v

def get (k : Keeper) (o : Options) : (a : Setting) → IntId → Program a.Value
  | .flag f, id => (k.block o).hasFlag f id
  | .plain a, id => (k.block o).hasAttribute a id
  | .priority, id => (k.block o).priority id
  | .trigger, id => (k.block o).trigger id
  | .targets, id => (Banked.Distributor.mk Region.distributor.base).targets id

/-- The hardware is the one that the software is for. -/
def Matches (o : Options) : Keeper → Prop
  | banked => o.isRouted = false
  | routed _ => o.isRouted = true
  | redistributor cpu => o.isRouted = true ∧ cpu < o.cpus

def offers : Keeper → Setting → Bool
  | banked, .plain a => a == .group1
  | banked, _ => true
  | routed _, .targets => false
  | routed _, _ => true
  | redistributor _, .targets => false
  | redistributor _, .plain a => a != .nonMaskable
  | redistributor _, _ => true

/-- The interrupts that the part is in charge of. -/
def serves (o : Options) (id : IntId) : Keeper → Bool
  | banked => decide (id.number < 1020)
  | routed _ => id.isSpi || (id.isExtendedSpi && decide (id.number - 4096 < o.extendedCount))
  | redistributor _ =>
    id.isPrivate && !(id.isExtendedPpi && decide (o.privateCount ≤ id.number - 1024))

/-- Private interrupts have no targets to set. -/
def accepts (k : Keeper) (o : Options) (a : Setting) (id : IntId) : Bool :=
  k.serves o id && !(a == .targets && id.isPrivate)

/-- The core whose copy of a private interrupt is meant. -/
def owner (s : State) : Keeper → Nat
  | banked | routed _ => s.current
  | redistributor cpu => cpu

/-- The bank that holds an interrupt. -/
def bank (s : State) (id : IntId) : Keeper → Bank
  | banked => .distributor s
  | routed _ => if id.isExtendedSpi then .extended s else .distributor s
  | redistributor cpu => .redistributor s cpu

/-- Its index there. -/
def index (id : IntId) : Keeper → Nat
  | banked => id.number
  | routed _ => if id.isExtendedSpi then id.number - 4096 else id.number
  | redistributor _ => if id.isExtendedPpi then id.number - 1024 else id.number

/-! ### Finding an interrupt -/

section Locate

variable {o : Options} {s : State} {k : Keeper} {id : IntId}

/-- However many cores there are, if their number fits a word. -/
lemma onBus_of_lt (hs : s.Sound o) (hcpus : o.cpus < 2 ^ 32) {cpu : Nat} (hr : o.isRouted = true)
    (hcpu : cpu < o.cpus) : ∃ c, Bank.OnBus s cpu c := by
  have hcore : cpu < s.cores.size := hs.size ▸ hcpu
  refine ⟨s.cores[cpu], ?_, Array.getElem?_eq_getElem hcore, ?_, ?_⟩
  · rw [State.isRouted, hs.options, hr]
  · rwa [hs.options]
  · rw [hs.options]
    have := Nat.mul_le_mul hcpus.le (State.stride_le o)
    simp only [Region.base]
    omega

lemma onBus (hs : s.Sound o) (hfit : o.Fits) {cpu : Nat} (hr : o.isRouted = true)
    (hcpu : cpu < o.cpus) : ∃ c, Bank.OnBus s cpu c :=
  onBus_of_lt hs (hfit.cpus.trans_lt (by decide)) hr hcpu

lemma run_place_of_reports (s : State) (id : IntId) (security : Routed.SecurityState) :
    ((Routed.Distributor.mk Region.distributor.base security).place id).run Board.answer
        (.controller s) =
      (if s.options.reports id then
          .ok (id.isExtendedSpi, if id.isExtendedSpi then id.number - 4096 else id.number)
        else .error .assertion, .controller s) := by
  have hcount := Routed.Distributor.run_reportedSpiCount s security
  rw [Routed.Distributor.place, Options.reports]
  split
  next he =>
    have hspi : id.isSpi = false := by
      have := id.isExtendedSpi_iff.mp he
      rw [Bool.eq_false_iff, ne_eq, id.isSpi_iff]
      omega
    rw [run_bind_ok hcount, run_map_guarded (run_require ..), he, hspi, Bool.false_or,
      Bool.true_and]
    rfl
  next he =>
    rw [run_map_guarded (run_require ..), Bool.eq_false_iff.mpr he, Bool.false_and,
      Bool.or_false]

lemma run_place (hfit : s.options.Fits) (security : Routed.SecurityState) :
    ((Routed.Distributor.mk Region.distributor.base security).place id).run Board.answer
        (.controller s) =
      (if id.isSpi || (id.isExtendedSpi && decide (id.number - 4096 < s.options.extendedCount)) then
          .ok (id.isExtendedSpi, if id.isExtendedSpi then id.number - 4096 else id.number)
        else .error .assertion, .controller s) := by
  rw [run_place_of_reports, hfit.reports]

/-- What a redistributor tells about itself. -/
lemma run_info {cpu : Nat} {c : Core} (h : Bank.OnBus s cpu c) :
    (Routed.Redistributor.mk (Region.redistributors.base + cpu * s.options.stride)).info.run
        Board.answer (.controller s)
      = (.ok (.ofWord (s.redistributorType cpu c)), .controller s) := by
  have hword : (read64 _).run Board.answer _ = _ :=
    (run_read64 ..).trans (Bank.answer_core h (o := 0x8) .doubleword (by omega))
  refine (run_bind_ok hword).trans ?_
  simp [State.readCoreFrame]

lemma run_index_of_reported {cpu : Nat} {c : Core} (h : Bank.OnBus s cpu c) :
    ((Routed.Redistributor.mk (Region.redistributors.base + cpu * s.options.stride)).index id).run
        Board.answer (.controller s) =
      (if id.isPrivate && !(id.isExtendedPpi && decide
          ((Routed.RedistributorInfo.ofWord (s.redistributorType cpu c)).privateCount ≤ id.number - 1024))
        then .ok (if id.isExtendedPpi then id.number - 1024 else id.number)
        else .error .assertion, .controller s) := by
  rw [Routed.Redistributor.index, run_require_bind]
  rcases hp : id.isPrivate with _ | _
  · rfl
  rcases he : id.isExtendedPpi with _ | _
  · rfl
  · simp only [if_true]
    rw [run_bind_ok (run_info h), run_require_bind]
    rcases Nat.lt_or_ge (id.number - 1024)
        (Routed.RedistributorInfo.ofWord (s.redistributorType cpu c)).privateCount with hlt | hge
    · simp [hlt, Nat.not_le.mpr hlt]
    · simp [hge, Nat.not_lt.mpr hge]

lemma run_index {cpu : Nat} {c : Core} (h : Bank.OnBus s cpu c) (hfit : s.options.Fits) :
    ((Routed.Redistributor.mk (Region.redistributors.base + cpu * s.options.stride)).index id).run
        Board.answer (.controller s) =
      (if id.isPrivate && !(id.isExtendedPpi && decide (s.options.privateCount ≤ id.number - 1024))
        then .ok (if id.isExtendedPpi then id.number - 1024 else id.number)
        else .error .assertion, .controller s) := by
  rw [run_index_of_reported h, State.privateCount_ofWord c hfit h.built h.routed]

lemma layout_routed (s : State) (id : IntId) (security : Routed.SecurityState) :
    (bank s id (routed security)).layout = if id.isExtendedSpi then .extended Region.distributor.base
      else .ordinary Region.distributor.base 32 64 := by
  simp only [bank]
  split <;> rfl

/-- An interrupt is found where it is kept, and if it is none of the part's the call fails. -/
lemma run_locate (hs : s.Sound o) (hfit : o.Fits) (hk : k.Matches o) :
    ((k.block o).locate id).run Board.answer (.controller s) =
      (if k.serves o id then .ok ⟨(k.bank s id).layout, k.index id⟩ else .error .assertion,
        .controller s) := by
  obtain rfl := hs.options
  cases k with
  | banked => exact run_map_guarded (run_require ..)
  | routed security =>
    refine (run_map_guarded (run_place hfit security)).trans ?_
    rw [layout_routed]
    rfl
  | redistributor cpu =>
    obtain ⟨c, hc⟩ := onBus hs hfit hk.1 hk.2
    exact run_map_guarded (run_index hc hfit)

lemma run_locate_refused (hs : s.Sound o) (hfit : o.Fits) (hk : k.Matches o)
    (hid : k.serves o id = false) :
    ((k.block o).locate id).run Board.answer (.controller s)
      = (.error .assertion, .controller s) := by
  rw [run_locate hs hfit hk, hid]
  rfl

/-- The part takes the interrupt for its own, an extended one as it is reported, and is there to be
asked for it. -/
def Reaches (s : State) (id : IntId) : Keeper → Prop
  | banked => s.isRouted = false ∧ id.number < 1020
  | routed _ => s.isRouted = true ∧ s.options.reports id = true
  | redistributor cpu => ∃ c, Bank.OnBus s cpu c ∧ id.isPrivate = true
      ∧ (id.isExtendedPpi = true → id.number - 1024
        < (Routed.RedistributorInfo.ofWord (s.redistributorType cpu c)).privateCount)

namespace Reaches

/-- If everything that is built in is reported, the part has what it serves. -/
lemma of_serves (hs : s.Sound o) (hfit : o.Fits) (hk : k.Matches o) (hid : k.serves o id = true) :
    k.Reaches s id := by
  obtain rfl := hs.options
  cases k with
  | banked => exact ⟨hk, of_decide_eq_true hid⟩
  | routed security => exact ⟨hk, (hfit.reports id).trans hid⟩
  | redistributor cpu =>
    obtain ⟨c, hc⟩ := onBus hs hfit hk.1 hk.2
    rw [serves, Bool.and_eq_true, Bool.not_eq_true', Bool.and_eq_false_iff,
      decide_eq_false_iff_not] at hid
    refine ⟨c, hc, hid.1, fun he => ?_⟩
    rw [State.privateCount_ofWord c hfit hc.built hc.routed]
    exact Nat.lt_of_not_le (hid.2.resolve_left (by simp [he]))

variable (h : k.Reaches s id)
include h

lemma run_locate : ((k.block s.options).locate id).run Board.answer (.controller s)
    = (.ok ⟨(k.bank s id).layout, k.index id⟩, .controller s) := by
  cases k with
  | banked =>
    refine (run_map_guarded (run_require ..)).trans ?_
    rw [show decide (id.number < Banked.idLimit) = true from decide_eq_true h.2]
    rfl
  | routed security =>
    refine (run_map_guarded (run_place_of_reports ..)).trans ?_
    rw [if_pos h.2, layout_routed]
    rfl
  | redistributor cpu =>
    obtain ⟨c, hc, hprivate, hreported⟩ := h
    refine (run_map_guarded (run_index_of_reported hc)).trans ?_
    have hcount : (id.isExtendedPpi && decide
        ((Routed.RedistributorInfo.ofWord (s.redistributorType cpu c)).privateCount ≤ id.number - 1024))
        = false := by
      rw [Bool.and_eq_false_iff, decide_eq_false_iff_not, Nat.not_le, ← Bool.not_eq_true]
      exact or_iff_not_imp_left.mpr fun he => hreported (not_not.mp he)
    rw [hprivate, hcount]
    rfl

/-- The bank looks where the owner of the interrupt looks. -/
lemma view_eq :
    (k.bank s id).view ((k.bank s id).first + k.index id) = s.place? id.number (k.owner s) := by
  cases k with
  | banked =>
    show s.distributorView (0 + id.number) = _
    rw [Nat.zero_add, State.distributorView, h.1]
    rfl
  | routed security =>
    have hid := h.2
    rw [Options.reports, Bool.or_eq_true, Bool.and_eq_true, id.isSpi_iff, id.isExtendedSpi_iff] at hid
    have h32 : ¬ id.number < 32 := by omega
    have hview : s.distributorView id.number = s.place? id.number s.current := by
      simp [State.distributorView, h32]
    simp only [bank, index, owner]
    split
    next he =>
      have := id.isExtendedSpi_iff.mp he
      show s.distributorView (4096 + (id.number - 4096)) = _
      rw [Nat.add_sub_cancel' this.1, hview]
    next =>
      show s.distributorView (0 + id.number) = _
      rw [Nat.zero_add, hview]
  | redistributor cpu =>
    obtain ⟨c, hc, hprivate, -⟩ := h
    have h32 : 32 ≤ s.options.privateCount := by
      unfold Options.privateCount
      repeat' split
      all_goals omega
    rw [id.isPrivate_iff] at hprivate
    show s.redistributorView cpu (0 + (if id.isExtendedPpi then id.number - 1024 else id.number)) = _
    rw [Nat.zero_add, State.redistributorView]
    rcases he : id.isExtendedPpi with _ | _
    · have : id.number < 32 := by
        have := id.isExtendedPpi_iff.not.mp (by simp [he])
        omega
      rw [if_neg Bool.false_ne_true, if_pos (by omega), privateNumber, if_pos this]
      rfl
    · have hrange := id.isExtendedPpi_iff.mp he
      rw [if_pos rfl]
      split
      next =>
        rw [privateNumber, if_neg (by omega), Nat.sub_add_cancel (by omega)]
        rfl
      next hge =>
        -- neither of them knows one that is not built in
        have hlimit := State.sharedLimit_le s.options
        show none = s.place? id.number cpu
        simp only [State.place?, hc.core]
        rw [if_neg (by omega), if_neg (by omega), if_neg, if_neg (by omega), if_neg (by omega)]
        simp only [Bool.and_eq_true, decide_eq_true_eq]
        omega

lemma finds : (k.block s.options).Finds id (k.bank s id) (k.index id) s := by
  refine ⟨?_, h.run_locate, ?_⟩
  · cases k with
    | banked => exact Bank.keeps_distributor s
    | routed security =>
      simp only [bank]
      split
      · exact Bank.keeps_extended h.1
      · exact Bank.keeps_distributor s
    | redistributor cpu =>
      obtain ⟨c, hc, -⟩ := h
      exact Bank.keeps_redistributor hc
  · cases k with
    | banked => exact h.2
    | routed security =>
      have hid := h.2
      rw [Options.reports, Bool.or_eq_true, Bool.and_eq_true, id.isSpi_iff, id.isExtendedSpi_iff] at hid
      simp only [bank, index]
      split
      next he =>
        have := id.isExtendedSpi_iff.mp he
        show id.number - 4096 < 1024
        omega
      next he =>
        have := id.isExtendedSpi_iff.not.mp he
        show id.number < 1020
        omega
    | redistributor cpu =>
      obtain ⟨c, -, hprivate, -⟩ := h
      rw [id.isPrivate_iff] at hprivate
      show (if id.isExtendedPpi then id.number - 1024 else id.number) < 96
      split
      next he =>
        have := id.isExtendedPpi_iff.mp he
        omega
      next he =>
        have := id.isExtendedPpi_iff.not.mp he
        omega

lemma modifyAt_view (f : Irq → Irq) :
    s.modifyAt (k.bank s id).view ((k.bank s id).first + k.index id) f
      = s.modifyIrq id.number (k.owner s) f := by
  rw [State.modifyAt, h.view_eq]
  rfl

lemma irqAt?_view : s.irqAt? (k.bank s id).view ((k.bank s id).first + k.index id)
    = s.irq? id.number (k.owner s) := by
  rw [State.irqAt?, h.view_eq]
  rfl

end Reaches

lemma finds (hs : s.Sound o) (hfit : o.Fits) (hk : k.Matches o) (hid : k.serves o id = true) :
    (k.block o).Finds id (k.bank s id) (k.index id) s :=
  hs.options ▸ (Reaches.of_serves hs hfit hk hid).finds

lemma modifyAt_view (hs : s.Sound o) (hfit : o.Fits) (hk : k.Matches o)
    (hid : k.serves o id = true) (f : Irq → Irq) :
    s.modifyAt (k.bank s id).view ((k.bank s id).first + k.index id) f
      = s.modifyIrq id.number (k.owner s) f :=
  (Reaches.of_serves hs hfit hk hid).modifyAt_view f

end Locate

/-! ### Setting and showing -/

section Operations

variable {o : Options} {s : State} {k : Keeper} {a : Setting} {id : IntId}

lemma serves_of_accepts (hid : k.accepts o a id = true) : k.serves o id = true := by
  rw [accepts, Bool.and_eq_true] at hid
  exact hid.1

lemma offers_bank {f : Attribute} (hs : s.Sound o) (hk : k.Matches o)
    (ha : k.offers (.plain f) = true) : (k.bank s id).offers f = true := by
  cases k with
  | banked =>
    obtain rfl : f = .group1 := by simpa [offers] using ha
    show (s.isRouted || _) = true
    simp
  | routed security =>
    have hr : s.isRouted = true := by rw [State.isRouted, hs.options]; exact hk
    simp only [bank]
    split
    · rfl
    · show (s.isRouted || _) = true
      simp [hr]
  | redistributor cpu => rfl

/-- Only the triggers of the SGIs are in a word that stays as it is, or those of the PPIs, that
share no word with them. -/
lemma fixed_le (k : Keeper) (s : State) (hsgi : id.isSgi = false) :
    (k.bank s id).fixed ≤ k.index id / 16 := by
  have h16 : 16 ≤ id.number := by
    have := id.isSgi_iff.not.mp (by simp [hsgi])
    omega
  cases k with
  | banked =>
    show 1 ≤ id.number / 16
    omega
  | routed security =>
    simp only [bank, index]
    split
    · exact Nat.zero_le _
    · show 1 ≤ id.number / 16
      omega
  | redistributor cpu =>
    show 1 ≤ (if id.isExtendedPpi then id.number - 1024 else id.number) / 16
    split
    next he =>
      have := id.isExtendedPpi_iff.mp he
      omega
    next => omega

lemma isSpi_of_lt (hlt : id.number < 1020) (hprivate : id.isPrivate = false) : id.isSpi = true := by
  have := id.isPrivate_iff.not.mp (by simp [hprivate])
  rw [id.isSpi_iff]
  omega

lemma isSpi_of_accepts (hid : banked.accepts o .targets id = true) : id.isSpi = true := by
  simp only [accepts, serves, Bool.and_eq_true, decide_eq_true_eq, Bool.not_eq_true',
    beq_self_eq_true, Bool.true_and] at hid
  exact isSpi_of_lt hid.1 hid.2

/-- Targets are only set where they mean something. -/
lemma run_setTargets (hr : s.isRouted = false) (v : CpuSet) :
    ((Banked.Distributor.mk Region.distributor.base).setTargets id v).run Board.answer (.controller s)
      = if id.isSpi then
          (.ok (), .controller (s.modifyIrq id.number s.current (Setting.put .targets v)))
        else (.error .assertion, .controller s) := by
  have hwrite (h : id.isSpi = true) : Board.answer (.controller s)
        (.write .byte (Region.distributor.base + 0x800 + id.number) v.mask)
      = (.ok (), .controller (s.modifyIrq id.number s.current (Setting.put .targets v))) := by
    have hid := id.isSpi_iff.mp h
    refine ((Bank.answer_byte (by omega)).2 v.mask).trans ?_
    rw [State.writeDistributorByte_targets hr hid.1 hid.2]
    unfold State.modifyDistributorIrq State.distributorView
    rw [hr]
    rfl
  have hrange : id.isSpi = (decide (id.number < Banked.idLimit) && !id.isPrivate) := by
    rw [Bool.eq_iff_iff, id.isSpi_iff, Bool.and_eq_true, Bool.not_eq_true', decide_eq_true_eq,
      ← Bool.not_eq_true, id.isPrivate_iff, Banked.idLimit]
    omega
  refine (run_require_bind ..).trans ?_
  rw [run_require_bind, hrange]
  rcases hlt : decide (id.number < Banked.idLimit) with _ | _
  · rfl
  rcases hprivate : id.isPrivate with _ | _
  · exact (run_write8 ..).trans (hwrite (by rw [hrange, hlt, hprivate]; rfl))
  · rfl

lemma run_targets (hr : s.isRouted = false) (h : id.isSpi = true) :
    ((Banked.Distributor.mk Region.distributor.base).targets id).run Board.answer (.controller s)
      = (.ok (Setting.shown .targets id (s.irq? id.number s.current)), .controller s) := by
  have hid := id.isSpi_iff.mp h
  have hread : Board.answer (.controller s)
        (.read .byte (Region.distributor.base + 0x800 + id.number))
      = (.ok (((s.irq? id.number s.current).map (·.targets)).getD 0), .controller s) := by
    refine (Bank.answer_byte (by omega)).1.trans ?_
    rw [State.readDistributorByte_targets hr hid.1 hid.2]
    unfold State.distributorIrq? State.irqAt? State.distributorView
    rw [hr]
    rfl
  refine ((run_require_bind ..).trans (if_pos (decide_eq_true hid.2))).trans ?_
  refine (run_bind_ok ((run_read8 ..).trans hread)).trans ?_
  rcases s.irq? id.number s.current with _ | q <;> rfl

lemma banked_of_offers (ha : k.offers .targets = true) : k = banked := by
  cases k <;> simp_all [offers]

/-- A setter is a change of one field of one interrupt. -/
lemma Reaches.run_set (h : k.Reaches s id) (hs : s.Sound o) (hk : k.Matches o)
    (ha : k.offers a = true) (htargets : a = .targets → id.isPrivate = false) (v : a.Value) :
    (k.set o a id v).run Board.answer (.controller s) =
      (.ok (), .controller
        (if a.isFixed id then s else s.modifyIrq id.number (k.owner s) (a.put v))) := by
  obtain rfl := hs.options
  have hfinds := h.finds
  have hview := h.modifyAt_view
  cases a with
  | flag f => exact (hfinds.run_setFlag f v).trans (by rw [hview]; rfl)
  | plain f => exact (hfinds.run_setAttribute (offers_bank hs hk ha) v).trans (by rw [hview]; rfl)
  | priority => exact (hfinds.run_setPriority v).trans (by rw [hview]; rfl)
  | trigger =>
    rcases hsgi : id.isSgi with _ | _
    · refine (hfinds.run_setTrigger hsgi (fixed_le _ s hsgi) v).trans ?_
      rw [hview, Setting.isFixed, hsgi]
      rfl
    · refine (hfinds.run_setTrigger_of_sgi hsgi v).trans ?_
      rw [Setting.isFixed, hsgi]
      rfl
  | targets =>
    obtain rfl := banked_of_offers ha
    exact (run_setTargets h.1 v).trans (if_pos (isSpi_of_lt h.2 (htargets rfl)))

variable (hs : s.Sound o) (hfit : o.Fits) (hk : k.Matches o) (ha : k.offers a = true)
include hs hfit hk ha

lemma run_set (hid : k.accepts o a id = true) (v : a.Value) :
    (k.set o a id v).run Board.answer (.controller s) =
      (.ok (), .controller
        (if a.isFixed id then s else s.modifyIrq id.number (k.owner s) (a.put v))) := by
  refine (Reaches.of_serves hs hfit hk (serves_of_accepts hid)).run_set hs hk ha (fun ht => ?_) v
  simpa [accepts, ht] using (Bool.and_eq_true_iff.mp hid).2

/-- A getter shows the field and changes nothing. -/
lemma run_get (hid : k.accepts o a id = true) :
    (k.get o a id).run Board.answer (.controller s)
      = (.ok (a.shown id (s.irq? id.number (k.owner s))), .controller s) := by
  have hserves := serves_of_accepts hid
  have hfinds := finds hs hfit hk hserves
  have hview := (Reaches.of_serves hs hfit hk hserves).irqAt?_view
  cases a with
  | flag f =>
    refine (hfinds.run_hasFlag f).trans ?_
    rw [State.bitAt, hview]
    rfl
  | plain f =>
    refine (hfinds.run_hasAttribute (offers_bank hs hk ha)).trans ?_
    rw [State.bitAt, hview]
    rfl
  | priority => exact hfinds.run_priority.trans (by rw [hview]; rfl)
  | trigger =>
    rcases hsgi : id.isSgi with _ | _
    · refine (hfinds.run_trigger hsgi).trans ?_
      rw [State.edgeAt, hview, Setting.shown, hsgi]
      rcases s.irq? id.number (k.owner s) with _ | q <;> rfl
    · refine (hfinds.run_trigger_of_sgi hsgi).trans ?_
      rw [Setting.shown, hsgi]
      rfl
  | targets =>
    obtain rfl := banked_of_offers ha
    exact run_targets (by rw [State.isRouted, hs.options]; exact hk) (isSpi_of_accepts hid)

omit ha in
/-- A call about an interrupt of another part fails before it does anything. -/
lemma run_set_refused (hoffers : k.offers a = true) (hid : k.accepts o a id = false) (v : a.Value) :
    (k.set o a id v).run Board.answer (.controller s) = (.error .assertion, .controller s) := by
  cases a with
  | targets =>
    obtain rfl := banked_of_offers hoffers
    have hspi : id.isSpi = false := by
      rw [Bool.eq_false_iff, ne_eq, id.isSpi_iff]
      simp only [accepts, serves, Bool.and_eq_false_iff, decide_eq_false_iff_not, Bool.not_eq_false',
        beq_self_eq_true, Bool.true_and, id.isPrivate_iff] at hid
      omega
    exact (run_setTargets (by rw [State.isRouted, hs.options]; exact hk) v).trans
      (if_neg (by simp [hspi]))
  | _ =>
    have hserves : k.serves o id = false := by simpa [accepts] using hid
    exact run_bind_error (run_locate_refused hs hfit hk hserves)

omit ha in
lemma run_get_refused (htargets : a ≠ .targets) (hid : k.serves o id = false) :
    (k.get o a id).run Board.answer (.controller s) = (.error .assertion, .controller s) := by
  cases a with
  | targets => exact absurd rfl htargets
  | _ => exact run_bind_error (run_locate_refused hs hfit hk hid)

end Operations

end Keeper

open Keeper in
/-- **A setter changes one field of one interrupt and nothing else**, and the getter shows it. The
interrupt is the one of the core that owns it. Where it is not implemented nothing is changed,
nor is the trigger of an SGI, and a call about an interrupt of another part fails. -/
theorem set_changes_one_field {o : Options} {s : State} (hs : Reachable o s) (hfit : o.Fits)
    {k : Keeper} (hk : k.Matches o) {a : Setting} (ha : k.offers a = true) (id : IntId)
    (v : a.Value) {m : Machine} (hm : m.board = .controller s) (hf : m.feeds = {}) :
    if k.accepts o a id then
      ∃ t m₁ m₂, (k.set o a id v).run Machine.answer m = (.ok (), m₁) ∧ m₁.board = .controller t
        ∧ (k.get o a id).run Machine.answer m₁ =
            (.ok (a.kept id (s.irq? id.number (k.owner s)).isSome v), m₂)
        ∧ m₂.board = .controller t
        ∧ t.bare = s.bare
        ∧ ∀ p, t.at? p =
            if s.place? id.number (k.owner s) = some p ∧ a.isFixed id = false then
              (s.at? p).map (a.put v)
            else s.at? p
    else ∃ m₁, (k.set o a id v).run Machine.answer m = (.error .assertion, m₁)
        ∧ m₁.board = .controller s := by
  have hsound := hs.sound
  split
  next hid =>
    obtain ⟨m₁, hset, hm₁, hf₁⟩ := Machine.exists_run hm hf (run_set hsound hfit hk ha hid v)
    obtain ⟨t, ht⟩ : ∃ t, t = if a.isFixed id then s
      else s.modifyIrq id.number (k.owner s) (a.put v) := ⟨_, rfl⟩
    rw [← ht] at hm₁
    have hbare : t.bare = s.bare := by rw [ht]; split <;> simp
    have hat (p : Place) : t.at? p =
        if s.place? id.number (k.owner s) = some p ∧ a.isFixed id = false then
          (s.at? p).map (a.put v)
        else s.at? p := by
      rw [ht]
      split
      next h => simp [h]
      next h => simp [State.at?_modifyIrq, h]
    have hirq : t.irq? id.number (k.owner s) = if a.isFixed id then s.irq? id.number (k.owner s)
        else (s.irq? id.number (k.owner s)).map (a.put v) := by
      rw [ht]
      split
      · rfl
      · exact State.irq?_modifyIrq_self ..
    have howner : k.owner t = k.owner s := by
      have := State.current_of_bare hbare
      cases k <;> first | rfl | exact this
    obtain ⟨m₂, hget, hm₂, -⟩ := Machine.exists_run hm₁ hf₁
      (run_get (hsound.of_bare hbare) hfit hk ha hid)
    rw [howner, hirq, Setting.shown_put] at hget
    exact ⟨t, m₁, m₂, hset, hm₁, hget, hm₂, hbare, hat⟩
  next hid =>
    obtain ⟨m₁, hrun, hm₁, -⟩ := Machine.exists_run hm hf
      (run_set_refused hsound hfit hk ha (Bool.eq_false_iff.mpr hid) v)
    exact ⟨m₁, hrun, hm₁⟩

lemma fits_banked : Options.banked.Fits := ⟨by decide, by decide, by decide, by decide⟩

lemma fits_routed : Options.routed.Fits := ⟨by decide, by decide, by decide, by decide⟩

/-- Core 0 sets the priority of SGI 5 of core 2, and reads it back. -/
theorem set_changes_one_field_of_core_two :
    Options.routed.Fits ∧ (Keeper.redistributor 2).Matches .routed ∧
    (Keeper.redistributor 2).offers .priority = true ∧
    (Keeper.redistributor 2).accepts .routed .priority (.ofNat 5) = true ∧
    ∃ m₁ m₂, ((Keeper.redistributor 2).set .routed .priority (.ofNat 5) 0x40).run Machine.answer
        { board := .controller (.reset .routed) } = (.ok (), m₁)
      ∧ ((Keeper.redistributor 2).get .routed .priority (.ofNat 5)).run Machine.answer m₁
        = (.ok (0x40 : Priority), m₂) := by
  have hmatches : (Keeper.redistributor 2).Matches .routed := ⟨rfl, by decide⟩
  have haccepts : (Keeper.redistributor 2).accepts .routed .priority (.ofNat 5) = true := by decide
  refine ⟨fits_routed, hmatches, rfl, haccepts, ?_⟩
  have h := set_changes_one_field .reset fits_routed hmatches (a := .priority) rfl (.ofNat 5) 0x40
    (m := { board := .controller (.reset .routed) }) rfl rfl
  rw [if_pos haccepts] at h
  obtain ⟨t, m₁, m₂, hset, -, hget, -⟩ := h
  exact ⟨m₁, m₂, hset, hget⟩

end InterruptControl
