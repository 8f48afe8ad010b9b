import InterruptControl.Bus.Machine
import InterruptControl.Proofs.Program

/-!
Accesses to a board with a controller, by the region that an address lies in, and how a
machine with nothing fed to it behaves as its board.
-/

namespace InterruptControl

namespace Bus

open Hardware (State)

namespace Board

variable {s : State} {a o : Nat}

lemma wrapAddress_of_lt (h : a < 0x10000000000000000) : wrapAddress a = a := Nat.mod_eq_of_lt h

/-- The address lies in the region. -/
def inside (b : Board) (a : Nat) (r : Region) : Bool :=
  decide (r.base ≤ a) && decide (a < r.base + b.extent r)

lemma inside_iff {b : Board} {r : Region} :
    b.inside a r = true ↔ r.base ≤ a ∧ a < r.base + b.extent r := by
  rw [inside, Bool.and_eq_true, decide_eq_true_iff, decide_eq_true_iff]

/-- The region is the first one that the address lies in. -/
lemma decode_eq {b : Board} {r : Region} (hend : a < 0x10000000000000000)
    (hr : Region.all.find? (b.inside a) = some r) (ha : a = r.base + o) :
    b.decode a = some (r, o) := by
  have : b.decode a = (Region.all.find? (b.inside (wrapAddress a))).map
      fun r => (r, wrapAddress a - r.base) := rfl
  rw [this, wrapAddress_of_lt hend, hr, Option.map_some, ha, Nat.add_sub_cancel_left]

lemma decode_distributor (ha : a = Region.distributor.base + o) (ho : o < 0x10000) :
    (controller s).decode a = some (.distributor, o) := by
  have hb := ha
  rw [Region.base] at hb
  refine decode_eq (by omega) (List.find?_cons_of_pos ?_) ha
  rw [inside_iff, Region.base, extent]
  omega

lemma decode_interface (hs : s.isRouted = false) (ha : a = Region.interface.base + o)
    (ho : o < 0x2000) : (controller s).decode a = some (.interface, o) := by
  have hb := ha
  rw [Region.base] at hb
  have hd : ¬ (controller s).inside a .distributor = true := by
    rw [inside_iff, Region.base, extent]
    omega
  have hi : (controller s).inside a .interface = true := by
    rw [inside_iff, Region.base, extent, hs, if_neg Bool.false_ne_true]
    omega
  refine decode_eq (by omega) ?_ ha
  rw [Region.all, List.find?_cons_of_neg hd, List.find?_cons_of_pos hi]

/-- All the redistributors lie below the end of the addresses. -/
lemma decode_redistributors (hs : s.isRouted = true) (ha : a = Region.redistributors.base + o)
    (ho : o < s.options.cpus * s.options.stride) (hend : a < 0x10000000000000000) :
    (controller s).decode a = some (.redistributors, o) := by
  have hb := ha
  rw [Region.base] at hb
  have hd : ¬ (controller s).inside a .distributor = true := by
    rw [inside_iff, Region.base, extent]
    omega
  have hi : ¬ (controller s).inside a .interface = true := by
    rw [inside_iff, Region.base, extent, hs, if_pos rfl]
    omega
  have hr : (controller s).inside a .redistributors = true := by
    rw [inside_iff, Region.base, extent, hs, if_pos rfl]
    omega
  refine decode_eq hend ?_ ha
  rw [Region.all, List.find?_cons_of_neg hd, List.find?_cons_of_neg hi, List.find?_cons_of_pos hr]

@[simp] lemma decode_wrapAddress (b : Board) (a : Nat) : b.decode (wrapAddress a) = b.decode a := by
  have : wrapAddress (wrapAddress a) = wrapAddress a := Nat.mod_mod ..
  simp only [decode, this]

/-! ### Accesses by region -/

lemma answer_read_distributor (w : Width) (ha : a = Region.distributor.base + o)
    (ho : o < 0x10000) :
    answer (controller s) (.read w a) = (.ok (s.readDistributor o w), controller s) := by
  simp only [answer, decode_distributor ha ho]
  rfl

lemma answer_write_distributor (w : Width) (v : BitVec w.bits)
    (ha : a = Region.distributor.base + o) (ho : o < 0x10000) :
    answer (controller s) (.write w a v) = (.ok (), controller (s.writeDistributor o w v)) := by
  simp only [answer, decode_distributor ha ho]
  rfl

lemma answer_read_interface (w : Width) (hs : s.isRouted = false)
    (ha : a = Region.interface.base + o) (ho : o < 0x2000) :
    answer (controller s) (.read w a)
      = (.ok (s.readInterface o w).1, controller (s.readInterface o w).2) := by
  simp only [answer, decode_interface hs ha ho]
  rfl

lemma answer_write_interface (w : Width) (v : BitVec w.bits) (hs : s.isRouted = false)
    (ha : a = Region.interface.base + o) (ho : o < 0x2000) :
    answer (controller s) (.write w a v) =
      match s.writeInterface o (v.setWidth 32) with
      | .ok t => (.ok (), controller t)
      | .error e => (.error (.fault e), controller s) := by
  simp only [answer, decode_interface hs ha ho, write, writeRegion]
  cases s.writeInterface o (v.setWidth 32) <;> rfl

lemma answer_read_redistributors (w : Width) (hs : s.isRouted = true)
    (ha : a = Region.redistributors.base + o) (ho : o < s.options.cpus * s.options.stride)
    (hend : a < 0x10000000000000000) :
    answer (controller s) (.read w a) = (.ok (s.readRedistributor o w), controller s) := by
  simp only [answer, decode_redistributors hs ha ho hend]
  rfl

lemma answer_write_redistributors (w : Width) (v : BitVec w.bits) (hs : s.isRouted = true)
    (ha : a = Region.redistributors.base + o) (ho : o < s.options.cpus * s.options.stride)
    (hend : a < 0x10000000000000000) :
    answer (controller s) (.write w a v) = (.ok (), controller (s.writeRedistributor o w v)) := by
  simp only [answer, decode_redistributors hs ha ho hend]
  rfl

lemma answer_readSystem (r : SystemRegister) :
    answer (controller s) (.readSystem r) = ((s.readSystem r).1, controller (s.readSystem r).2) :=
  rfl

lemma answer_writeSystem (r : SystemRegister) (v : BitVec 64) :
    answer (controller s) (.writeSystem r v) =
      match s.writeSystem r v with
      | .ok t => (.ok (), controller t)
      | .error e => (.error e, controller s) := by
  simp only [answer, writeSystem]
  cases s.writeSystem r v <;> rfl

@[simp] lemma answer_barrier (b : Board) : answer b .barrier = (.ok (), b) := rfl

@[simp] lemma answer_notify (b : Board) (n : Notice) : answer b (.notify n) = (.ok (), b) := rfl

end Board

/-! ### Machines -/

namespace Machine

open Program

variable {α : Type} {m : Machine}

section Instruments

variable (m : Machine) (x : Access) (f : Tally → Tally)

/-- A record is a change of the trace alone. -/
lemma record_eq : m.record x = { m with trace := (m.record x).trace } := by
  unfold record
  split <;> rfl

@[simp] lemma board_record : (m.record x).board = m.board := (congrArg board (record_eq m x) :)

@[simp] lemma feeds_record : (m.record x).feeds = m.feeds := (congrArg feeds (record_eq m x) :)

@[simp] lemma tally_record : (m.record x).tally = m.tally := (congrArg tally (record_eq m x) :)

@[simp] lemma tracing_record : (m.record x).tracing = m.tracing :=
  (congrArg tracing (record_eq m x) :)

/-- Counting is a change of the tally alone. -/
lemma tallyWith_eq : m.tallyWith f = { m with tally := (m.tallyWith f).tally } := by
  unfold tallyWith
  split <;> rfl

@[simp] lemma board_tallyWith : (m.tallyWith f).board = m.board :=
  (congrArg board (tallyWith_eq m f) :)

@[simp] lemma feeds_tallyWith : (m.tallyWith f).feeds = m.feeds :=
  (congrArg feeds (tallyWith_eq m f) :)

@[simp] lemma trace_tallyWith : (m.tallyWith f).trace = m.trace :=
  (congrArg trace (tallyWith_eq m f) :)

@[simp] lemma tracing_tallyWith : (m.tallyWith f).tracing = m.tracing :=
  (congrArg tracing (tallyWith_eq m f) :)

end Instruments

lemma trace_record (ht : m.tracing = true) (x : Access) :
    (m.record x).trace = m.trace.push x := by
  rw [record, if_pos ht]

lemma tally_tallyWith {s : State} (hm : m.board = .controller s) (f : Tally → Tally) :
    (m.tallyWith f).tally = f m.tally := by
  rw [tallyWith, hm]

lemma next?_of_unfed (hf : m.feeds = {}) (t : FeedTarget) : m.feeds.next? t = none := by
  rw [hf]
  rfl

/-- A machine that nothing is fed to answers as its board does. -/
lemma answer_unfed (hf : m.feeds = {}) (q : Request) :
    (m.answer q).1 = (m.board.answer q).1 ∧ (m.answer q).2.board = (m.board.answer q).2
      ∧ (m.answer q).2.feeds = {} := by
  cases q with
  | read w a =>
    simp only [answer, read, Board.answer, Board.decode_wrapAddress, next?_of_unfed hf]
    rcases m.board.decode a with _ | ⟨r, o⟩
    · exact ⟨rfl, rfl, hf⟩
    · simp [countRead, hf]
  | write w a v =>
    simp only [answer, write, Board.answer, Board.decode_wrapAddress]
    rcases m.board.decode a with _ | ⟨r, o⟩
    · exact ⟨rfl, rfl, hf⟩
    · simp only [board_tallyWith, board_record, countWrite]
      rcases m.board.write r o w v with e | b <;> simp [hf]
  | readSystem r =>
    simp only [answer, readSystem, Board.answer, next?_of_unfed hf]
    rcases m.board.readSystem r with ⟨_ | v, b⟩
    · exact ⟨rfl, rfl, hf⟩
    · simp [countSystemRead, hf]
  | writeSystem r v =>
    simp only [answer, writeSystem, Board.answer, board_record, countSystemWrite]
    rcases m.board.writeSystem r v with e | b <;> simp [hf]
  | barrier => simp [answer, barrier, Board.answer, countBarrier, hf]
  | notify n => exact ⟨rfl, rfl, hf⟩

/-- So a call runs on it as on its board. -/
lemma run_unfed (p : Program α) (hf : m.feeds = {}) :
    (p.run answer m).1 = (p.run Board.answer m.board).1
      ∧ (p.run answer m).2.board = (p.run Board.answer m.board).2
      ∧ (p.run answer m).2.feeds = {} := by
  induction p generalizing m with
  | done a => exact ⟨rfl, rfl, hf⟩
  | fail e => exact ⟨rfl, rfl, hf⟩
  | ask q k ih =>
    obtain ⟨hv, hb, hf'⟩ := answer_unfed hf q
    rw [run_ask, run_ask]
    rcases hm : m.answer q with ⟨r, m'⟩
    rcases hq : m.board.answer q with ⟨r', b'⟩
    rw [hm, hq] at hv hb
    rw [hm] at hf'
    simp only at hv hb hf'
    subst hv hb
    rcases r with e | v
    · exact ⟨rfl, rfl, hf'⟩
    · exact ih v hf'

lemma exists_run {p : Program α} {b b' : Board} {r : Except Failure α} (hb : m.board = b)
    (hf : m.feeds = {}) (h : p.run Board.answer b = (r, b')) :
    ∃ m', p.run answer m = (r, m') ∧ m'.board = b' ∧ m'.feeds = {} := by
  obtain ⟨h1, h2, h3⟩ := run_unfed p hf
  rw [hb, h] at h1 h2
  exact ⟨_, Prod.ext h1 rfl, h2, h3⟩

end Machine

end Bus

/-! ### Calls on the hardware alone -/

namespace Hardware.State

/-- A call on the hardware: its result, and what is left. -/
def perform {α : Type} (s : State) (p : Program α) : Except Failure α × State :=
  let r := p.run Bus.Board.answer (.controller s)
  (r.1, r.2.hardware)

end Hardware.State

end InterruptControl
