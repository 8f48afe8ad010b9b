import InterruptControl.Proofs.Gic.Requests
import InterruptControl.Proofs.Requests
import InterruptControl.Proofs.Settings

/-!
How often the operations on one interrupt write.

A flag goes up with one write, and takes one to go down if it was up. A plain bit is written if it is
to change. What a call decides by is read through a word that many interrupts share, and the decision
is the one about the interrupt.
-/

namespace InterruptControl

open Bus Hardware Program

/-! ### Counting writes -/

/-- The request writes to a register that has an address. -/
def Request.isWrite : Request → Bool
  | .write .. => true
  | _ => false

namespace Program

variable {α β σ : Type} {d : Device σ} {s s' : σ} {p : Program α} {f : α → Program β} {a : α}

/-- How often the call writes. -/
def writes (d : Device σ) (p : Program α) (s : σ) : Nat := (p.requests d s).countP Request.isWrite

lemma writes_bind (hp : p.run d s = (.ok a, s')) :
    (p >>= f).writes d s = p.writes d s + (f a).writes d s' := by
  have hrequests := ((Performs.of_run hp).bind (.of_run (Prod.ext rfl rfl) :
    Performs d (f a) s' ((f a).run d s').1 ((f a).run d s').2 _)).requests
  rw [writes, hrequests, List.countP_append]
  rfl

/-- What comes before is done without a write. -/
lemma writes_bind_zero (hp : p.run d s = (.ok a, s')) (h : p.writes d s = 0) :
    (p >>= f).writes d s = (f a).writes d s' := by
  rw [writes_bind hp, h, Nat.zero_add]

@[simp] lemma writes_pure (a : α) : (pure a : Program α).writes d s = 0 := rfl

@[simp] lemma writes_request (q : Request) : (request q).writes d s = if q.isWrite then 1 else 0 := by
  have hrequests := (Performs.request (d := d) (s := s) (q := q) (Prod.ext rfl rfl)).requests
  rw [writes, hrequests, List.countP_singleton]

lemma writes_of_within (hp : p.Within fun q => q.isWrite = false) : p.writes d s = 0 :=
  List.countP_eq_zero.mpr fun _ hq => Bool.eq_false_iff.mp (hp.requests hq)

lemma writes_require_bind {b : Bool} (hb : b = true) {f : Unit → Program α} :
    (require b >>= f).writes d s = (f ()).writes d s := by
  subst hb
  rfl

lemma writes_read32_bind {address : Nat} {v : BitVec 32} {f : BitVec 32 → Program β}
    (hr : d s (.read .word address) = (.ok v, s)) :
    (read32 address >>= f).writes d s = (f v).writes d s :=
  writes_bind_zero ((run_read32 ..).trans hr) (writes_request _)

end Program

namespace Bus.Machine

variable {α : Type} {m : Machine} {s : State} {p : Program α} {v : α}

/-- A write that is answered is counted. -/
lemma total_answer (hm : m.board = .controller s) (hf : m.feeds = {}) {q : Request} {x : q.Answer}
    (hq : (Board.answer (.controller s) q).1 = .ok x) :
    (m.answer q).2.tally.total = m.tally.total + if q.isWrite then 1 else 0 := by
  cases q with
  | read w a =>
    simp only [answer, read, next?_of_unfed hf]
    rcases m.board.decode (wrapAddress a) with _ | ⟨r, i⟩
    · rfl
    · simp [countRead, Request.isWrite]
  | write w a v =>
    simp only [Board.answer, ← hm] at hq
    simp only [answer, write, Board.decode_wrapAddress]
    rcases hd : m.board.decode a with _ | ⟨r, i⟩
    · rw [hd] at hq
      cases hq
    · have hcount := tally_tallyWith (m := m.countWrite.record (.write w r i v.toNat))
        ((board_record ..).trans hm) (·.addWrite (wrapAddress a))
      rw [tally_record] at hcount
      simp only
      split <;> exact congrArg Tally.total hcount
  | readSystem r =>
    simp only [answer, readSystem, next?_of_unfed hf]
    rcases m.board.readSystem r with ⟨_ | v, b⟩
    · rfl
    · simp [countSystemRead, Request.isWrite]
  | writeSystem r v =>
    simp only [answer, writeSystem]
    split <;> simp [countSystemWrite, Request.isWrite]
  | barrier =>
    simp only [answer, barrier]
    rw [tally_tallyWith (m := m.countBarrier.record .barrier) ((board_record ..).trans hm),
      tally_record]
    rfl
  | notify n => rfl

/-- So are all the writes of a call that returns. -/
lemma total_run (hm : m.board = .controller s) (hf : m.feeds = {})
    (hp : (p.run Board.answer (.controller s)).1 = .ok v) :
    (p.run answer m).2.tally.total = m.tally.total + p.writes Board.answer (.controller s) := by
  induction p generalizing m s with
  | done _ => rfl
  | fail _ => cases hp
  | ask q k ih =>
    obtain ⟨hv, hb, hf'⟩ := answer_unfed hf q
    have hleft := State.answer_eq s q
    rw [run_ask] at hp ⊢
    rw [Program.writes, requests_ask, List.countP_cons]
    rw [hm] at hv hb
    rcases hq : Board.answer (.controller s) q with ⟨e | w, b⟩
    · rw [hq] at hp
      cases hp
    · have hcount := total_answer (x := w) hm hf (by rw [hq])
      rw [hq] at hp hv hb hleft
      obtain rfl : b = _ := hleft
      rcases ha : m.answer q with ⟨r, m'⟩
      rw [ha] at hv hb hf' hcount
      obtain rfl : r = .ok w := hv
      have hrest := ih w hb hf' hp
      simp only at hrest hcount ⊢
      rw [hrest, hcount, Program.writes]
      omega

end Bus.Machine

/-! ### Tables -/

namespace Table

variable {σ : Type} {d : Device σ} {s : σ} {t : Table} {i : Nat} {v : BitVec 32}

section Bits

variable (h : i / 32 < t.words)
include h

lemma writes_locateBit : (t.locateBit i).writes d s = 0 := by
  rw [locateBit, writes_require_bind (decide_eq_true h), writes_pure]

lemma writes_set : (t.set i).writes d s = 1 := by
  rw [set, writes_bind_zero (run_locateBit h) (writes_locateBit h)]
  exact writes_request _

lemma writes_clear (hr : d s (.read .word (t.word (i / 32))) = (.ok v, s)) :
    (t.clear i).writes d s = if v.getLsbD (i % 32) then 1 else 0 := by
  rw [clear, writes_bind_zero (run_locateBit h) (writes_locateBit h), writes_read32_bind hr,
    bit_eq_twoPow]
  have hbit := and_twoPow_eq_zero (v := v) (Nat.mod_lt i (by decide : 0 < 32))
  rcases hv : v.getLsbD (i % 32) with _ | _
  · rw [if_pos (hbit.mpr hv)]
    rfl
  · rw [if_neg fun he => by simp [hbit.mp he] at hv]
    exact writes_request _

lemma writes_assign (hr : d s (.read .word (t.word (i / 32))) = (.ok v, s)) (b : Bool) :
    (t.assign i b).writes d s = if v.getLsbD (i % 32) = b then 0 else 1 := by
  rw [assign, writes_bind_zero (run_locateBit h) (writes_locateBit h), writes_read32_bind hr]
  have hsame : (if b then v ||| bit i else v &&& ~~~bit i) = v ↔ v.getLsbD (i % 32) = b :=
    assign_eq_self_iff v (Nat.mod_lt i (by decide)) b
  by_cases hbit : v.getLsbD (i % 32) = b
  · rw [if_pos hbit]
    simp only [hsame.mpr hbit, ne_eq, not_true_eq_false, if_false]
    rfl
  · rw [if_neg hbit]
    simp only [ne_eq, hsame, hbit, not_false_eq_true, if_true]
    exact writes_request _

end Bits

lemma writes_setEdge (h : i / 16 < t.words) (hr : d s (.read .word (t.word (i / 16))) = (.ok v, s))
    (b : Bool) : (t.setEdge i b).writes d s = 1 := by
  have hlocate : (t.locateTrigger i).writes d s = 0 := by
    rw [locateTrigger, writes_require_bind (decide_eq_true h), writes_pure]
  rw [setEdge, writes_bind_zero (run_locateTrigger h) hlocate, writes_read32_bind hr]
  exact writes_request _

end Table

/-! ### Blocks -/

namespace Block.Finds

variable {b : Block} {id : IntId} {bank : Bank} {i : Nat} {s : State}
  (h : b.Finds id bank i s) (hlocate : (b.locate id).writes Board.answer (.controller s) = 0)
include h hlocate

lemma writes_setFlag (f : Flag) (v : Bool) :
    (b.setFlag f id v).writes Board.answer (.controller s)
      = if v || s.bitAt bank.view f.field (bank.first + i) then 1 else 0 := by
  rw [setFlag, writes_bind_zero h.locate hlocate]
  cases v with
  | true => exact Table.writes_set h.lt_bits
  | false =>
    rw [if_neg (by decide), Table.writes_clear h.lt_bits (h.keeps.readBits (.clearing f) h.lt_bits),
      getLsbD_word, Bool.false_or]

lemma writes_setAttribute {a : Attribute} (ha : bank.offers a = true) (v : Bool) :
    (b.setAttribute a id v).writes Board.answer (.controller s)
      = if s.bitAt bank.view a.field (bank.first + i) = v then 0 else 1 := by
  rw [setAttribute, writes_bind_zero h.locate hlocate,
    Table.writes_assign h.lt_bits (h.keeps.readBits (.plain ha) h.lt_bits), getLsbD_word]

lemma writes_setPriority (p : Priority) :
    (b.setPriority id p).writes Board.answer (.controller s) = 1 := by
  rw [setPriority, writes_bind_zero h.locate hlocate]
  exact writes_request _

lemma writes_setTrigger (t : Trigger) : (b.setTrigger id t).writes Board.answer (.controller s)
    = if id.isSgi then 0 else 1 := by
  rw [setTrigger, writes_bind_zero h.locate hlocate]
  split
  · rfl
  · exact Table.writes_setEdge h.lt_triggers (h.keeps.readTriggers h.lt_triggers) _

end Block.Finds

/-! ### Settings -/

namespace Setting

/-- How often a setter writes that is asked for `v`, where `q` is what is kept of the interrupt. -/
def writes : (a : Setting) → IntId → a.Value → Irq → Nat
  | flag f, _, v, q => if v || q.get f.field then 1 else 0
  | plain a, _, v, q => if q.get a.field = v then 0 else 1
  | trigger, id, _, _ => if id.isSgi then 0 else 1
  | priority, _, _, _ | targets, _, _, _ => 1

/-- How often it does so if it was asked for `v` just before. -/
def rewrites : (a : Setting) → IntId → a.Value → Nat
  | flag _, _, v => if v then 1 else 0
  | plain _, _, _ => 0
  | trigger, id, _ => if id.isSgi then 0 else 1
  | priority, _, _ | targets, _, _ => 1

/-- What is kept of the interrupt once `v` was asked for. -/
def left (a : Setting) (id : IntId) (v : a.Value) (q : Irq) : Irq :=
  if a.isFixed id then q else a.put v q

lemma put_put (a : Setting) (v : a.Value) (q : Irq) : a.put v (a.put v q) = a.put v q := by
  cases a with
  | flag f => cases f <;> rfl
  | plain a => cases a <;> rfl
  | priority | trigger | targets => rfl

lemma left_left (a : Setting) (id : IntId) (v : a.Value) (q : Irq) :
    a.left id v (a.left id v q) = a.left id v q := by
  rcases h : a.isFixed id with _ | _ <;> simp [left, h, put_put]

lemma writes_left (a : Setting) (id : IntId) (v : a.Value) (q : Irq) :
    a.writes id v (a.left id v q) = a.rewrites id v := by
  cases a with
  | flag f =>
    have hget : (put (.flag f) v q).get f.field = v := get_put (.flag f) v q
    show (if v || (put (.flag f) v q).get f.field then 1 else 0) = _
    rw [hget, Bool.or_self]
    rfl
  | plain a => exact if_pos (get_put (.plain a) v q)
  | priority | trigger | targets => rfl

end Setting

/-! ### Keepers -/

namespace Keeper

variable {o : Options} {s : State} {k : Keeper} {a : Setting} {id : IntId}

/-- The interrupts that the part takes for its own, an extended one if it is among those that are
reported. -/
def Recognizes (s : State) (id : IntId) : Keeper → Prop
  | banked => id.number < 1020
  | routed _ => s.options.reports id = true
  | redistributor cpu => id.isPrivate = true ∧ (id.isExtendedPpi = true → ∀ c ∈ s.cores[cpu]?,
      id.number - 1024 < (Routed.RedistributorInfo.ofWord (s.redistributorType cpu c)).privateCount)

lemma Recognizes.reaches (h : k.Recognizes s id) (hs : s.Sound o) (hcpus : o.cpus < 2 ^ 32)
    (hk : k.Matches o) : k.Reaches s id := by
  cases k with
  | banked => exact ⟨hs.isRouted.trans hk, h⟩
  | routed security => exact ⟨hs.isRouted.trans hk, h⟩
  | redistributor cpu =>
    obtain ⟨c, hc⟩ := onBus_of_lt hs hcpus hk.1 hk.2
    exact ⟨c, hc, h.1, fun he => h.2 he c hc.core⟩

/-- Finding an interrupt takes no write. -/
lemma writes_locate (k : Keeper) (o : Options) (id : IntId) (s : State) :
    ((k.block o).locate id).writes Board.answer (.controller s) = 0 := by
  refine writes_of_within ?_
  cases k with
  | banked => exact .bind (.require _) fun _ => .pure _
  | routed security =>
    exact .bind (Routed.Distributor.place_within _ id (P := fun q => q.isWrite = false) rfl) fun _ => .pure _
  | redistributor cpu =>
    exact .bind (Routed.Redistributor.index_within _ (P := fun q => q.isWrite = false) rfl id)
      fun _ => .pure _

lemma writes_setTargets (hid : id.isSpi = true) (v : CpuSet) :
    ((Banked.Distributor.mk Region.distributor.base).setTargets id v).writes Board.answer
      (.controller s) = 1 := by
  have hrange := id.isSpi_iff.mp hid
  have hprivate : id.isPrivate = false := by
    rw [Bool.eq_false_iff, ne_eq, id.isPrivate_iff]
    omega
  have hlt : id.number < Banked.idLimit := hrange.2
  rw [Banked.Distributor.setTargets, writes_require_bind (decide_eq_true hlt),
    writes_require_bind (by rw [hprivate]; rfl)]
  exact writes_request _

namespace Reaches

variable (h : k.Reaches s id) (hs : s.Sound o) (hk : k.Matches o) (ha : k.offers a = true)
  (htargets : a = .targets → id.isPrivate = false) {q : Irq}
  (hq : s.irq? id.number (k.owner s) = some q)
include h hs hk ha htargets hq

lemma writes_set (v : a.Value) :
    (k.set o a id v).writes Board.answer (.controller s) = a.writes id v q := by
  obtain rfl := hs.options
  have hfinds := h.finds
  have hlocate := writes_locate k s.options id s
  have hbit (f : Field) :
      s.bitAt (k.bank s id).view f ((k.bank s id).first + k.index id) = q.get f := by
    rw [State.bitAt, h.irqAt?_view, hq]
    rfl
  cases a with
  | flag f => exact (hfinds.writes_setFlag hlocate f v).trans (by rw [hbit]; rfl)
  | plain f => exact (hfinds.writes_setAttribute hlocate (offers_bank hs hk ha) v).trans (by rw [hbit]; rfl)
  | priority => exact hfinds.writes_setPriority hlocate v
  | trigger => exact hfinds.writes_setTrigger hlocate v
  | targets =>
    obtain rfl := banked_of_offers ha
    exact writes_setTargets (isSpi_of_lt h.2 (htargets rfl)) v

/-- What the call leaves, and how often it writes, on a machine that counts. -/
lemma exists_set (v : a.Value) {m : Machine} (hm : m.board = .controller s) (hf : m.feeds = {}) :
    ∃ m', (k.set o a id v).run Machine.answer m = (.ok (), m')
      ∧ m'.board = .controller (s.modifyIrq id.number (k.owner s) (a.left id v)) ∧ m'.feeds = {}
      ∧ m'.tally.total = m.tally.total + a.writes id v q := by
  have hrun := h.run_set hs hk ha htargets v
  have hleft : (if a.isFixed id then s else s.modifyIrq id.number (k.owner s) (a.put v))
      = s.modifyIrq id.number (k.owner s) (a.left id v) := by
    split
    next hfixed => exact (State.modifyIrq_eq_self s _ fun q _ => if_pos hfixed).symm
    next hfixed => exact congrArg _ (funext fun q => (if_neg hfixed).symm)
  rw [hleft] at hrun
  obtain ⟨m', hrun', hm', hf'⟩ := Machine.exists_run hm hf hrun
  have htotal := Machine.total_run hm hf (congrArg Prod.fst hrun)
  rw [hrun', h.writes_set hs hk ha htargets hq] at htotal
  exact ⟨m', hrun', hm', hf', htotal⟩

/-- Asked over and over again for what is the case, it changes nothing. -/
lemma exists_each {v : a.Value} (hdone : a.left id v q = q) (n start : Nat) {m : Machine}
    (hm : m.board = .controller s) (hf : m.feeds = {}) :
    ∃ m', (each (fun _ => k.set o a id v) start n).run Machine.answer m = (.ok (), m')
      ∧ m'.board = .controller s ∧ m'.tally.total = m.tally.total + n * a.writes id v q := by
  induction n generalizing start m with
  | zero => exact ⟨m, rfl, hm, by rw [Nat.zero_mul, Nat.add_zero]⟩
  | succ n ih =>
    obtain ⟨m₁, hset, hm₁, hf₁, htotal₁⟩ := h.exists_set hs hk ha htargets hq v hm hf
    have hsame : s.modifyIrq id.number (k.owner s) (a.left id v) = s :=
      State.modifyIrq_eq_self s _ fun q' hq' => by
        obtain rfl := Option.some.inj (hq.symm.trans hq')
        exact hdone
    obtain ⟨m₂, hrest, hm₂, htotal₂⟩ := ih (start + 1) (hsame ▸ hm₁) hf₁
    refine ⟨m₂, (run_bind_ok hset).trans hrest, hm₂, ?_⟩
    rw [htotal₂, htotal₁, Nat.succ_mul]
    omega

end Reaches

/-- What is told of a part does not depend on its interrupts. -/
lemma Recognizes.of_bare {t : State} (h : k.Recognizes s id) (hb : t.bare = s.bare) :
    k.Recognizes t id := by
  cases k with
  | banked => exact h
  | routed security => exact (congrArg (·.reports id) (State.options_of_bare hb) :).trans h
  | redistributor cpu =>
    refine ⟨h.1, fun he c' hc' => ?_⟩
    obtain ⟨c, hc, hcore⟩ := State.exists_core_of_bare hb hc'
    have hword : t.redistributorType cpu c' = s.redistributorType cpu c := by
      rw [State.redistributorType, State.redistributorType, State.options_of_bare hb,
        State.size_of_bare hb, show c'.redistributorAffinity = c.redistributorAffinity from
          (congrArg Core.redistributorAffinity hcore :)]
    rw [hword]
    exact h.2 he c hc

lemma owner_of_bare {t : State} (hb : t.bare = s.bare) : k.owner t = k.owner s := by
  cases k with
  | banked | routed => exact State.current_of_bare hb
  | redistributor => rfl

open Setting in
/-- **A setter writes only to change something, or to raise a flag.** Asked to clear a flag it writes
once if the flag is up, and to raise it once in any case; a plain bit is written once if it is to
change, and the trigger of an SGI never. The word that is read for it may hold what it will about
other interrupts. Made again any number of times, the call leaves the controller as it is, and clearing
a flag or setting a plain bit takes no more writes. All that is asked of the hardware is that a word
counts its cores. -/
theorem set_writes_only_changes {o : Options} {s : State} (hs : Reachable o s) (hcpus : o.cpus < 2 ^ 32)
    {k : Keeper} (hk : k.Matches o) {a : Setting} (ha : k.offers a = true) {id : IntId}
    (hid : k.Recognizes s id) (htargets : a = .targets → id.isPrivate = false) {q : Irq}
    (hq : s.irq? id.number (k.owner s) = some q) (v : a.Value) {m : Machine}
    (hm : m.board = .controller s) (hf : m.feeds = {}) (n : Nat) :
    ∃ m₁ m₂, (k.set o a id v).run Machine.answer m = (.ok (), m₁)
      ∧ m₁.board = .controller (s.modifyIrq id.number (k.owner s) (a.left id v))
      ∧ m₁.tally.total = m.tally.total + a.writes id v q
      ∧ (each (fun _ => k.set o a id v) 0 n).run Machine.answer m₁ = (.ok (), m₂)
      ∧ m₂.board = m₁.board
      ∧ m₂.tally.total = m₁.tally.total + n * a.rewrites id v := by
  have hreaches := hid.reaches hs.sound hcpus hk
  obtain ⟨m₁, hset, hm₁, hf₁, htotal⟩ := hreaches.exists_set hs.sound hk ha htargets hq v hm hf
  obtain ⟨t, ht⟩ : ∃ t, t = s.modifyIrq id.number (k.owner s) (a.left id v) := ⟨_, rfl⟩
  have hbare : t.bare = s.bare := ht ▸ State.bare_modifyIrq ..
  have hsound := hs.sound.of_bare hbare
  have hkept : t.irq? id.number (k.owner t) = some (a.left id v q) := by
    rw [owner_of_bare hbare, ht, State.irq?_modifyIrq_self, hq]
    rfl
  obtain ⟨m₂, hagain, hm₂, htotal₂⟩ := ((hid.of_bare hbare).reaches hsound hcpus hk).exists_each hsound hk
    ha htargets hkept (left_left a id v q) n 0 (hm₁.trans (congrArg _ ht.symm)) hf₁
  rw [writes_left] at htotal₂
  exact ⟨m₁, m₂, hset, hm₁, htotal, hagain, hm₂.trans (hm₁.trans (congrArg _ ht.symm)).symm, htotal₂⟩

/-- Interrupt 40 is enabled, and is disabled once and then ten times more. One write is made. -/
theorem set_writes_only_changes_of_enabled :
    let s := (State.reset .banked).after (.access (.write .word (Region.distributor.base + 0x104) 0x100))
    ∃ q m₁ m₂, s.irq? 40 0 = some q ∧ q.enabled = true
      ∧ (Keeper.banked.set .banked (.flag .enabled) (.ofNat 40) false).run Machine.answer
        { board := .controller s } = (.ok (), m₁)
      ∧ m₁.tally.total = 1
      ∧ (each (fun _ => Keeper.banked.set .banked (.flag .enabled) (.ofNat 40) false) 0 10).run
        Machine.answer m₁ = (.ok (), m₂)
      ∧ m₂.board = m₁.board ∧ m₂.tally.total = 1 := by
  intro s
  have hs : Reachable .banked s := .after .reset _
  obtain ⟨q, hq⟩ : ∃ q, s.irq? 40 0 = some q := ⟨_, rfl⟩
  have henabled : q.enabled = true := by
    have h : (s.irq? 40 0).map (·.enabled) = some true := by decide +kernel
    rw [hq] at h
    exact Option.some.inj h
  have hid : Keeper.banked.Recognizes s (.ofNat 40) := (by decide : 40 < 1020)
  obtain ⟨m₁, m₂, hset, -, htotal, hagain, hsame, htotal'⟩ := set_writes_only_changes hs (by decide)
    (k := .banked) rfl (a := .flag .enabled) rfl hid (by simp) hq false
    (m := { board := .controller s }) rfl rfl 10
  have hone : m₁.tally.total = 1 := by
    rw [htotal, Setting.writes, show q.get (Flag.enabled).field = true from henabled]
    rfl
  exact ⟨q, m₁, m₂, hq, henabled, hset, hone, hagain, hsame, htotal'.trans hone⟩

end Keeper

end InterruptControl
