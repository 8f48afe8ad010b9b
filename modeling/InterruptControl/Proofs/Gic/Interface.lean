import InterruptControl.Proofs.Gic.Requests
import InterruptControl.Proofs.Hardware.Serving

/-!
Acknowledging, completing and deactivating, as the front end asks for it: what the software
is told, what becomes of the controller, and what a trace shows.
-/

namespace InterruptControl

open Bus Hardware Program

namespace Hardware

namespace State

/-- What the software is told of an interrupt that the current core takes. -/
def ack (s : State) (id : Nat) : Ack :=
  ⟨.ofNat id, if !s.isRouted && decide (id < 16) then (s.irq? id s.current).map (·.source &&& 7)
    else none⟩

/-- The software is told the number of an interrupt that the core takes, and can complete it. -/
lemma ack_of_next? {o : Options} {s : State} {cpu : Nat} {c : Core} (hs : s.Sound o)
    (hc : s.cores[cpu]? = some c) (hlpis : ∀ n ∈ c.lpis.map Prod.fst, n < 0x1000000)
    {e : Nat × Priority} (h : s.next? cpu = some e) :
    (s.ack e.1).id.number = e.1 ∧ (e.1 < if o.isRouted then 0x1000000 else 1024)
      ∧ (s.ack e.1).id.isSpecial = false := by
  obtain ⟨h1020, hspecial, hlpi, -⟩ := number_of_next? hs hc h
  have hlt : e.1 < 0x1000000 := by
    rcases Nat.lt_or_ge e.1 8192 with h | h
    · omega
    · exact hlpis _ (hlpi h)
  have hnumber : (s.ack e.1).id.number = e.1 := IntId.number_ofNat (by omega)
  refine ⟨hnumber, ?_, ?_⟩
  · rw [← hs.isRouted]
    rcases hr : s.isRouted with _ | _
    · exact (h1020 hr).trans (by decide)
    · exact hlt
  · rw [Bool.eq_false_iff, ne_eq, IntId.isSpecial_iff, hnumber]
    exact hspecial

/-- What taking the next interrupt leaves. -/
def taken (s : State) (cpu : Nat) : State :=
  match s.next? cpu with
  | none => s
  | some e => s.take cpu e

end State

end Hardware

/-! ### A banked controller -/

namespace Banked.CpuInterface

variable {d : CpuInterface} {s : State} {c : Core} {o v : Nat} {w : BitVec 32}

lemma run_acknowledge_of_read {σ : Type} {device : Device σ} {s t : σ}
    (h : device s (.read .word d.acknowledgeAddress) = (.ok w, t)) :
    d.acknowledge.run device s = (.ok (decode w), t) :=
  run_bind_ok ((run_read32 ..).trans h)

section Words

variable {n : Nat} (hn : n < 1024) (x : BitVec 32)
include hn

lemma get_id : Acknowledge.id.get (BitVec.ofNat 32 n ||| x <<< 10) = BitVec.ofNat 32 n := by
  have hid : Acknowledge.id.get (BitVec.ofNat 32 n <<< 0) = BitVec.ofNat 32 n :=
    Acknowledge.id.get_ofNat_shiftLeft hn
  rw [BitVec.shiftLeft_zero] at hid
  rw [BitField.get_or, hid, BitField.get_shiftLeft_above _ _ (by decide)]
  exact BitVec.or_zero

lemma get_cpu : Acknowledge.cpu.get (BitVec.ofNat 32 n ||| x <<< 10) = x &&& 7 := by
  have hbelow : Acknowledge.cpu.get (BitVec.ofNat 32 n <<< 0) = 0 :=
    Acknowledge.cpu.get_ofNat_below (k := 10) hn (by decide)
  rw [BitVec.shiftLeft_zero] at hbelow
  rw [BitField.get_or, hbelow]
  refine (BitVec.zero_or).trans (BitVec.eq_of_getLsbD_eq fun i hi => ?_)
  have h7 : (7 : BitVec 32) = (BitVec.allOnes 3).setWidth 32 := by decide
  rw [BitField.getLsbD_get, BitVec.getLsbD_and, BitVec.getLsbD_shiftLeft, h7,
    BitVec.getLsbD_setWidth, BitVec.getLsbD_allOnes]
  rcases Nat.lt_or_ge i 3 with h | h
  · simp [Acknowledge.cpu, BitField.of, h, hi, show 10 + i < 32 by omega]
  · simp [Acknowledge.cpu, BitField.of, Nat.not_lt.mpr h]

lemma toNat_mod : (BitVec.ofNat 32 n ||| x <<< 10).toNat % 0x400 = n := by
  have h := congrArg BitVec.toNat (get_id hn x)
  rw [BitField.toNat_get, BitVec.toNat_ofNat, Nat.mod_eq_of_lt (b := 2 ^ 32) (by omega)] at h
  simpa [Acknowledge.id, BitField.of] using h

end Words

lemma acknowledgeWord_eq (s : State) (cpu id : Nat) : ∃ x : BitVec 32, s.acknowledgeWord cpu id
    = BitVec.ofNat 32 id ||| x <<< 10 := by
  unfold State.acknowledgeWord
  split
  · split
    next q _ => exact ⟨q.source, rfl⟩
    · exact ⟨0, by simp⟩
  · exact ⟨0, by simp⟩

lemma decode_acknowledgeWord {id : Nat} (hr : s.isRouted = false) (hid : id < 1020)
    (hq : (s.irq? id s.current).isSome = true) :
    decode (s.acknowledgeWord s.current id) = some (s.ack id) := by
  obtain ⟨q, hq⟩ := Option.isSome_iff_exists.mp hq
  have hword : s.acknowledgeWord s.current id
      = BitVec.ofNat 32 id ||| (if id < 16 then q.source else 0) <<< 10 := by
    rcases Nat.lt_or_ge id 16 with h | h
    · simp [State.acknowledgeWord, hr, hq, h]
    · simp [State.acknowledgeWord, hr, Nat.not_lt.mpr h]
  have hnumber : (IntId.mk (BitVec.ofNat 32 id)).number = id := IntId.number_ofNat (by omega)
  rw [decode, hword, get_id (by omega), get_cpu (by omega)]
  simp only [hnumber]
  rw [if_neg (by omega), State.ack, hr, hq]
  rcases Nat.lt_or_ge id 16 with h | h
  · have hsgi : (IntId.mk (BitVec.ofNat 32 id)).isSgi = true := by
      rw [IntId.isSgi_iff, hnumber]
      exact h
    simp [hsgi, h, IntId.ofNat]
  · have hsgi : (IntId.mk (BitVec.ofNat 32 id)).isSgi = false := by
      rw [Bool.eq_false_iff, ne_eq, IntId.isSgi_iff, hnumber]
      omega
    simp [hsgi, Nat.not_lt.mpr h, IntId.ofNat]

/-- What is written to complete an interrupt has ten bits of its number, whatever the source. -/
lemma toNat_encode (a : Ack) : (encode a).toNat % 0x400 = a.id.number % 0x400 := by
  have hid : Acknowledge.id.get (encode a) = Acknowledge.id.get (Acknowledge.id.val a.id.raw) := by
    unfold encode
    rcases a.source with _ | x
    · rfl
    · rw [BitField.get_or, BitField.get_val_of_apart _ x (.inl (by decide))]
      exact BitVec.or_zero
  have hnat := congrArg BitVec.toNat hid
  rw [BitField.toNat_get, BitField.toNat_get_val] at hnat
  simpa [Acknowledge.id, BitField.of, IntId.number] using hnat

/-- They name it if they suffice for it. -/
lemma encode_and_mask {a : Ack} (h : a.id.number < 1024) :
    (encode a).toNat % 0x400 = a.id.number ∧ (encode a).toNat &&& 0x3ff = a.id.number := by
  have hmod : (encode a).toNat % 0x400 = a.id.number := (toNat_encode a).trans (Nat.mod_eq_of_lt h)
  exact ⟨hmod, (Nat.and_two_pow_sub_one_eq_mod _ 10).trans hmod⟩

section Access

/-- The interface where it is on the bus. -/
abbrev onBus : CpuInterface := ⟨Region.interface.base⟩

variable (hr : s.isRouted = false)
include hr

lemma record_read (ho : o < 0x2000) (w : BitVec 32) :
    Board.record (.controller s) (.read .word (Region.interface.base + o)) (.ok w)
      = [.read .word .interface o w.toNat] := by
  simp only [Board.record, Board.decode_interface hr rfl ho]
  rfl

lemma record_write (ho : o < 0x2000) (w : BitVec 32) (r : Except Failure Unit) :
    Board.record (.controller s) (.write .word (Region.interface.base + o) w) r
      = [.write .word .interface o w.toNat] := by
  simp only [Board.record, Board.decode_interface hr rfl ho]
  rfl

lemma answer_write (ho : o < 0x2000) (w : BitVec 32) :
    Board.answer (.controller s) (.write .word (Region.interface.base + o) w) =
      match s.writeInterface o w with
      | .ok t => (.ok (), .controller t)
      | .error e => (.error (.fault e), .controller s) := by
  have h := Board.answer_write_interface .word w hr rfl ho
  rw [BitVec.setWidth_eq] at h
  exact h

variable (hc : s.cores[s.current]? = some c)
include hc

lemma answer_read (ho : o < 0x2000) :
    Board.answer (.controller s) (.read .word (Region.interface.base + o))
      = (.ok (s.readInterfaceWord c o).1, .controller (s.readInterfaceWord c o).2) := by
  rw [Board.answer_read_interface .word hr rfl ho]
  simp only [State.readInterface, State.currentCore?, hc]

lemma run_readAcknowledge : onBus.acknowledge.run Board.answer (.controller s)
    = (.ok (decode (s.readInterfaceWord c 0xc).1), .controller (s.readInterfaceWord c 0xc).2) :=
  run_acknowledge_of_read (answer_read hr hc (o := 0xc) (by decide))

lemma run_acknowledge {o : Options} (hs : s.Sound o) :
    onBus.acknowledge.run Board.answer (.controller s)
      = (.ok ((s.next? s.current).map fun e => s.ack e.1), .controller (s.taken s.current)) := by
  rw [run_readAcknowledge hr hc, State.taken]
  rcases hn : s.next? s.current with _ | e
  · have : decode (BitVec.ofNat 32 spuriousNumber) = none := by decide
    simp [State.readInterfaceWord, State.acknowledge, hn, this]
  · have hnumber := State.number_of_next? hs hc hn
    simp [State.readInterfaceWord, State.acknowledge, hn,
      decode_acknowledgeWord hr (hnumber.1 hr) hnumber.2.2.2]

/-- The trace shows an acknowledge that found an interrupt. -/
lemma runs_acknowledge {o : Options} (hs : s.Sound o) :
    Runs onBus.acknowledge s (.ok ((s.next? s.current).map fun e => s.ack e.1))
      (s.taken s.current) ((s.next? s.current).map fun e => .taken e.1).toList := by
  have hread : Runs (read32 onBus.acknowledgeAddress) s (.ok (s.readInterfaceWord c 0xc).1)
      (s.readInterfaceWord c 0xc).2
      ((s.next? s.current).map fun e => Completion.taken e.1).toList := by
    refine Runs.request (answer_read hr hc (by decide)) ?_
    refine (congrArg _ (record_read hr (by decide) _)).trans ?_
    rcases hn : s.next? s.current with _ | e
    · simp [State.readInterfaceWord, State.acknowledge, hn, Access.completion?, spuriousNumber]
    · have hid := (State.number_of_next? hs hc hn).1 hr
      obtain ⟨x, hx⟩ := acknowledgeWord_eq s s.current e.1
      have hmod : (s.acknowledgeWord s.current e.1).toNat % 0x400 = e.1 := by
        rw [hx, toNat_mod (by omega)]
      simp [State.readInterfaceWord, State.acknowledge, hn, Access.completion?, hmod,
        Nat.not_le.mpr hid]
  obtain ⟨hdecode, hstate⟩ := Prod.mk.inj
    ((run_readAcknowledge hr hc).symm.trans (run_acknowledge hr hc hs))
  rw [← hdecode, ← Board.controller.inj hstate, ← List.append_nil (Option.toList _)]
  exact hread.bind (.pure _ _)

variable {a : Ack} {t : State} (ha : a.id.number < 1024)
include ha

omit hr in
lemma writeInterface_end : s.writeInterface 0x10 (encode a)
    = s.endInterrupt s.current a.id.number (c.twoStep false) := by
  simp [State.writeInterface, State.currentCore?, hc, (encode_and_mask ha).2, Core.twoStep]

omit hr hc in
lemma writeInterface_deactivate : s.writeInterface 0x1000 (encode a)
    = s.deactivate s.current a.id.number := by
  simp [State.writeInterface, (encode_and_mask ha).2]

lemma run_complete (hspecial : a.id.isSpecial = false) :
    (onBus.complete a).run Board.answer (.controller s) =
      match s.endInterrupt s.current a.id.number (c.twoStep false) with
      | .ok t => (.ok (), .controller t)
      | .error e => (.error (.fault e), .controller s) := by
  rw [complete, run_require_bind, hspecial, ← writeInterface_end hc ha]
  exact (run_write32 ..).trans (answer_write hr (by decide) _)

lemma runs_complete (hspecial : a.id.isSpecial = false)
    (ht : s.endInterrupt s.current a.id.number (c.twoStep false) = .ok t) :
    Runs (onBus.complete a) s (.ok ()) t [.ended a.id.number] := by
  have hanswer := answer_write hr (o := 0x10) (by decide) (encode a)
  rw [writeInterface_end hc ha, ht] at hanswer
  rw [complete, hspecial]
  refine Runs.request hanswer ((congrArg _ (record_write hr (by decide) _ _)).trans ?_)
  simp [Access.completion?, (encode_and_mask ha).1]

omit hc in
lemma run_deactivate (hspecial : a.id.isSpecial = false) :
    (onBus.deactivate a).run Board.answer (.controller s) =
      match s.deactivate s.current a.id.number with
      | .ok t => (.ok (), .controller t)
      | .error e => (.error (.fault e), .controller s) := by
  rw [deactivate, run_require_bind, hspecial, ← writeInterface_deactivate ha]
  exact (run_write32 ..).trans (answer_write hr (by decide) _)

omit hc in
lemma runs_deactivate (hspecial : a.id.isSpecial = false)
    (ht : s.deactivate s.current a.id.number = .ok t) :
    Runs (onBus.deactivate a) s (.ok ()) t [.deactivated a.id.number] := by
  have hanswer := answer_write hr (o := 0x1000) (by decide) (encode a)
  rw [writeInterface_deactivate ha, ht] at hanswer
  rw [deactivate, hspecial]
  refine Runs.request hanswer ((congrArg _ (record_write hr (by decide) _ _)).trans ?_)
  simp [Access.completion?, (encode_and_mask ha).1]

end Access

end Banked.CpuInterface

/-! ### A routed controller -/

namespace Routed.CpuInterface

variable {s t : State} {c : Core} {a : Ack} {o : Options}

lemma run_acknowledge_of_read {σ : Type} {device : Device σ} {s t : σ} {w : BitVec 64}
    (h : device s (.readSystem .acknowledge1) = (.ok w, t)) :
    acknowledge.run device s = (.ok (decode w), t) :=
  run_bind_ok ((run_readSystem ..).trans h)

lemma get_acknowledgedId {n : Nat} (hn : n < 0x1000000) :
    (acknowledgedId.get ((BitVec.ofNat 32 n).setWidth 64)).setWidth 32 = BitVec.ofNat 32 n := by
  refine BitVec.eq_of_toNat_eq ?_
  rw [BitVec.toNat_setWidth, BitField.toNat_get, BitVec.toNat_setWidth, BitVec.toNat_ofNat]
  simp only [acknowledgedId, BitField.of]
  omega

lemma decode_id {n : Nat} (hn : n < 0x1000000) (hspecial : ¬ (1020 ≤ n ∧ n < 1024)) :
    decode ((BitVec.ofNat 32 n).setWidth 64) = some ⟨.ofNat n, none⟩ := by
  have hnumber : (IntId.ofNat n).number = n := IntId.number_ofNat (by omega)
  have hnot : (IntId.ofNat n).isSpecial = false := by
    rw [Bool.eq_false_iff, ne_eq, IntId.isSpecial_iff, hnumber]
    exact hspecial
  rw [decode, get_acknowledgedId hn]
  exact if_neg (by rw [show (IntId.mk (BitVec.ofNat 32 n)) = .ofNat n from rfl, hnot]; decide)

section Access

variable (hr : s.isRouted = true) (hc : s.cores[s.current]? = some c)
include hr hc

omit hc in
lemma acknowledgeWord_eq (id : Nat) : s.acknowledgeWord s.current id = BitVec.ofNat 32 id := by
  simp [State.acknowledgeWord, hr]

omit hr in
lemma answer_acknowledge : Board.answer (.controller s) (.readSystem .acknowledge1)
    = (.ok ((s.acknowledge s.current).1.setWidth 64), .controller (s.acknowledge s.current).2) := by
  rw [Board.answer_readSystem]
  simp [State.readSystem, hc]

omit hr in
lemma run_readAcknowledge : acknowledge.run Board.answer (.controller s)
    = (.ok (decode ((s.acknowledge s.current).1.setWidth 64)),
        .controller (s.acknowledge s.current).2) :=
  run_acknowledge_of_read (answer_acknowledge hc)

variable (hs : s.Sound o)
include hs

/-- The software is told the number if the register has room for it. -/
lemma run_acknowledge_of_lt (hlt : ∀ e, s.next? s.current = some e → e.1 < 0x1000000) :
    acknowledge.run Board.answer (.controller s)
      = (.ok ((s.next? s.current).map fun e => s.ack e.1), .controller (s.taken s.current)) := by
  rw [run_readAcknowledge hc, State.taken]
  rcases hn : s.next? s.current with _ | e
  · have : decode ((BitVec.ofNat 32 spuriousNumber).setWidth 64) = none := by decide
    simp [State.acknowledge, hn, this]
  · have hnumber := State.number_of_next? hs hc hn
    simp only [State.acknowledge, hn, acknowledgeWord_eq hr,
      decode_id (hlt e hn) hnumber.2.1, Option.map_some, State.ack, hr]
    rfl

variable (hlpi : ∀ n ∈ c.lpis.map Prod.fst, n < 0x1000000)
include hlpi

omit hr in
lemma lt_of_next? {e : Nat × Priority} (hn : s.next? s.current = some e) : e.1 < 0x1000000 := by
  rcases Nat.lt_or_ge e.1 8192 with h | h
  · omega
  · exact hlpi _ ((State.number_of_next? hs hc hn).2.2.1 h)

lemma run_acknowledge : acknowledge.run Board.answer (.controller s)
    = (.ok ((s.next? s.current).map fun e => s.ack e.1), .controller (s.taken s.current)) :=
  run_acknowledge_of_lt hr hc hs fun _ hn => lt_of_next? hc hs hlpi hn

lemma runs_acknowledge :
    Runs acknowledge s (.ok ((s.next? s.current).map fun e => s.ack e.1)) (s.taken s.current)
      ((s.next? s.current).map fun e => .taken e.1).toList := by
  have hread : Runs (readSystem .acknowledge1) s (.ok ((s.acknowledge s.current).1.setWidth 64))
      (s.acknowledge s.current).2
      ((s.next? s.current).map fun e => Completion.taken e.1).toList := by
    refine Runs.request (answer_acknowledge hc) ?_
    rcases hn : s.next? s.current with _ | e
    · simp [State.acknowledge, hn, Board.record, Access.completion?, spuriousNumber]
    · have hlt := lt_of_next? hc hs hlpi hn
      have hnot := (State.number_of_next? hs hc hn).2.1
      have hword : ((BitVec.ofNat 32 e.1).setWidth 64).toNat = e.1 := by
        rw [BitVec.toNat_setWidth, BitVec.toNat_ofNat]
        omega
      simp only [State.acknowledge, hn, acknowledgeWord_eq hr, Board.record, List.filterMap_cons,
        Access.completion?, hword, Nat.mod_eq_of_lt hlt, if_neg hnot, List.filterMap_nil]
      rfl
  obtain ⟨hdecode, hstate⟩ := Prod.mk.inj
    ((run_readAcknowledge hc).symm.trans (run_acknowledge hr hc hs hlpi))
  rw [← hdecode, ← Board.controller.inj hstate, ← List.append_nil (Option.toList _)]
  exact hread.bind (.pure _ _)

omit hr hs hlpi

section Complete

variable (ha : a.id.number < 0x1000000)
include ha

omit hc in
lemma raw_and_mask : (a.id.raw.setWidth 64).toNat % 0x1000000 = a.id.number
    ∧ (a.id.raw.setWidth 64 &&& 0xffffff).toNat = a.id.number := by
  have h : (a.id.raw.setWidth 64).toNat = a.id.number := by
    rw [BitVec.toNat_setWidth]
    exact Nat.mod_eq_of_lt (a.id.number_lt.trans (by decide))
  rw [BitVec.toNat_and, h]
  exact ⟨Nat.mod_eq_of_lt ha,
    (Nat.and_two_pow_sub_one_eq_mod _ 24).trans (Nat.mod_eq_of_lt ha)⟩

lemma writeSystem_end : s.writeSystem .endOfInterrupt1 (a.id.raw.setWidth 64)
    = (s.endInterrupt s.current a.id.number (c.twoStep true)).mapError .fault := by
  simp only [State.writeSystem, hc, (raw_and_mask ha).2, Core.twoStep, if_true]

lemma writeSystem_deactivate : s.writeSystem .deactivate (a.id.raw.setWidth 64)
    = (s.deactivate s.current a.id.number).mapError .fault := by
  simp only [State.writeSystem, hc, (raw_and_mask ha).2]

variable (hspecial : a.id.isSpecial = false)
include hspecial

lemma run_complete : (complete a).run Board.answer (.controller s) =
    match s.endInterrupt s.current a.id.number (c.twoStep true) with
    | .ok t => (.ok (), .controller t)
    | .error e => (.error (.fault e), .controller s) := by
  rw [complete, run_require_bind, hspecial]
  refine (run_writeSystem ..).trans ((Board.answer_writeSystem ..).trans ?_)
  rw [writeSystem_end hc ha]
  rcases s.endInterrupt s.current a.id.number (c.twoStep true) with e | t <;> rfl

lemma runs_complete (ht : s.endInterrupt s.current a.id.number (c.twoStep true) = .ok t) :
    Runs (complete a) s (.ok ()) t [.ended a.id.number] := by
  have hanswer := Board.answer_writeSystem (s := s) .endOfInterrupt1 (a.id.raw.setWidth 64)
  rw [writeSystem_end hc ha, ht] at hanswer
  rw [complete, hspecial]
  refine Runs.request hanswer ?_
  simp only [Board.record, List.filterMap_cons, Access.completion?, (raw_and_mask ha).1,
    List.filterMap_nil]

lemma run_deactivate : (deactivate a).run Board.answer (.controller s) =
    match s.deactivate s.current a.id.number with
    | .ok t => (.ok (), .controller t)
    | .error e => (.error (.fault e), .controller s) := by
  rw [deactivate, run_require_bind, hspecial]
  refine (run_writeSystem ..).trans ((Board.answer_writeSystem ..).trans ?_)
  rw [writeSystem_deactivate hc ha]
  rcases s.deactivate s.current a.id.number with e | t <;> rfl

lemma runs_deactivate (ht : s.deactivate s.current a.id.number = .ok t) :
    Runs (deactivate a) s (.ok ()) t [.deactivated a.id.number] := by
  have hanswer := Board.answer_writeSystem (s := s) .deactivate (a.id.raw.setWidth 64)
  rw [writeSystem_deactivate hc ha, ht] at hanswer
  rw [deactivate, hspecial]
  refine Runs.request hanswer ?_
  simp only [Board.record, List.filterMap_cons, Access.completion?, (raw_and_mask ha).1,
    List.filterMap_nil]

end Complete

end Access

end Routed.CpuInterface

/-! ### The front end -/

namespace Hardware.State

/-- What is left when an interrupt was ended and then, maybe, deactivated. The hardware and the
software may disagree about whether that takes two steps. -/
def finished (s : State) (cpu id : Nat) (hardware software : Bool) : State :=
  let t := s.dropPriority cpu id
  let t := if hardware then t else t.modifyIrq id cpu fun q => { q with active := false }
  if software && decide (id < 8192) then t.modifyIrq id cpu fun q => { q with active := false }
  else t

/-- If they agree, the interrupt is completed. -/
lemma finished_self (s : State) (cpu id : Nat) (twoStep : Bool) :
    s.finished cpu id twoStep twoStep = s.completed cpu id twoStep := by
  rcases twoStep with _ | _
  · rfl
  · rcases Nat.lt_or_ge id 8192 with h | h
    · simp [finished, completed, h, Nat.not_le.mpr h]
    · simp [finished, completed, h, Nat.not_lt.mpr h]

lemma bare_finished (s : State) (cpu id : Nat) (hardware software : Bool) :
    (s.finished cpu id hardware software).bare = (s.dropPriority cpu id).bare := by
  unfold finished
  split <;> split <;> simp

lemma endInterrupt_of_running {s : State} {cpu id : Nat} {c : Core} {r : Running}
    {rest : List Running} (hc : s.cores[cpu]? = some c) (hrunning : c.running = r :: rest)
    (hid : r.id = id) (hnot : ¬ (1020 ≤ id ∧ id < 1024)) (twoStep : Bool) :
    s.endInterrupt cpu id twoStep = .ok (s.ended cpu id twoStep) := by
  simp [endInterrupt, hnot, hc, hrunning, hid, ended, dropPriority]

lemma deactivate_of_lt {s : State} {cpu id : Nat} (h : id < 8192)
    (hnot : ¬ (1020 ≤ id ∧ id < 1024)) :
    s.deactivate cpu id = .ok (s.modifyIrq id cpu fun q => { q with active := false }) := by
  simp [deactivate, hnot, Nat.not_le.mpr h]

end Hardware.State

namespace Gic

variable {H : Type} {g : Gic H} {o : Options} {s t : State} {c : Core} {a : Ack}

/-- The events of completing an interrupt. -/
def closing (g : Gic H) (id : Nat) : List Completion :=
  .ended id :: if g.twoStep && decide (id < 8192) then [.deactivated id] else []

section Interface

variable (hg : g.engine.Fronts o) (hs : s.Sound o) (hc : s.cores[s.current]? = some c)
include hg hs hc

lemma run_acknowledge (hlpi : ∀ n ∈ c.lpis.map Prod.fst, n < 0x1000000) :
    g.acknowledge.run Board.answer (.controller s)
      = (.ok ((s.next? s.current).map fun e => s.ack e.1), .controller (s.taken s.current)) := by
  unfold acknowledge
  generalize g.engine = e at hg ⊢
  cases hg with
  | banked ho => exact Banked.CpuInterface.run_acknowledge (hs.isRouted.trans ho) hc hs
  | routed ho => exact Routed.CpuInterface.run_acknowledge (hs.isRouted.trans ho) hc hs hlpi

lemma runs_acknowledge (hlpi : ∀ n ∈ c.lpis.map Prod.fst, n < 0x1000000) :
    Runs g.acknowledge s (.ok ((s.next? s.current).map fun e => s.ack e.1)) (s.taken s.current)
      ((s.next? s.current).map fun e => .taken e.1).toList := by
  unfold acknowledge
  generalize g.engine = e at hg ⊢
  cases hg with
  | banked ho =>
    exact Banked.CpuInterface.runs_acknowledge (hs.isRouted.trans ho) hc hs
  | routed ho =>
    exact Routed.CpuInterface.runs_acknowledge (hs.isRouted.trans ho) hc hs hlpi

variable (ha : a.id.number < if o.isRouted then 0x1000000 else 1024)
  (hspecial : a.id.isSpecial = false)
include ha hspecial

lemma run_complete : (g.complete a).run Board.answer (.controller s) =
    match s.endInterrupt s.current a.id.number (c.twoStep o.isRouted) with
    | .ok t => (.ok (), .controller t)
    | .error e => (.error (.fault e), .controller s) := by
  unfold complete
  generalize g.engine = e at hg ⊢
  cases hg with
  | banked ho =>
    rw [ho] at ha ⊢
    exact Banked.CpuInterface.run_complete (hs.isRouted.trans ho) hc ha hspecial
  | routed ho =>
    rw [ho] at ha ⊢
    exact Routed.CpuInterface.run_complete hc ha hspecial

lemma run_deactivate (htwo : g.twoStep = true) : (g.deactivate a).run Board.answer (.controller s) =
    match s.deactivate s.current a.id.number with
    | .ok t => (.ok (), .controller t)
    | .error e => (.error (.fault e), .controller s) := by
  rw [deactivate, run_require_bind, htwo, if_pos rfl]
  generalize g.engine = e at hg ⊢
  cases hg with
  | banked ho =>
    rw [ho] at ha
    exact Banked.CpuInterface.run_deactivate (hs.isRouted.trans ho) ha hspecial
  | routed ho =>
    rw [ho] at ha
    exact Routed.CpuInterface.run_deactivate hc ha hspecial

lemma runs_complete
    (ht : s.endInterrupt s.current a.id.number (c.twoStep o.isRouted) = .ok t) :
    Runs (g.complete a) s (.ok ()) t [.ended a.id.number] := by
  unfold complete
  generalize g.engine = e at hg ⊢
  cases hg with
  | banked ho =>
    rw [ho] at ha ht
    exact Banked.CpuInterface.runs_complete (hs.isRouted.trans ho) hc ha hspecial ht
  | routed ho =>
    rw [ho] at ha ht
    exact Routed.CpuInterface.runs_complete hc ha hspecial ht

lemma runs_deactivate (htwo : g.twoStep = true)
    (ht : s.deactivate s.current a.id.number = .ok t) :
    Runs (g.deactivate a) s (.ok ()) t [.deactivated a.id.number] := by
  unfold deactivate
  rw [htwo]
  generalize g.engine = e at hg ⊢
  cases hg with
  | banked ho =>
    rw [ho] at ha
    exact Banked.CpuInterface.runs_deactivate (hs.isRouted.trans ho) ha hspecial ht
  | routed ho =>
    rw [ho] at ha
    exact Routed.CpuInterface.runs_deactivate hc ha hspecial ht

/-- The interrupt that was taken last is completed. -/
lemma runs_finish {r : Running} {rest : List Running} (hrunning : c.running = r :: rest)
    (hid : r.id = a.id.number) :
    Runs (g.finish a) s (.ok ())
      (s.finished s.current a.id.number (c.twoStep o.isRouted) g.twoStep)
      (g.closing a.id.number) := by
  have hnot : ¬ (1020 ≤ a.id.number ∧ a.id.number < 1024) := by
    rw [← IntId.isSpecial_iff, hspecial]
    decide
  have hend := State.endInterrupt_of_running hc hrunning hid hnot (c.twoStep o.isRouted)
  have hcomplete := runs_complete hg hs hc ha hspecial hend
  have hlpi : (!a.id.isLpi) = decide (a.id.number < 8192) := by
    rw [IntId.isLpi_eq, ← decide_not, decide_eq_decide, not_le]
  rw [finish, State.finished, closing, hlpi]
  rcases htwo : g.twoStep && decide (a.id.number < 8192) with _ | _
  · exact hcomplete.bind (.pure _ _)
  · obtain ⟨htwo, hlt⟩ := Bool.and_eq_true_iff.mp htwo
    have hagree := State.agree_endInterrupt hend
    have hsound := hs.of_agree (hagree.mono fun _ _ => Core.kept_of_wired)
    obtain ⟨c', hc', -⟩ := hagree.symm.exists_core (hagree.current ▸ hc)
    have hdeactivate := runs_deactivate hg hsound hc' ha hspecial htwo
      (State.deactivate_of_lt (of_decide_eq_true hlt) hnot)
    rw [hagree.current] at hdeactivate
    exact hcomplete.bind hdeactivate

end Interface

end Gic

end InterruptControl
