import InterruptControl.Proofs.Hardware.Reachable

/-!
What the trace of a machine tells about interrupts: when one was taken, when its priority
was dropped and when it was deactivated.

`Runs` says what a call results in on a machine that traces, what becomes of the controller,
and which of these events the trace shows.
-/

namespace InterruptControl.Bus

open Hardware (Core State)
open Program

/-- What happens to an interrupt while a core serves it. -/
inductive Completion where
  | taken (id : Nat)
  | ended (id : Nat)
  | deactivated (id : Nat)
deriving DecidableEq, Repr

/-- What an access does to an interrupt. An acknowledge may find none. -/
def Access.completion? : Access → Option Completion
  | .readSystem .acknowledge1 v =>
    if 1020 ≤ v % 0x1000000 ∧ v % 0x1000000 < 1024 then none else some (.taken (v % 0x1000000))
  | .writeSystem .endOfInterrupt1 v => some (.ended (v % 0x1000000))
  | .writeSystem .deactivate v => some (.deactivated (v % 0x1000000))
  | .read .word .interface 0xc v => if 1020 ≤ v % 0x400 then none else some (.taken (v % 0x400))
  | .write _ .interface 0x10 v => some (.ended (v % 0x400))
  | .write _ .interface 0x1000 v => some (.deactivated (v % 0x400))
  | _ => none

namespace Access

variable {w : Width} {r : Region} {o v : Nat} {x : SystemRegister}

lemma completion?_read (h : r = .interface → o ≠ 0xc) : (read w r o v).completion? = none := by
  unfold completion?
  split <;> simp_all

lemma completion?_write (h : r = .interface → o ≠ 0x10 ∧ o ≠ 0x1000) :
    (write w r o v).completion? = none := by
  unfold completion?
  split <;> simp_all

lemma completion?_readSystem (h : x ≠ .acknowledge1) : (readSystem x v).completion? = none := by
  unfold completion?
  split <;> simp_all

lemma completion?_writeSystem (h : x ≠ .endOfInterrupt1 ∧ x ≠ .deactivate) :
    (writeSystem x v).completion? = none := by
  unfold completion?
  split <;> simp_all

end Access

/-- What an answered request leaves in a trace. -/
def Board.record (b : Board) : (q : Request) → Except Failure q.Answer → List Access
  | .read w a, .ok v => ((b.decode a).map fun r => .read w r.1 r.2 v.toNat).toList
  | .write w a v, _ => ((b.decode a).map fun r => .write w r.1 r.2 v.toNat).toList
  | .readSystem r, .ok v => [.readSystem r v.toNat]
  | .writeSystem r v, _ => [.writeSystem r v.toNat]
  | .barrier, _ => [.barrier]
  | .read .., .error _ | .readSystem _, .error _ | .notify _, _ => []

namespace Machine

variable {α β : Type} {m : Machine} {s t u : State} {q : Request}

/-- A machine that traces records every access. -/
lemma answer_trace (hf : m.feeds = {}) (ht : m.tracing = true) (q : Request) :
    (m.answer q).2.trace.toList = m.trace.toList ++ m.board.record q (m.board.answer q).1
      ∧ (m.answer q).2.tracing = true := by
  cases q with
  | read w a =>
    simp only [answer, read, Board.answer, Board.decode_wrapAddress, next?_of_unfed hf]
    rcases hd : m.board.decode a with _ | ⟨r, o⟩
    · exact ⟨by simp [Board.record], ht⟩
    · simp [trace_record, countRead, ht, Board.record, hd]
  | write w a v =>
    simp only [answer, write, Board.answer, Board.decode_wrapAddress]
    rcases hd : m.board.decode a with _ | ⟨r, o⟩
    · exact ⟨by simp [Board.record, hd], ht⟩
    · simp only [board_tallyWith, board_record, countWrite]
      rcases m.board.write r o w v with e | b <;> simp [trace_record, ht, Board.record, hd]
  | readSystem r =>
    simp only [answer, readSystem, Board.answer, next?_of_unfed hf]
    rcases m.board.readSystem r with ⟨_ | v, b⟩
    · exact ⟨by simp [Board.record], ht⟩
    · simp [trace_record, countSystemRead, ht, Board.record]
  | writeSystem r v =>
    simp only [answer, writeSystem, Board.answer, board_record, countSystemWrite]
    rcases m.board.writeSystem r v with e | b <;> simp [trace_record, ht, Board.record]
  | barrier => simp [answer, barrier, trace_record, countBarrier, ht, Board.record]
  | notify n => exact ⟨by simp [answer, note, Board.record], ht⟩

/-- What the trace of a machine tells about interrupts. -/
def completions (m : Machine) : List Completion := m.trace.toList.filterMap Access.completion?

/-- The machine has the controller, which nothing is fed in place of, and traces. -/
structure Holds (m : Machine) (s : State) : Prop where
  board : m.board = .controller s
  unfed : m.feeds = {}
  tracing : m.tracing = true

lemma Holds.answer (h : m.Holds s) {r : Except Failure q.Answer}
    (hq : Board.answer (.controller s) q = (r, .controller t)) :
    (m.answer q).1 = r ∧ (m.answer q).2.Holds t ∧ (m.answer q).2.completions
      = m.completions ++ (Board.record (.controller s) q r).filterMap Access.completion? := by
  obtain ⟨hv, hb, hf⟩ := answer_unfed h.unfed q
  obtain ⟨htrace, htracing⟩ := answer_trace h.unfed h.tracing q
  rw [h.board, hq] at hv hb htrace
  exact ⟨hv, ⟨hb, hf, htracing⟩, by rw [completions, htrace, List.filterMap_append]; rfl⟩

end Machine

/-! ### Requests that tell nothing -/

/-- The request neither takes an interrupt nor completes one, of a routed controller or of a
banked one. -/
def Quiet (routed : Bool) : Request → Prop
  | .read _ a | .write _ a _ => routed = true
      ∨ ∀ o ∈ [0xc, 0x10, 0x1000], wrapAddress a ≠ Region.interface.base + o
  | .readSystem r | .writeSystem r _ =>
      r ∉ [SystemRegister.acknowledge1, .endOfInterrupt1, .deactivate]
  | .barrier | .notify _ => True

namespace Quiet

variable {s t : State} {q : Request} {a : Nat} {r : Region} {o : Nat}

lemma of_lt {w : Width} (h : a < Region.interface.base) (routed : Bool) :
    Quiet routed (.read w a) ∧ ∀ v, Quiet routed (.write w a v) := by
  have (o : Nat) : wrapAddress a ≠ Region.interface.base + o := by
    have := Nat.mod_le a 0x10000000000000000
    rw [wrapAddress]
    omega
  exact ⟨.inr fun o _ => this o, fun v => .inr fun o _ => this o⟩

/-- Only a banked controller has a memory-mapped interface. -/
lemma apart (h : Quiet s.isRouted (.read .byte a)) (hd : (Board.controller s).decode a = some (r, o)) :
    r = .interface → o ≠ 0xc ∧ o ≠ 0x10 ∧ o ≠ 0x1000 := by
  rintro rfl
  obtain ⟨r, hr, he⟩ := Option.map_eq_some_iff.mp hd
  obtain ⟨rfl, rfl⟩ := Prod.mk.inj he
  have hin := Board.inside_iff.mp (List.find?_some hr :)
  rw [Board.extent] at hin
  rcases hs : s.isRouted with _ | _
  · rw [hs] at h
    have h := h.resolve_left (by decide)
    simp only [List.forall_mem_cons, List.not_mem_nil, false_implies, implies_true, and_true] at h
    omega
  · rw [hs, if_pos rfl] at hin
    omega

lemma ne_of_system {x : SystemRegister}
    (h : x ∉ [SystemRegister.acknowledge1, .endOfInterrupt1, .deactivate]) :
    x ≠ .acknowledge1 ∧ x ≠ .endOfInterrupt1 ∧ x ≠ .deactivate := by simpa using h

lemma completions_record (h : Quiet s.isRouted q) (e : Except Failure q.Answer) :
    (Board.record (.controller s) q e).filterMap Access.completion? = [] := by
  cases q with
  | read w a =>
    cases e with
    | error e => rfl
    | ok v =>
      rw [Board.record]
      rcases hd : (Board.controller s).decode a with _ | ⟨r, o⟩
      · rfl
      · simp [Access.completion?_read fun hr => (apart (a := a) h hd hr).1]
  | write w a v =>
    rw [Board.record]
    rcases hd : (Board.controller s).decode a with _ | ⟨r, o⟩
    · rfl
    · simp [Access.completion?_write fun hr => (apart (a := a) h hd hr).2]
  | readSystem r =>
    cases e with
    | error e => rfl
    | ok v => simp [Board.record, Access.completion?_readSystem (ne_of_system h).1]
  | writeSystem r v => simp [Board.record, Access.completion?_writeSystem (ne_of_system (x := r) h).2]
  | barrier => rfl
  | notify n => rfl

/-- It changes nothing about what the cores run, and is no cause of a fault. -/
lemma answer_eq (h : Quiet s.isRouted q) : ∃ r t, Board.answer (.controller s) q = (r, .controller t)
    ∧ State.Agree Core.tasks s t ∧ ∀ f, r ≠ .error (.fault f) := by
  have hsteady {t : State} (h : State.Agree Core.steady s t) : State.Agree Core.tasks s t :=
    h.mono fun _ _ => Core.tasks_of_steady
  cases q with
  | read w a =>
    rcases hd : (Board.controller s).decode a with _ | ⟨_ | _ | _, o⟩ <;>
      simp only [Board.answer, hd]
    · exact ⟨_, _, rfl, .refl s, by simp⟩
    · exact ⟨_, _, rfl, .refl s, by simp⟩
    · have hsame := State.readInterface_of_ne (s := s) (apart (a := a) h hd rfl).1 w
      refine ⟨.ok (s.readInterface o w).1, (s.readInterface o w).2, rfl, ?_, by simp⟩
      rw [hsame]
      exact .refl s
    · exact ⟨_, _, rfl, .refl s, by simp⟩
  | write w a v =>
    rcases hd : (Board.controller s).decode a with _ | ⟨_ | _ | _, o⟩ <;>
      simp only [Board.answer, hd]
    · exact ⟨_, _, rfl, .refl s, by simp⟩
    · exact ⟨_, _, rfl, hsteady ((State.step_writeDistributor s o w v).agree.mono fun _ _ =>
        Core.steady_of_bare), by simp⟩
    · obtain ⟨ho, ho'⟩ := (apart (a := a) h hd rfl).2
      obtain ⟨t, ht, hagree⟩ := State.tasks_writeInterface ho ho' (v.setWidth 32)
      refine ⟨.ok (), t, ?_, hagree, by simp⟩
      simp only [Board.write, Board.writeRegion]
      rw [ht]
      rfl
    · exact ⟨_, _, rfl, hsteady (State.step_writeRedistributor s o w v).agree, by simp⟩
  | readSystem r =>
    refine ⟨_, _, Board.answer_readSystem .., ?_, fun f => ?_⟩
    · rw [State.readSystem_of_ne (ne_of_system h).1]
      exact .refl s
    · unfold State.readSystem
      split
      · simp
      · split <;> simp
  | writeSystem r v =>
    obtain ⟨-, hend, hdeactivate⟩ := ne_of_system h
    rw [Board.answer_writeSystem]
    rcases hc : s.cores[s.current]? with _ | c
    · exact ⟨.error .noSuchCore, s, by simp [State.writeSystem, hc], .refl s, by simp⟩
    · obtain ⟨t, ht, hagree⟩ := State.tasks_writeSystem hend hdeactivate (by rw [hc]; rfl) v
      rw [ht]
      exact ⟨_, _, rfl, hagree, by simp⟩
  | barrier => exact ⟨_, _, rfl, .refl s, by simp⟩
  | notify n => exact ⟨_, _, rfl, .refl s, by simp⟩

end Quiet

/-! ### Runs -/

/-- On a machine that has controller `s` the call results in `r`, leaves controller `t`, and
shows the events `w`. -/
def Runs {α : Type} (p : Program α) (s : State) (r : Except Failure α) (t : State)
    (w : List Completion) : Prop :=
  ∀ m : Machine, m.Holds s → ∃ m', p.run Machine.answer m = (r, m') ∧ m'.Holds t
    ∧ m'.completions = m.completions ++ w

namespace Runs

variable {α β : Type} {s t u : State} {p : Program α} {f : α → Program β} {w w' : List Completion}

lemma pure (a : α) (s : State) : Runs (Pure.pure a) s (.ok a) s [] :=
  fun m h => ⟨m, rfl, h, (List.append_nil _).symm⟩

lemma bind {a : α} {r : Except Failure β} (hp : Runs p s (.ok a) t w) (hf : Runs (f a) t r u w') :
    Runs (p >>= f) s r u (w ++ w') := by
  intro m h
  obtain ⟨m₁, hrun, h₁, hw⟩ := hp m h
  obtain ⟨m₂, hrun', h₂, hw'⟩ := hf m₁ h₁
  exact ⟨m₂, (run_bind_ok hrun).trans hrun', h₂, by rw [hw', hw, List.append_assoc]⟩

lemma bind_error {e : Failure} (hp : Runs p s (.error e) t w) :
    Runs (p >>= f) s (.error e) t w := by
  intro m h
  obtain ⟨m₁, hrun, h₁, hw⟩ := hp m h
  exact ⟨m₁, run_bind_error hrun, h₁, hw⟩

lemma request {q : Request} {r : Except Failure q.Answer}
    (h : Board.answer (.controller s) q = (r, .controller t))
    (hw : (Board.record (.controller s) q r).filterMap Access.completion? = w) :
    Runs (Program.request q) s r t w := by
  intro m hm
  obtain ⟨hr, ht, hc⟩ := hm.answer h
  exact ⟨_, (run_request ..).trans (Prod.ext hr rfl), ht, hw ▸ hc⟩

/-- A call that makes only quiet requests shows no events. -/
lemma of_quiet {routed : Bool} {r : Except Failure α} (hp : p.Within (Quiet routed))
    (hs : s.isRouted = routed) (h : p.run Board.answer (.controller s) = (r, .controller t)) :
    Runs p s r t [] := by
  induction hp generalizing s with
  | done a =>
    obtain ⟨rfl, ht⟩ := Prod.mk.inj h
    obtain rfl := Board.controller.inj ht
    exact pure a s
  | fail _ =>
    obtain ⟨rfl, ht⟩ := Prod.mk.inj h
    obtain rfl := Board.controller.inj ht
    exact fun m hm => ⟨m, rfl, hm, (List.append_nil _).symm⟩
  | @ask q k hq hk ih =>
    have hanswer := s.answer_eq q
    have hrouted := (s.agree_access q).isRouted.trans hs
    rw [run_ask] at h
    rcases he : Board.answer (.controller s) q with ⟨_ | v, b⟩
    · rw [he] at h hanswer
      obtain ⟨rfl, rfl⟩ := Prod.mk.inj h
      exact bind_error (request he ((hs ▸ hq).completions_record _))
    · rw [he] at h hanswer
      obtain rfl : b = _ := hanswer
      exact bind (request he ((hs ▸ hq).completions_record _)) (ih v hrouted h)

/-- A call that makes only quiet requests changes nothing about what the cores run, and is no
cause of a fault. -/
lemma exists_of_quiet {o : Hardware.Options} (hp : p.Within (Quiet o.isRouted)) (hs : s.Sound o) :
    ∃ r t, Runs p s r t [] ∧ t.Sound o ∧ State.Agree Core.tasks s t
      ∧ ∀ f, r ≠ .error (.fault f) := by
  induction hp generalizing s with
  | done a => exact ⟨.ok a, s, pure a s, hs, .refl s, by simp⟩
  | @fail e he =>
    refine ⟨.error e, s, fun m hm => ⟨m, rfl, hm, (List.append_nil _).symm⟩, hs, .refl s, ?_⟩
    exact fun f hf => he f (Except.error.inj hf)
  | @ask q k hq hk ih =>
    have hquiet := hs.isRouted ▸ hq
    obtain ⟨r, t, he, hagree, hfault⟩ := hquiet.answer_eq
    have hrequest := request he (hquiet.completions_record r)
    have ht : t.Sound o := by
      have hanswer := s.answer_eq q
      rw [he] at hanswer
      exact (Board.controller.inj hanswer) ▸ hs.access q
    rcases r with e | v
    · refine ⟨.error e, t, bind_error hrequest, ht, hagree, ?_⟩
      exact fun f hf => hfault f (congrArg _ (Except.error.inj hf))
    · obtain ⟨r, u, hruns, hu, hagree', hfault'⟩ := ih v ht
      exact ⟨r, u, bind hrequest hruns, hu, hagree.trans hagree', hfault'⟩

end Runs

end InterruptControl.Bus
