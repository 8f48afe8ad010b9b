import InterruptControl.Gic.Dispatch
import InterruptControl.Proofs.Gic.Detection
import InterruptControl.Proofs.Gic.Handlers
import InterruptControl.Proofs.Gic.Sharing
import InterruptControl.Proofs.Hardware.Health
import InterruptControl.Proofs.Requests
import InterruptControl.Proofs.Startup.BringUp

/-!
What a front end accepts in the course of its life.

A chronicle has a record of every call, in the order in which they end: what came of it, and what
it asked of the hardware. The calls are made from outside or by handlers that a dispatch runs, and
the hardware does as it likes in between.
-/

namespace InterruptControl.Gic

open Bus Hardware Program

variable {H : Type}

/-! ### Calls -/

/-- The calls that neither bring up nor install. -/
inductive Operation where
  | mask (id : IntId)
  | unmask (id : IntId)
  | acknowledge
  | complete (a : Ack)
  | deactivate (a : Ack)
  | banked
  | routed
  | call (c : Call)

/-- The operation, whatever it answers. -/
def Operation.program (g : Gic H) : Operation → Program Unit
  | mask id => g.maskInterrupt id
  | unmask id => g.unmaskInterrupt id
  | acknowledge => g.acknowledge >>= fun _ => pure ()
  | complete a => g.complete a
  | deactivate a => g.deactivate a
  | banked => g.banked >>= fun _ => pure ()
  | routed => g.routed >>= fun _ => pure ()
  | call c => c.program g

/-- All calls but for dispatching. -/
inductive Command (H : Type) where
  | start
  | startCore
  | install (id : IntId) (h : Option H)
  | operate (p : Operation)

/-- A call that asks for nothing. -/
def decided {α : Type} : Except Failure α → Program α
  | .ok a => pure a
  | .error e => fail e

/-- The front end that the call leaves, unless it is refused. -/
def Command.program (g : Gic H) : Command H → Program (Except Refusal (Gic H))
  | start => g.start
  | startCore => g.startCore >>= fun r => pure (r.map fun _ => g)
  | install id h => decided ((g.install id h).map .ok)
  | operate p => p.program g >>= fun _ => pure (.ok g)

/-! ### What happens -/

/-- What may happen: a call, a dispatch, or something that the hardware does. -/
inductive Occurrence (H : Type) where
  | call (c : Command H)
  | dispatch
  | event (e : Event)

/-- What the hardware does leaves it healthy, if it needs to be. -/
def Occurrence.Gentle (o : Options) : Occurrence H → Prop
  | event e => o.isRouted = true → e.Gentle o
  | call _ | dispatch => True

/-- What came of a call or a dispatch, and what it asked for while it lasted. -/
structure Record (H : Type) where
  what : Occurrence H
  outcome : Except Failure (Except Refusal Unit)
  requests : List Request

structure Chronicle (H : Type) where
  frontEnd : Gic H
  hardware : State
  /-- What the dispatch in progress has asked for. -/
  requests : List Request
  history : List (Record H)

/-- Something that is done, and may fail. -/
abbrev Play (H : Type) := ExceptT Failure (StateM (Chronicle H))

/-- The front end that is left behind by a call. -/
def kept (g : Gic H) : Except Failure (Except Refusal (Gic H)) → Gic H
  | .ok (.ok g') => g'
  | _ => g

namespace Chronicle

/-- Nothing has happened yet. -/
def fresh (g : Gic H) (s : State) : Chronicle H := ⟨g, s, [], []⟩

/-- A part of a dispatch. -/
def perform {α : Type} (p : Program α) : Play H α := fun y =>
  ((y.hardware.perform p).1, { y with
    hardware := (y.hardware.perform p).2
    requests := y.requests ++ p.requests Board.answer (.controller y.hardware) })

/-- The result of a call, and the hardware after it. -/
def answer (y : Chronicle H) (c : Command H) : Except Failure (Except Refusal (Gic H)) × State :=
  y.hardware.perform (c.program y.frontEnd)

def record (y : Chronicle H) (c : Command H) : Record H :=
  ⟨.call c, (y.answer c).1.map fun r => r.map fun _ => (),
    (c.program y.frontEnd).requests Board.answer (.controller y.hardware)⟩

def call (c : Command H) : Play H Unit := fun y =>
  ((y.answer c).1.map fun _ => (), ⟨y.frontEnd.kept (y.answer c).1, (y.answer c).2,
    y.requests ++ (y.record c).requests, y.history ++ [y.record c]⟩)

/-- The surroundings of a dispatch. -/
def surroundings (handle : H → Ack → Play H Unit) : Surroundings (Play H) H where
  frontEnd := fun y => (.ok y.frontEnd, y)
  perform := perform
  handle := handle

/-- At most so many interrupts are served. -/
def dispatch (handle : H → Ack → Play H Unit) (rounds : Nat) : Play H Unit := fun y =>
  let r := Gic.dispatch (surroundings handle) (rounds + 1) { y with requests := [] }
  (r.1, { r.2 with
    requests := y.requests ++ r.2.requests
    history := r.2.history ++ [⟨.dispatch, r.1.map .ok, r.2.requests⟩] })

def play (handle : H → Ack → Play H Unit) (rounds : Nat) : Occurrence H → Play H Unit
  | .call c => call c
  | .dispatch => dispatch handle rounds
  | .event e => fun y => (.ok (), { y with hardware := y.hardware.after e })

/-- Handlers respond to an interrupt in view of all that happened before, with dispatches among
other things. These are nested at most so deep. -/
def handler (respond : Chronicle H → H → Ack → List (Occurrence H)) (rounds : Nat) :
    (depth : Nat) → H → Ack → Play H Unit
  | 0, _, _ => fun y => (.error .endless, y)
  | depth + 1, h, a => fun y => (respond y h a).forM (play (handler respond rounds depth) rounds) y

/-- One thing happens after the other, whatever comes of it. -/
def run (handle : H → Ack → Play H Unit) (rounds : Nat) (y : Chronicle H) (l : List (Occurrence H)) :
    Chronicle H := l.foldl (fun y x => (play handle rounds x y).2) y

end Chronicle

namespace Play

variable {α β : Type}

lemma bind_apply (x : Play H α) (f : α → Play H β) (y : Chronicle H) : (x >>= f) y =
    match x y with
    | (.ok a, z) => f a z
    | (.error e, z) => (.error e, z) := by
  show (match x y with | (r, z) => ExceptT.bindCont f r z) = _
  rcases x y with ⟨_ | a, z⟩ <;> rfl

/-- Whatever comes of it, the chronicle stays as it has to be. -/
def Keeps (J : Chronicle H → Prop) (x : Play H α) : Prop := ∀ y, J y → J (x y).2

namespace Keeps

variable {J : Chronicle H → Prop} {x : Play H α} {f : α → Play H β}

lemma pure (a : α) : Keeps J (Pure.pure a : Play H α) := fun _ h => h

lemma bind (hx : Keeps J x) (hf : ∀ a, Keeps J (f a)) : Keeps J (x >>= f) := by
  intro y h
  have hnext := hx y h
  rw [bind_apply]
  rcases hr : x y with ⟨e | a, z⟩ <;> rw [hr] at hnext
  · exact hnext
  · exact hf a z hnext

lemma forM {γ : Type} {l : List γ} {f : γ → Play H Unit} (hf : ∀ c ∈ l, Keeps J (f c)) :
    Keeps J (l.forM f) := by
  induction l with
  | nil => exact pure ()
  | cons c l ih =>
    obtain ⟨hc, hl⟩ := List.forall_mem_cons.mp hf
    exact hc.bind fun _ => ih hl

/-- A dispatch keeps what its parts and the handlers keep. -/
lemma dispatch {handle : H → Ack → Play H Unit}
    (hperform : ∀ {α : Type} (p : Program α), Keeps J (Chronicle.perform p))
    (hhandle : ∀ h a, Keeps J (handle h a)) (n : Nat) :
    Keeps J (Gic.dispatch (Chronicle.surroundings handle) n) := by
  have hfrontEnd : Keeps J (Chronicle.surroundings handle).frontEnd := fun _ h => h
  induction n with
  | zero => exact hperform _
  | succ n ih =>
    refine hfrontEnd.bind fun g => (hperform _).bind fun a => ?_
    rcases a with _ | a
    · exact pure ()
    · have hend : Keeps J ((Chronicle.surroundings handle).frontEnd >>= fun g =>
          Chronicle.perform (g.finish a)) := hfrontEnd.bind fun g => hperform _
      refine Keeps.bind ?_ fun _ => ih
      unfold serve
      split
      · exact (hhandle _ _).bind fun _ => hend
      · exact (hperform _).bind fun _ => hend

end Keeps

end Play

/-! ### A controller of the version that the front end is for -/

namespace Record

/-- The call was refused. -/
def Refused (e : Record H) (c : Refusal.Code) : Prop :=
  ∃ r, e.outcome = .ok (.error r) ∧ r.code = c

def Succeeded (e : Record H) : Prop := e.outcome = .ok (.ok ())

/-- The hardware was not accessed. -/
def Silent (e : Record H) : Prop := ∀ q ∈ e.requests, ∃ n, q = .notify n

/-- The distributor was to be started. -/
def Begun (l : List (Record H)) : Prop := ∃ e ∈ l, e.what = .call .start

/-- What comes of a call, given all the calls before. -/
structure Regular (before : List (Record H)) (e : Record H) : Prop where
  first (h : e.what = .call .start) (hbefore : ¬ Begun before) : e.Succeeded
  again (h : e.what = .call .start) (hbefore : Begun before) : e.Refused .cantRepeat
  early (h : e.what = .call .startCore) (hbefore : ¬ Begun before) : e.Refused .notInitialized
  core (h : e.what = .call .startCore) (hbefore : Begun before) : e.Succeeded
  silent {r : Refusal} (h : e.outcome = .ok (.error r)) : e.Silent

/-- Every record is as it has to be after the ones before. -/
def Lawful (l : List (Record H)) : Prop :=
  ∀ before e after, l = before ++ e :: after → e.Regular before

variable {l : List (Record H)} {e : Record H}

lemma Lawful.snoc (hl : Lawful l) (he : e.Regular l) : Lawful (l ++ [e]) := by
  intro before x after h
  -- it is the last record, or one of those before
  rcases List.eq_nil_or_concat after with rfl | ⟨after, z, rfl⟩
  · obtain ⟨rfl, hx⟩ := List.append_inj' h rfl
    exact (List.singleton_inj.mp hx) ▸ he
  · rw [List.concat_eq_append, ← List.cons_append, ← List.append_assoc] at h
    exact hl _ _ _ (List.append_inj' h rfl).1

lemma begun_snoc : Begun (l ++ [e]) ↔ Begun l ∨ e.what = .call .start := by
  simp [Begun, or_and_right, exists_or]

/-- What is neither bring-up nor refused is regular. -/
lemma Regular.of_accepted (hstart : e.what ≠ .call .start) (hcore : e.what ≠ .call .startCore)
    (haccepted : ∀ r, e.outcome ≠ .ok (.error r)) : e.Regular l :=
  ⟨fun h => absurd h hstart, fun h => absurd h hstart, fun h => absurd h hcore,
    fun h => absurd h hcore, fun h => absurd h (haccepted _)⟩

end Record

section BringUp

variable {g : Gic H} {o : Options} {s : State}

lemma start_of_started (h : g.isStarted = true) : ∃ n r, r.code = .cantRepeat
    ∧ g.start = notify n >>= fun _ => pure (.error r) := by
  obtain ⟨v, e, twoStep, handlers⟩ := g
  refine ⟨.starting v.name twoStep, ?_⟩
  rcases e with _ | d | d
  · exact absurd h Bool.false_ne_true
  · refine ⟨.bankedRepeated, rfl, ?_⟩
    simp only [start, Banked.Driver.start, if_pos (show d.started = true from h)]
    rfl
  · refine ⟨.routedRepeated, rfl, ?_⟩
    simp only [start, Routed.Driver.start, if_pos (show d.started = true from h)]
    rfl

lemma startCore_of_not_started (hg : g.engine.Drives o) (h : g.isStarted = false) :
    ∃ r, r.code = .notInitialized ∧ g.startCore = pure (.error r) := by
  obtain ⟨v, e, twoStep, handlers⟩ := g
  cases hg with
  | banked ho lines started =>
    obtain rfl : started = false := h
    exact ⟨.bankedNotReady, rfl, rfl⟩
  | routed ho security started =>
    obtain rfl : started = false := h
    exact ⟨.routedNotReady, rfl, rfl⟩

/-- What all of bring-up needs of the hardware. A banked controller is never waited for. -/
structure Willing (o : Options) (s : State) : Prop where
  reachable : Reachable o s
  healthy : o.isRouted = true → s.Healthy o

lemma Willing.perform (h : Willing o s) {α : Type} (p : Program α) : Willing o (s.perform p).2 :=
  ⟨h.reachable.perform p, fun ho => (h.healthy ho).perform p⟩

variable (hs : Willing o s) (hfit : o.Fits) (hcpus : 0 < o.cpus) (hg : g.engine.Drives o)
include hs hfit hcpus hg

lemma run_start_anew (h : g.isStarted = false) :
    ∃ g' t, g.start.run Board.answer (.controller s) = (.ok (.ok g'), .controller t)
      ∧ g'.engine.Drives o ∧ g'.isStarted = true := by
  have hsound := hs.reachable.sound
  obtain ⟨c, hc⟩ := hsound.exists_current hcpus
  obtain ⟨v, e, twoStep, handlers⟩ := g
  cases hg with
  | banked ho lines started =>
    obtain rfl : started = false := h
    obtain ⟨t, hrun, -⟩ := Banked.Driver.run_start hsound hfit ho hc lines
    refine ⟨⟨v, _, twoStep, handlers⟩, t, ?_, .banked ho o.sharedLimit true, rfl⟩
    exact (run_bind_ok (run_notify ..)).trans ((run_bind_ok hrun).trans (run_pure ..))
  | routed ho security started =>
    obtain rfl : started = false := h
    obtain ⟨t, hrun, -⟩ := Routed.Driver.run_start security hsound hfit ho
      hs.reachable.masked (hs.healthy ho).writes hc
    refine ⟨⟨v, _, twoStep, handlers⟩, t, ?_, .routed ho o.security true, rfl⟩
    exact (run_bind_ok (run_notify ..)).trans ((run_bind_ok hrun).trans (run_pure ..))

lemma run_startCore_started (h : g.isStarted = true) :
    ∃ t, g.startCore.run Board.answer (.controller s) = (.ok (.ok ()), .controller t) := by
  have hsound := hs.reachable.sound
  obtain ⟨c, hc⟩ := hsound.exists_current hcpus
  obtain ⟨v, e, twoStep, handlers⟩ := g
  cases hg with
  | banked ho lines started =>
    obtain rfl : started = true := h
    obtain ⟨t, hrun, -⟩ := Banked.Driver.run_startCore hsound ho hc lines twoStep
    exact ⟨t, hrun⟩
  | routed ho security started =>
    obtain rfl : started = true := h
    have hhealthy := hs.healthy ho
    have hreported := hhealthy.reported hsound hcpus
    have hhome := Array.getElem?_eq_getElem (State.home_lt hreported hc)
    have hcore := hhealthy.core hhome
    obtain ⟨t, hrun, -⟩ := Routed.Driver.run_startHome hsound hfit ho hs.reachable.masked hreported
      hhome hcore.wakes hcore.writes security twoStep
    exact ⟨t, hrun⟩

end BringUp

namespace Chronicle

open Record

variable {o : Options} {y : Chronicle H} {c : Command H} {r : Refusal}

/-- The front end knows whether the distributor was started, and every record is as it has to be. -/
structure Sane (o : Options) (y : Chronicle H) : Prop where
  willing : Willing o y.hardware
  drives : y.frontEnd.engine.Drives o
  started : y.frontEnd.isStarted = true ↔ Begun y.history
  lawful : Lawful y.history

/-- What one more call does. -/
structure Passes (o : Options) (y : Chronicle H) (c : Command H) : Prop where
  regular : (y.record c).Regular y.history
  drives : (y.frontEnd.kept (y.answer c).1).engine.Drives o
  started : (y.frontEnd.kept (y.answer c).1).isStarted = true ↔
    y.frontEnd.isStarted = true ∨ c = .start

lemma outcome_record {r : Except Failure (Except Refusal (Gic H))} (h : (y.answer c).1 = r) :
    (y.record c).outcome = r.map fun r => r.map fun _ => () := by rw [record, h]

lemma answer_of_run {r : Except Failure (Except Refusal (Gic H))} {b : Board}
    (h : (c.program y.frontEnd).run Board.answer (.controller y.hardware) = (r, b)) :
    (y.answer c).1 = r := by rw [answer, State.perform, h]

lemma answer_of_decided {r : Except Failure (Except Refusal (Gic H))}
    (h : c.program y.frontEnd = decided r) : (y.answer c).1 = r ∧ (y.record c).Silent := by
  have hrequests : (y.record c).requests = [] := by
    rw [record, h]
    cases r <;> rfl
  refine ⟨?_, fun q hq => absurd (hrequests ▸ hq) List.not_mem_nil⟩
  refine answer_of_run (b := .controller y.hardware) ?_
  rw [h]
  cases r <;> rfl

/-- A call that only gives notice. -/
lemma answer_of_notice {n : Notice} {r : Except Refusal (Gic H)}
    (h : c.program y.frontEnd = notify n >>= fun _ => pure r) :
    (y.answer c).1 = .ok r ∧ (y.record c).Silent := by
  have hrequests : (y.record c).requests = [.notify n] := by
    rw [record, h]
    rfl
  refine ⟨answer_of_run (b := .controller y.hardware) ?_, fun q hq =>
    ⟨n, List.mem_singleton.mp (hrequests ▸ hq)⟩⟩
  rw [h]
  exact (run_bind_ok (run_notify ..)).trans (run_pure ..)

namespace Sane

variable (h : y.Sane o) (hfit : o.Fits) (hcpus : 0 < o.cpus)
include h

/-- A refused call leaves the front end as it was. -/
lemma passes_of_refused (hr : (y.answer c).1 = .ok (.error r)) (hregular : (y.record c).Regular y.history)
    (hc : c = .start → y.frontEnd.isStarted = true) : Passes o y c := by
  have hkept : y.frontEnd.kept (y.answer c).1 = y.frontEnd := by
    rw [hr]
    rfl
  refine ⟨hregular, ?_, ?_⟩ <;> rw [hkept]
  · exact h.drives
  · exact ⟨.inl, fun hs => hs.elim id hc⟩

/-- So does a call that has nothing to do with bring-up, but for handlers. -/
lemma passes_of_accepted (hstart : c ≠ .start) (hcore : c ≠ .startCore)
    (haccepted : ∀ r, (y.answer c).1 = .ok r → ∃ g, r = .ok g ∧ g.engine = y.frontEnd.engine) :
    Passes o y c := by
  have hengine : (y.frontEnd.kept (y.answer c).1).engine = y.frontEnd.engine := by
    rcases hr : (y.answer c).1 with e | r
    · rfl
    · obtain ⟨g, rfl, hg⟩ := haccepted r hr
      exact hg
  have hstarted : (y.frontEnd.kept (y.answer c).1).isStarted = y.frontEnd.isStarted := by
    rw [isStarted, isStarted, hengine]
  refine ⟨.of_accepted (fun h => hstart (Occurrence.call.inj h)) (fun h => hcore (Occurrence.call.inj h))
    fun r hr => ?_, hengine ▸ h.drives, by rw [hstarted, or_iff_left hstart]⟩
  rcases ha : (y.answer c).1 with e | r'
  · rw [outcome_record ha] at hr
    cases hr
  · obtain ⟨g, rfl, -⟩ := haccepted r' ha
    rw [outcome_record ha] at hr
    cases hr

include hfit hcpus

lemma passes_start : Passes o y .start := by
  rcases hstarted : y.frontEnd.isStarted with _ | _
  · obtain ⟨g', t, hrun, hdrives, hstarted'⟩ := run_start_anew h.willing hfit hcpus h.drives hstarted
    have hanswer : (y.answer .start).1 = .ok (.ok g') := answer_of_run hrun
    have hnot : ¬ Begun y.history := fun hb => by simp [h.started.mpr hb] at hstarted
    refine ⟨⟨fun _ _ => outcome_record hanswer, fun _ hb => absurd hb hnot, nofun, nofun, fun hr => ?_⟩,
      hanswer ▸ hdrives, hanswer ▸ iff_of_true hstarted' (.inr rfl)⟩
    rw [outcome_record hanswer] at hr
    cases hr
  · obtain ⟨n, r, hr, hprogram⟩ := start_of_started hstarted
    obtain ⟨hanswer, hsilent⟩ := answer_of_notice (y := y) (c := .start) hprogram
    exact h.passes_of_refused hanswer ⟨fun _ hb => absurd (h.started.mp hstarted) hb,
      fun _ _ => ⟨r, outcome_record hanswer, hr⟩, nofun, nofun, fun _ => hsilent⟩ fun _ => hstarted

lemma passes_startCore : Passes o y .startCore := by
  rcases hstarted : y.frontEnd.isStarted with _ | _
  · obtain ⟨r, hr, hprogram⟩ := startCore_of_not_started h.drives hstarted
    obtain ⟨hanswer, hsilent⟩ := answer_of_decided (y := y) (c := .startCore)
      (r := .ok (.error r)) (by rw [Command.program, hprogram]; rfl)
    have hnot : ¬ Begun y.history := fun hb => by simp [h.started.mpr hb] at hstarted
    exact h.passes_of_refused hanswer ⟨nofun, nofun, fun _ _ => ⟨r, outcome_record hanswer, hr⟩,
      fun _ hb => absurd hb hnot, fun _ => hsilent⟩ nofun
  · obtain ⟨t, hrun⟩ := run_startCore_started h.willing hfit hcpus h.drives hstarted
    have hanswer : (y.answer .startCore).1 = .ok (.ok y.frontEnd) :=
      answer_of_run ((run_bind_ok hrun).trans (run_pure ..))
    have hbegun := h.started.mp hstarted
    refine ⟨⟨nofun, nofun, fun _ hb => absurd hbegun hb, fun _ _ => outcome_record hanswer,
      fun hr => ?_⟩, hanswer ▸ h.drives, hanswer ▸ iff_of_true hstarted (.inl hstarted)⟩
    rw [outcome_record hanswer] at hr
    cases hr

lemma passes (c : Command H) : Passes o y c := by
  cases c with
  | start => exact h.passes_start hfit hcpus
  | startCore => exact h.passes_startCore hfit hcpus
  | install id handler =>
    refine h.passes_of_accepted nofun nofun fun r hr => ?_
    obtain ⟨hanswer, -⟩ := answer_of_decided (y := y) (c := .install id handler) rfl
    rw [hanswer] at hr
    rcases hi : y.frontEnd.install id handler with e | g <;> rw [hi] at hr
    · cases hr
    · exact ⟨g, (Except.ok.inj hr).symm, (parts_of_install hi).1⟩
  | operate p =>
    refine h.passes_of_accepted nofun nofun fun r hr => ?_
    rcases hp : (p.program y.frontEnd).run Board.answer (.controller y.hardware) with ⟨e | a, b⟩
    · have hfails : (y.answer (.operate p)).1 = .error e := answer_of_run (run_bind_error hp)
      rw [hfails] at hr
      cases hr
    · have hdone : (y.answer (.operate p)).1 = .ok (.ok y.frontEnd) :=
        answer_of_run ((run_bind_ok hp).trans (run_pure ..))
      obtain rfl := Except.ok.inj (hdone.symm.trans hr)
      exact ⟨_, rfl, rfl⟩

end Sane

section Keeps

lemma keeps_perform {α : Type} (p : Program α) : Play.Keeps (Sane o) (perform (H := H) p) :=
  fun _ h => ⟨h.willing.perform p, h.drives, h.started, h.lawful⟩

lemma keeps_dispatch {handle : H → Ack → Play H Unit}
    (hhandle : ∀ h a, Play.Keeps (Sane o) (handle h a)) (rounds : Nat) :
    Play.Keeps (Sane o) (dispatch handle rounds) := by
  intro y h
  obtain ⟨hwilling, hdrives, hstarted, hlawful⟩ := Play.Keeps.dispatch keeps_perform hhandle
    (rounds + 1) { y with requests := [] } ⟨h.willing, h.drives, h.started, h.lawful⟩
  refine ⟨hwilling, hdrives, hstarted.trans ?_, hlawful.snoc (.of_accepted nofun nofun fun r hr => ?_)⟩
  · simp [dispatch, begun_snoc]
  · rcases hd : (Gic.dispatch (surroundings handle) (rounds + 1) { y with requests := [] }).1 with e | a
    · simp [hd, Except.map] at hr
    · simp [hd, Except.map] at hr

variable (hfit : o.Fits) (hcpus : 0 < o.cpus)
include hfit hcpus

lemma keeps_call (c : Command H) : Play.Keeps (Sane o) (call c) := by
  intro y h
  obtain ⟨hregular, hdrives, hstarted⟩ := h.passes hfit hcpus c
  refine ⟨h.willing.perform _, hdrives, hstarted.trans ?_, h.lawful.snoc hregular⟩
  rw [h.started]
  exact (or_congr_right ⟨congrArg _, Occurrence.call.inj⟩).trans
    (begun_snoc (e := y.record c)).symm

/-- One step of a run: a call, a dispatch, or something that the hardware does. -/
lemma keeps_play {handle : H → Ack → Play H Unit}
    (hhandle : ∀ h a, Play.Keeps (Sane o) (handle h a)) (rounds : Nat) {x : Occurrence H}
    (hx : x.Gentle o) : Play.Keeps (Sane o) (play handle rounds x) := by
  cases x with
  | call c => exact keeps_call hfit hcpus c
  | dispatch => exact keeps_dispatch hhandle rounds
  | event e =>
    exact fun y h => ⟨⟨h.willing.reachable.after e, fun ho => (h.willing.healthy ho).after (hx ho)⟩,
      h.drives, h.started, h.lawful⟩

lemma keeps_handler {respond : Chronicle H → H → Ack → List (Occurrence H)}
    (hrespond : ∀ y h a, ∀ x ∈ respond y h a, x.Gentle o) (rounds depth : Nat) (h : H) (a : Ack) :
    Play.Keeps (Sane o) (handler respond rounds depth h a) := by
  induction depth generalizing h a with
  | zero => exact fun _ hy => hy
  | succ depth ih =>
    exact fun y hy => Play.Keeps.forM
      (fun x hx => keeps_play hfit hcpus ih rounds (hrespond y h a x hx)) y hy

/-- A whole run. -/
lemma Sane.run {respond : Chronicle H → H → Ack → List (Occurrence H)}
    (hrespond : ∀ y h a, ∀ x ∈ respond y h a, x.Gentle o) (rounds depth : Nat)
    {l : List (Occurrence H)} (hl : ∀ x ∈ l, x.Gentle o) (h : y.Sane o) :
    (y.run (handler respond rounds depth) rounds l).Sane o := by
  induction l generalizing y with
  | nil => exact h
  | cons x l ih =>
    obtain ⟨hx, hl⟩ := List.forall_mem_cons.mp hl
    exact ih hl (keeps_play hfit hcpus (keeps_handler hfit hcpus hrespond rounds depth) rounds hx y h)

end Keeps

end Chronicle

/-! ### The table of handlers -/

/-- The handler that was installed last. -/
def Record.installed (id : IntId) (l : List (Record H)) : Option H :=
  l.foldl (fun h e =>
    match e.what, e.outcome with
    | .call (.install id' h'), .ok _ => if id = id' then h' else h
    | _, _ => h) none

section Installed

variable {l : List (Record H)} {e : Record H} {id : IntId}

lemma Record.installed_snoc : installed id (l ++ [e]) =
    match e.what, e.outcome with
    | .call (.install id' h'), .ok _ => if id = id' then h' else installed id l
    | _, _ => installed id l := by
  rw [installed, List.foldl_append]
  rfl

/-- Nothing else puts a handler there. -/
lemma Record.installed_snoc_of_ne (h : ∀ id h, e.what ≠ .call (.install id h)) :
    installed id (l ++ [e]) = installed id l := by
  rw [installed_snoc]
  split
  next hwhat _ => exact absurd hwhat (h _ _)
  next => rfl

end Installed

namespace Chronicle

variable {y : Chronicle H}

/-- The handlers in the table are those that were installed last. -/
def Recorded (y : Chronicle H) : Prop :=
  ∀ id, y.frontEnd.handlers.find? id = Record.installed id y.history

lemma recorded_fresh (version : Version) (engine : Engine) (twoStep : Bool) (s : State) :
    (fresh (H := H) ⟨version, engine, twoStep, .empty⟩ s).Recorded := by
  intro id
  rw [fresh, Handlers.find?]
  rcases Handlers.slot? id with _ | i
  · rfl
  · simp [Handlers.empty, Record.installed]

/-- An installation is carried out if the interrupt can have a handler. -/
lemma answer_install (y : Chronicle H) (id : IntId) (h : Option H) :
    (y.answer (.install id h)).1 = (y.frontEnd.install id h).map .ok :=
  (answer_of_decided rfl).1

/-- What a result is made of. -/
lemma exists_of_run_map {α β σ : Type} {d : Device σ} {p : Program (Except Refusal α)}
    {f : α → β} {b b' : σ} {v : β}
    (h : (p >>= fun r => pure (r.map f)).run d b = (.ok (.ok v), b')) : ∃ a, f a = v := by
  rw [run_bind] at h
  rcases hp : p.run d b with ⟨e | e | a, b''⟩ <;> rw [hp] at h
  · cases h
  · cases h
  · exact ⟨a, Except.ok.inj (Except.ok.inj (Prod.mk.inj h).1)⟩

lemma handlers_of_start {g g' : Gic H} {s : State} {b : Board}
    (h : g.start.run Board.answer (.controller s) = (.ok (.ok g'), b)) : g'.handlers = g.handlers := by
  obtain ⟨version, engine, twoStep, handlers⟩ := g
  rw [start, run_bind_ok (run_notify ..)] at h
  cases engine with
  | none => cases h
  | banked d | routed d =>
    obtain ⟨d', rfl⟩ := exists_of_run_map h
    rfl

/-- All that a call does to the handlers is to install one. -/
lemma handlers_kept {c : Command H} (hc : ∀ id h, c ≠ .install id h) :
    (y.frontEnd.kept (y.answer c).1).handlers = y.frontEnd.handlers := by
  rcases hrun : (c.program y.frontEnd).run Board.answer (.controller y.hardware) with ⟨e | r | g, b⟩
    <;> rw [answer_of_run hrun]
  · rfl
  · rfl
  · show g.handlers = y.frontEnd.handlers
    cases c with
    | start => exact handlers_of_start hrun
    | startCore =>
      obtain ⟨-, rfl⟩ := exists_of_run_map hrun
      rfl
    | install id h => exact absurd rfl (hc id h)
    | operate p =>
      rw [Command.program, run_bind] at hrun
      split at hrun
      · cases hrun
        rfl
      · cases hrun

namespace Recorded

lemma call (h : y.Recorded) (c : Command H) : (call c y).2.Recorded := by
  intro id'
  by_cases hc : ∃ id handler, c = .install id handler
  · obtain ⟨id, handler, rfl⟩ := hc
    have hanswer := y.answer_install id handler
    have houtcome := outcome_record hanswer
    show (y.frontEnd.kept _).handlers.find? id' = Record.installed id' (y.history ++ [_])
    rw [Record.installed_snoc, houtcome, hanswer]
    rcases hi : y.frontEnd.install id handler with e | g
    · exact h id'
    · refine (find?_install hi id').trans ?_
      rw [h id']
      rfl
  · have hother : ∀ id handler, c ≠ .install id handler := fun id handler he => hc ⟨id, handler, he⟩
    show (y.frontEnd.kept _).handlers.find? id' = Record.installed id' (y.history ++ [_])
    rw [handlers_kept hother, h id']
    exact (Record.installed_snoc_of_ne fun id handler he =>
      hother id handler (Occurrence.call.inj he)).symm

end Recorded

end Chronicle

/-! ### No version at all -/

/-- What comes of it without a controller. -/
def Occurrence.outcomeWithout : Occurrence H → Except Failure (Except Refusal Unit)
  | call .start | call .startCore => .ok (.error .unknownVersion)
  | call (.install id _) =>
    if (Handlers.slot? id).isSome then .ok (.ok ()) else .error (.noHandlerSlot id.number)
  | call (.operate (.call .name)) | event _ => .ok (.ok ())
  | call (.operate _) | dispatch => .error .assertion

/-- The refusal says that this is not supported. -/
example : Refusal.unknownVersion.code = .notSupported := rfl

/-- The call came to nothing, and no access was made for it. -/
structure Record.Inert (e : Record H) : Prop where
  outcome : e.outcome = e.what.outcomeWithout
  silent : e.Silent

lemma Operation.program_of_none {g : Gic H} (hg : g.engine = .none) (p : Operation) :
    p.program g = match p with
      | .call .name => pure ()
      | _ => fail .assertion := by
  obtain ⟨v, e, twoStep, handlers⟩ := g
  obtain rfl : e = .none := hg
  cases p with
  | deactivate a => cases twoStep <;> rfl
  | call c => cases c <;> rfl
  | _ => rfl

namespace Chronicle

variable {y : Chronicle H}

/-- There is no controller behind the front end, but there are the handlers that were installed. -/
structure Void (y : Chronicle H) : Prop where
  engine : y.frontEnd.engine = .none
  inert : ∀ e ∈ y.history, e.Inert
  table (id : IntId) : y.frontEnd.handlers.find? id = Record.installed id y.history

namespace Void

lemma inert_snoc (h : y.Void) {e : Record H} (he : e.Inert) : ∀ e' ∈ y.history ++ [e], e'.Inert := by
  intro e' he'
  rcases List.mem_append.mp he' with he' | he'
  · exact h.inert e' he'
  · exact (List.mem_singleton.mp he') ▸ he

/-- A call after which there is still no controller. -/
lemma of_kept (h : y.Void) {c : Command H} (hinert : (y.record c).Inert)
    (hkept : (y.frontEnd.kept (y.answer c).1).engine = y.frontEnd.engine) :
    (call c y).2.Void :=
  ⟨hkept.trans h.engine, h.inert_snoc hinert, Recorded.call h.table c⟩

lemma call_install (h : y.Void) (id : IntId) (handler : Option H) :
    (call (.install id handler) y).2.Void := by
  obtain ⟨hanswer, hsilent⟩ := answer_of_decided (y := y) (c := .install id handler) rfl
  have houtcome := outcome_record hanswer
  rcases hslot : Handlers.slot? id with _ | i
  · rw [install_of_none _ _ hslot] at hanswer houtcome
    refine h.of_kept ⟨houtcome.trans ?_, hsilent⟩ (by rw [hanswer]; rfl)
    simp only [record, Occurrence.outcomeWithout, hslot]
    rfl
  · have hsome : (Handlers.slot? id).isSome = true := by
      rw [hslot]
      rfl
    obtain ⟨g, hi⟩ := exists_install y.frontEnd handler hsome
    rw [hi] at hanswer houtcome
    refine h.of_kept ⟨houtcome.trans ?_, hsilent⟩ ?_
    · simp only [record, Occurrence.outcomeWithout, hslot]
      rfl
    · rw [hanswer]
      exact (parts_of_install hi).1

lemma call_operate (h : y.Void) (p : Operation) : (call (.operate p) y).2.Void := by
  have hprogram : (Command.operate p).program y.frontEnd = decided
      (match p with
        | .call .name => .ok (.ok y.frontEnd)
        | _ => .error .assertion) := by
    rw [Command.program, p.program_of_none h.engine]
    cases p with
    | call c => cases c <;> rfl
    | _ => rfl
  obtain ⟨hanswer, hsilent⟩ := answer_of_decided hprogram
  refine h.of_kept ⟨(outcome_record hanswer).trans ?_, hsilent⟩ ?_
  · cases p with
    | call c => cases c <;> rfl
    | _ => rfl
  · rw [hanswer]
    cases p with
    | call c => cases c <;> rfl
    | _ => rfl

/-- All calls. -/
lemma call (h : y.Void) (c : Command H) : (call c y).2.Void := by
  cases c with
  | start =>
    obtain ⟨hanswer, hsilent⟩ := answer_of_notice (y := y) (c := .start)
      (n := .starting y.frontEnd.version.name y.frontEnd.twoStep) (r := .error .unknownVersion)
      (by rw [Command.program, start, h.engine])
    exact h.of_kept ⟨outcome_record hanswer, hsilent⟩ (by rw [hanswer]; rfl)
  | startCore =>
    obtain ⟨hanswer, hsilent⟩ := answer_of_decided (y := y) (c := .startCore)
      (r := .ok (.error .unknownVersion)) (by rw [Command.program, startCore, h.engine]; rfl)
    exact h.of_kept ⟨outcome_record hanswer, hsilent⟩ (by rw [hanswer]; rfl)
  | install id handler => exact h.call_install id handler
  | operate p => exact h.call_operate p

/-- A dispatch ends with its first part, so that no handler is run. -/
lemma dispatch (h : y.Void) (handle : H → Ack → Play H Unit) (rounds : Nat) :
    (dispatch handle rounds y).2.Void := by
  have hacknowledge : y.frontEnd.acknowledge = fail .assertion := by rw [acknowledge, h.engine]
  have hperform : perform (H := H) y.frontEnd.acknowledge { y with requests := [] }
      = (.error .assertion, { y with requests := [] }) := by
    rw [hacknowledge]
    rfl
  have hdispatch : Gic.dispatch (surroundings handle) (rounds + 1) { y with requests := [] }
      = (.error .assertion, { y with requests := [] }) := by
    rw [Gic.dispatch, Play.bind_apply]
    show (perform y.frontEnd.acknowledge >>= _ : Play H Unit) _ = _
    rw [Play.bind_apply, hperform]
  rw [Chronicle.dispatch, hdispatch]
  refine ⟨h.engine, h.inert_snoc ⟨rfl, fun q hq => absurd hq List.not_mem_nil⟩, fun id => ?_⟩
  have hsame : Record.installed id (y.history ++ [⟨.dispatch, .error .assertion, []⟩])
      = Record.installed id y.history := Record.installed_snoc_of_ne nofun
  exact (h.table id).trans hsame.symm

/-- A whole run. -/
lemma run (h : y.Void) (handle : H → Ack → Play H Unit) (rounds : Nat) (l : List (Occurrence H)) :
    (y.run handle rounds l).Void := by
  induction l generalizing y with
  | nil => exact h
  | cons x l ih =>
    refine ih ?_
    cases x with
    | call c => exact h.call c
    | dispatch => exact h.dispatch handle rounds
    | event e => exact ⟨h.engine, h.inert, h.table⟩

end Void

end Chronicle

/-! ### The front end as it is made -/

section Made

variable {distributor interface : Nat} {version : Version} {twoStep : Bool} {o : Options} {s : State}
  {g : Gic H} {b : Board}

/-- A front end is made for the version that it is told or that it finds. -/
lemma of_construct (h : (construct distributor interface version twoStep).run Board.answer
      (.controller s) = (.ok g, b)) :
    g.engine = engineOf g.version distributor interface ∧ g.handlers = .empty
      ∧ b.hardware = (s.perform (construct (H := H) distributor interface version twoStep)).2 := by
  have hversion : ∃ v, g = ⟨v, engineOf v distributor interface, twoStep, .empty⟩ := by
    rw [construct] at h
    split at h
    · rw [run_bind] at h
      split at h
      · exact ⟨_, (Except.ok.inj (Prod.mk.inj h).1).symm⟩
      · cases h
    · exact ⟨version, (Except.ok.inj (Prod.mk.inj h).1).symm⟩
  obtain ⟨v, rfl⟩ := hversion
  exact ⟨rfl, rfl, by rw [State.perform, h]⟩

/-- One that is made for the version of the hardware, and looks for the registers where they are,
drives the hardware. -/
lemma engineOf_version (h : s.options.version ≠ .unknown) :
    engineOf s.options.version Region.distributor.base (Board.controller s).coreRegion.base
      = .fresh s.options := by
  have hrouted : s.isRouted = s.options.isRouted := rfl
  rcases Hardware.Options.of_version h with ⟨ho, hv⟩ | ⟨ho, hv⟩
  · rw [Board.coreRegion, hrouted, Engine.fresh, ho]
    rcases hv with ⟨-, hv⟩ | ⟨-, hv⟩ <;> rw [hv] <;> rfl
  · rw [Board.coreRegion, hrouted, Engine.fresh, ho, Options.stride]
    rcases hv with ⟨hrevision, hv⟩ | ⟨hrevision, hv⟩ <;> rw [hv, hrevision] <;> rfl

lemma sane_fresh (hg : g.engine = .fresh o) (hs : Willing o s) : (Chronicle.fresh g s).Sane o := by
  have hdrives : g.engine.Drives o ∧ g.isStarted = false := by
    rw [isStarted, hg, Engine.fresh]
    rcases ho : o.isRouted with _ | _
    · exact ⟨.banked ho 0 false, rfl⟩
    · have hstride : o.stride ≠ 0 := by
        rw [Options.stride]
        split <;> decide
      rw [if_pos rfl, Routed.Driver.ofBases, if_neg hstride]
      exact ⟨.routed ho .nonSecure false, rfl⟩
  refine ⟨hs, hdrives.1, ?_, fun before e after h => absurd h (by simp [Chronicle.fresh])⟩
  exact iff_of_false (by simp [Chronicle.fresh, hdrives.2]) (by simp [Chronicle.fresh, Record.Begun])

/-- **The life of a front end is enforced.** Whatever is called, from outside or by handlers, and
whatever the hardware does meanwhile: on hardware that the front end is made for the distributor is
started once and cores only then, and what is refused does not touch the hardware. Without a known
version nothing does, and all that is left are the handlers that were installed. -/
theorem lifecycle_is_enforced (hmade : (construct distributor interface version twoStep).run
      Board.answer (.controller s) = (.ok g, b))
    (respond : Chronicle H → H → Ack → List (Occurrence H)) (rounds depth : Nat)
    (l : List (Occurrence H)) :
    let y := (Chronicle.fresh g b.hardware).run (Chronicle.handler respond rounds depth) rounds l
    (∀ o, g.engine = .fresh o → o.Fits → 0 < o.cpus → Willing o s →
      (∀ z h a, ∀ x ∈ respond z h a, x.Gentle o) → (∀ x ∈ l, x.Gentle o) → Record.Lawful y.history)
    ∧ (g.version = .unknown → (∀ e ∈ y.history, e.Inert)
      ∧ ∀ id, y.frontEnd.handlers.find? id = Record.installed id y.history) := by
  obtain ⟨hengine, hempty, hhardware⟩ := of_construct hmade
  refine ⟨fun o hg hfit hcpus hs hrespond hl => ?_, fun hg => ?_⟩
  · rw [hhardware]
    exact ((sane_fresh hg (hs.perform _)).run hfit hcpus hrespond rounds depth hl).lawful
  · have hvoid : (Chronicle.fresh g b.hardware).Void := by
      refine ⟨by rw [Chronicle.fresh, hengine, hg, engineOf], fun e he => absurd he List.not_mem_nil,
        fun id => ?_⟩
      rw [Chronicle.fresh, hempty, Handlers.find?]
      rcases Handlers.slot? id with _ | i
      · rfl
      · simp [Handlers.empty, Record.installed]
    obtain ⟨-, hinert, htable⟩ := hvoid.run (Chronicle.handler respond rounds depth) rounds l
    exact ⟨hinert, htable⟩

end Made

/-- The version is found out, and two cores start; neither does a core before the distributor, nor
the distributor once more. Where nothing is found, all that works is to install handlers. -/
theorem lifecycle_is_enforced_once_detected :
    (∃ (g : Gic Unit) (b : Board) (e₁ e₂ e₃ e₄ : Record Unit),
      (construct Region.distributor.base Region.redistributors.base .unknown true).run Board.answer
          (.controller (.reset .routed)) = (.ok g, b) ∧ g.version = .v3
        ∧ ((Chronicle.fresh g b.hardware).run (Chronicle.handler (fun _ _ _ => []) 1 1) 1
          [.call .startCore, .call .start, .event (.setCurrent 1), .call .startCore,
            .call .start]).history = [e₁, e₂, e₃, e₄]
        ∧ e₁.Refused .notInitialized ∧ e₂.Succeeded ∧ e₃.Succeeded ∧ e₄.Refused .cantRepeat)
    ∧ ∃ (g : Gic Unit) (b : Board) (e₁ e₂ : Record Unit),
      (construct Region.distributor.base Region.interface.base .unknown true).run Board.answer
          (.controller (.reset .absent)) = (.ok g, b) ∧ g.version = .unknown
        ∧ ((Chronicle.fresh g b.hardware).run (Chronicle.handler (fun _ _ _ => []) 1 1) 1
          [.call (.install (.ofNat 40) (some ())), .call (.operate (.unmask (.ofNat 40)))]).history
            = [e₁, e₂]
        ∧ e₁.Succeeded ∧ e₂.outcome = .error .assertion := by
  constructor
  · have hdetect := run_detect_of_shown (s := .reset .routed) rfl (by decide) (by decide +kernel)
    have hmade : (construct (H := Unit) Region.distributor.base Region.redistributors.base .unknown
        true).run Board.answer (.controller (.reset .routed)) = _ :=
      (run_bind_ok hdetect).trans (run_pure ..)
    have hwilling : Willing .routed (.reset .routed) := ⟨.reset, fun _ => State.healthy_reset _⟩
    have hlawful := (lifecycle_is_enforced hmade (fun _ _ _ => []) 1 1
      [.call .startCore, .call .start, .event (.setCurrent 1), .call .startCore, .call .start]).1
      .routed (engineOf_version (s := .reset .routed) (by decide)) fits_routed (by decide) hwilling
      (by simp) (by simp [Occurrence.Gentle, Event.Gentle])
    refine ⟨_, _, _, _, _, _, hmade, rfl, rfl, ?_, ?_, ?_, ?_⟩
    · exact (hlawful [] _ _ rfl).early rfl (by simp [Record.Begun])
    · exact (hlawful [_] _ _ rfl).first rfl (by simp [Record.Begun, Chronicle.record])
    · exact (hlawful [_, _] _ _ rfl).core rfl (by simp [Record.Begun, Chronicle.record])
    · exact (hlawful [_, _, _] _ _ rfl).again rfl (by simp [Record.Begun, Chronicle.record])
  · have hmade : (construct (H := Unit) Region.distributor.base Region.interface.base .unknown
        true).run Board.answer (.controller (.reset .absent))
          = (.ok ⟨.unknown, .none, true, .empty⟩, .controller (.reset .absent)) := by
      rfl
    have hinert := ((lifecycle_is_enforced hmade (fun _ _ _ => []) 1 1
      [.call (.install (.ofNat 40) (some ())), .call (.operate (.unmask (.ofNat 40)))]).2 rfl).1
    refine ⟨_, _, _, _, hmade, rfl, rfl, ?_, ?_⟩
    · exact (hinert _ (.head _)).outcome
    · exact (hinert _ (.tail _ (.head _))).outcome

end InterruptControl.Gic
