import InterruptControl.Registers.Table
import Mathlib

/-!
How calls run on a device, one lemma for each way to build a call.

A call is `Within` a set of requests if it makes no others, whatever it is answered. What
holds of every request of the set then holds of the whole run.
-/

namespace InterruptControl.Program

variable {α β σ : Type} {d : Device σ} {s s' : σ}

@[simp] lemma run_pure (d : Device σ) (a : α) (s : σ) : (pure a : Program α).run d s = (.ok a, s) :=
  rfl

@[simp] lemma run_request (d : Device σ) (q : Request) (s : σ) : (request q).run d s = d s q := by
  rw [request, run_ask]
  split <;> simp_all

section Requests

variable (d : Device σ) (s : σ) (a : Nat)

@[simp] lemma run_read8 : (read8 a).run d s = d s (.read .byte a) := run_request d _ s
@[simp] lemma run_read32 : (read32 a).run d s = d s (.read .word a) := run_request d _ s
@[simp] lemma run_read64 : (read64 a).run d s = d s (.read .doubleword a) := run_request d _ s

@[simp] lemma run_write8 (v : BitVec 8) : (write8 a v).run d s = d s (.write .byte a v) :=
  run_request d _ s

@[simp] lemma run_write32 (v : BitVec 32) : (write32 a v).run d s = d s (.write .word a v) :=
  run_request d _ s

@[simp] lemma run_write64 (v : BitVec 64) : (write64 a v).run d s = d s (.write .doubleword a v) :=
  run_request d _ s

@[simp] lemma run_readSystem (r : SystemRegister) :
    (readSystem r).run d s = d s (.readSystem r) := run_request d _ s

@[simp] lemma run_writeSystem (r : SystemRegister) (v : BitVec 64) :
    (writeSystem r v).run d s = d s (.writeSystem r v) := run_request d _ s

@[simp] lemma run_barrier : barrier.run d s = d s .barrier := run_request d _ s

@[simp] lemma run_notify (n : Notice) : (notify n).run d s = d s (.notify n) := run_request d _ s

end Requests

lemma bind_assoc {γ : Type} (p : Program α) (f : α → Program β) (g : β → Program γ) :
    p >>= f >>= g = p >>= fun a => f a >>= g := by
  induction p with
  | done a => rfl
  | fail e => rfl
  | ask q k ih => exact congrArg (ask q) (funext ih)

lemma run_bind_ok {p : Program α} {f : α → Program β} {a : α} (h : p.run d s = (.ok a, s')) :
    (p >>= f).run d s = (f a).run d s' := by
  rw [run_bind, h]

lemma run_bind_error {p : Program α} {f : α → Program β} {e : Failure}
    (h : p.run d s = (.error e, s')) : (p >>= f).run d s = (.error e, s') := by
  rw [run_bind, h]

@[simp] lemma run_require (d : Device σ) (b : Bool) (s : σ) :
    (require b).run d s = (if b then .ok () else .error .assertion, s) := by
  cases b <;> rfl

lemma run_require_bind (d : Device σ) (b : Bool) (f : Unit → Program α) (s : σ) :
    (require b >>= f).run d s = if b then (f ()).run d s else (.error .assertion, s) := by
  cases b <;> simp [run_bind]

/-- What is made of a result that is only there under a condition. -/
lemma run_map_guarded {p : Program α} {f : α → β} {b : Bool} {a : α} {e : Failure}
    (h : p.run d s = (if b then .ok a else .error e, s')) :
    (p >>= fun a => pure (f a)).run d s = (if b then .ok (f a) else .error e, s') := by
  rw [run_bind, h]
  cases b <;> rfl

@[simp] lemma run_expect_some (d : Device σ) (a : α) (s : σ) :
    (expect (some a)).run d s = (.ok a, s) := rfl

@[simp] lemma run_expect_none (d : Device σ) (s : σ) :
    (expect (none : Option α)).run d s = (.error .assertion, s) := rfl

/-- Every request of the call is in `P`, whatever the answers to the ones before, and if it
fails by itself that is no fault. -/
inductive Within (P : Request → Prop) {α : Type} : Program α → Prop
  | done (a : α) : Within P (done a)
  | fail {e : Failure} (he : ∀ f, e ≠ .fault f) : Within P (fail e)
  | ask {q : Request} {k : q.Answer → Program α} (hq : P q) (hk : ∀ v, Within P (k v)) :
    Within P (ask q k)

namespace Within

variable {P Q : Request → Prop} {p : Program α} {f : α → Program β}

lemma pure (a : α) : Within P (Pure.pure a : Program α) := .done a

lemma bind (hp : Within P p) (hf : ∀ a, Within P (f a)) : Within P (p >>= f) := by
  induction hp with
  | done a => exact hf a
  | fail he => exact .fail he
  | ask hq _ ih => exact .ask hq ih

lemma request {q : Request} (hq : P q) : Within P (request q) := .ask hq .done

lemma require (b : Bool) : Within P (require b) := by
  cases b
  · exact .fail (by simp)
  · exact .done _

lemma require_bind {b : Bool} {f : Unit → Program β} (h : b = true → Within P (f ())) :
    Within P (Program.require b >>= f) := by
  cases b
  · exact .fail (by simp)
  · exact h rfl

lemma expect (o : Option α) : Within P (expect o) := by
  cases o
  · exact .fail (by simp)
  · exact .done _

/-- What goes on with a result that is only there under a condition. -/
lemma guarded_bind {b : Bool} {a : α} (h : b = true → Within P (f a)) :
    Within P ((Program.require b >>= fun _ => Pure.pure a) >>= f) := by
  cases b
  · exact .fail (by simp)
  · exact h rfl

lemma mono (hp : Within P p) (h : ∀ q, P q → Q q) : Within Q p := by
  induction hp with
  | done a => exact .done a
  | fail he => exact .fail he
  | ask hq _ ih => exact .ask (h _ hq) ih

lemma each {f : Nat → Program Unit} {start n : Nat}
    (hf : ∀ i, start ≤ i → i < start + n → Within P (f i)) : Within P (Program.each f start n) := by
  induction n generalizing start with
  | zero => exact .done _
  | succ n ih =>
    exact .bind (hf start le_rfl (by omega)) fun _ => ih fun i h1 h2 => hf i (by omega) (by omega)

/-- What no request of the set breaks, the call does not break. -/
lemma preserves {I : σ → Prop} (hp : Within P p) (hd : ∀ s q, I s → P q → I (d s q).2)
    (hs : I s) : I (p.run d s).2 := by
  induction hp generalizing s with
  | done a => exact hs
  | fail e => exact hs
  | @ask q k hq _ ih =>
    rw [run_ask]
    have h := hd s q hs hq
    rcases hr : d s q with ⟨_ | v, s'⟩ <;> rw [hr] at h
    · exact h
    · exact ih v h

end Within

end InterruptControl.Program
