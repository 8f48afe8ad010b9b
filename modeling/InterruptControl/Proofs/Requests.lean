import InterruptControl.Proofs.Program
import InterruptControl.Retry

/-!
The requests that a call makes on a device, in order, and its history, where each stands with the
state that it meets.

`Performs` is a run along with its requests. A poll whose condition never holds makes its one
request as often as it may, and a call that polls in vain `TimesOut`.
-/

namespace InterruptControl.Program

variable {α β σ : Type} {d : Device σ} {s s' t : σ} {l l' : List Request}

/-- The requests that the call makes, one that fails included. -/
def requests (d : Device σ) : Program α → σ → List Request
  | done _, _ | fail _, _ => []
  | ask q k, s => q ::
    match d s q with
    | (.ok v, s') => (k v).requests d s'
    | (.error _, _) => []

lemma requests_ask (d : Device σ) (q : Request) (k : q.Answer → Program α) (s : σ) :
    (ask q k).requests d s = q ::
      match d s q with
      | (.ok v, s') => (k v).requests d s'
      | (.error _, _) => [] := by
  rw [requests]

/-- The requests that the call makes, each with the state before it. -/
def history (d : Device σ) : Program α → σ → List (σ × Request)
  | done _, _ | fail _, _ => []
  | ask q k, s => (s, q) ::
    match d s q with
    | (.ok v, s') => (k v).history d s'
    | (.error _, _) => []

lemma history_ask (d : Device σ) (q : Request) (k : q.Answer → Program α) (s : σ) :
    (ask q k).history d s = (s, q) ::
      match d s q with
      | (.ok v, s') => (k v).history d s'
      | (.error _, _) => [] := by
  rw [history]

lemma map_snd_history (p : Program α) (s : σ) : (p.history d s).map Prod.snd = p.requests d s := by
  induction p generalizing s with
  | done _ | fail _ => rfl
  | ask q k ih =>
    rw [history_ask, requests_ask, List.map_cons]
    rcases d s q with ⟨_ | v, s'⟩
    · rfl
    · exact congrArg (q :: ·) (ih v s')

section Bind

variable {p : Program α} {f : α → Program β} {a : α} {e : Failure}

lemma history_bind_ok (hp : p.run d s = (.ok a, s')) :
    (p >>= f).history d s = p.history d s ++ (f a).history d s' := by
  induction p generalizing s with
  | done b =>
    obtain ⟨hb, rfl⟩ := Prod.mk.inj hp
    obtain rfl := Except.ok.inj hb
    rfl
  | fail e => cases hp
  | ask q k ih =>
    show (ask q fun v => (k v).bind f).history d s = _
    rw [run_ask] at hp
    rw [history_ask, history_ask]
    rcases hq : d s q with ⟨_ | v, s₁⟩ <;> rw [hq] at hp
    · cases hp
    · exact congrArg ((s, q) :: ·) (ih v hp)

lemma history_bind_error (hp : p.run d s = (.error e, s')) :
    (p >>= f).history d s = p.history d s := by
  induction p generalizing s with
  | done b => cases hp
  | fail e => rfl
  | ask q k ih =>
    show (ask q fun v => (k v).bind f).history d s = _
    rw [history_ask, history_ask]
    rcases hq : d s q with ⟨_ | v, s₁⟩
    · rfl
    · rw [run_ask, hq] at hp
      exact congrArg ((s, q) :: ·) (ih v hp)

/-- What is made of a result takes no requests. -/
lemma requests_map {f : α → β} (hp : p.run d s = (.ok a, s')) :
    (p >>= fun a => pure (f a)).requests d s = p.requests d s := by
  rw [← map_snd_history, history_bind_ok hp, List.map_append, map_snd_history]
  exact List.append_nil _

end Bind

/-- Every request that is made is one that may be made. -/
lemma Within.requests {P : Request → Prop} {p : Program α} (hp : p.Within P) {q : Request}
    (hq : q ∈ p.requests d s) : P q := by
  induction hp generalizing s with
  | done _ | fail _ => exact absurd hq List.not_mem_nil
  | @ask q' k hq' _ ih =>
    rw [requests_ask] at hq
    rcases List.mem_cons.mp hq with rfl | hq
    · exact hq'
    rcases hr : d s q' with ⟨_ | v, s'⟩ <;> rw [hr] at hq
    · exact absurd hq List.not_mem_nil
    · exact ih v hq

/-- What the call results in, the state that is left, and the requests that it made. -/
structure Performs (d : Device σ) (p : Program α) (s : σ) (r : Except Failure α) (t : σ)
    (l : List Request) : Prop where
  run : p.run d s = (r, t)
  requests : p.requests d s = l

namespace Performs

variable {p : Program α} {f : α → Program β} {a : α} {r : Except Failure β} {e : Failure}

lemma of_run {r : Except Failure α} (h : p.run d s = (r, t)) :
    Performs d p s r t (p.requests d s) := ⟨h, rfl⟩

lemma pure (a : α) (s : σ) : Performs d (Pure.pure a) s (.ok a) s [] := ⟨rfl, rfl⟩

lemma request {q : Request} {r : Except Failure q.Answer} (h : d s q = (r, t)) :
    Performs d (request q) s r t [q] := by
  refine ⟨(run_request ..).trans h, ?_⟩
  rw [Program.request, requests_ask, h]
  rcases r with e | v <;> rfl

lemma bind (hp : Performs d p s (.ok a) s' l) (hf : Performs d (f a) s' r t l') :
    Performs d (p >>= f) s r t (l ++ l') := by
  refine ⟨(run_bind_ok hp.run).trans hf.run, ?_⟩
  rw [← map_snd_history, history_bind_ok hp.run, List.map_append, map_snd_history, map_snd_history,
    hp.requests, hf.requests]

lemma bind_error (hp : Performs d p s (.error e) t l) :
    Performs d (p >>= f) s (.error e) t l := by
  refine ⟨run_bind_error hp.run, ?_⟩
  rw [← map_snd_history, history_bind_error hp.run, map_snd_history, hp.requests]

/-- A condition that one request shows not to hold, and goes on not to. -/
lemma retry {p : Program Bool} {q : Request} (hp : Performs d p s (.ok false) s [q]) (n : Nat) :
    Performs d (retry p n) s (.ok (.error .timeout)) s (List.replicate n q) := by
  induction n with
  | zero => exact pure _ s
  | succ n ih => exact hp.bind ih

end Performs

/-- The call dies of a timeout. It made one request `n` times in a row and no more, and then gave
notice. -/
structure TimesOut (d : Device σ) (p : Program α) (s : σ) (q : Request) (n : Nat) (notice : Notice)
    (t : σ) : Prop where
  run : p.run d s = (.error (.refused .timeout), t)
  polls : ∃ before r, p.requests d s = before ++ r :: (List.replicate n q ++ [.notify notice])
    ∧ r ≠ q

namespace TimesOut

variable {p : Program α} {f : α → Program β} {a : α} {q r : Request} {n : Nat} {notice : Notice}

/-- The polls come after another request. -/
lemma of_performs (hp : Performs d p s (.ok a) s' (l ++ [r])) (hr : r ≠ q)
    (hf : Performs d (f a) s' (.error (.refused .timeout)) t (List.replicate n q ++ [.notify notice])) :
    TimesOut d (p >>= f) s q n notice t := by
  obtain ⟨hrun, hrequests⟩ := hp.bind hf
  exact ⟨hrun, l, r, hrequests.trans (List.append_assoc ..), hr⟩

lemma bind (h : TimesOut d p s q n notice t) : TimesOut d (p >>= f) s q n notice t := by
  obtain ⟨before, r, hrequests, hr⟩ := h.polls
  exact ⟨run_bind_error h.run, before, r, (Performs.of_run h.run).bind_error.requests.trans hrequests,
    hr⟩

lemma after (hp : p.run d s = (.ok a, s')) (h : TimesOut d (f a) s' q n notice t) :
    TimesOut d (p >>= f) s q n notice t := by
  obtain ⟨before, r, hrequests, hr⟩ := h.polls
  obtain ⟨hrun, hall⟩ := (Performs.of_run hp).bind ⟨h.run, hrequests⟩
  exact ⟨hrun, _, r, hall.trans (List.append_assoc ..).symm, hr⟩

end TimesOut

end InterruptControl.Program
