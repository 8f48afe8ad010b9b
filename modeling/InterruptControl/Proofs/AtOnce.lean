import InterruptControl.Proofs.Requests

/-!
Calls that happen `AtOnce`: all their requests meet the state that they start from, so that none but
the last one changes anything.
-/

namespace InterruptControl.Program

variable {α β σ : Type} {d : Device σ} {s s' : σ} {P Q : Request → Prop}

/-- All requests of the call are in `P` and meet the state that it starts from. Each leaves either
that one or the one that is left in the end. -/
def AtOnce (d : Device σ) (P : Request → Prop) (p : Program α) (s : σ) : Prop :=
  ∀ e ∈ p.history d s, P e.2 ∧ e.1 = s ∧ ((d s e.2).2 = s ∨ (d s e.2).2 = (p.run d s).2)

namespace AtOnce

variable {p : Program α} {f : α → Program β} {a : α} {e : Failure} {b : Bool} {q : Request}

lemma requests (hp : p.AtOnce d P s) (hq : q ∈ p.requests d s) : P q := by
  rw [← map_snd_history] at hq
  obtain ⟨e, he, rfl⟩ := List.mem_map.mp hq
  exact (hp e he).1

lemma mono (hp : p.AtOnce d P s) (h : ∀ q, P q → Q q) : p.AtOnce d Q s := fun e he =>
  ⟨h _ (hp e he).1, (hp e he).2⟩

lemma pure (a : α) : (Pure.pure a : Program α).AtOnce d P s := fun _ he =>
  absurd he List.not_mem_nil

lemma request (hq : P q) : (request q).AtOnce d P s := by
  intro e he
  obtain rfl : e = (s, q) := by
    rw [Program.request, history_ask] at he
    rcases hr : d s q with ⟨_ | v, s'⟩ <;> rw [hr] at he <;> exact List.mem_singleton.mp he
  exact ⟨hq, rfl, .inr (by rw [run_request])⟩

/-- What comes first changes nothing. -/
lemma bind (hp : p.AtOnce d P s) (hrun : p.run d s = (.ok a, s)) (hf : (f a).AtOnce d P s) :
    (p >>= f).AtOnce d P s := by
  intro e he
  rw [history_bind_ok hrun, List.mem_append] at he
  rw [run_bind_ok hrun]
  rcases he with he | he
  · obtain ⟨hq, hs, h⟩ := hp e he
    rw [hrun, or_self] at h
    exact ⟨hq, hs, .inl h⟩
  · exact hf e he

lemma bind_error (hp : p.AtOnce d P s) (hrun : p.run d s = (.error e, s')) :
    (p >>= f).AtOnce d P s := by
  intro x hx
  rw [history_bind_error hrun] at hx
  obtain ⟨hq, hs, h⟩ := hp x hx
  rw [hrun] at h
  exact ⟨hq, hs, by rwa [run_bind_error hrun]⟩

lemma require_bind {f : Unit → Program β} (h : b = true → (f ()).AtOnce d P s) :
    (require b >>= f).AtOnce d P s := by
  cases b
  · exact fun _ he => absurd he List.not_mem_nil
  · exact h rfl

/-- What goes on with a result that is only there under a condition. -/
lemma guarded_bind (h : b = true → (f a).AtOnce d P s) :
    ((require b >>= fun _ => Pure.pure a) >>= f).AtOnce d P s := by
  cases b
  · exact fun _ he => absurd he List.not_mem_nil
  · exact h rfl

/-- A call whose requests all change nothing. -/
lemma of_requests (h : ∀ q ∈ p.requests d s, P q ∧ (d s q).2 = s) : p.AtOnce d P s := by
  induction p with
  | done _ | fail _ => exact fun _ he => absurd he List.not_mem_nil
  | ask q k ih =>
    rw [requests_ask] at h
    obtain ⟨hq, hs⟩ := h q (List.mem_cons_self ..)
    intro e he
    rw [history_ask] at he
    rw [run_ask]
    rcases hr : d s q with ⟨_ | v, s'⟩ <;> rw [hr] at h he hs <;> obtain rfl : s' = s := hs
    · obtain rfl := List.mem_singleton.mp he
      exact ⟨hq, rfl, .inl (by rw [hr])⟩
    · rcases List.mem_cons.mp he with rfl | he
      · exact ⟨hq, rfl, .inl (by rw [hr])⟩
      · exact ih v (fun q hq => h q (List.mem_cons_of_mem _ hq)) e he

end AtOnce

end InterruptControl.Program
