import InterruptControl.Bus.Machine
import InterruptControl.Distributor.Routed
import InterruptControl.Proofs.Requests

/-!
How often a condition is polled, and what the polls leave.

The evaluations of a condition, each on the state that the one before left, are fixed before any of
them is made. A bounded poll makes them in turn, up to the first that is true or until there were
enough.
-/

namespace InterruptControl

open Program

/-- A condition that is evaluated on a state, and may change it. -/
abbrev Condition (σ : Type) := StateM σ Bool

/-- The index of the first one that is true, infinite if there is none. -/
noncomputable def firstTrue (answers : Nat → Bool) : ℕ∞ :=
  open Classical in if h : ∃ i, answers i = true then (Nat.find h : ℕ∞) else ⊤

lemma firstTrue_eq {answers : Nat → Bool} {k : Nat} (before : ∀ i < k, answers i = false)
    (last : answers k = true) : firstTrue answers = k := by
  have hex : ∃ i, answers i = true := ⟨k, last⟩
  have hfind : Nat.find hex = k :=
    (Nat.find_eq_iff hex).mpr ⟨last, fun i hi => by simp [before i hi]⟩
  rw [firstTrue, dif_pos hex, hfind]

lemma le_firstTrue {answers : Nat → Bool} {n : Nat} (all : ∀ i < n, answers i = false) :
    (n : ℕ∞) ≤ firstTrue answers := by
  unfold firstTrue
  split
  next hex =>
    have hle : n ≤ Nat.find hex := (Nat.le_find_iff hex n).mpr fun i hi => by simp [all i hi]
    exact_mod_cast hle
  next => exact le_top

/-- How a poll with at most `n` evaluations ends that are answered so, and after how many. -/
inductive PollEnds (answers : Nat → Bool) (n : Nat) : Except Refusal Unit → Nat → Prop
  | found {k : Nat} (hk : k < n) (before : ∀ i < k, answers i = false) (last : answers k = true) :
    PollEnds answers n (.ok ()) (k + 1)
  | vain (all : ∀ i < n, answers i = false) : PollEnds answers n (.error .timeout) n

namespace PollEnds

variable {answers : Nat → Bool} {n polls : Nat} {outcome : Except Refusal Unit}

lemma exists_of (answers : Nat → Bool) (n : Nat) :
    ∃ outcome polls, PollEnds answers n outcome polls := by
  by_cases h : ∃ k, k < n ∧ answers k = true
  · obtain ⟨hk, last⟩ := Nat.find_spec h
    refine ⟨_, _, .found hk (fun i hi => ?_) last⟩
    have := Nat.find_min h hi
    simpa [hi.trans hk] using this
  · refine ⟨_, _, .vain fun i hi => ?_⟩
    exact Bool.eq_false_iff.mpr fun hi' => h ⟨i, hi, hi'⟩

lemma eq_ok_iff (h : PollEnds answers n outcome polls) :
    outcome = .ok () ↔ ∃ i < n, answers i = true := by
  cases h with
  | found hk _ last => exact ⟨fun _ => ⟨_, hk, last⟩, fun _ => rfl⟩
  | vain all =>
    constructor
    · exact fun h => nomatch h
    · rintro ⟨i, hi, hi'⟩
      rw [all i hi] at hi'
      exact absurd hi' Bool.false_ne_true

lemma eq_ok_or (h : PollEnds answers n outcome polls) :
    outcome = .ok () ∨ outcome = .error .timeout := by
  cases h with
  | found => exact .inl rfl
  | vain => exact .inr rfl

lemma polls_eq (h : PollEnds answers n outcome polls) :
    (polls : ℕ∞) = min (firstTrue answers + 1) n := by
  cases h with
  | @found k hk before last =>
    have hle : (k : ℕ∞) + 1 ≤ n := by exact_mod_cast hk
    rw [firstTrue_eq before last, min_eq_left hle]
    rfl
  | vain all => exact (min_eq_right ((le_firstTrue all).trans le_self_add)).symm

end PollEnds

namespace Condition

variable {σ : Type} (c : Condition σ) (s : σ)

/-- The state that evaluation `i` meets, if all before it are made. -/
def stateAt (i : Nat) : σ := (fun t => (c.run t).2)^[i] s

def answerAt (i : Nat) : Bool := (c.run (c.stateAt s i)).1

/-- The condition along with a record of its evaluations, each with the state that it met and its
answer. -/
def recorded : Condition (σ × List (σ × Bool)) := fun (s, l) =>
  ((c.run s).1, (c.run s).2, l ++ [(s, (c.run s).1)])

/-- The first `n` evaluations. -/
def evaluations (n : Nat) : List (σ × Bool) :=
  (List.range n).map fun i => (c.stateAt s i, c.answerAt s i)

lemma stateAt_succ (i : Nat) : c.stateAt s (i + 1) = (c.run (c.stateAt s i)).2 :=
  Function.iterate_succ_apply' ..

lemma stateAt_recorded (i : Nat) :
    c.recorded.stateAt (s, []) i = (c.stateAt s i, c.evaluations s i) := by
  induction i with
  | zero => rfl
  | succ i ih =>
    rw [stateAt_succ, ih, stateAt_succ, evaluations, evaluations, List.range_succ, List.map_append]
    rfl

lemma answerAt_recorded : c.recorded.answerAt (s, []) = c.answerAt s := by
  funext i
  rw [answerAt, stateAt_recorded]
  rfl

/-! ### Polling -/

/-- Evaluation `i` of a poll, with `n` more to make. -/
lemma run_retry_succ (i n : Nat) : (retry c (n + 1)).run (c.stateAt s i) =
    if c.answerAt s i then (.ok (), c.stateAt s (i + 1))
    else (retry c n).run (c.stateAt s (i + 1)) := by
  rw [stateAt_succ]
  show (if c.answerAt s i then pure (.ok ()) else retry c n : StateM σ _).run _ = _
  split <;> rfl

variable {c s} {k n polls : Nat} {outcome : Except Refusal Unit}

/-- Evaluations that are not true are made. -/
lemma run_retry_add (h : ∀ i < k, c.answerAt s i = false) :
    (retry c (k + n)).run s = (retry c n).run (c.stateAt s k) := by
  induction k generalizing n with
  | zero => rw [Nat.zero_add]; rfl
  | succ k ih =>
    rw [Nat.succ_add_eq_add_succ, ih fun i hi => h i (Nat.lt_succ_of_lt hi), run_retry_succ,
      h k (Nat.lt_succ_self k), if_neg Bool.false_ne_true]

lemma run_retry (h : PollEnds (c.answerAt s) n outcome polls) :
    (retry c n).run s = (outcome, c.stateAt s polls) := by
  cases h with
  | @found k hk before last =>
    obtain ⟨m, rfl⟩ := Nat.exists_eq_add_of_lt hk
    rw [Nat.add_assoc, run_retry_add before, run_retry_succ, if_pos last]
  | vain all => exact run_retry_add (n := 0) all

/-- So are those of a call on a device, as long as they do not fail. -/
lemma performs_retry_add {d : Device σ} {p : Program Bool} {t : σ}
    {r : Except Failure (Except Refusal Unit)} {l : List Request}
    (h : ∀ i < k, p.run d (c.stateAt s i) = (.ok (c.answerAt s i), c.stateAt s (i + 1)))
    (hfalse : ∀ i < k, c.answerAt s i = false)
    (hrest : Performs d (retry p n) (c.stateAt s k) r t l) :
    Performs d (retry p (k + n)) s r t
      ((List.range k).flatMap (fun i => p.requests d (c.stateAt s i)) ++ l) := by
  induction k generalizing n l with
  | zero => rwa [Nat.zero_add]
  | succ k ih =>
    have hpoll := h k (Nat.lt_succ_self k)
    rw [hfalse k (Nat.lt_succ_self k)] at hpoll
    rw [Nat.succ_add_eq_add_succ, List.range_succ, List.flatMap_append, List.append_assoc,
      List.flatMap_singleton]
    refine ih (fun i hi => h i (Nat.lt_succ_of_lt hi))
      (fun i hi => hfalse i (Nat.lt_succ_of_lt hi)) ?_
    exact (Performs.of_run hpoll).bind hrest

lemma performs_retry (h : PollEnds (c.answerAt s) n outcome polls) {d : Device σ} {p : Program Bool}
    (hp : ∀ i < polls, p.run d (c.stateAt s i) = (.ok (c.answerAt s i), c.stateAt s (i + 1))) :
    Performs d (retry p n) s (.ok outcome) (c.stateAt s polls)
      ((List.range polls).flatMap fun i => p.requests d (c.stateAt s i)) := by
  cases h with
  | @found k hk before last =>
    obtain ⟨m, rfl⟩ := Nat.exists_eq_add_of_lt hk
    have hpoll := hp k (Nat.lt_succ_self k)
    rw [last] at hpoll
    rw [Nat.add_assoc, List.range_succ, List.flatMap_append, List.flatMap_singleton]
    refine performs_retry_add (fun i hi => hp i (Nat.lt_succ_of_lt hi)) before ?_
    rw [← List.append_nil (p.requests ..)]
    exact (Performs.of_run hpoll).bind (.pure _ _)
  | vain all =>
    rw [← List.append_nil (List.flatMap ..)]
    exact performs_retry_add (n := 0) hp all (.pure _ _)

/-- **A bounded poll is exact.** It succeeds if one of the first `n` evaluations is true, and is
refused with a timeout if not. It makes the evaluations up to the first that is true, but no more
than `n`, each on what the one before left, and what the last one leaves is all that it leaves. A
call on a device is polled so too, with the requests of these evaluations and no others. -/
theorem retry_exact (c : Condition σ) (n : Nat) (s : σ) :
    ∃ outcome, ∃ polls : Nat, (polls : ℕ∞) = min (firstTrue (c.answerAt s) + 1) n
      ∧ (outcome = .ok () ↔ ∃ i < n, c.answerAt s i = true)
      ∧ (outcome = .ok () ∨ outcome = .error .timeout)
      ∧ (retry c n).run s = (outcome, c.stateAt s polls)
      ∧ (retry c.recorded n).run (s, []) = (outcome, c.stateAt s polls, c.evaluations s polls)
      ∧ ∀ (d : Device σ) (p : Program Bool),
          (∀ i < polls, p.run d (c.stateAt s i) = (.ok (c.answerAt s i), c.stateAt s (i + 1))) →
          Performs d (retry p n) s (.ok outcome) (c.stateAt s polls)
            ((List.range polls).flatMap fun i => p.requests d (c.stateAt s i)) := by
  obtain ⟨outcome, polls, h⟩ := PollEnds.exists_of (c.answerAt s) n
  refine ⟨outcome, polls, h.polls_eq, h.eq_ok_iff, h.eq_ok_or, run_retry h, ?_,
    fun d p hp => performs_retry h hp⟩
  rw [← answerAt_recorded] at h
  rw [run_retry h, stateAt_recorded]

/-- A call on a device as a condition. One that fails is not true. -/
def ofCall (d : Device σ) (p : Program Bool) : Condition σ := fun s =>
  ((p.run d s).1.toOption.getD false, (p.run d s).2)

lemma run_ofCall {d : Device σ} {p : Program Bool} {i : Nat}
    (h : (p.run d ((ofCall d p).stateAt s i)).1.isOk = true) :
    p.run d ((ofCall d p).stateAt s i)
      = (.ok ((ofCall d p).answerAt s i), (ofCall d p).stateAt s (i + 1)) := by
  rw [stateAt_succ]
  rcases hr : (p.run d ((ofCall d p).stateAt s i)).1 with e | b
  · rw [hr] at h
    exact absurd h Bool.false_ne_true
  · have hanswer : (ofCall d p).answerAt s i = b := by
      show (p.run d ((ofCall d p).stateAt s i)).1.toOption.getD false = b
      rw [hr]
      rfl
    rw [hanswer]
    exact Prod.ext hr rfl

/-- A machine whose distributor shows a write on its way to two reads. -/
def unsettled : Bus.Machine where
  board := .memory {}
  feeds := ({} : Bus.Feeds).add (.address Bus.Region.distributor.base) [(0x80000000, 2)]

/-- What the driver polls there. -/
def settledCall : Program Bool :=
  Routed.Distributor.isSettled ⟨Bus.Region.distributor.base, .single⟩

lemma requests_settledCall {d : Device σ} :
    settledCall.requests d s = [.read .word Bus.Region.distributor.base] := by
  show (ask (.read .word _) fun v : BitVec 32 => done _).requests d s = _
  rw [requests_ask]
  rcases d s _ with ⟨_ | v, s'⟩ <;> rfl

set_option maxRecDepth 100000 in
/-- It is polled three times, and might have been ten thousand times. -/
theorem retry_exact_of_unsettled : ∃ m, Performs Bus.Machine.answer (retry settledCall 10000)
    unsettled (.ok (.ok ())) m (List.replicate 3 (.read .word Bus.Region.distributor.base)) := by
  let c := ofCall Bus.Machine.answer settledCall
  have hbefore : ∀ i < 2, c.answerAt unsettled i = false := by decide +kernel
  have hlast : c.answerAt unsettled 2 = true := by decide +kernel
  have hreturns : ∀ i < 3,
      (settledCall.run Bus.Machine.answer (c.stateAt unsettled i)).1.isOk = true := by decide +kernel
  obtain ⟨outcome, polls, hpolls, hok, -, -, -, hcalls⟩ := retry_exact c 10000 unsettled
  obtain rfl := hok.mpr ⟨2, by decide, hlast⟩
  obtain rfl : polls = 3 := by
    have hle : ((2 : Nat) : ℕ∞) + 1 ≤ (10000 : Nat) := by exact_mod_cast (by decide : 2 + 1 ≤ 10000)
    rw [firstTrue_eq hbefore hlast, min_eq_left hle] at hpolls
    exact_mod_cast hpolls
  have hperforms := hcalls Bus.Machine.answer settledCall fun i hi => run_ofCall (hreturns i hi)
  simp only [requests_settledCall] at hperforms
  exact ⟨_, hperforms⟩

end Condition

end InterruptControl
