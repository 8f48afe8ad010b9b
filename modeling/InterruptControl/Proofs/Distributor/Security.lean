import InterruptControl.Proofs.Startup.Distributor

/-!
Security as a routed distributor has it: how it is found out, and what the control register is for
the layout that comes with it.

The probe writes to a register and puts back what it read before, so nothing is left of it. In the
control register the group enables are the low bits, two or three of them, and the routing enables
lie above them.
-/

namespace InterruptControl

open Bus Hardware Program

namespace Routed

/-- How many group enables there are, from bit 0 on. The secure state has one more, for the secure
interrupts of group 1. -/
def SecurityState.groups : SecurityState → Nat
  | .secure => 3
  | .single | .nonSecure => 2

/-- The routing enables that a layout has: that of the secure state and that of the non-secure one. A
single state has one for both, and the non-secure state does not see the other one. -/
def SecurityState.routes : SecurityState → Bool × Bool
  | .single | .secure => (true, true)
  | .nonSecure => (false, true)

lemma SecurityState.groups_le (security : SecurityState) : security.groups ≤ 3 := by
  cases security <;> decide

namespace Distributor

variable {o : Options} {s t : State} {security : SecurityState}

/-- The group enables are cleared, and that is all. -/
structure Disables (security : SecurityState) (s t : State) : Prop where
  bit (i : Nat) : t.control.getLsbD i = (s.control.getLsbD i && decide (security.groups ≤ i))
  frame : t = { s with control := t.control }

lemma getLsbD_groupEnables (security : SecurityState) (i : Nat) :
    (groupEnables security).getLsbD i = decide (i < security.groups) := by
  have hmask : groupEnables security = BitVec.ofNat 32 (2 ^ security.groups - 1) := by
    cases security <;> rfl
  have hgroups := security.groups_le
  rw [hmask, BitVec.getLsbD_ofNat, Nat.testBit_two_pow_sub_one, ← Bool.decide_and]
  exact decide_eq_decide.mpr (by omega)

/-- All that the hardware shows beyond the contents are two bits. -/
lemma getLsbD_readControl {i : Nat} (h6 : i ≠ 6) (h31 : i ≠ 31) :
    s.readControl.getLsbD i = s.control.getLsbD i := by
  have hshown (b : Bool) {k : Nat} (hk : i ≠ k) :
      (if b then 1#32 <<< k else 0 : BitVec 32).getLsbD i = false := by
    rcases b with _ | _
    · exact BitVec.getLsbD_zero
    · rw [if_pos rfl, ← BitVec.twoPow_eq, BitVec.getLsbD_twoPow, decide_eq_false hk.symm, Bool.and_false]
  rw [State.readControl, BitVec.getLsbD_or, BitVec.getLsbD_or, hshown _ h31, hshown _ h6,
    Bool.or_false, Bool.or_false]

/-- They do not get into it again. -/
lemma readControl_and (v : BitVec 32) (hprobe : s.control.getLsbD 6 = false)
    (hpending : s.control.getLsbD 31 = false) :
    s.readControl &&& v &&& 0x7fffffbf = s.control &&& v := by
  refine BitVec.eq_of_getLsbD_eq fun i hi => ?_
  have hmask : (0x7fffffbf : BitVec 32).getLsbD i = (decide (i ≠ 6) && decide (i ≠ 31)) := by
    revert i
    decide
  rw [BitVec.getLsbD_and, BitVec.getLsbD_and, BitVec.getLsbD_and, hmask]
  rcases eq_or_ne i 6 with rfl | h6
  · rw [hprobe]
    simp
  rcases eq_or_ne i 31 with rfl | h31
  · rw [hpending]
    simp
  simp [getLsbD_readControl h6 h31, h6, h31]

variable (security) in
lemma exists_disableGroups (hr : s.isRouted = true) (hprobe : s.control.getLsbD 6 = false)
    (hpending : s.control.getLsbD 31 = false) : ∃ t,
    (disableGroups ⟨Region.distributor.base, security⟩).run Board.answer (.controller s)
        = (.ok (), .controller t) ∧ Disables security s t := by
  have hrun := Driver.run_disableGroups security hr
  rw [readControl_and _ hprobe hpending] at hrun
  refine ⟨_, hrun, fun i => ?_, rfl⟩
  rw [BitVec.getLsbD_and, BitVec.getLsbD_not, getLsbD_groupEnables]
  rcases Nat.lt_or_ge i 32 with hi | hi
  · rw [decide_eq_true hi, Bool.true_and, ← decide_not]
    simp only [not_lt]
  · rw [BitVec.getLsbD_of_ge _ _ hi, Bool.false_and, Bool.false_and]

lemma run_enableGroups (hr : s.isRouted = true) :
    (enableGroups ⟨Region.distributor.base, security⟩).run Board.answer (.controller s)
      = (.ok (), .controller { s with control := runningControl security }) := by
  refine State.run_writeControl.trans ?_
  rw [hr, if_pos rfl]
  cases security <;> rfl

/-! ### Routing -/

/-- The routing enables are among two bits. -/
lemma routing_congr {v w : BitVec 32} (h4 : v.getLsbD 4 = w.getLsbD 4)
    (h5 : v.getLsbD 5 = w.getLsbD 5) : routing v security = routing w security := by
  cases security <;>
    simp only [routing, SingleControl.routing, SecureControl.routingSecure,
      SecureControl.routingNonSecure, NonSecureControl.routing, BitField.isSet_bit, h4, h5]

lemma Disables.routing_eq (h : Disables security s t) :
    routing t.control security = routing s.control security := by
  have hgroups := security.groups_le
  have hbit {i : Nat} (hi : 3 < i) : t.control.getLsbD i = s.control.getLsbD i := by
    rw [h.bit, decide_eq_true (by omega), Bool.and_true]
  exact routing_congr (hbit (by decide)) (hbit (by decide))

lemma routing_runningControl : routing (runningControl security) security = security.routes := by
  cases security <;> decide

variable (s security) in
lemma exists_status : ∃ st,
    (status ⟨Region.distributor.base, security⟩).run Board.answer (.controller s)
        = (.ok st, .controller s)
      ∧ st.security = security ∧ (st.routingSecure, st.routingNonSecure) = routing s.control security := by
  have hrouting : routing s.readControl security = routing s.control security :=
    routing_congr (getLsbD_readControl (by decide) (by decide))
      (getLsbD_readControl (by decide) (by decide))
  refine ⟨_, (run_bind_ok ((run_read32 ..).trans (State.answer_readType s))).trans
    ((run_bind_ok ((run_read32 ..).trans State.answer_readControl)).trans (run_pure ..)), rfl, hrouting⟩

/-! ### What is found -/

lemma security_eq_single : o.security = .single ↔ o.singleSecurity = true := by
  rw [Options.security]
  rcases o.singleSecurity with _ | _ <;> rcases o.secureAccess with _ | _ <;> decide

lemma security_eq_secure : o.security = .secure ↔ o.singleSecurity = false ∧ o.secureAccess = true := by
  rw [Options.security]
  rcases o.singleSecurity with _ | _ <;> rcases o.secureAccess with _ | _ <;> decide

/-- **Security is found out without a trace, and the group controls keep to its layout.** A routed
distributor is found to have a single security state if it has one, or else to be seen from the secure
state if it is, and the controller is as it was. From there, whatever is in the control register:
disabling the groups clears the group enables of the layout and nothing else. Enabling them makes the
distributor deliver group 1, with the routing that the layout has, and the status says so. It still
does when the groups are disabled again. -/
theorem detectSecurity_traceless {o : Options} {s : State} (hs : Reachable o s)
    (ho : o.isRouted = true) (before : SecurityState) :
    (detectSecurity ⟨Region.distributor.base, before⟩).run Board.answer (.controller s)
        = (.ok o.security, .controller s)
      ∧ (o.security = .single ↔ o.singleSecurity = true)
      ∧ (o.security = .secure ↔ o.singleSecurity = false ∧ o.secureAccess = true)
      ∧ ∃ t u v st st',
        ((disableGroups ⟨Region.distributor.base, o.security⟩).run Board.answer (.controller s)
            = (.ok (), .controller t) ∧ Disables o.security s t)
        ∧ ((enableGroups ⟨Region.distributor.base, o.security⟩).run Board.answer (.controller t)
            = (.ok (), .controller u) ∧ u = { s with control := u.control }
          ∧ ∀ c : Core, u.deliveryEnabled c = (c.groupEnable1.getLsbD 0 && c.systemEnable.getLsbD 0))
        ∧ ((status ⟨Region.distributor.base, o.security⟩).run Board.answer (.controller u)
            = (.ok st, .controller u) ∧ st.security = o.security
          ∧ (st.routingSecure, st.routingNonSecure) = o.security.routes)
        ∧ ((disableGroups ⟨Region.distributor.base, o.security⟩).run Board.answer (.controller u)
            = (.ok (), .controller v) ∧ Disables o.security u v)
        ∧ (status ⟨Region.distributor.base, o.security⟩).run Board.answer (.controller v)
            = (.ok st', .controller v) ∧ st'.security = o.security
          ∧ (st'.routingSecure, st'.routingNonSecure) = o.security.routes := by
  have hr : s.isRouted = true := hs.sound.isRouted.trans ho
  obtain ⟨t, hdisable, ht⟩ := exists_disableGroups o.security hr (hs.masked.control hr) hs.settled
  have hrt : t.isRouted = true := ht.frame ▸ hr
  obtain ⟨u, hu⟩ : ∃ u : State, u = { t with control := runningControl o.security } := ⟨_, rfl⟩
  have hru : u.isRouted = true := hu ▸ hrt
  have hcontrol : u.control = runningControl o.security := hu ▸ rfl
  have henable : (enableGroups ⟨Region.distributor.base, o.security⟩).run Board.answer (.controller t)
      = (.ok (), .controller u) := hu ▸ run_enableGroups hrt
  -- what enabling writes is free of the bits that only the hardware sets
  have hprobe : u.control.getLsbD 6 = false := by rw [hcontrol]; cases o.security <;> decide
  have hpending : u.control.getLsbD 31 = false := by rw [hcontrol]; cases o.security <;> decide
  obtain ⟨v, hdisable', hv⟩ := exists_disableGroups o.security hru hprobe hpending
  obtain ⟨st, hstatus, hsecurity, hrouting⟩ := exists_status u o.security
  obtain ⟨st', hstatus', hsecurity', hrouting'⟩ := exists_status v o.security
  have hroutes : routing u.control o.security = o.security.routes := by
    rw [hcontrol, routing_runningControl]
  refine ⟨Driver.run_detectSecurity hs.sound ho hs.masked, security_eq_single, security_eq_secure,
    t, u, v, st, st', ⟨hdisable, ht⟩, ⟨henable, ?_, fun c => ?_⟩,
    ⟨hstatus, hsecurity, hrouting.trans hroutes⟩, ⟨hdisable', hv⟩, hstatus', hsecurity', ?_⟩
  · rw [hu, ht.frame]
  · have hgroup1 : u.control.getLsbD 1 = true := by rw [hcontrol]; cases o.security <;> decide
    rw [State.deliveryEnabled, if_pos hru, hgroup1, Bool.true_and]
  · rw [hrouting', hv.routing_eq, hroutes]

/-- The secure state, with the probed register and the control register full of ones. -/
theorem detectSecurity_traceless_secure :
    ∃ s, Reachable { Options.routed with secureAccess := true } s ∧ s.accessControl[0]? = some 0xffffffff
      ∧ s.control = 0x7fffffbf
      ∧ (detectSecurity ⟨Region.distributor.base, .nonSecure⟩).run Board.answer (.controller s)
        = (.ok .secure, .controller s)
      ∧ ∃ t, (disableGroups ⟨Region.distributor.base, .secure⟩).run Board.answer (.controller s)
        = (.ok (), .controller t) ∧ Disables .secure s t := by
  let o : Options := { Options.routed with secureAccess := true }
  have hs : Reachable o _ := ((Reachable.reset (o := o)).after (.access (.write .word
    (Region.distributor.base + 0xe00) 0xffffffff))).after (.access (.write .word
    Region.distributor.base 0xffffffff))
  obtain ⟨hfound, -, -, t, -, -, -, -, hdisable, -⟩ := detectSecurity_traceless hs rfl .nonSecure
  exact ⟨_, hs, by decide, by decide, hfound, t, hdisable⟩

end Distributor

end Routed

end InterruptControl
