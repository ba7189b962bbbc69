import DiddiGo.Payments.ReconciliationLoop

/-!
# Replicas do not sweep at once

A token belongs to one replica, and a lease that has not ended is in Redis. So the lock is given back by its owner only,
and a sweep that overlaps another one has started after the other lease had ended.
-/

namespace DiddiGo.Payments.Reconciliation.Loops

open Data (Lease Lock)

variable {ρ κ : Type} [DecidableEq ρ] [DecidableEq κ] {settings : ρ → LoopSettings} {c c' : Loops ρ κ} {r r' : ρ}
  {token token' : κ} {phase : Phase κ}

/-! ## Who owns a token -/

omit [DecidableEq κ] in
theorem goTo_self : (c.goTo r phase).phase r = phase := Function.update_self ..

omit [DecidableEq κ] in
theorem goTo_of_ne (h : r' ≠ r) : (c.goTo r phase).phase r' = c.phase r' := Function.update_of_ne h ..

/-- What holds between two moves. -/
structure Sound (settings : ρ → LoopSettings) (c : Loops ρ κ) : Prop where
  drawn : ∀ r token, c.Owns r token → token ∈ c.drawn
  /-- A token has one owner. -/
  owner : ∀ r r' token, c.Owns r token → c.Owns r' token → r = r'
  started : ∀ r token since, c.phase r = .sweeping token since → since ≤ c.now
  /-- A lease that has not ended is in Redis. -/
  held : ∀ r token since, c.phase r = .sweeping (some token) since → c.now < since + (settings r).interval →
    c.lock = some { token := token, expiry := since + (settings r).interval }
  exclusive : c.Exclusive settings
  /-- Nobody has taken the lock for longer than his interval. -/
  bounded : ∀ lease, c.lock = some lease → ∃ r, lease.expiry ≤ c.now + (settings r).interval

omit [DecidableEq ρ] [DecidableEq κ] in
theorem Owns.of_phase (h : c'.phase r = c.phase r) (howns : c'.Owns r token) : c.Owns r token := by
  rcases howns with ⟨since, hphase⟩ | ⟨stops, hphase⟩
  · exact Or.inl ⟨since, h.symm.trans hphase⟩
  · exact Or.inr ⟨stops, h.symm.trans hphase⟩

omit [DecidableEq ρ] [DecidableEq κ] in
theorem not_owns_of_phase (hphase : c.phase r = phase)
    (hsweeping : ∀ token since, phase ≠ .sweeping (some token) since)
    (hreleasing : ∀ token stops, phase ≠ .releasing token stops) : ¬ c.Owns r token := by
  rintro (⟨since, h⟩ | ⟨stops, h⟩)
  · exact hsweeping token since (hphase.symm.trans h)
  · exact hreleasing token stops (hphase.symm.trans h)

/-! ## One move -/

omit [DecidableEq κ] in
/-- A replica that owns at most what it has owned goes on, and no sweep of another one loses its lease. -/
theorem Sound.move (h : c.Sound settings) (hnow : c'.now = c.now) (hphase : ∀ r', r' ≠ r → c'.phase r' = c.phase r')
    (hdrawn : ∀ token ∈ c.drawn, token ∈ c'.drawn) (howns : ∀ token, c'.Owns r token → c.Owns r token)
    (hsweeps : ∀ token since, c'.phase r = .sweeping token since → token = none ∧ since ≤ c.now)
    (hlock : ∀ r' token since, r' ≠ r → c.phase r' = .sweeping (some token) since →
      c.now < since + (settings r').interval → c'.lock = c.lock)
    (hbounded : ∀ lease, c'.lock = some lease → ∃ r, lease.expiry ≤ c.now + (settings r).interval) :
    c'.Sound settings := by
  have hkept {r' : ρ} {token : κ} (howner : c'.Owns r' token) : c.Owns r' token := by
    by_cases hr : r' = r
    · subst hr
      exact howns token howner
    · exact howner.of_phase (hphase r' hr)
  have hother {r' : ρ} {token : κ} {since : Nat} (hsweeping : c'.phase r' = .sweeping (some token) since) :
      r' ≠ r ∧ c.phase r' = .sweeping (some token) since := by
    have hr : r' ≠ r := by
      rintro rfl
      exact Option.some_ne_none token (hsweeps _ since hsweeping).1
    exact ⟨hr, (hphase r' hr).symm.trans hsweeping⟩
  refine ⟨fun r' token howner => hdrawn token (h.drawn r' token (hkept howner)),
    fun r₁ r₂ token h₁ h₂ => h.owner r₁ r₂ token (hkept h₁) (hkept h₂), fun r' token since hsweeping => ?_,
    fun r' token since hsweeping hlt => ?_, fun r₁ r₂ token token' since since' hne h₁ h₂ => ?_, ?_⟩
  · rw [hnow]
    by_cases hr : r' = r
    · subst hr
      exact (hsweeps token since hsweeping).2
    · exact h.started r' token since ((hphase r' hr).symm.trans hsweeping)
  · rw [hnow] at hlt
    obtain ⟨hr, hsweeping⟩ := hother hsweeping
    rw [hlock r' token since hr hsweeping hlt]
    exact h.held r' token since hsweeping hlt
  · exact h.exclusive r₁ r₂ token token' since since' hne (hother h₁).2 (hother h₂).2
  · rw [hnow]
    exact hbounded

omit [DecidableEq ρ] [DecidableEq κ] in
/-- Time only ends leases. -/
theorem Sound.tick (h : c.Sound settings) (elapsed : Nat) : Sound settings { c with now := c.now + elapsed } where
  drawn := h.drawn
  owner := h.owner
  started r token since hsweeping := Nat.le_trans (h.started r token since hsweeping) (Nat.le_add_right _ _)
  held r token since hsweeping hlt := h.held r token since hsweeping (Nat.lt_of_le_of_lt (Nat.le_add_right _ _) hlt)
  exclusive := h.exclusive
  bounded lease hlease := by
    obtain ⟨r, hr⟩ := h.bounded lease hlease
    refine ⟨r, Nat.le_trans hr ?_⟩
    dsimp only
    omega

omit [DecidableEq ρ] [DecidableEq κ] in
/-- While a lease has not ended, the lock is not free. -/
theorem Sound.holder (h : c.Sound settings) {since : Nat} (hsweeping : c.phase r = .sweeping (some token) since)
    (hlt : c.now < since + (settings r).interval) : c.lock.holder c.now = some token := by
  rw [h.held r token since hsweeping hlt]
  exact Lock.holder_of_lt hlt

omit [DecidableEq ρ] [DecidableEq κ] in
/-- What the lock holds after `SET NX EX` ends within somebody's interval. -/
theorem Sound.bounded_take (h : c.Sound settings) (lease : Lease κ)
    (hlease : c.lock.take token c.now (settings r).interval = some lease) :
    ∃ r, lease.expiry ≤ c.now + (settings r).interval := by
  rcases Lock.mem_take hlease with hold | rfl
  · exact h.bounded lease hold
  · exact ⟨r, Nat.le_refl _⟩

omit [DecidableEq κ] in
/-- `SET NX EX` of a replica that does not get the lock, or no answer. -/
theorem Sound.failed (h : c.Sound settings) (executed : Bool) :
    ((c.setLock settings r token executed).sleep settings r).Sound settings := by
  refine Sound.move (r := r) h rfl (fun r' hr => goTo_of_ne hr) (fun _ => List.mem_cons_of_mem _) (fun t howns => ?_)
    (fun t since hsweeping => ?_) (fun r' t since _ hsweeping hlt => ?_) (fun lease hlease => ?_)
  · exact absurd howns (not_owns_of_phase goTo_self (fun _ _ h => by cases h) fun _ _ h => by cases h)
  · rw [show ((c.setLock settings r token executed).sleep settings r).phase r = _ from goTo_self] at hsweeping
    cases hsweeping
  · cases executed with
    | false => rfl
    | true => exact Lock.take_of_held (by rw [h.holder hsweeping hlt]; rfl)
  · cases executed with
    | false => exact h.bounded lease hlease
    | true => exact h.bounded_take lease hlease

omit [DecidableEq κ] in
/-- A replica takes the lock. -/
theorem Sound.acquired (h : c.Sound settings) (hfresh : token ∉ c.drawn)
    (hfree : ¬ (c.lock.holder c.now).isSome = true) :
    ((c.setLock settings r token true).goTo r (.sweeping (some token) c.now)).Sound settings := by
  have hended {r' : ρ} {token' : κ} {since : Nat} (hsweeping : c.phase r' = .sweeping (some token') since) :
      since + (settings r').interval ≤ c.now := by
    refine Nat.le_of_not_lt fun hlt => hfree ?_
    rw [h.holder hsweeping hlt]
    rfl
  have hself {t : κ} (howns : ((c.setLock settings r token true).goTo r (.sweeping (some token) c.now)).Owns r t) :
      t = token := by
    rcases howns with ⟨since, hphase⟩ | ⟨stops, hphase⟩
    · rw [goTo_self] at hphase
      exact (Option.some.inj (Phase.sweeping.inj hphase).1).symm
    · rw [goTo_self] at hphase
      cases hphase
  have hothers {r' : ρ} {t : κ} (hr : r' ≠ r)
      (howns : ((c.setLock settings r token true).goTo r (.sweeping (some token) c.now)).Owns r' t) :
      c.Owns r' t := howns.of_phase (goTo_of_ne hr)
  refine ⟨fun r' t howns => ?_, fun r₁ r₂ t h₁ h₂ => ?_, fun r' t since hsweeping => ?_,
    fun r' t since hsweeping hlt => ?_, fun r₁ r₂ t t' since since' hne h₁ h₂ => ?_, fun lease hlease => ?_⟩
  · by_cases hr : r' = r
    · subst hr
      exact hself howns ▸ List.mem_cons_self
    · exact List.mem_cons_of_mem _ (h.drawn r' t (hothers hr howns))
  · by_cases hr₁ : r₁ = r
    · by_cases hr₂ : r₂ = r
      · exact hr₁.trans hr₂.symm
      · subst hr₁
        exact absurd (h.drawn r₂ t (hothers hr₂ h₂)) (hself h₁ ▸ hfresh)
    · by_cases hr₂ : r₂ = r
      · subst hr₂
        exact absurd (h.drawn r₁ t (hothers hr₁ h₁)) (hself h₂ ▸ hfresh)
      · exact h.owner r₁ r₂ t (hothers hr₁ h₁) (hothers hr₂ h₂)
  · by_cases hr : r' = r
    · subst hr
      rw [goTo_self] at hsweeping
      obtain ⟨-, rfl⟩ := Phase.sweeping.inj hsweeping
      exact Nat.le_refl _
    · rw [goTo_of_ne hr] at hsweeping
      exact h.started r' t since hsweeping
  · by_cases hr : r' = r
    · subst hr
      rw [goTo_self] at hsweeping
      obtain ⟨heq, rfl⟩ := Phase.sweeping.inj hsweeping
      obtain rfl := Option.some.inj heq
      exact Lock.take_of_free hfree
    · rw [goTo_of_ne hr] at hsweeping
      exact absurd hlt (Nat.not_lt.mpr (hended hsweeping))
  · by_cases hr₁ : r₁ = r
    · subst hr₁
      rw [goTo_self] at h₁
      rw [goTo_of_ne (Ne.symm hne)] at h₂
      obtain ⟨-, rfl⟩ := Phase.sweeping.inj h₁
      exact Or.inr (hended h₂)
    · rw [goTo_of_ne hr₁] at h₁
      by_cases hr₂ : r₂ = r
      · subst hr₂
        rw [goTo_self] at h₂
        obtain ⟨-, rfl⟩ := Phase.sweeping.inj h₂
        exact Or.inl (hended h₁)
      · rw [goTo_of_ne hr₂] at h₂
        exact h.exclusive r₁ r₂ t t' since since' hne h₁ h₂
  · exact h.bounded_take lease hlease

/-- A replica gives its lock back, or fails to. -/
theorem Sound.released {stops : Bool} (h : c.Sound settings) (hphase : c.phase r = .releasing token stops)
    (executed : Bool) (hphase' : c'.phase = Function.update c.phase r phase) (hnow : c'.now = c.now)
    (hdrawn : c'.drawn = c.drawn) (hlock : c'.lock = if executed then c.lock.giveBack token c.now else c.lock)
    (hsleeps : phase = .stopped ∨ ∃ wakes, phase = .sleeping wakes) : c'.Sound settings := by
  have hself : c'.phase r = phase := by
    rw [hphase']
    exact Function.update_self ..
  have hidle : (∀ token since, phase ≠ .sweeping token since) ∧ (∀ token stops, phase ≠ .releasing token stops) := by
    rcases hsleeps with rfl | ⟨wakes, rfl⟩
    · constructor <;> intro _ _ heq <;> cases heq
    · constructor <;> intro _ _ heq <;> cases heq
  refine Sound.move (r := r) h hnow (fun r' hr => ?_) (fun t ht => hdrawn ▸ ht) (fun t howns => ?_)
    (fun t since hsweeping => ?_) (fun r' t since hr hsweeping hlt => ?_) (fun lease hlease => ?_)
  · rw [hphase']
    exact Function.update_of_ne hr ..
  · exact absurd howns (not_owns_of_phase hself (fun _ _ => hidle.1 _ _) hidle.2)
  · exact absurd (hself.symm.trans hsweeping) (hidle.1 _ _)
  · cases executed with
    | false => exact hlock
    | true =>
      refine hlock.trans (Lock.giveBack_of_ne ?_)
      rw [h.holder hsweeping hlt]
      intro heq
      refine hr (h.owner r' r t (Or.inl ⟨since, hsweeping⟩) (Or.inr ⟨stops, ?_⟩))
      rw [hphase, Option.some.inj heq]
  · cases executed with
    | false => exact h.bounded lease (hlock.symm.trans hlease)
    | true => exact h.bounded lease (Lock.mem_giveBack (hlock.symm.trans hlease))

omit [DecidableEq κ] in
/-- A replica that leaves Redis alone and owns what it has owned, or nothing. -/
theorem Sound.goes (h : c.Sound settings) (howns : ∀ token, (c.goTo r phase).Owns r token → c.Owns r token)
    (hsweeps : ∀ token since, phase = .sweeping token since → token = none ∧ since ≤ c.now) :
    (c.goTo r phase).Sound settings := by
  refine Sound.move (r := r) h rfl (fun r' hr => goTo_of_ne hr) (fun _ ht => ht) howns (fun t since hsweeping => ?_)
    (fun _ _ _ _ _ _ => rfl) h.bounded
  rw [goTo_self] at hsweeping
  exact hsweeps t since hsweeping

omit [DecidableEq κ] in
/-- A phase without a token. -/
theorem Sound.idles (h : c.Sound settings) (hsweeps : ∀ token since, phase = .sweeping token since →
    token = none ∧ since ≤ c.now) (hreleasing : ∀ token stops, phase ≠ .releasing token stops) :
    (c.goTo r phase).Sound settings := by
  refine h.goes (fun token howns => absurd howns (not_owns_of_phase goTo_self (fun t since heq => ?_) hreleasing)) hsweeps
  exact Option.some_ne_none t (hsweeps _ since heq).1

omit [DecidableEq κ] in
/-- The end of a sweep. -/
theorem Sound.finished {stops : Bool} {since : Nat} (h : c.Sound settings)
    (hphase : c.phase r = .sweeping (some token) since) : (c.goTo r (.releasing token stops)).Sound settings := by
  refine h.goes (fun t howns => Or.inl ⟨since, ?_⟩) (fun _ _ heq => by cases heq)
  rcases howns with ⟨_, heq⟩ | ⟨_, heq⟩
  · rw [goTo_self] at heq
    cases heq
  · rw [goTo_self] at heq
    rw [hphase, (Phase.releasing.inj heq).1]

/-- One move. -/
theorem Sound.step {m : LoopMove ρ κ} (h : c.Sound settings) (hstep : c.step settings m = some c') :
    c'.Sound settings := by
  cases m with
  | tick elapsed =>
    obtain rfl := Option.some.inj hstep
    exact h.tick elapsed
  | wake r =>
    cases hphase : c.phase r with
    | sleeping wakes =>
      simp only [Loops.step, hphase] at hstep
      split_ifs at hstep
      · obtain rfl := Option.some.inj hstep
        exact h.idles (fun _ _ heq => by cases heq) (fun _ _ heq => by cases heq)
      · obtain rfl := Option.some.inj hstep
        exact h.idles (fun _ _ heq => by cases heq) (fun _ _ heq => by cases heq)
      · obtain rfl := Option.some.inj hstep
        refine h.idles (fun t since heq => ?_) (fun _ _ heq => by cases heq)
        obtain ⟨rfl, rfl⟩ := Phase.sweeping.inj heq
        exact ⟨rfl, Nat.le_refl _⟩
    | _ => simp [Loops.step, hphase] at hstep
  | acquire r token =>
    cases hphase : c.phase r with
    | acquiring =>
      simp only [Loops.step, hphase] at hstep
      split_ifs at hstep with hdrawn hheld
      · obtain rfl := Option.some.inj hstep
        exact h.failed true
      · obtain rfl := Option.some.inj hstep
        exact h.acquired hdrawn hheld
    | _ => simp [Loops.step, hphase] at hstep
  | acquireFails r token executed =>
    cases hphase : c.phase r with
    | acquiring =>
      simp only [Loops.step, hphase] at hstep
      split_ifs at hstep
      obtain rfl := Option.some.inj hstep
      exact h.failed executed
    | _ => simp [Loops.step, hphase] at hstep
  | finish r =>
    cases hphase : c.phase r with
    | sweeping token since =>
      cases token with
      | none =>
        simp only [Loops.step, hphase, Option.some.injEq] at hstep
        subst hstep
        exact h.idles (fun _ _ heq => by cases heq) (fun _ _ heq => by cases heq)
      | some token =>
        simp only [Loops.step, hphase, Option.some.injEq] at hstep
        subst hstep
        exact h.finished hphase
    | _ => simp [Loops.step, hphase] at hstep
  | release r executed =>
    cases hphase : c.phase r with
    | releasing token stops =>
      simp only [Loops.step, hphase, Option.some.injEq] at hstep
      subst hstep
      cases stops with
      | true => exact h.released hphase executed rfl rfl rfl rfl (Or.inl rfl)
      | false => exact h.released hphase executed rfl rfl rfl rfl (Or.inr ⟨_, rfl⟩)
    | _ => simp [Loops.step, hphase] at hstep
  | cancel r =>
    cases hphase : c.phase r with
    | sweeping token since =>
      cases token with
      | none =>
        simp only [Loops.step, hphase, Option.some.injEq] at hstep
        subst hstep
        exact h.idles (fun _ _ heq => by cases heq) (fun _ _ heq => by cases heq)
      | some token =>
        simp only [Loops.step, hphase, Option.some.injEq] at hstep
        subst hstep
        exact h.finished hphase
    | sleeping wakes =>
      simp only [Loops.step, hphase, Option.some.injEq] at hstep
      subst hstep
      exact h.idles (fun _ _ heq => by cases heq) (fun _ _ heq => by cases heq)
    | acquiring =>
      simp only [Loops.step, hphase, Option.some.injEq] at hstep
      subst hstep
      exact h.idles (fun _ _ heq => by cases heq) (fun _ _ heq => by cases heq)
    | releasing token stops =>
      simp only [Loops.step, hphase, Option.some.injEq] at hstep
      subst hstep
      exact h.idles (fun _ _ heq => by cases heq) (fun _ _ heq => by cases heq)
    | _ => simp [Loops.step, hphase] at hstep

/-! ## Runs -/

omit [DecidableEq ρ] in
omit [DecidableEq κ] in
theorem sound_initial (now : Nat) : (initial settings now : Loops ρ κ).Sound settings where
  drawn r token howns := absurd howns (not_owns_of_phase rfl (fun _ _ h => by cases h) fun _ _ h => by cases h)
  owner r r' token howns :=
    absurd howns (not_owns_of_phase rfl (fun _ _ h => by cases h) fun _ _ h => by cases h)
  started r token since hsweeping := by cases hsweeping
  held r token since hsweeping := by cases hsweeping
  exclusive r r' token token' since since' _ hsweeping := by cases hsweeping
  bounded lease hlease := by cases hlease

theorem Sound.run {ms : List (LoopMove ρ κ)} (h : c.Sound settings) (hrun : c.run settings ms = some c') :
    c'.Sound settings := by
  induction ms generalizing c with
  | nil =>
    obtain rfl := Option.some.inj hrun
    exact h
  | cons m ms ih =>
    obtain ⟨c₁, hstep, hrest⟩ := Option.bind_eq_some_iff.mp hrun
    exact ih (h.step hstep) hrest

/-- Only its owner and time end a lock. -/
theorem keepsLocks_of_step {m : LoopMove ρ κ} (hstep : c.step settings m = some c') : c.KeepsLocks m c' := by
  intro token hholder
  cases m with
  | tick elapsed => exact Or.inr (Or.inl ⟨elapsed, rfl⟩)
  | wake r =>
    refine Or.inl ?_
    cases hphase : c.phase r with
    | sleeping wakes =>
      simp only [Loops.step, hphase] at hstep
      split_ifs at hstep <;> obtain rfl := Option.some.inj hstep <;> exact hholder
    | _ => simp [Loops.step, hphase] at hstep
  | acquire r token' =>
    refine Or.inl ?_
    cases hphase : c.phase r with
    | acquiring =>
      simp only [Loops.step, hphase] at hstep
      split_ifs at hstep <;> obtain rfl := Option.some.inj hstep <;> exact Lock.holder_take hholder
    | _ => simp [Loops.step, hphase] at hstep
  | acquireFails r token' executed =>
    refine Or.inl ?_
    cases hphase : c.phase r with
    | acquiring =>
      simp only [Loops.step, hphase] at hstep
      split_ifs at hstep
      obtain rfl := Option.some.inj hstep
      cases executed with
      | true => exact Lock.holder_take hholder
      | false => exact hholder
    | _ => simp [Loops.step, hphase] at hstep
  | finish r =>
    refine Or.inl ?_
    cases hphase : c.phase r with
    | sweeping token' since =>
      cases token' <;> simp only [Loops.step, hphase, Option.some.injEq] at hstep <;> subst hstep <;> exact hholder
    | _ => simp [Loops.step, hphase] at hstep
  | release r executed =>
    cases hphase : c.phase r with
    | releasing token' stops =>
      simp only [Loops.step, hphase, Option.some.injEq] at hstep
      have hlock : c'.lock = if executed then c.lock.giveBack token' c.now else c.lock := by
        subst hstep
        cases stops <;> rfl
      have hnow : c'.now = c.now := by
        subst hstep
        cases stops <;> rfl
      by_cases hown : executed = true ∧ token' = token
      · obtain ⟨rfl, rfl⟩ := hown
        refine Or.inr (Or.inr ⟨r, rfl, Or.inr ⟨stops, hphase⟩, hlock.trans ?_⟩)
        exact Lock.giveBack_self hholder
      · refine Or.inl ?_
        have hsame : c'.lock = c.lock := by
          cases executed with
          | false => exact hlock
          | true =>
            refine hlock.trans (Lock.giveBack_of_ne fun heq => hown ⟨rfl, ?_⟩)
            exact Option.some.inj (heq.symm.trans hholder)
        rw [hsame, hnow]
        exact hholder
    | _ => simp [Loops.step, hphase] at hstep
  | cancel r =>
    refine Or.inl ?_
    cases hphase : c.phase r with
    | sweeping token' since =>
      cases token' <;> simp only [Loops.step, hphase, Option.some.injEq] at hstep <;> subst hstep <;> exact hholder
    | stopped => simp [Loops.step, hphase] at hstep
    | _ =>
      simp only [Loops.step, hphase, Option.some.injEq] at hstep
      subst hstep
      exact hholder

/-- However replicas, failures of Redis, cancellations and time interleave: two loops sweep at once only if one has
outlived its lease, a lock that is held goes only with time or by the hand of its owner, and whatever is left behind is
gone after an interval. -/
theorem loops_safe {ρ κ : Type} [DecidableEq ρ] [DecidableEq κ] (settings : ρ → LoopSettings) (now : Nat)
    (ms : List (LoopMove ρ κ)) (c : Loops ρ κ) (hrun : (initial settings now).run settings ms = some c) :
    c.Exclusive settings ∧ (∀ m c', c.step settings m = some c' → c.KeepsLocks m c') ∧
      ∀ lease, c.lock = some lease → ∃ r, lease.expiry ≤ c.now + (settings r).interval := by
  have hsound := (sound_initial now).run hrun
  exact ⟨hsound.exclusive, fun m c' hstep => keepsLocks_of_step hstep, hsound.bounded⟩

namespace Sample

/-- Two replicas with intervals of 120 and 30 seconds. -/
def replicas : Bool → LoopSettings
  | false => { intervalSeconds := 120 }
  | true => { intervalSeconds := 30 }

/-- The second replica sweeps for longer than its lease, the first one sweeps in the meantime, and the second one gives
back a lock that is not its own any more. -/
def overtaken : List (LoopMove Bool Nat) :=
  [.tick 119995, .wake true, .acquire true 1, .tick 5, .wake false, .acquire false 2, .tick 120000, .wake false,
   .acquire false 3, .finish true, .release true true]

end Sample

theorem loops_safe_overtaken :
    ∃ c, (initial Sample.replicas 0).run Sample.replicas Sample.overtaken = some c ∧
      c.phase false = .sweeping (some 3) 240000 ∧ c.lock = some { token := 3, expiry := 360000 } ∧
      c.Exclusive Sample.replicas := by
  have hlock : ((initial Sample.replicas 0).run Sample.replicas Sample.overtaken).map
      (fun c => (c.phase false, c.lock)) = some (.sweeping (some 3) 240000, some { token := 3, expiry := 360000 }) := by
    decide +kernel
  obtain ⟨c, hrun, hc⟩ := Option.map_eq_some_iff.mp hlock
  obtain ⟨hphase, hlock⟩ := Prod.mk.inj hc
  exact ⟨c, hrun, hphase, hlock, (loops_safe Sample.replicas 0 Sample.overtaken c hrun).1⟩

end DiddiGo.Payments.Reconciliation.Loops
