import DiddiGo.Services.ServiceTokens

/-!
# Tokens are fresh, and asked for once

The lock is held exactly while somebody waits for an answer, and the cache holds what lives longest of what was received
for its scope. Both go through every move, whoever fails or is cancelled.
-/

namespace DiddiGo.Services

open Data (Json)

/-! ## Grants -/

namespace TokenGrant

variable {S : Type} {g : TokenGrant S}

theorem receivedAt_lt_cachedUntil : g.receivedAt < g.cachedUntil := by
  unfold cachedUntil
  omega

/-- After a prompt answer the cache forgets the token before it expires. -/
theorem cachedUntil_le_expiry (h : g.Prompt) : g.cachedUntil ≤ g.expiry := by
  obtain ⟨hslow, hleft⟩ := h
  unfold cachedUntil
  unfold expiry at hleft ⊢
  omega

end TokenGrant

theorem TokenPhase.idle_ne_asking {S : Type} {scope : S} {sentAt : Nat} : (idle : TokenPhase S) ≠ .asking scope sentAt :=
  fun h => by cases h

theorem TokenPhase.waiting_ne_asking {S : Type} {scope scope' : S} {sentAt : Nat} :
    waiting scope' ≠ .asking scope sentAt := fun h => by cases h

namespace TokenClient

variable {ρ S : Type} [DecidableEq ρ] [DecidableEq S] {c c' : TokenClient ρ S} {r r' : ρ} {scope : S} {token : String}
  {phase : TokenPhase S} {g : TokenGrant S}

omit [DecidableEq S] in
theorem phase_goTo_self : (c.goTo r phase).phase r = phase := Function.update_self ..

omit [DecidableEq S] in
theorem phase_goTo_of_ne (h : r' ≠ r) : (c.goTo r phase).phase r' = c.phase r' := Function.update_of_ne h ..

/-- What holds between two moves. -/
structure Sound (c : TokenClient ρ S) : Prop extends Serial c, Sparing c where
  backed : c.Backed
  sent : ∀ r scope sentAt, c.phase r = .asking scope sentAt → sentAt ≤ c.now
  received : ∀ g ∈ c.grants, g.receivedAt ≤ c.now
  /-- The cache holds what was received. -/
  cached : ∀ scope token expiresAt, c.scopeTokens scope = some (token, expiresAt) →
    ∃ g ∈ c.grants, g.scope = scope ∧ g.token = token ∧ g.cachedUntil = expiresAt
  /-- It holds what lives longest. -/
  kept : ∀ g ∈ c.grants, ∃ token expiresAt, c.scopeTokens g.scope = some (token, expiresAt) ∧ g.cachedUntil ≤ expiresAt

/-! ## Looking into the cache -/

omit [DecidableEq ρ] [DecidableEq S] in
theorem Sound.of_lookup (h : c.Sound) (hlookup : c.lookup scope = some token) :
    ∃ g ∈ c.grants, g.scope = scope ∧ g.token = token ∧ g.receivedAt ≤ c.now ∧ c.now < g.cachedUntil := by
  unfold lookup at hlookup
  split at hlookup
  next token' expiresAt hcached =>
    split_ifs at hlookup with hlt
    obtain ⟨g, hg, hscope, htoken, huntil⟩ := h.cached scope token' expiresAt hcached
    exact ⟨g, hg, hscope, htoken.trans (Option.some.inj hlookup), h.received g hg, huntil ▸ hlt⟩
  next => cases hlookup

omit [DecidableEq ρ] [DecidableEq S] in
/-- If there is nothing in the cache, all that was received is too old. -/
theorem Sound.of_lookup_eq_none (h : c.Sound) (hlookup : c.lookup scope = none) (hg : g ∈ c.grants)
    (hscope : g.scope = scope) : g.cachedUntil ≤ c.now := by
  obtain ⟨token, expiresAt, hcached, hle⟩ := h.kept g hg
  rw [hscope] at hcached
  unfold lookup at hlookup
  rw [hcached] at hlookup
  dsimp only at hlookup
  split_ifs at hlookup with hlt
  exact Nat.le_trans hle (Nat.le_of_not_lt hlt)

/-! ## Moves -/

omit [DecidableEq ρ] [DecidableEq S] in
/-- The same coroutines wait for answers. -/
theorem Sound.same (h : c.Sound) (hnow : c.now ≤ c'.now) (htokens : c'.scopeTokens = c.scopeTokens)
    (hlocked : c'.locked = c.locked) (hgrants : c'.grants = c.grants)
    (hasking : ∀ r scope sentAt, c'.phase r = .asking scope sentAt ↔ c.phase r = .asking scope sentAt)
    (hbacked : c'.Backed) : c'.Sound := by
  have hiff (r : ρ) : c'.Asking r ↔ c.Asking r := by
    unfold Asking
    simp only [hasking]
  refine ⟨⟨fun r r' hr hr' => h.one r r' ((hiff r).mp hr) ((hiff r').mp hr'), ?_⟩, ⟨?_, ?_⟩, hbacked, ?_, ?_, ?_, ?_⟩
  · rw [hlocked, h.locked]
    simp only [hiff]
  · rw [hgrants]
    exact h.grants
  · intro r scope sentAt hphase g hg
    rw [hgrants] at hg
    exact h.asking r scope sentAt ((hasking r scope sentAt).mp hphase) g hg
  · intro r scope sentAt hphase
    exact Nat.le_trans (h.sent r scope sentAt ((hasking r scope sentAt).mp hphase)) hnow
  · intro g hg
    rw [hgrants] at hg
    exact Nat.le_trans (h.received g hg) hnow
  · rw [htokens, hgrants]
    exact h.cached
  · rw [htokens, hgrants]
    exact h.kept

omit [DecidableEq S] in
/-- A coroutine that does not wait for an answer goes somewhere else. -/
theorem asking_goTo (hbefore : ∀ scope sentAt, c.phase r ≠ .asking scope sentAt)
    (hafter : ∀ scope sentAt, phase ≠ .asking scope sentAt) (r' : ρ) (scope : S) (sentAt : Nat) :
    (c.goTo r phase).phase r' = .asking scope sentAt ↔ c.phase r' = .asking scope sentAt := by
  by_cases hr : r' = r
  · subst hr
    rw [phase_goTo_self]
    exact ⟨fun h => absurd h (hafter scope sentAt), fun h => absurd h (hbefore scope sentAt)⟩
  · rw [phase_goTo_of_ne hr]

omit [DecidableEq S] in
theorem Sound.goTo (h : c.Sound) (hbefore : ∀ scope sentAt, c.phase r ≠ .asking scope sentAt)
    (hafter : ∀ scope sentAt, phase ≠ .asking scope sentAt) : (c.goTo r phase).Sound :=
  h.same (Nat.le_refl _) rfl rfl rfl (asking_goTo hbefore hafter) h.backed

omit [DecidableEq ρ] [DecidableEq S] in
theorem Sound.tick (h : c.Sound) (elapsed : Nat) : Sound { c with now := c.now + elapsed } :=
  h.same (Nat.le_add_right _ _) rfl rfl rfl (fun _ _ _ => Iff.rfl) h.backed

omit [DecidableEq S] in
/-- A token from the cache is returned. -/
theorem Sound.hand (h : c.Sound) (hbefore : ∀ scope sentAt, c.phase r ≠ .asking scope sentAt)
    (hg : g ∈ c.grants) (hreceived : g.receivedAt ≤ c.now) (hlt : c.now < g.cachedUntil) :
    (c.hand r g.scope g.token).Sound := by
  refine h.same (Nat.le_refl _) rfl rfl rfl (asking_goTo hbefore fun _ _ => TokenPhase.idle_ne_asking) fun handed hh => ?_
  rcases List.mem_cons.mp hh with rfl | hold
  · exact ⟨g, hg, rfl, rfl, hreceived, hlt, fun hprompt => Nat.lt_of_lt_of_le hlt (TokenGrant.cachedUntil_le_expiry hprompt)⟩
  · exact h.backed handed hold

omit [DecidableEq S] in
/-- A coroutine that has found nothing in the cache takes the lock, and asks. -/
theorem Sound.ask (h : c.Sound) (hlocked : c.locked = false) (hlookup : c.lookup scope = none) :
    Sound { c.goTo r (.asking scope c.now) with locked := true } := by
  have hnobody (r : ρ) : ¬ c.Asking r := fun hr => by
    have htrue := h.locked.mpr ⟨r, hr⟩
    rw [hlocked] at htrue
    cases htrue
  have honly {r' : ρ} {scope' : S} {sentAt : Nat}
      (hphase : (c.goTo r (.asking scope c.now)).phase r' = .asking scope' sentAt) :
      r' = r ∧ scope' = scope ∧ sentAt = c.now := by
    by_cases hr : r' = r
    · subst hr
      rw [phase_goTo_self] at hphase
      cases hphase
      exact ⟨rfl, rfl, rfl⟩
    · rw [phase_goTo_of_ne hr] at hphase
      exact absurd ⟨scope', sentAt, hphase⟩ (hnobody r')
  refine ⟨⟨?_, ?_⟩, ⟨h.grants, ?_⟩, h.backed, ?_, h.received, h.cached, h.kept⟩
  · rintro r₁ r₂ ⟨_, _, h₁⟩ ⟨_, _, h₂⟩
    exact (honly h₁).1.trans (honly h₂).1.symm
  · exact ⟨fun _ => ⟨r, scope, c.now, phase_goTo_self⟩, fun _ => rfl⟩
  · intro r' scope' sentAt hphase g hg hscope
    obtain ⟨-, rfl, rfl⟩ := honly hphase
    exact h.of_lookup_eq_none hlookup hg hscope
  · intro r' scope' sentAt hphase
    exact Nat.le_of_eq (honly hphase).2.2

omit [DecidableEq S] in
/-- The coroutine that has the lock gives it back. -/
theorem Sound.release (h : c.Sound) (hasking : c.Asking r) : (c.unlock.goTo r .idle).Sound ∧
    ∀ r', ¬ (c.unlock.goTo r .idle).Asking r' := by
  have hnobody (r' : ρ) : ¬ (c.unlock.goTo r .idle).Asking r' := by
    rintro ⟨scope, sentAt, hphase⟩
    by_cases hr : r' = r
    · subst hr
      rw [phase_goTo_self] at hphase
      cases hphase
    · rw [phase_goTo_of_ne hr] at hphase
      exact hr (h.one r' r ⟨scope, sentAt, hphase⟩ hasking)
  refine ⟨⟨⟨fun r₁ _ h₁ _ => absurd h₁ (hnobody r₁), ?_⟩, ⟨h.grants, ?_⟩, h.backed, ?_, h.received, h.cached, h.kept⟩,
    hnobody⟩
  · exact ⟨fun hfalse => Bool.noConfusion hfalse, fun ⟨r', hr'⟩ => absurd hr' (hnobody r')⟩
  · exact fun r' scope sentAt hphase => absurd ⟨scope, sentAt, hphase⟩ (hnobody r')
  · exact fun r' scope sentAt hphase => absurd ⟨scope, sentAt, hphase⟩ (hnobody r')

omit [DecidableEq ρ] in
/-- A token that was received now is cached, while nobody waits for an answer. -/
theorem Sound.store (h : c.Sound) (hnobody : ∀ r, ¬ c.Asking r) (hreceived : g.receivedAt = c.now)
    (hsent : g.sentAt ≤ c.now)
    (hspares : ∀ older ∈ c.grants, older.scope = g.scope → older.cachedUntil ≤ g.sentAt) : (c.store g).Sound := by
  refine ⟨⟨h.one, h.locked⟩, ⟨List.pairwise_cons.mpr ⟨fun older holder hscope => ?_, h.grants⟩, ?_⟩, ?_, h.sent, ?_, ?_, ?_⟩
  · exact hspares older holder hscope.symm
  · exact fun r scope sentAt hphase => absurd ⟨scope, sentAt, hphase⟩ (hnobody r)
  · intro handed hh
    obtain ⟨g', hg', hrest⟩ := h.backed handed hh
    exact ⟨g', List.mem_cons_of_mem _ hg', hrest⟩
  · intro g' hg'
    rcases List.mem_cons.mp hg' with rfl | hold
    · exact Nat.le_of_eq hreceived
    · exact h.received g' hold
  · intro scope token expiresAt hcached
    by_cases hscope : scope = g.scope
    · subst hscope
      rw [show (c.store g).scopeTokens g.scope = _ from Function.update_self ..] at hcached
      cases hcached
      exact ⟨g, List.mem_cons_self, rfl, rfl, rfl⟩
    · rw [show (c.store g).scopeTokens scope = _ from Function.update_of_ne hscope ..] at hcached
      obtain ⟨g', hg', hrest⟩ := h.cached scope token expiresAt hcached
      exact ⟨g', List.mem_cons_of_mem _ hg', hrest⟩
  · intro g' hg'
    by_cases hscope : g'.scope = g.scope
    · refine ⟨g.token, g.cachedUntil, hscope ▸ Function.update_self .., ?_⟩
      rcases List.mem_cons.mp hg' with rfl | hold
      · exact Nat.le_refl _
      · calc g'.cachedUntil ≤ g.sentAt := hspares g' hold hscope
          _ ≤ g.receivedAt := hreceived ▸ hsent
          _ ≤ g.cachedUntil := Nat.le_of_lt TokenGrant.receivedAt_lt_cachedUntil
    · rcases List.mem_cons.mp hg' with rfl | hold
      · exact absurd rfl hscope
      · obtain ⟨token, expiresAt, hcached, hle⟩ := h.kept g' hold
        exact ⟨token, expiresAt, (Function.update_of_ne hscope ..).trans hcached, hle⟩

/-- A good answer. -/
theorem Sound.answered (h : c.Sound) (hphase : c.phase r = .asking g.scope g.sentAt) (hreceived : g.receivedAt = c.now) :
    ((c.store g).unlock.hand r g.scope g.token).Sound := by
  obtain ⟨hreleased, hnobody⟩ := h.release ⟨g.scope, g.sentAt, hphase⟩
  have hsent : g.sentAt ≤ c.now := h.sent r g.scope g.sentAt hphase
  have hstored := hreleased.store hnobody hreceived hsent fun older holder hscope =>
    h.asking r g.scope g.sentAt hphase older holder hscope
  have hquiet (scope : S) (sentAt : Nat) : ((c.unlock.goTo r .idle).store g).phase r ≠ .asking scope sentAt := by
    rw [show ((c.unlock.goTo r .idle).store g).phase r = .idle from phase_goTo_self]
    exact TokenPhase.idle_ne_asking
  have hhanded := hstored.hand hquiet List.mem_cons_self (Nat.le_of_eq hreceived)
    (hreceived ▸ TokenGrant.receivedAt_lt_cachedUntil)
  refine hhanded.same (Nat.le_refl _) rfl rfl rfl (fun r' scope sentAt => ?_) hhanded.backed
  show Function.update c.phase r .idle r' = _ ↔ Function.update (Function.update c.phase r .idle) r .idle r' = _
  rw [Function.update_idem]

theorem Sound.step {m : TokenMove ρ S} (h : c.Sound) (hstep : c.step m = some c') : c'.Sound := by
  cases m with
  | tick elapsed => exact Option.some.inj hstep ▸ h.tick elapsed
  | call r scope =>
    cases hphase : c.phase r with
    | idle =>
      have hbefore (scope' : S) (sentAt : Nat) : c.phase r ≠ .asking scope' sentAt := hphase ▸ TokenPhase.idle_ne_asking
      cases hlookup : c.lookup scope with
      | some token =>
        simp only [TokenClient.step, hphase, hlookup, Option.some.injEq] at hstep
        obtain ⟨g, hg, rfl, rfl, hreceived, hlt⟩ := h.of_lookup hlookup
        exact hstep ▸ h.hand hbefore hg hreceived hlt
      | none =>
        simp only [TokenClient.step, hphase, hlookup, Option.some.injEq] at hstep
        exact hstep ▸ h.goTo hbefore fun _ _ => TokenPhase.waiting_ne_asking
    | waiting scope' => simp [TokenClient.step, hphase] at hstep
    | asking scope' sentAt => simp [TokenClient.step, hphase] at hstep
  | enter r =>
    cases hphase : c.phase r with
    | idle => simp [TokenClient.step, hphase] at hstep
    | waiting scope =>
      have hbefore (scope' : S) (sentAt : Nat) : c.phase r ≠ .asking scope' sentAt :=
        hphase ▸ TokenPhase.waiting_ne_asking
      cases hlocked : c.locked with
      | true => simp [TokenClient.step, hphase, hlocked] at hstep
      | false =>
        cases hlookup : c.lookup scope with
        | some token =>
          simp only [TokenClient.step, hphase, hlocked, hlookup, Bool.false_eq_true, if_false, Option.some.injEq] at hstep
          obtain ⟨g, hg, rfl, rfl, hreceived, hlt⟩ := h.of_lookup hlookup
          exact hstep ▸ h.hand hbefore hg hreceived hlt
        | none =>
          simp only [TokenClient.step, hphase, hlocked, hlookup, Bool.false_eq_true, if_false, Option.some.injEq] at hstep
          exact hstep ▸ h.ask hlocked hlookup
    | asking scope sentAt => simp [TokenClient.step, hphase] at hstep
  | answer r issuedAt payload =>
    cases hphase : c.phase r with
    | idle => simp [TokenClient.step, hphase] at hstep
    | waiting scope => simp [TokenClient.step, hphase] at hstep
    | asking scope sentAt =>
      by_cases hlate : issuedAt < sentAt ∨ c.now < issuedAt
      · simp [TokenClient.step, hphase, hlate] at hstep
      · cases htoken : tokenOf payload with
        | ok issued =>
          simp only [TokenClient.step, hphase, hlate, htoken, if_false, Option.some.injEq] at hstep
          exact hstep ▸ h.answered hphase rfl
        | error e =>
          simp only [TokenClient.step, hphase, hlate, htoken, if_false, Option.some.injEq] at hstep
          exact hstep ▸ (h.release ⟨scope, sentAt, hphase⟩).1
  | fail r =>
    cases hphase : c.phase r with
    | asking scope sentAt =>
      simp only [TokenClient.step, hphase, Option.some.injEq] at hstep
      exact hstep ▸ (h.release ⟨scope, sentAt, hphase⟩).1
    | idle => simp [TokenClient.step, hphase] at hstep
    | waiting scope => simp [TokenClient.step, hphase] at hstep
  | cancel r =>
    cases hphase : c.phase r with
    | idle => simp [TokenClient.step, hphase] at hstep
    | waiting scope =>
      simp only [TokenClient.step, hphase, Option.some.injEq] at hstep
      exact hstep ▸ h.goTo (fun _ _ => hphase ▸ TokenPhase.waiting_ne_asking) fun _ _ => TokenPhase.idle_ne_asking
    | asking scope sentAt =>
      simp only [TokenClient.step, hphase, Option.some.injEq] at hstep
      exact hstep ▸ (h.release ⟨scope, sentAt, hphase⟩).1

omit [DecidableEq ρ] [DecidableEq S] in
theorem sound_initial (now : Nat) : (initial now : TokenClient ρ S).Sound where
  one r _ hr _ := by
    obtain ⟨scope, sentAt, hphase⟩ := hr
    exact absurd hphase TokenPhase.idle_ne_asking
  locked := ⟨fun h => Bool.noConfusion h, fun ⟨_, _, _, hphase⟩ => absurd hphase TokenPhase.idle_ne_asking⟩
  grants := List.Pairwise.nil
  asking _ _ _ hphase := absurd hphase TokenPhase.idle_ne_asking
  backed _ hh := absurd hh List.not_mem_nil
  sent _ _ _ hphase := absurd hphase TokenPhase.idle_ne_asking
  received _ hg := absurd hg List.not_mem_nil
  cached _ _ _ hcached := by cases hcached
  kept _ hg := absurd hg List.not_mem_nil

theorem Sound.run {ms : List (TokenMove ρ S)} (h : c.Sound) (hrun : c.run ms = some c') : c'.Sound := by
  induction ms generalizing c with
  | nil => exact Option.some.inj hrun ▸ h
  | cons m ms ih =>
    obtain ⟨next, hstep, hrest⟩ := Option.bind_eq_some_iff.mp hrun
    exact ih (h.step hstep) hrest

/-- However coroutines, failures, cancellations and time interleave: one request at a time is on its way and the lock is
held no longer, a token that is handed out was received for its scope and has not expired unless its answer was slow,
and nobody asks while a token is in the cache. -/
theorem tokens_safe {ρ S : Type} [DecidableEq ρ] [DecidableEq S] (now : Nat) (ms : List (TokenMove ρ S))
    (c : TokenClient ρ S) (hrun : (initial now).run ms = some c) : c.Serial ∧ c.Backed ∧ c.Sparing := by
  have hsound := (sound_initial now).run hrun
  exact ⟨hsound.toSerial, hsound.backed, hsound.toSparing⟩

namespace Sample

/-- An answer of DiddiFreeID. -/
def answer (token : String) (expiresIn : Int) : Json :=
  .ofMembers [("access_token", .str token), ("expires_in", .int expiresIn)]

/-- Two coroutines need a token at once; the first one is cancelled, the second one asks again, and a third one comes
when the token is too old. -/
def threeCallers : List (TokenMove Nat String) :=
  [.call 0 "files:read", .call 1 "files:read", .enter 0, .tick 200, .cancel 0, .enter 1, .tick 300,
   .answer 1 250 (answer "first" 600), .call 0 "files:read", .tick 570000, .call 2 "files:read", .enter 2, .tick 100,
   .answer 2 570500 (answer "second" 600)]

end Sample

theorem tokens_safe_threeCallers :
    ∃ c, (initial 0).run Sample.threeCallers = some c ∧ c.handed.map (fun h => (h.token, h.time)) =
      [("second", 570600), ("first", 500), ("first", 500)] ∧ c.Serial ∧ c.Backed ∧ c.Sparing := by
  have hends : ((initial 0).run Sample.threeCallers).map (fun c => c.handed.map fun h => (h.token, h.time)) =
      some [("second", 570600), ("first", 500), ("first", 500)] := by decide +kernel
  obtain ⟨c, hrun, hhanded⟩ := Option.map_eq_some_iff.mp hends
  exact ⟨c, hrun, hhanded, tokens_safe 0 Sample.threeCallers c hrun⟩

end TokenClient

end DiddiGo.Services
