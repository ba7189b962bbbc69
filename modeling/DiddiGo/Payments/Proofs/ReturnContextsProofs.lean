import DiddiGo.Data.Proofs.TextProofs
import DiddiGo.Payments.ReturnContexts

/-!
# Tokens are used once

The value with the intent is written once, after the value without it was read. A call of `consume` takes
whatever is stored, so at most one call takes the value with the intent.
-/

namespace DiddiGo.Payments

open Data (Json)

variable {f : ReturnFlow} {s s' : ReturnState} {m : ReturnMove} {ms : List ReturnMove} {surface : String}

/-! ## Values -/

/-- The value without the intent yields no context. -/
theorem readContext_payload (f : ReturnFlow) (surface : String) : readContext f.payload surface = none :=
  if_pos (Or.inr rfl)

theorem readContext_bound (f : ReturnFlow) (surface : String) :
    readContext (f.bound f.payload) surface = if surface = f.surface then some f.context else none := by
  have htext : UUID.str f.paymentIntentId ≠ "" := fun h => by
    have hread := UUID.ofString_str f.paymentIntentId
    rw [h] at hread
    cases hread
  have htruthy : ((f.bound f.payload).get "payment_intent_id").truthy = true := decide_eq_true htext
  have hread (id : UUID) : uuidOfJson (.str (UUID.str id)) = some id := UUID.ofString_str id
  unfold readContext
  by_cases hsurface : surface = f.surface
  · subst hsurface
    rw [if_pos rfl, if_neg]
    · change ((uuidOfJson (.str (UUID.str f.userId))).bind fun userId =>
        (uuidOfJson (.str (UUID.str f.resourceId))).bind fun resourceId =>
        (uuidOfJson (.str (UUID.str f.paymentIntentId))).bind fun paymentIntentId =>
        some (⟨f.flow, f.surface, userId, resourceId, paymentIntentId⟩ : PaymentReturnContext)) = some f.context
      rw [hread, hread, hread]
      rfl
    · rintro (hne | hfalse)
      · exact hne rfl
      · rw [htruthy] at hfalse
        cases hfalse
  · rw [if_neg hsurface]
    exact if_pos (Or.inl fun h => hsurface (Json.str.inj h).symm)

/-! ## Redis -/

theorem ReturnState.get_set (s : ReturnState) (key : String) (value : Json) (ttl : Int) :
    ∀ v, (s.set key value ttl).get key = some v → v = value := by
  intro v hv
  unfold ReturnState.get ReturnState.set at hv
  dsimp only at hv
  rw [if_pos rfl, Option.bind_some] at hv
  split_ifs at hv
  exact (Option.some.inj hv).symm

theorem ReturnState.get_del (s : ReturnState) (key : String) : (s.del key).get key = none := by
  unfold ReturnState.get ReturnState.del
  dsimp only
  rw [if_pos rfl]
  rfl

/-- What has expired does not come back. -/
theorem ReturnState.get_elapse {s : ReturnState} {key : String} {span : Nat} {v : Json}
    (h : ({ s with now := s.now + span } : ReturnState).get key = some v) : s.get key = some v := by
  unfold ReturnState.get at h ⊢
  cases hentry : s.redis key with
  | none =>
    rw [hentry] at h
    cases h
  | some entry =>
    rw [hentry] at h
    simp only [Option.bind_some] at h ⊢
    by_cases hlater : s.now + span < entry.2
    · rw [if_pos hlater] at h
      have hspan : s.now ≤ s.now + span := Int.le_add_of_nonneg_right (Int.natCast_nonneg span)
      rw [if_pos (lt_of_le_of_lt hspan hlater)]
      exact h
    · rw [if_neg hlater] at h
      cases h

/-! ## The life of a token -/

/-- How far a token is: which values can be stored, and what was returned. -/
inductive TokenLife (f : ReturnFlow) (s : ReturnState) : Prop
  /-- The value with the intent is not written yet. -/
  | unbound (hbinding : ∀ payload, s.binding = .read payload ∨ (∃ ttl, s.binding = .timed payload ttl) →
        payload = f.payload)
      (hvalue : ∀ v, s.get f.key = some v → v = f.payload) (hreturned : s.returned = [])
  /-- It is written. -/
  | bound (hbinding : s.binding = .done) (hvalue : ∀ v, s.get f.key = some v → v = f.payload ∨ v = f.bound f.payload)
      (hreturned : s.returned = [])
  /-- It was taken. -/
  | taken (hbinding : s.binding = .done) (hvalue : ∀ v, s.get f.key = some v → v = f.payload)
      (hreturned : s.returned = [(f.surface, f.context)])

theorem ReturnState.returned_consume (s : ReturnState) (f : ReturnFlow) (surface : String) :
    (s.consume f surface).returned = s.returned ++
      (((s.get f.key).bind fun payload => readContext payload surface).map fun context => (surface, context)).toList := by
  unfold ReturnState.returned ReturnState.consume
  rw [List.filterMap_append]
  rfl

/-- A value without the intent yields nothing. -/
theorem ReturnState.returned_consume_payload (hvalue : ∀ v, s.get f.key = some v → v = f.payload) :
    (s.consume f surface).returned = s.returned := by
  have hnone : ((s.get f.key).bind fun payload => readContext payload surface) = none := by
    cases hget : s.get f.key with
    | none => rfl
    | some v =>
      rw [hvalue v hget]
      exact readContext_payload f surface
  rw [ReturnState.returned_consume, hnone]
  exact List.append_nil _

theorem ReturnState.get_consume (s : ReturnState) (f : ReturnFlow) (surface : String) :
    (s.consume f surface).get f.key = none := s.get_del f.key

/-- One command of `bind_payment_intent`. -/
theorem TokenLife.bind (h : TokenLife f s) (hstep : s.bindNext f = some s') : TokenLife f s' := by
  cases h with
  | unbound hbinding hvalue hreturned =>
    unfold ReturnState.bindNext at hstep
    cases hphase : s.binding with
    | idle =>
      rw [hphase] at hstep
      cases hget : s.get f.key with
      | none =>
        simp only [hget, Option.some.injEq] at hstep
        subst hstep
        exact .unbound (fun payload hp => by simp at hp) hvalue hreturned
      | some payload =>
        simp only [hget, Option.some.injEq] at hstep
        subst hstep
        refine .unbound (fun payload' hp => ?_) hvalue hreturned
        rcases hp with hp | ⟨ttl, hp⟩
        · obtain rfl := Binding.read.inj hp
          exact hvalue payload hget
        · cases hp
    | read payload =>
      have hpayload := hbinding payload (Or.inl hphase)
      rw [hphase] at hstep
      dsimp only at hstep
      split_ifs at hstep
      · obtain rfl := Option.some.inj hstep
        refine .unbound (fun payload' hp => ?_) hvalue hreturned
        rcases hp with hp | ⟨ttl, hp⟩
        · cases hp
        · obtain ⟨rfl, -⟩ := Binding.timed.inj hp
          exact hpayload
      · obtain rfl := Option.some.inj hstep
        exact .unbound (fun payload hp => by simp at hp) hvalue hreturned
    | timed payload ttl =>
      have hpayload := hbinding payload (Or.inr ⟨ttl, hphase⟩)
      rw [hphase] at hstep
      obtain rfl := Option.some.inj hstep
      refine .bound rfl (fun v hv => Or.inr ?_) hreturned
      rw [← hpayload]
      exact s.get_set f.key (f.bound payload) ttl v hv
    | done =>
      rw [hphase] at hstep
      cases hstep
  | bound hbinding =>
    unfold ReturnState.bindNext at hstep
    rw [hbinding] at hstep
    cases hstep
  | taken hbinding =>
    unfold ReturnState.bindNext at hstep
    rw [hbinding] at hstep
    cases hstep

/-- A call of `consume`. -/
theorem TokenLife.consume (h : TokenLife f s) (surface : String) : TokenLife f (s.consume f surface) := by
  have hgone : ∀ v, (s.consume f surface).get f.key = some v → v = f.payload := fun v hv =>
    nomatch (s.get_consume f surface).symm.trans hv
  cases h with
  | unbound hbinding hvalue hreturned =>
    exact .unbound hbinding hgone ((ReturnState.returned_consume_payload hvalue).trans hreturned)
  | bound hbinding hvalue hreturned =>
    cases hget : s.get f.key with
    | none =>
      have hnone : ∀ v, s.get f.key = some v → v = f.payload := fun v hv => nomatch hget.symm.trans hv
      exact .bound hbinding (fun v hv => Or.inl (hgone v hv))
        ((ReturnState.returned_consume_payload hnone).trans hreturned)
    | some v =>
      rcases hvalue v hget with rfl | rfl
      · have hpayload : ∀ v, s.get f.key = some v → v = f.payload := fun v hv =>
          (Option.some.inj (hget.symm.trans hv)).symm
        exact .bound hbinding (fun v hv => Or.inl (hgone v hv))
          ((ReturnState.returned_consume_payload hpayload).trans hreturned)
      · have hresult := s.returned_consume f surface
        rw [hget, Option.bind_some, readContext_bound, hreturned, List.nil_append] at hresult
        by_cases hsurface : surface = f.surface
        · rw [if_pos hsurface, hsurface] at hresult
          exact .taken hbinding hgone (hsurface ▸ hresult)
        · rw [if_neg hsurface] at hresult
          exact .bound hbinding (fun v hv => Or.inl (hgone v hv)) hresult
  | taken hbinding hvalue hreturned =>
    exact .taken hbinding hgone ((ReturnState.returned_consume_payload hvalue).trans hreturned)

theorem TokenLife.step (h : TokenLife f s) (hstep : s.step f m = some s') : TokenLife f s' := by
  cases m with
  | create =>
    unfold ReturnState.step at hstep
    dsimp only at hstep
    split_ifs at hstep
    obtain rfl := Option.some.inj hstep
    have hset : ∀ v, (s.set f.key f.payload f.ttlSeconds).get f.key = some v → v = f.payload := s.get_set _ _ _
    cases h with
    | unbound hbinding _ hreturned => exact .unbound hbinding hset hreturned
    | bound hbinding _ hreturned => exact .bound hbinding (fun v hv => Or.inl (hset v hv)) hreturned
    | taken hbinding _ hreturned => exact .taken hbinding hset hreturned
  | bind => exact h.bind hstep
  | consume surface =>
    obtain rfl := Option.some.inj hstep
    exact h.consume surface
  | elapse span =>
    obtain rfl := Option.some.inj hstep
    cases h with
    | unbound hbinding hvalue hreturned =>
      exact .unbound hbinding (fun v hv => hvalue v (ReturnState.get_elapse hv)) hreturned
    | bound hbinding hvalue hreturned =>
      exact .bound hbinding (fun v hv => hvalue v (ReturnState.get_elapse hv)) hreturned
    | taken hbinding hvalue hreturned =>
      exact .taken hbinding (fun v hv => hvalue v (ReturnState.get_elapse hv)) hreturned

theorem TokenLife.run (h : TokenLife f s) (hrun : s.run f ms = some s') : TokenLife f s' := by
  induction ms generalizing s with
  | nil =>
    obtain rfl := Option.some.inj hrun
    exact h
  | cons m ms ih =>
    obtain ⟨s₁, hstep, hrest⟩ := Option.bind_eq_some_iff.mp hrun
    exact ih (h.step hstep) hrest

/-- Only `bind_payment_intent` leaves its first state. -/
theorem ReturnState.binding_run (hbind : .bind ∉ ms) (hrun : s.run f ms = some s') : s'.binding = s.binding := by
  induction ms generalizing s with
  | nil =>
    obtain rfl := Option.some.inj hrun
    rfl
  | cons m ms ih =>
    obtain ⟨s₁, hstep, hrest⟩ := Option.bind_eq_some_iff.mp hrun
    rw [ih (fun h => hbind (List.mem_cons_of_mem _ h)) hrest]
    cases m with
    | create =>
      unfold ReturnState.step at hstep
      dsimp only at hstep
      split_ifs at hstep
      obtain rfl := Option.some.inj hstep
      rfl
    | bind => exact absurd List.mem_cons_self hbind
    | consume surface =>
      obtain rfl := Option.some.inj hstep
      rfl
    | elapse span =>
      obtain rfl := Option.some.inj hstep
      rfl

/-- A token is used once, for what it was created and bound for. -/
theorem oneTime_run (f : ReturnFlow) (now : DateTime) {ms : List ReturnMove} {s : ReturnState}
    (hrun : (ReturnState.initial now).run f ms = some s) : s.OneTime f ms := by
  have hlife : TokenLife f s := by
    refine TokenLife.run (.unbound (fun payload hp => ?_) (fun v hv => ?_) rfl) hrun
    · rcases hp with hp | ⟨ttl, hp⟩ <;> cases hp
    · cases hv
  have hnever (hbind : .bind ∉ ms) : s.binding ≠ .done := by
    rw [ReturnState.binding_run hbind hrun]
    exact Binding.noConfusion
  cases hlife with
  | unbound _ _ hreturned =>
    refine ⟨?_, fun result hresult => ?_, fun _ => hreturned⟩
    · rw [hreturned]
      exact Nat.zero_le 1
    · rw [hreturned] at hresult
      cases hresult
  | bound hbinding _ hreturned =>
    refine ⟨?_, fun result hresult => ?_, fun _ => hreturned⟩
    · rw [hreturned]
      exact Nat.zero_le 1
    · rw [hreturned] at hresult
      cases hresult
  | taken hbinding _ hreturned =>
    refine ⟨?_, fun result hresult => ?_, fun hbind => absurd hbinding (hnever hbind)⟩
    · rw [hreturned]
      exact Nat.le_refl 1
    · rw [hreturned] at hresult
      exact List.mem_singleton.mp hresult

namespace Sample

/-- The return from the payment of a ride. -/
def rideReturn : ReturnFlow where
  token := "token"
  ttlSeconds := 900
  flow := "ride_payment"
  surface := "consumer"
  userId := 7
  resourceId := 12
  paymentIntentId := 31

/-- A browser returns twice. -/
def boundMoves : List ReturnMove :=
  [.create, .bind, .bind, .bind, .elapse 5000000, .consume "consumer", .consume "consumer"]

end Sample

theorem oneTime_run_bound :
    ∃ s, (ReturnState.initial 0).run Sample.rideReturn Sample.boundMoves = some s ∧
      s.returned = [("consumer", Sample.rideReturn.context)] ∧ s.OneTime Sample.rideReturn Sample.boundMoves := by
  have hresults : ((ReturnState.initial 0).run Sample.rideReturn Sample.boundMoves).map ReturnState.returned =
      some [("consumer", Sample.rideReturn.context)] := by decide +kernel
  obtain ⟨s, hrun, hreturned⟩ := Option.map_eq_some_iff.mp hresults
  exact ⟨s, hrun, hreturned, oneTime_run Sample.rideReturn 0 hrun⟩

end DiddiGo.Payments
