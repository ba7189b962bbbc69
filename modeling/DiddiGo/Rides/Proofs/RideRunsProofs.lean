import DiddiGo.Rides.Proofs.EffectProofs
import Mathlib.Data.List.Induction

/-!
# Histories of rides

What one step of a history does to one ride, and the induction rule for facts about every ride in every
state of a history.
-/

namespace DiddiGo.Rides

open Data (Json Keyed Table)
open Transactions Prog

variable {ask : Query → Answer} {env : Env} {c : RideCall} {db db' : RideDb} {r r' : Ride}
  {ts : List RideStatusTransition} {es : List PriorityEvent} {steps : List RideStep}

/-! ## One step -/

/-- A ride is never moved to another place. -/
theorem Moves.sameTrip (h : Moves env ask c db r r' ts es) : Ride.SameTrip r r' := by
  cases h with
  | patched _ _ _ _ _ _ ht => exact sameTrip_transition ht
  | completed _ _ _ hclose _ hprice =>
    have h := hclose.sameTrip.trans hprice.sameTrip
    exact ⟨h.id, h.pickup, h.dropoff⟩
  | stoppedEarly _ _ _ _ hclose hprice _ _ hr₃ =>
    have h := hclose.sameTrip.trans hprice.sameTrip
    rw [hr₃]
    exact ⟨h.id, h.pickup, h.dropoff⟩
  | cancelled _ _ _ _ hclose hr₂ =>
    have h := hclose.sameTrip
    rw [hr₂]
    exact ⟨h.id, h.pickup, h.dropoff⟩
  | started _ _ _ _ _ _ hr' =>
    have h := hr'.sameTrip
    exact ⟨h.id, h.pickup, h.dropoff⟩
  | arrived _ _ _ _ _ _ hr' => rw [hr']; exact ⟨rfl, rfl, rfl⟩
  | absent _ _ _ _ _ hr' => rw [hr']; exact ⟨rfl, rfl, rfl⟩
  | accepted _ _ _ _ hr' => rw [hr']; exact ⟨rfl, rfl, rfl⟩
  | lost _ _ hr' => rw [hr']; exact ⟨rfl, rfl, rfl⟩
  | _ => exact ⟨rfl, rfl, rfl⟩

theorem ClosedWait.status_cases {reason : String} {now : DateTime} {r₁ : Ride} {newStatus : RideStatus}
    (h : ClosedWait env reason now r r₁) (hallowed : newStatus ∈ r₁.status.allowedTransitions) :
    newStatus ∈ r.status.allowedTransitions ∨
      r.status = .waiting ∧ newStatus ∈ RideStatus.inProgress.allowedTransitions := by
  cases h with
  | idle => exact Or.inl hallowed
  | closed hstatus => exact Or.inr ⟨hstatus, hallowed⟩

theorem cancelledStatus_allowed {s : RideStatus} (reason : String) (isDriver : Bool) (actor : Actor)
    (h : s ∉ [.completed, .cancelledByPassenger, .cancelledByDriver, .noDriverFound]) :
    cancelledStatus reason isDriver actor ∈ s.allowedTransitions := by
  rcases cancelledStatus_cases reason isDriver actor with hc | hc <;> rw [hc] <;> revert h <;> cases s <;>
    decide

/-- Where a change leads: along the transitions that are allowed, or through the end of a wait. -/
theorem Moves.status_cases (h : Moves env ask c db r r' ts es) :
    r'.status = r.status ∨ r'.status ∈ r.status.allowedTransitions ∨
      r.status = .waiting ∧ r'.status ∈ RideStatus.inProgress.allowedTransitions := by
  cases h with
  | patched _ _ _ _ _ _ ht =>
    rcases Ride.transition_cases ht with ⟨-, rfl⟩ | ⟨-, hallowed, rfl⟩
    · exact Or.inl rfl
    · exact Or.inr (Or.inl hallowed)
  | completed _ _ _ hclose hstatus _ =>
    refine Or.inr (hclose.status_cases ?_)
    rw [hstatus]
    exact (by decide : RideStatus.completed ∈ RideStatus.inProgress.allowedTransitions)
  | @stoppedEarly r₁ _ _ _ _ _ _ hactive _ hclose _ _ _ hr₃ =>
    refine Or.inr (hclose.status_cases ?_)
    have hs : r₁.status = .inProgress := by
      cases hclose with
      | idle h => exact hactive.resolve_right h
      | closed => rfl
    rw [hr₃, Ride.status_enter, hs]
    decide
  | arrived _ _ hstatus _ _ _ hr' => rw [hr', Ride.status_enter, hstatus]; exact Or.inr (Or.inl (by decide))
  | started _ _ hstatus _ _ _ hr' =>
    rw [hr'.status, Ride.status_enter, hstatus]
    exact Or.inr (Or.inl (by decide))
  | absent _ _ hstatus _ _ hr' => rw [hr', Ride.status_enter, hstatus]; exact Or.inr (Or.inl (by decide))
  | waitStarted _ _ _ hstatus => rw [Ride.status_enter, hstatus]; exact Or.inr (Or.inl (by decide))
  | waitStopped _ _ hstatus => rw [Ride.status_enter, hstatus]; exact Or.inr (Or.inl (by decide))
  | @cancelled reason r₁ _ _ _ _ _ hopen hclose hr₂ =>
    refine Or.inr (hclose.status_cases ?_)
    have hs : r₁.toDomain.status ∉
        [.completed, .cancelledByPassenger, .cancelledByDriver, .noDriverFound] := by
      generalize r₁.toDomain = x at hclose
      cases hclose with
      | idle => exact hopen
      | closed =>
        exact (by decide : RideStatus.inProgress ∉
          [.completed, .cancelledByPassenger, .cancelledByDriver, .noDriverFound])
    rw [hr₂]
    exact cancelledStatus_allowed _ _ _ hs
  | accepted _ hstatus _ _ hr' => rw [hr', Ride.status_enter, hstatus]; exact Or.inr (Or.inl (by decide))
  | lost _ hstatus hr' => rw [hr', Ride.status_enter, hstatus]; exact Or.inr (Or.inl (by decide))
  | _ => exact Or.inl rfl

/-- A ride that has ended stays as it ended. -/
theorem Moves.terminal (h : Moves env ask c db r r' ts es) (hterminal : r.status.allowedTransitions = []) :
    r'.status = r.status := by
  rcases h.status_cases with hs | hs | ⟨hs, -⟩
  · exact hs
  · rw [hterminal] at hs
    exact absurd hs List.not_mem_nil
  · rw [hs] at hterminal
    exact absurd hterminal (by decide)

/-- What a request makes of the ride `x`. -/
inductive RideEffect (env : Env) (ask : Query → Answer) (c : RideCall) (db : RideDb) (x : UUID) :
    Option Ride → Prop
  | kept : RideEffect env ask c db x (db.ride? x)
  | created {quote : RideQuote} {ride : Ride} (h : Creates c db quote ride) (hx : ride.id = x) :
      RideEffect env ask c db x (some ride.toDomain)
  | createdLost {quote : RideQuote} {ride : Ride} (h : Creates c db quote ride) (hx : ride.id = x) :
      RideEffect env ask c db x (some (ride.enter .noDriverFound c.clock.gaveUpAt).toDomain)
  | moved {r r' : Ride} {ts : List RideStatusTransition} {es : List PriorityEvent}
      (hr : db.ride? x = some r) (h : Moves env ask c db r r' ts es) :
      RideEffect env ask c db x (some r'.toDomain)

theorem rideEffect_put {x : UUID} (hr : db.ride? r.id = some r) (h : Moves env ask c db r r' ts es) :
    RideEffect env ask c db x ((db.put r').ride? x) := by
  rw [RideDb.ride?_put hr h.sameTrip]
  by_cases hx : x = r.id
  · rw [if_pos hx]
    exact .moved (by rw [hx]; exact hr) h
  · rw [if_neg hx]
    exact .kept

theorem Effect.ride? (h : Effect env ask c db db') (x : UUID) :
    RideEffect env ask c db x (db'.ride? x) := by
  cases h with
  | unchanged => exact .kept
  | supplementAdded => exact .kept
  | created h =>
    rw [RideDb.ride?_createRide h.fresh]
    split_ifs with hx
    · exact .created h hx.symm
    · exact .kept
  | @createdLost quote ride lost h hlost =>
    have hcreated := @RideDb.ride?_createRide _ _ quote.id c.clock.now h.fresh
    have hdomain : ride.toDomain = ride := by
      obtain ⟨request, method, -, -, rfl⟩ := h.made
      rfl
    have hstored : (db.createRide ride quote.id c.clock.now).ride? ride.id = some ride := by
      rw [hcreated, if_pos rfl, hdomain]
    rw [RideDb.ride?_move, RideDb.ride?_put hstored (by rw [hlost]; exact sameTrip_enter _ _ _), hcreated]
    split_ifs with hx
    · rw [hlost]
      exact .createdLost h hx.symm
    · exact .kept
  | moved hr hmove => exact rideEffect_put hr hmove
  | alerted hr hmove => exact rideEffect_put hr hmove
  | decided hr hop hactive _ _ _ hdb₁ =>
    rw [hdb₁]
    exact rideEffect_put hr (.supplementDecided hop hactive)

/-- The request moves the ride `r` to `r'`: it succeeds, or it counts a wrong start code. -/
structure RideMoved (env : Env) (ask : Query → Answer) (c : RideCall) (db : RideDb) (r r' : Ride) :
    Prop where
  found : db.ride? r.id = some r
  moves : ∃ ts es, Moves env ask c db r r' ts es
  stored : ((RideStep.request c ask).after env db).ride? r.id = some r'.toDomain
  succeeds : RideStep.Succeeds env c ask db ∨ r' = r.countWrongCode env.settings c.clock.now

theorem RideMoved.id (h : RideMoved env ask c db r r') : r'.id = r.id := by
  obtain ⟨ts, es, hmove⟩ := h.moves
  exact hmove.sameTrip.id

/-- What a request makes of the ride `x`, and when. -/
theorem ride_cases (hdraws : (RideStep.request c ask).Draws db) (x : UUID) :
    ((RideStep.request c ask).after env db).ride? x = db.ride? x ∨
      (∃ quote ride, Creates c db quote ride ∧ ride.id = x ∧
        (((RideStep.request c ask).after env db).ride? x = some ride.toDomain ∨
          ((RideStep.request c ask).after env db).ride? x
            = some (ride.enter .noDriverFound c.clock.gaveUpAt).toDomain)) ∨
      ∃ r r', r.id = x ∧ RideMoved env ask c db r r' := by
  rcases @request_cases ask env c db hdraws with ⟨hok, heffect⟩ | ⟨-, hrejected⟩
  · have h := heffect.ride? x
    generalize hfound : ((RideStep.request c ask).after env db).ride? x = found at h ⊢
    cases h with
    | kept => exact Or.inl rfl
    | created h hx => exact Or.inr (Or.inl ⟨_, _, h, hx, Or.inl rfl⟩)
    | createdLost h hx => exact Or.inr (Or.inl ⟨_, _, h, hx, Or.inr rfl⟩)
    | moved hr h =>
      obtain rfl := RideDb.id_of_ride? hr
      exact Or.inr (Or.inr ⟨_, _, rfl, hr, ⟨_, _, h⟩, hfound, Or.inl hok⟩)
  · generalize hafter : (RideStep.request c ask).after env db = db' at hrejected ⊢
    cases hrejected with
    | unchanged => exact Or.inl rfl
    | @wrongCode r code hop hr hmove hfree =>
      have hput := RideDb.ride?_put hr hmove.sameTrip x
      rw [RideDb.ride?_move, hput]
      by_cases hx : x = r.id
      · refine Or.inr (Or.inr ⟨r, _, hx.symm, hr, ⟨_, _, hmove⟩, ?_, Or.inr rfl⟩)
        rw [hafter, RideDb.ride?_move, RideDb.ride?_put_self hr hmove.sameTrip]
      · rw [if_neg hx]
        exact Or.inl rfl

theorem Elsewhere.ride? (h : Elsewhere db db') (x : UUID) : db'.ride? x = db.ride? x := by
  unfold RideDb.ride?
  rw [h.rides]

/-! ## Prices -/

/-- `r'` is `r` but for the trace, the price of the actual trip and the final fare. -/
def Repriced (r r' : Ride) : Prop :=
  r' = { r with
    finalFare := r'.finalFare
    actualDistanceKm := r'.actualDistanceKm
    actualDurationSeconds := r'.actualDurationSeconds
    actualPricingFare := r'.actualPricingFare
    pricingDelta := r'.pricingDelta
    mapTraceId := r'.mapTraceId
    traceAnalysisStatus := r'.traceAnalysisStatus
    traceAnalysisErrorCode := r'.traceAnalysisErrorCode
    traceRecommendation := r'.traceRecommendation
    traceQualityLabel := r'.traceQualityLabel
    traceQualityScore := r'.traceQualityScore
    tracePointsCount := r'.tracePointsCount
    traceUsablePointsCount := r'.traceUsablePointsCount }

theorem Traced.repriced (h : Traced r r') : Repriced r r' := by
  rcases h with rfl | ⟨id, rfl⟩ <;> rfl

theorem Repriced.trans {r'' : Ride} (h : Repriced r r') (h' : Repriced r' r'') : Repriced r r'' := by
  unfold Repriced at h h' ⊢
  rw [h] at h'
  exact h'

theorem repriced_applyAnalysis (a : RouteTraceAnalysis) : Repriced r (r.applyAnalysis env a).1 := by
  unfold Ride.applyAnalysis
  dsimp only
  split_ifs
  · rfl
  · split <;> rfl

theorem Priced.repriced {x : Ride × Option ApiError} (h : Priced env r x) : Repriced r x.1 := by
  cases h with
  | noSamples => rfl
  | failed e h => exact h.repriced
  | analysed a h => exact h.repriced.trans (repriced_applyAnalysis a)

theorem CompletionPriced.repriced (h : CompletionPriced env r r') : Repriced r r' := by
  cases h with
  | priced h => exact h.repriced
  | failed h => exact Repriced.trans h.repriced rfl

/-! ## Whole histories -/

theorem runRides_snoc (steps : List RideStep) (step : RideStep) (db : RideDb) :
    runRides env (steps ++ [step]) db = step.after env (runRides env steps db) := runSteps_snoc steps step

/-- A fact `P` about a ride and the history so far holds of every ride: it holds of new rides, steps that
leave the ride alone do not spoil it, and every change of a ride keeps it. -/
theorem forall_rides_along {P : List RideStep → Ride → Prop} {C : RideStep → RideDb → Prop}
    (hdb : Unrequested db) (hdraws : EachStep (RideStep.after env) RideStep.Draws steps db)
    (hC : EachStep (RideStep.after env) C steps db)
    (hlater : ∀ steps step r, (runRides env steps db).ride? r.id = some r →
      (runRides env (steps ++ [step]) db).ride? r.id = some r → P steps r → P (steps ++ [step]) r)
    (hnew : ∀ steps c ask quote ride r, EachStep (RideStep.after env) RideStep.Draws steps db →
      Creates c (runRides env steps db) quote ride →
      (r = ride.toDomain ∨ r = (ride.enter .noDriverFound c.clock.gaveUpAt).toDomain) →
      (runRides env (steps ++ [.request c ask]) db).ride? r.id = some r → P (steps ++ [.request c ask]) r)
    (hmove : ∀ steps c ask r r', C (.request c ask) (runRides env steps db) →
      RideMoved env ask c (runRides env steps db) r r' → P steps r →
      P (steps ++ [.request c ask]) r'.toDomain) :
    ∀ x r, (runRides env steps db).ride? x = some r → P steps r := by
  induction steps using List.reverseRecOn with
  | nil =>
    intro x r hr
    have hnone : db.ride? x = none := by
      unfold RideDb.ride?
      rw [hdb.rides]
      rfl
    rw [show (runRides env [] db).ride? x = db.ride? x from rfl, hnone] at hr
    cases hr
  | append_singleton steps step ih =>
    rw [eachStep_snoc] at hdraws hC
    have ih := ih hdraws.1 hC.1
    intro x r hr
    have hstored := RideDb.ride?_id hr
    rw [runRides_snoc] at hr
    cases step with
    | elsewhere patch h =>
      have hbefore := ((h _).ride? x).symm.trans hr
      exact hlater _ _ _ (RideDb.ride?_id hbefore) hstored (ih x r hbefore)
    | request c ask =>
      rcases @ride_cases ask env c _ hdraws.2 x with hkept | ⟨quote, ride, h, -, hnow⟩ | ⟨r₁, r', rfl, h⟩
      · have hbefore := hkept.symm.trans hr
        exact hlater _ _ _ (RideDb.ride?_id hbefore) hstored (ih x r hbefore)
      · refine hnew steps c ask quote ride r hdraws.1 h ?_ hstored
        rcases hnow with hnow | hnow
        · exact Or.inl (Option.some.inj (hr.symm.trans hnow))
        · exact Or.inr (Option.some.inj (hr.symm.trans hnow))
      · obtain rfl := Option.some.inj (h.stored.symm.trans hr)
        exact hmove steps c ask r₁ r' hC.2 h (ih _ r₁ h.found)

/-- The rule for a fact that does not refer to the history. -/
theorem forall_rides {P : Ride → Prop} {C : RideStep → RideDb → Prop} (hdb : Unrequested db)
    (hdraws : EachStep (RideStep.after env) RideStep.Draws steps db)
    (hC : EachStep (RideStep.after env) C steps db)
    (hnew : ∀ c db quote ride, Creates c db quote ride →
      P ride.toDomain ∧ P (ride.enter .noDriverFound c.clock.gaveUpAt).toDomain)
    (hmove : ∀ c ask db r r' ts es, C (.request c ask) db → db.ride? r.id = some r →
      Moves env ask c db r r' ts es → P r → P r'.toDomain) :
    ∀ x r, (runRides env steps db).ride? x = some r → P r := by
  refine forall_rides_along (P := fun _ r => P r) hdb hdraws hC (fun _ _ _ _ _ h => h) ?_ ?_
  · rintro _ c _ quote ride r - h (rfl | rfl) -
    · exact (hnew c _ quote ride h).1
    · exact (hnew c _ quote ride h).2
  · intro _ c ask r r' hC h hP
    obtain ⟨ts, es, hm⟩ := h.moves
    exact hmove c ask _ r r' ts es hC h.found hm hP

/-- A fact about one ride that every change of it keeps still holds later. -/
theorem ride_persists {P : Ride → Prop} {x : UUID}
    (hdraws : EachStep (RideStep.after env) RideStep.Draws steps db)
    (hmove : ∀ c ask db r r', RideMoved env ask c db r r' → P r → P r'.toDomain)
    (h : ∃ r, db.ride? x = some r ∧ P r) : ∃ r, (runRides env steps db).ride? x = some r ∧ P r := by
  refine inv_runSteps (I := fun db => ∃ r, db.ride? x = some r ∧ P r) hdraws h ?_
  rintro step db hdraws ⟨r, hr, hP⟩
  cases step with
  | elsewhere patch h => exact ⟨r, ((h db).ride? x).trans hr, hP⟩
  | request c ask =>
    rcases @ride_cases ask env c _ hdraws x with hkept | ⟨quote, ride, h, hid, -⟩ |
      ⟨r₁, r', rfl, hmoved⟩
    · exact ⟨r, hkept.trans hr, hP⟩
    · rw [← hid, h.fresh] at hr
      cases hr
    · obtain rfl := Option.some.inj (hmoved.found.symm.trans hr)
      exact ⟨r'.toDomain, hmoved.stored, hmove c ask db r₁ r' hmoved hP⟩

/-- A fact about every ride after every history is one about every ride in every state. -/
theorem forall_states {P : RideDb → Prop} {C : RideStep → RideDb → Prop}
    (hC : EachStep (RideStep.after env) C steps db)
    (h : ∀ before, EachStep (RideStep.after env) C before db → P (runRides env before db)) :
    ∀ db' ∈ rideStates env steps db, P db' := by
  intro db' hdb'
  obtain ⟨before, after, rfl, rfl⟩ := mem_statesAlong.mp hdb'
  exact h before (eachStep_append.mp hC).1

end DiddiGo.Rides
