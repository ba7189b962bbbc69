import DiddiGo.Rides.Proofs.GateProofs
import DiddiGo.Rides.Waiting

/-!
# Waits are billed once and can be left

What each change of a ride does about its wait; from it what a history bills, and that a ride which waits
can go on.
-/

namespace DiddiGo.Rides

open Data (Json Keyed Table)
open Transactions Prog

variable {ask : Query → Answer} {env : Env} {c : RideCall} {db db' : RideDb} {r r' : Ride}
  {ts : List RideStatusTransition} {es : List PriorityEvent} {steps : List RideStep}

/-! ## The wait of one ride -/

/-- What is stored about waiting is as it was. -/
structure SameWait (r r' : Ride) : Prop where
  startedAt : r'.waitingStartedAt = r.waitingStartedAt
  duration : r'.waitingDurationSeconds = r.waitingDurationSeconds
  fee : r'.waitingFee = r.waitingFee
  rate : r'.waitingRatePerMinute = r.waitingRatePerMinute

namespace SameWait

theorem refl (r : Ride) : SameWait r r := ⟨rfl, rfl, rfl, rfl⟩

theorem trans {r'' : Ride} (h : SameWait r r') (h' : SameWait r' r'') : SameWait r r'' :=
  ⟨h'.startedAt.trans h.startedAt, h'.duration.trans h.duration, h'.fee.trans h.fee,
    h'.rate.trans h.rate⟩

end SameWait

theorem Repriced.sameWait (h : Repriced r r') : SameWait r r' := by
  unfold Repriced at h
  rw [h]
  exact ⟨rfl, rfl, rfl, rfl⟩

/-- What a change of a ride does about its wait. -/
inductive WaitMove (env : Env) (ask : Query → Answer) (c : RideCall) (db : RideDb) (r r' : Ride) : Prop
  | opened (hop : c.op = .startWaiting r.id) (hopens : (RideStep.request c ask).OpensWait env db)
      (hstatus : r.status = .inProgress)
      (hstatus' : r'.status = .waiting) (hwait : SameWait (r.beginWait env.settings c.clock.now) r')
  | closed {startedAt : DateTime} (hop : c.op ≠ .startWaiting r.id) (hstatus : r.status = .waiting)
      (hstarted : r.waitingStartedAt = some startedAt) (hstatus' : r'.status ≠ .waiting)
      (hwait : SameWait (r.billWait env.settings startedAt c.clock.stoppedAt) r')
  | kept (hop : c.op ≠ .startWaiting r.id) (hstatus : r'.status = .waiting ↔ r.status = .waiting)
      (hwait : SameWait r r')
  | patched (hop : c.op ≠ .startWaiting r.id) (hpatch : (RideStep.request c ask).PatchesWait db)
      (hwait : SameWait r r') (hstatus : r.status = .inProgress ∧ r'.status = .waiting ∨
        r'.status = .cancelledByPassenger ∨ r'.status = .cancelledByDriver)

/-- A wait is closed on the way, or there was none. -/
theorem WaitMove.of_closedWait {r₁ : Ride} {reason : String}
    (hclose : ClosedWait env reason c.clock.stoppedAt r r₁) (hop : c.op ≠ .startWaiting r.id)
    (hwait : SameWait r₁ r') (hstatus' : r'.status ≠ .waiting) : WaitMove env ask c db r r' := by
  cases hclose with
  | idle hstatus => exact .kept hop ⟨fun h => absurd h hstatus', fun h => absurd h hstatus⟩ hwait
  | closed hstatus hstarted =>
    exact .closed hop hstatus hstarted hstatus' ⟨hwait.startedAt, hwait.duration, hwait.fee, hwait.rate⟩

theorem WaitMove.still (hop : c.op ≠ .startWaiting r.id) (hstatus : r.status ≠ .waiting)
    (hstatus' : r'.status ≠ .waiting) (hwait : SameWait r r') : WaitMove env ask c db r r' :=
  .kept hop ⟨fun h => absurd h hstatus', fun h => absurd h hstatus⟩ hwait

theorem Moves.waitMove (hr : db.ride? r.id = some r) (h : Moves env ask c db r r' ts es) :
    WaitMove env ask c db r r' := by
  cases h with
  | @patched status newStatus _ hop hnew hactor hmay hcompleted hstart ht =>
    have hother : c.op ≠ .startWaiting r.id := by
      rw [hop]
      exact fun h => nomatch h
    rcases Ride.transition_cases ht with ⟨-, rfl⟩ | ⟨-, hallowed, rfl⟩
    · exact .kept hother Iff.rfl (.refl _)
    · by_cases hold : r.status = .waiting
      · have hcancelled : newStatus = .cancelledByPassenger ∨ newStatus = .cancelledByDriver := by
          rw [hold] at hallowed
          revert hallowed hcompleted hstart
          cases newStatus <;> decide
        exact .patched hother ⟨r, status, newStatus, hop, hnew, hr, hactor, hmay, Or.inr ⟨hold, hcancelled⟩⟩
          ⟨rfl, rfl, rfl, rfl⟩ (Or.inr hcancelled)
      · by_cases hwaiting : newStatus = .waiting
        · have hprogress : r.status = .inProgress := by
            rw [hwaiting] at hallowed
            revert hallowed
            generalize r.status = s
            cases s <;> decide
          exact .patched hother
            ⟨r, status, newStatus, hop, hnew, hr, hactor, hmay, Or.inl ⟨hprogress, hwaiting⟩⟩
            ⟨rfl, rfl, rfl, rfl⟩ (Or.inl ⟨hprogress, hwaiting⟩)
        · exact .still hother hold hwaiting ⟨rfl, rfl, rfl, rfl⟩
  | @completed _ r₁ r₂ hop _ _ hclose hstatus hprice =>
    refine .of_closedWait hclose (by rw [hop]; exact fun h => nomatch h) ?_ RideStatus.noConfusion
    exact hprice.repriced.sameWait.trans ⟨rfl, rfl, rfl, rfl⟩
  | earlyStopAsked hop => exact .kept (by rw [hop]; exact fun h => nomatch h) Iff.rfl ⟨rfl, rfl, rfl, rfl⟩
  | stoppedEarly hop _ _ _ hclose hprice _ _ hr₃ =>
    rw [hr₃]
    refine .of_closedWait hclose (by rw [hop]; exact fun h => nomatch h) ?_ RideStatus.noConfusion
    exact hprice.repriced.sameWait.trans ⟨rfl, rfl, rfl, rfl⟩
  | arrived hop _ hstatus _ _ _ hr' =>
    rw [hr']
    exact .still (by rw [hop]; exact fun h => nomatch h) (by rw [hstatus]; exact RideStatus.noConfusion)
      RideStatus.noConfusion ⟨rfl, rfl, rfl, rfl⟩
  | started hop _ hstatus _ _ _ hr' =>
    have hs : r'.status = .inProgress := hr'.status
    have hwait := hr'.repriced.sameWait
    exact .still (by rw [hop]; exact fun h => nomatch h) (by rw [hstatus]; exact RideStatus.noConfusion)
      (by rw [hs]; exact RideStatus.noConfusion) ⟨hwait.startedAt, hwait.duration, hwait.fee, hwait.rate⟩
  | wrongCode hop => exact .kept (by rw [hop]; exact fun h => nomatch h) Iff.rfl ⟨rfl, rfl, rfl, rfl⟩
  | absent hop _ hstatus _ _ hr' =>
    rw [hr']
    exact .still (by rw [hop]; exact fun h => nomatch h) (by rw [hstatus]; exact RideStatus.noConfusion)
      RideStatus.noConfusion ⟨rfl, rfl, rfl, rfl⟩
  | waitStarted hop hactor hmay hstatus hspeed hstopped =>
    exact .opened hop ⟨r, _, hop, hr, hstatus, hactor, hmay, hspeed, hstopped⟩ hstatus rfl
      ⟨rfl, rfl, rfl, rfl⟩
  | waitStopped hop _ hstatus hwait =>
    refine .closed ?_ hstatus hwait RideStatus.noConfusion ⟨rfl, rfl, rfl, rfl⟩
    rcases hop with hop | ⟨speed, hop⟩ <;> rw [hop] <;> exact fun h => nomatch h
  | supplementDecided hop =>
    exact .kept (by rw [hop]; exact fun h => nomatch h) Iff.rfl ⟨rfl, rfl, rfl, rfl⟩
  | @cancelled reason r₁ r₂ metadata hop _ _ _ hclose hr₂ =>
    have hs : r₂.status ≠ .waiting := by
      rw [hr₂]
      rcases cancelledStatus_cases reason (db.assigned r c.actor.userId) c.actor with h | h <;>
        rw [Ride.status_enter, h] <;> exact RideStatus.noConfusion
    refine .of_closedWait hclose (by rw [hop]; exact fun h => nomatch h) ?_ hs
    rw [hr₂]
    exact ⟨rfl, rfl, rfl, rfl⟩
  | shared hop => exact .kept (by rw [hop]; exact fun h => nomatch h) Iff.rfl ⟨rfl, rfl, rfl, rfl⟩
  | alerted hop => exact .kept (by rw [hop]; exact fun h => nomatch h) Iff.rfl ⟨rfl, rfl, rfl, rfl⟩
  | accepted hop hstatus _ _ hr' =>
    rw [hr']
    exact .still (by rw [hop]; exact fun h => nomatch h) (by rw [hstatus]; exact RideStatus.noConfusion)
      RideStatus.noConfusion ⟨rfl, rfl, rfl, rfl⟩
  | lost hop hstatus hr' =>
    rw [hr']
    refine .still ?_ (by rw [hstatus]; exact RideStatus.noConfusion) RideStatus.noConfusion ⟨rfl, rfl, rfl, rfl⟩
    rcases hop with hop | hop <;> rw [hop] <;> exact fun h => nomatch h

/-! ## What is billed -/

theorem waitsFrom_snoc (x : UUID) (step : RideStep) (db : RideDb) (waits : List Wait) :
    waitsFrom env x (steps ++ [step]) db waits
      = step.note env x (runRides env steps db) (waitsFrom env x steps db waits) := by
  induction steps generalizing db waits with
  | nil => rfl
  | cons first steps ih => exact ih (first.after env db) (first.note env x db waits)

theorem waitsOf_snoc (x : UUID) (step : RideStep) (db : RideDb) :
    waitsOf env x (steps ++ [step]) db
      = step.note env x (runRides env steps db) (waitsOf env x steps db) := waitsFrom_snoc x step db []

/-- A step that leaves the status of the ride alone opens and closes nothing. -/
theorem note_of_status {x : UUID} {step : RideStep} {waits : List Wait}
    (h : ((step.after env db).ride? x).map Ride.status = (db.ride? x).map Ride.status) :
    step.note env x db waits = waits := by
  cases step with
  | elsewhere => rfl
  | request c ask =>
    unfold RideStep.note
    dsimp only
    rw [h]
    by_cases hw : (db.ride? x).map Ride.status = some .waiting
    · rw [if_pos hw, if_pos hw]
    · rw [if_neg hw, if_neg fun h => hw h.1]

theorem ride?_none_of_snoc {x : UUID} {step : RideStep} (hdraws : step.Draws db)
    (h : (step.after env db).ride? x = none) : db.ride? x = none := by
  by_contra hsome
  obtain ⟨r, hr⟩ := Option.ne_none_iff_exists'.mp hsome
  have hlater : ∃ r', (runRides env [step] db).ride? x = some r' ∧ True :=
    ride_persists ⟨hdraws, trivial⟩ (fun _ _ _ _ _ _ _ => trivial) ⟨r, hr, trivial⟩
  obtain ⟨r', hr', -⟩ := hlater
  rw [show runRides env [step] db = step.after env db from rfl, h] at hr'
  cases hr'

/-- A ride that is not there has no waits. -/
theorem waitsOf_of_none {x : UUID} (hdraws : EachStep (RideStep.after env) RideStep.Draws steps db)
    (h : (runRides env steps db).ride? x = none) : waitsOf env x steps db = [] := by
  induction steps using List.reverseRecOn with
  | nil => rfl
  | append_singleton steps step ih =>
    rw [eachStep_snoc] at hdraws
    rw [runRides_snoc] at h
    have hbefore : (runRides env steps db).ride? x = none := ride?_none_of_snoc hdraws.2 h
    rw [waitsOf_snoc, ih hdraws.1 hbefore]
    exact note_of_status (by rw [h, hbefore])

/-- The elapsed time is counted in started seconds. -/
theorem waitSeconds_eq (startedAt closedAt : DateTime) (rate : Decimal) :
    Ride.waitSeconds startedAt closedAt = (Wait.mk startedAt (some closedAt) rate).seconds := by
  unfold Ride.waitSeconds Wait.seconds Wait.elapsed ceilSeconds ceilDiv
  simp only [Option.getD_some]
  omega

/-- What is stored about the waits of a ride, as long as it can still be completed. -/
inductive WaitsKept (env : Env) (waits : List Wait) (r : Ride) : Prop
  | idle (hstatus : r.status ≠ .waiting) (hstarted : r.waitingStartedAt = none)
      (hbilled : WaitsBilled waits r)
  | waiting {closed : List Wait} {startedAt : DateTime} (hstatus : r.status = .waiting)
      (hwaits : waits = closed ++ [Wait.opened env.settings startedAt])
      (hstarted : r.waitingStartedAt = some startedAt)
      (hrate : r.waitingRatePerMinute = some (env.settings.waitingPricePerMinuteXof : Decimal))
      (hbilled : WaitsBilled closed r)
  | stuck (hstatus : r.status = .waiting) (hstarted : r.waitingStartedAt = none)
  | cancelled (hstatus : r.status = .cancelledByPassenger ∨ r.status = .cancelledByDriver)

theorem WaitsBilled.congr {waits : List Wait} (h : WaitsBilled waits r) (hwait : SameWait r r') :
    WaitsBilled waits r' :=
  ⟨h.closed, hwait.duration.trans h.duration, hwait.fee.trans h.fee⟩

theorem Wait.close_of_closed {w : Wait} (h : w.closedAt.isSome) (now : DateTime) : w.close now = w := by
  obtain ⟨startedAt, closedAt, rate⟩ := w
  cases closedAt with
  | none => cases h
  | some t => rfl

/-- Closing the last wait, which is billed then. -/
theorem WaitsBilled.close {closed : List Wait} {startedAt now : DateTime}
    (h : WaitsBilled closed r)
    (hrate : r.waitingRatePerMinute = some (env.settings.waitingPricePerMinuteXof : Decimal))
    (hwait : SameWait (r.billWait env.settings startedAt now) r') :
    WaitsBilled ((closed ++ [Wait.opened env.settings startedAt]).map fun w => w.close now) r' := by
  have hclosed : (closed.map fun w => w.close now) = closed :=
    (List.map_congr_left fun w hw => Wait.close_of_closed (h.closed w hw) now).trans (List.map_id closed)
  have hprice : r.waitingRate env.settings = (env.settings.waitingPricePerMinuteXof : Decimal) := by
    unfold Ride.waitingRate
    rw [hrate, Option.getD_some]
    split_ifs <;> rfl
  have hseconds := waitSeconds_eq startedAt now (env.settings.waitingPricePerMinuteXof : Decimal)
  rw [List.map_append, hclosed, List.map_singleton]
  refine ⟨?_, ?_, ?_⟩
  · intro w hw
    rcases List.mem_append.mp hw with hw | hw
    · exact h.closed w hw
    · rw [List.mem_singleton.mp hw]
      rfl
  · rw [hwait.duration, List.map_append, List.sum_append, ← h.duration, List.map_singleton,
      List.sum_singleton]
    exact congrArg (r.waitingDurationSeconds + ·) hseconds
  · rw [hwait.fee, List.map_append, List.sum_append, ← h.fee, List.map_singleton, List.sum_singleton]
    unfold Ride.billWait
    dsimp only
    rw [hprice, hseconds]
    rfl

/-- One change of a ride keeps the account of its waits. -/
theorem WaitsKept.moved {waits : List Wait} (h : WaitsKept env waits r) (hmoved : RideMoved env ask c db r r') :
    WaitsKept env ((RideStep.request c ask).note env r.id db waits) r'.toDomain := by
  obtain ⟨ts, es, hmove⟩ := hmoved.moves
  have hnote : (RideStep.request c ask).note env r.id db waits
      = if r.status = .waiting then
          if r'.status = .waiting then waits else waits.map fun w => w.close c.clock.stoppedAt
        else if r'.status = .waiting ∧ c.op = .startWaiting r.id then
          waits ++ [Wait.opened env.settings c.clock.now]
        else waits := by
    unfold RideStep.note
    dsimp only
    rw [hmoved.found, hmoved.stored]
    simp only [Option.map_some, Option.some.injEq]
    rfl
  rw [hnote]
  cases h with
  | cancelled hstatus =>
    have hterminal : r'.status = r.status := hmove.terminal (by rcases hstatus with h | h <;> rw [h] <;> rfl)
    exact .cancelled (by rw [show r'.toDomain.status = r.status from hterminal]; exact hstatus)
  | idle hstatus hstarted hbilled =>
    rw [if_neg hstatus]
    cases hmove.waitMove hmoved.found with
    | opened hop _ _ hstatus' hwait =>
      rw [if_pos ⟨hstatus', hop⟩]
      exact .waiting hstatus' rfl hwait.startedAt hwait.rate
        ⟨hbilled.closed, hwait.duration.trans hbilled.duration, hwait.fee.trans hbilled.fee⟩
    | closed _ hwaiting => exact absurd hwaiting hstatus
    | kept _ hiff hwait =>
      have hidle : r'.status ≠ .waiting := fun h => hstatus (hiff.mp h)
      rw [if_neg fun h => hidle h.1]
      exact .idle hidle (hwait.startedAt.trans hstarted)
        ⟨hbilled.closed, hwait.duration.trans hbilled.duration, hwait.fee.trans hbilled.fee⟩
    | patched hop _ hwait hnow =>
      rw [if_neg fun h => hop h.2]
      rcases hnow with ⟨-, hnow⟩ | hnow
      · exact .stuck hnow (hwait.startedAt.trans hstarted)
      · exact .cancelled hnow
  | @waiting closed startedAt hstatus hwaits hstarted hrate hbilled =>
    rw [if_pos hstatus]
    cases hmove.waitMove hmoved.found with
    | opened _ _ hprogress => exact absurd (hstatus.symm.trans hprogress) RideStatus.noConfusion
    | closed _ _ hstarted' hstatus' hwait =>
      obtain rfl := Option.some.inj (hstarted.symm.trans hstarted')
      rw [if_neg hstatus', hwaits]
      have hbilled' := hbilled.close hrate hwait
      exact .idle hstatus' (hwait.startedAt.trans rfl)
        ⟨hbilled'.closed, hbilled'.duration, hbilled'.fee⟩
    | kept _ hiff hwait =>
      have hwaiting : r'.status = .waiting := hiff.mpr hstatus
      rw [if_pos hwaiting]
      exact .waiting hwaiting hwaits (hwait.startedAt.trans hstarted) (hwait.rate.trans hrate)
        ⟨hbilled.closed, hwait.duration.trans hbilled.duration, hwait.fee.trans hbilled.fee⟩
    | patched _ _ _ hnow =>
      rcases hnow with ⟨hprogress, -⟩ | hnow
      · exact absurd (hstatus.symm.trans hprogress) RideStatus.noConfusion
      · exact .cancelled hnow
  | stuck hstatus hstarted =>
    cases hmove.waitMove hmoved.found with
    | opened _ _ hprogress => exact absurd (hstatus.symm.trans hprogress) RideStatus.noConfusion
    | closed _ _ hstarted' => cases hstarted.symm.trans hstarted'
    | kept _ hiff hwait => exact .stuck (hiff.mpr hstatus) (hwait.startedAt.trans hstarted)
    | patched _ _ _ hnow =>
      rcases hnow with ⟨hprogress, -⟩ | hnow
      · exact absurd (hstatus.symm.trans hprogress) RideStatus.noConfusion
      · exact .cancelled hnow

theorem waitsKept_runRides (hdb : Unrequested db)
    (hdraws : EachStep (RideStep.after env) RideStep.Draws steps db) :
    ∀ x r, (runRides env steps db).ride? x = some r → WaitsKept env (waitsOf env r.id steps db) r := by
  refine forall_rides_along hdb hdraws hdraws
    (P := fun steps r => WaitsKept env (waitsOf env r.id steps db) r) ?_ ?_ ?_
  · intro steps step r hbefore hnow h
    rw [runRides_snoc] at hnow
    rw [waitsOf_snoc, note_of_status (by rw [hnow, hbefore])]
    exact h
  · intro steps c ask quote ride r hbefore h hr hnow
    have hid : r.id = ride.id := by rcases hr with rfl | rfl <;> rfl
    have hidle : r.status ≠ .waiting ∧ r.waitingStartedAt = none ∧ r.waitingDurationSeconds = 0 ∧
        r.waitingFee = 0 := by
      obtain ⟨request, method, -, -, rfl⟩ := h.made
      rcases hr with rfl | rfl <;> exact ⟨RideStatus.noConfusion, rfl, rfl, rfl⟩
    obtain ⟨hstatus, hstarted, hduration, hfee⟩ := hidle
    rw [runRides_snoc] at hnow
    have hwaits : waitsOf env r.id (steps ++ [.request c ask]) db = [] := by
      rw [waitsOf_snoc, waitsOf_of_none hbefore (hid ▸ h.fresh)]
      unfold RideStep.note
      dsimp only
      rw [hnow, hid, h.fresh]
      rw [if_neg (by simp), if_neg (by simp [hstatus])]
    rw [hwaits]
    exact .idle hstatus hstarted ⟨fun _ hw => absurd hw List.not_mem_nil, hduration, hfee⟩
  · intro steps c ask r r' _ hmoved h
    rw [waitsOf_snoc, show r'.toDomain.id = r.id from hmoved.id]
    exact h.moved hmoved

/-- Waiting is billed exactly once. -/
theorem billedOnce_rides (steps : List RideStep) (hdb : Unrequested db)
    (hdraws : EachStep (RideStep.after env) RideStep.Draws steps db) : BilledOnce env steps db where
  billed x r hr hstatus := by
    obtain rfl := RideDb.id_of_ride? hr
    cases waitsKept_runRides hdb hdraws _ r hr with
    | idle _ _ hbilled => exact hbilled
    | waiting hwaiting => exact absurd (hstatus.symm.trans hwaiting) RideStatus.noConfusion
    | stuck hwaiting => exact absurd (hstatus.symm.trans hwaiting) RideStatus.noConfusion
    | cancelled h => rcases h with h | h <;> exact absurd (hstatus.symm.trans h) RideStatus.noConfusion
  again before c ask later x r hsteps hop hr hstatus := by
    subst hsteps
    have hdraw : (RideStep.request c ask).Draws (runRides env before db) := (eachStep_append.mp hdraws).2.1
    have hkept : (runRides env (before ++ [.request c ask]) db).ride? x = some r := by
      rw [runRides_snoc]
      rcases @ride_cases ask env c _ hdraw x with h | ⟨quote, ride, h, hid, -⟩ | ⟨r₁, r', rfl, h⟩
      · exact h.trans hr
      · rw [← hid, h.fresh] at hr
        cases hr
      · obtain rfl := Option.some.inj (h.found.symm.trans hr)
        obtain ⟨ts, es, hmove⟩ := h.moves
        cases hmove.waitMove h.found with
        | opened _ _ hprogress => exact absurd (hstatus.symm.trans hprogress) RideStatus.noConfusion
        | closed hother => exact absurd hop hother
        | kept hother => exact absurd hop hother
        | patched hother => exact absurd hop hother
    refine ⟨hkept, ?_⟩
    rw [waitsOf_snoc]
    refine note_of_status ?_
    rw [runRides_snoc] at hkept
    rw [hkept, hr]

/-- Ninety seconds are two started minutes; asking again while the ride waits opens nothing. -/
theorem billedOnce_sample :
    ((runRides Sample.env Sample.waited Sample.db).ride? 50).map
        (fun r => (r.status, r.waitingDurationSeconds, r.waitingFee)) = some (.completed, 90, 200) ∧
      BilledOnce Sample.env Sample.waited Sample.db :=
  ⟨by decide +kernel, billedOnce_rides Sample.waited ⟨rfl, rfl, rfl⟩ (by decide +kernel)⟩

/-! ## Leaving a wait -/

section Leaving

variable {α : Type} {E : RideDb → Prop} {Q : α → RideDb → RideDb → Prop} {base cur : RideDb}

/-- A request to DiddiMap that is answered or refused comes back. -/
theorem leads_askMap_of_answer {β : Type} {read : Reply → Option β} {q : Query}
    (h : (∃ e, ask q = .error (.api e)) ∨ ∃ reply b, ask q = .ok reply ∧ read reply = some b) :
    Leads ask E (fun _ base' cur' => base' = base ∧ cur' = cur) (askMap read q) base cur := by
  refine Leads.bind_ask ?_
  rcases h with ⟨e, he⟩ | ⟨reply, b, hreply, hread⟩
  · rw [he]
    exact Leads.ret ⟨rfl, rfl⟩
  · rw [hreply]
    dsimp only
    rw [hread]
    exact Leads.ret ⟨rfl, rfl⟩

theorem leads_priceCompletion_of_answers {finishedAt : DateTime} (hmap : MapAnswers ask) :
    Leads ask E (fun r' base' cur' => base' = base ∧ cur' = cur ∧ CompletionPriced env r r')
      (priceCompletion env r finishedAt) base cur := by
  have hleads : Leads ask (fun _ => True)
      (fun r' base' cur' => base' = base ∧ cur' = cur ∧ CompletionPriced env r r')
      (priceCompletion env r finishedAt) base cur :=
    Leads.of_bind_ret (leads_priceCompletion trivial fun r' h => Leads.ret ⟨rfl, rfl, h⟩)
  refine Leads.of_returns hleads ?_
  unfold priceCompletion
  refine Leads.bind (R := fun _ _ _ => True) ?_ ?_
  swap
  · rintro ⟨r', e | e⟩ _ _ - <;> exact Leads.ret trivial
  unfold applyActualPricingIfPossible
  refine Leads.bind_select ?_
  dsimp only
  split_ifs
  · exact Leads.ret trivial
  refine Leads.bind (R := fun _ _ _ => True) ?_ ?_
  · unfold ensureMapTraceStarted
    split_ifs
    · exact Leads.ret trivial
    · split
      · refine Leads.bind (R := fun _ _ _ => True) ((leads_askMap_of_answer ?_).mono (fun _ h => h)
          fun _ _ _ _ => trivial) ?_
        · rcases hmap.start r.id _ _ r.distanceKm r.durationSeconds "palh_vtc" with h | ⟨id, h⟩
          · exact Or.inl h
          · exact Or.inr ⟨_, id, h, rfl⟩
        · rintro (e | id) _ _ - <;> exact Leads.ret trivial
      · exact Leads.ret trivial
  rintro (e | r') _ _ -
  · exact Leads.ret trivial
  dsimp only
  cases r'.mapTraceId with
  | none => exact Leads.ret trivial
  | some traceId =>
    refine Leads.bind (R := fun _ _ _ => True) ?_ ?_
    swap
    · rintro (e | a) _ _ - <;> exact Leads.ret trivial
    unfold analyzeTrace
    refine Leads.bind (R := fun _ _ _ => True) ((leads_askMap_of_answer ?_).mono (fun _ h => h)
      fun _ _ _ _ => trivial) ?_
    · rcases hmap.append traceId _ with h | ⟨reply, h⟩
      · exact Or.inl h
      · exact Or.inr ⟨reply, (), h, rfl⟩
    rintro (e | u) _ _ -
    · exact Leads.ret trivial
    refine Leads.bind (R := fun _ _ _ => True) ((leads_askMap_of_answer ?_).mono (fun _ h => h)
      fun _ _ _ _ => trivial) ?_
    · rcases hmap.finish traceId finishedAt with h | ⟨reply, h⟩
      · exact Or.inl h
      · exact Or.inr ⟨reply, (), h, rfl⟩
    rintro (e | u) _ _ -
    · exact Leads.ret trivial
    refine (leads_askMap_of_answer ?_).mono (fun _ h => h) fun _ _ _ _ => trivial
    rcases hmap.analyze traceId with h | ⟨a, h⟩
    · exact Or.inl h
    · exact Or.inr ⟨_, a, h, rfl⟩

/-- An open wait is closed. -/
theorem leads_finishWaiting_of_open {reason : String} {now startedAt : DateTime} {f : Ride → Action α}
    (hdistinct : cur.Distinct) (hr : cur.ride? r.id = some r) (hstatus : r.status = .waiting)
    (hstarted : r.waitingStartedAt = some startedAt)
    (h : ∀ metadata r', r' = (r.billWait env.settings startedAt now).enter .inProgress now (some metadata) →
      cur.Admits r' → Leads ask E Q (f r') base (cur.put r')) :
    Leads ask E Q (finishWaiting env r reason now >>= f) base cur := by
  unfold finishWaiting
  rw [hstatus, hstarted]
  refine Leads.bind (R := fun r' base' cur' => base' = base ∧ cur' = cur.put r' ∧ cur.Admits r' ∧
    ∃ metadata, r' = (r.billWait env.settings startedAt now).enter .inProgress now (some metadata)) ?_ ?_
  · have hs : (r.billWait env.settings startedAt now).status = .waiting := hstatus
    refine leads_transitionOrRaise_of_allowed (by rw [hs]; decide) (by rw [hs]; decide) ?_
    have hfree : cur.Admits ((r.billWait env.settings startedAt now).enter .inProgress now
        (some (.ofMembers [("reason", .str reason),
          ("duration_seconds", .int (Ride.waitSeconds startedAt now)),
          ("billed_minutes", .int (Ride.billedMinutes (Ride.waitSeconds startedAt now)))]))) := by
      refine hdistinct.admits hr rfl (Or.inl ?_) rfl rfl
      unfold Ride.activeDriver
      rw [Ride.status_enter, hstatus]
      rfl
    exact leads_save_of_admits hr hfree (Leads.ret ⟨rfl, rfl, hfree, _, rfl⟩)
  · rintro r' _ _ ⟨rfl, rfl, hfree, metadata, hr'⟩
    exact h metadata r' hr' hfree

/-- An open wait is closed on the way. -/
theorem leads_closeWait_of_open {actor : Actor} {reason : String} {now startedAt : DateTime}
    {f : Ride → Action α} (hdistinct : cur.Distinct) (hr : cur.ride? r.id = some r)
    (hmay : cur.MayDrive r actor) (hstatus : r.status = .waiting)
    (hstarted : r.waitingStartedAt = some startedAt)
    (h : ∀ metadata r', r' = (r.billWait env.settings startedAt now).enter .inProgress now (some metadata) →
      cur.Admits r' → Leads ask E Q (f r'.toDomain) base (cur.put r')) :
    Leads ask E Q (closeWait env r actor reason now >>= f) base cur := by
  unfold closeWait
  rw [if_pos hstatus]
  refine Leads.bind (R := fun x base' cur' => ∃ r' metadata, x = r'.toDomain ∧ base' = base ∧
    cur' = cur.put r' ∧ cur.Admits r' ∧
      r' = (r.billWait env.settings startedAt now).enter .inProgress now (some metadata)) ?_ ?_
  · refine Leads.bind (R := fun r' base' cur' => base' = base ∧ cur' = cur.put r' ∧ cur.Admits r' ∧
      ∃ metadata, r' = (r.billWait env.settings startedAt now).enter .inProgress now (some metadata)) ?_ ?_
    · unfold stopWaiting
      refine leads_loadRide_of_found hr (leads_checkDriver_of_may hmay (Leads.of_bind_ret ?_))
      refine leads_finishWaiting_of_open hdistinct hr hstatus hstarted fun metadata r' hr' hfree => ?_
      exact Leads.ret ⟨rfl, rfl, hfree, metadata, hr'⟩
    · rintro r' _ _ ⟨rfl, rfl, hfree, metadata, hr'⟩
      have htrip : Ride.SameTrip r r' := by
        rw [hr']
        exact ⟨rfl, rfl, rfl⟩
      refine Leads.of_bind_ret (leads_loadRide_of_found (RideDb.ride?_put_self hr htrip) ?_)
      exact Leads.ret ⟨r', metadata, rfl, rfl, rfl, hfree, hr'⟩
  · rintro _ _ _ ⟨r', metadata, rfl, rfl, rfl, hfree, hr'⟩
    exact h metadata r' hr' hfree

end Leaving

variable {startedAt : DateTime}

theorem stopWaiting_succeeds (hdistinct : db.Distinct) (hr : db.ride? r.id = some r)
    (hop : c.op = .stopWaiting r.id) (hactor : db.BusinessDriver c.actor) (hmay : db.MayDrive r c.actor)
    (hstatus : r.status = .waiting) (hstarted : r.waitingStartedAt = some startedAt) :
    RideStep.Succeeds env c ask db := by
  refine succeeds_of_leads (Q := fun _ _ _ => True) ?_
  unfold RideCall.action
  rw [hop]
  refine leads_requireBusinessDriver_of_business hactor (Leads.ignore ?_)
  unfold stopWaiting
  refine leads_loadRide_of_found hr (leads_checkDriver_of_may hmay (Leads.of_bind_ret ?_))
  exact leads_finishWaiting_of_open hdistinct hr hstatus hstarted fun _ _ _ _ => Leads.ret trivial

/-- A ride that gives up its driver is written after its wait was closed. -/
theorem leads_save_after_wait {α : Type} {E : RideDb → Prop} {Q : α → RideDb → RideDb → Prop}
    {base : RideDb} {read r₁ r₂ : Ride} {f : Unit → Action α} (hdistinct : db.Distinct)
    (hr : db.ride? r.id = some r) (htrip₁ : Ride.SameTrip r r₁) (hfree : db.Admits r₁)
    (htrip : Ride.SameTrip r₁.toDomain r₂) (hdriver : r₂.activeDriver = none)
    (hquote : r₂.quoteId = r₁.quoteId) (hshare : r₂.shareToken = r₁.shareToken)
    (h : ((db.put r₁).put r₂).ride? r.id = some r₂.toDomain →
      Leads ask E Q (f ()) base ((db.put r₁).put r₂)) :
    Leads ask E Q (save read r₂ >>= f) base (db.put r₁) := by
  have hstored : (db.put r₁).ride? r.id = some r₁.toDomain := RideDb.ride?_put_self hr htrip₁
  have hstored₁ := RideDb.ride?_id hstored
  have hid : r₂.id = r.id := htrip.id.trans htrip₁.id
  have hput := RideDb.ride?_put_self hstored₁ htrip
  rw [show r₁.toDomain.id = r.id from htrip₁.id] at hput
  refine leads_save_of_admits (r := r₁.toDomain) (by rw [hid]; exact hstored) ?_ (h hput)
  exact (hdistinct.put hr htrip₁ hfree).admits hstored₁ htrip.id (Or.inr hdriver) hquote hshare

theorem completion_succeeds (hdistinct : db.Distinct) (hr : db.ride? r.id = some r)
    (hop : c.op = .updateStatus r.id "completed") (hactor : db.BusinessDriver c.actor)
    (hmay : db.MayDrive r c.actor) (hmap : MapAnswers ask) (hrelease : ReleaseAnswers ask)
    (hstatus : r.status = .waiting) (hstarted : r.waitingStartedAt = some startedAt) :
    RideStep.Succeeds env c ask db := by
  refine succeeds_of_leads (Q := fun _ _ _ => True) ?_
  unfold RideCall.action
  rw [hop]
  dsimp only
  unfold updateStatusRoute
  refine leads_requireBusinessDriver_of_business hactor ?_
  rw [show rideStatusOf "completed" = some .completed from rfl]
  dsimp only
  refine Leads.bind (R := fun _ _ (cur : RideDb) => ∃ r', cur.ride? r.id = some r') ?_ ?_
  swap
  · rintro _ base cur ⟨r', hr'⟩
    rw [if_pos rfl]
    exact leads_releaseDriverOf hr' hrelease
  unfold updateStatus
  refine leads_loadRide_of_found hr (leads_checkDriver_of_may hmay ?_)
  rw [if_neg (by rw [hstatus]; exact fun h => nomatch h.1)]
  refine leads_apiErrorIf_of_not (fun h => nomatch h.2) (leads_apiErrorIf_of_not (fun h => nomatch h) ?_)
  unfold closeWaitIf priceIf
  rw [if_pos rfl]
  refine leads_closeWait_of_open hdistinct hr hmay hstatus hstarted fun metadata r₁ hr₁ hfree => ?_
  rw [if_pos rfl]
  refine Leads.bind (leads_priceCompletion_of_answers hmap) ?_
  rintro r₂ base cur ⟨hbase, hcur, hprice⟩
  rw [hbase, hcur]
  have hs : r₂.status = .inProgress := by
    rw [hprice.status, hr₁]
    rfl
  have hallowed : r₂.transition .completed c.clock.doneAt = some (r₂.enter .completed c.clock.doneAt) := by
    unfold Ride.transition
    rw [if_neg (by rw [hs]; exact RideStatus.noConfusion), if_pos (by rw [hs]; decide)]
    rfl
  rw [hallowed]
  dsimp only
  rw [show (r₂.enter .completed c.clock.doneAt).completeIf .completed
    = (r₂.enter .completed c.clock.doneAt).complete from if_pos rfl]
  have htrip₁ : Ride.SameTrip r r₁ := by
    rw [hr₁]
    exact ⟨rfl, rfl, rfl⟩
  have htrip : Ride.SameTrip r₁.toDomain (r₂.enter .completed c.clock.doneAt).complete :=
    hprice.sameTrip.trans ⟨rfl, rfl, rfl⟩
  have hrepriced := hprice.repriced
  refine leads_save_after_wait hdistinct hr htrip₁ hfree htrip rfl ?_ ?_ fun hstored => ?_
  · rw [show (r₂.enter .completed c.clock.doneAt).complete.quoteId = r₂.quoteId from rfl, hrepriced]
    rfl
  · rw [show (r₂.enter .completed c.clock.doneAt).complete.shareToken = r₂.shareToken from rfl, hrepriced]
    rfl
  · exact leads_recordStatusTransitions (leads_recordRideOutcome (Leads.ret ⟨_, hstored⟩))

theorem cancel_succeeds {reason : String} (hdistinct : db.Distinct) (hr : db.ride? r.id = some r)
    (hop : c.op = .cancel r.id reason) (hreason : reason ∈ validCancelReasons)
    (hmay : db.MayDrive r c.actor ∨ r.passengerUserId = c.actor.userId) (hrelease : ReleaseAnswers ask)
    (hstatus : r.status = .waiting) (hstarted : r.waitingStartedAt = some startedAt) :
    RideStep.Succeeds env c ask db := by
  refine succeeds_of_leads (Q := fun _ _ _ => True) ?_
  unfold RideCall.action
  rw [hop]
  dsimp only
  refine Leads.bind (R := fun _ _ (cur : RideDb) => ∃ r', cur.ride? r.id = some r') ?_ ?_
  swap
  · rintro _ base cur ⟨r', hr'⟩
    exact leads_releaseDriverOf hr' hrelease
  unfold cancel
  refine leads_apiErrorIf_of_not (not_not.mpr hreason) (leads_loadRide_of_found hr ?_)
  refine leads_isAssignedDriver (leads_apiErrorIf_of_not ?_ ?_)
  · rintro ⟨hadmin, hpassenger, hassigned⟩
    rcases hmay with (h | h) | h
    · rw [h] at hadmin
      cases hadmin
    · rw [h] at hassigned
      cases hassigned
    · exact hpassenger h
  refine leads_apiErrorIf_of_not (by rw [hstatus]; decide) (leads_apiErrorIf_of_not (by rw [hstatus]; decide) ?_)
  refine leads_apiErrorIf_of_not (by rw [hstatus]; decide) ?_
  unfold abandonWait
  rw [if_pos hstatus]
  refine leads_finishWaiting_of_open hdistinct hr hstatus hstarted fun metadata r₁ hr₁ hfree => ?_
  have hs : r₁.status = .inProgress := by
    rw [hr₁]
    rfl
  have htrip₁ : Ride.SameTrip r r₁ := by
    rw [hr₁]
    exact ⟨rfl, rfl, rfl⟩
  generalize hnew : cancelledStatus reason (db.assigned r c.actor.userId) c.actor = newStatus
  have hcancelled : newStatus = .cancelledByDriver ∨ newStatus = .cancelledByPassenger := by
    rw [← hnew]
    exact cancelledStatus_cases _ _ _
  refine leads_transitionOrRaise_of_allowed (by rw [hs]; rcases hcancelled with h | h <;> rw [h] <;> decide)
    (by rw [hs]; rcases hcancelled with h | h <;> rw [h] <;> decide) ?_
  refine leads_save_after_wait hdistinct hr htrip₁ hfree ⟨rfl, rfl, rfl⟩ ?_ rfl rfl fun hstored => ?_
  · rcases hcancelled with h | h <;> rw [h] <;> rfl
  · exact leads_recordRideOutcome (Leads.ret ⟨_, hstored⟩)

theorem leads_askMap_of_ok {α β : Type} {E : RideDb → Prop} {Q : α → RideDb → RideDb → Prop}
    {base cur : RideDb} {read : Reply → Option β} {q : Query} {reply : Reply} {b : β}
    {f : Except ApiError β → Action α} (hreply : ask q = .ok reply) (hread : read reply = some b)
    (h : Leads ask E Q (f (.ok b)) base cur) : Leads ask E Q (askMap read q >>= f) base cur := by
  refine Leads.bind (R := fun x base' cur' => x = .ok b ∧ base' = base ∧ cur' = cur) ?_ ?_
  · refine Leads.bind_ask ?_
    rw [hreply]
    dsimp only
    rw [hread]
    exact Leads.ret ⟨rfl, rfl, rfl⟩
  · rintro _ _ _ ⟨rfl, rfl, rfl⟩
    exact h

/-- A usable trace gives the price of the actual trip. -/
theorem leads_applyActualPricing_of_usable {α : Type} {E : RideDb → Prop}
    {Q : α → RideDb → RideDb → Prop} {base cur : RideDb} {finishedAt : DateTime}
    {f : Ride × Option ApiError → Action α} (htrace : TraceUsable ask cur r)
    (h : ∀ r' fare, Priced env r (r', none) → r'.traceAnalysisStatus = some "applied" →
      r'.actualPricingFare = some fare → Leads ask E Q (f (r', none)) base cur) :
    Leads ask E Q (applyActualPricingIfPossible env r finishedAt >>= f) base cur := by
  refine Leads.bind (R := fun x base' cur' => base' = base ∧ cur' = cur ∧ Priced env r x ∧ x.2 = none ∧
    x.1.traceAnalysisStatus = some "applied" ∧ ∃ fare, x.1.actualPricingFare = some fare) ?_ ?_
  · unfold applyActualPricingIfPossible
    refine Leads.bind_select ?_
    dsimp only
    obtain ⟨point, hpoint, hid⟩ := htrace.samples
    rw [if_neg]
    swap
    · intro hnone
      have hmem : point ∈ (cur.routePoints.filter fun p => p.rideId = r.id).mergeSort
          fun a b => a.recordedAt ≤ b.recordedAt :=
        List.mem_mergeSort.mpr (by simp [hpoint, hid])
      rw [hnone] at hmem
      exact List.not_mem_nil hmem
    refine leads_ensureMapTraceStarted_of_traceable htrace.traceable fun r' htraced hsome => ?_
    dsimp only
    obtain ⟨traceId, htraceId⟩ := Option.isSome_iff_exists.mp hsome
    rw [htraceId]
    obtain ⟨a, km, n, hanalysis, husable, hkm, hn⟩ := htrace.analyze traceId
    refine Leads.bind (R := fun x base' cur' => x = .ok a ∧ base' = base ∧ cur' = cur) ?_ ?_
    · unfold analyzeTrace
      obtain ⟨reply, hreply⟩ := htrace.append traceId _
      refine leads_askMap_of_ok hreply rfl ?_
      obtain ⟨reply, hreply⟩ := htrace.finish traceId finishedAt
      refine leads_askMap_of_ok hreply rfl ?_
      exact Leads.of_bind_ret (leads_askMap_of_ok hanalysis rfl (Leads.ret ⟨rfl, rfl, rfl⟩))
    · rintro _ base' cur' ⟨rfl, hbase, hcur⟩
      refine Leads.ret ⟨hbase, hcur, .analysed a htraced, ?_⟩
      unfold Ride.applyAnalysis
      dsimp only
      rw [if_neg (by rw [husable]; exact Bool.noConfusion), hkm, hn]
      exact ⟨rfl, rfl, _, rfl⟩
  · rintro ⟨r', e⟩ base' cur' ⟨rfl, rfl, hprice, rfl, happlied, fare, hfare⟩
    exact h r' fare hprice happlied hfare

theorem earlyStop_succeeds (hdistinct : db.Distinct) (hr : db.ride? r.id = some r)
    (hop : c.op = .confirmEarlyStop r.id) (hactor : db.BusinessDriver c.actor)
    (hmay : db.MayDrive r c.actor) (hopen : EarlyStopOpen r c.clock.now) (htrace : TraceUsable ask db r)
    (hrelease : ReleaseAnswers ask) (hstatus : r.status = .waiting)
    (hstarted : r.waitingStartedAt = some startedAt) : RideStep.Succeeds env c ask db := by
  refine succeeds_of_leads (Q := fun _ _ _ => True) ?_
  unfold RideCall.action
  rw [hop]
  dsimp only
  refine leads_requireBusinessDriver_of_business hactor ?_
  refine Leads.bind (R := fun _ _ (cur : RideDb) => ∃ r', cur.ride? r.id = some r') ?_ ?_
  swap
  · rintro _ base cur ⟨r', hr'⟩
    exact leads_releaseDriverOf hr' hrelease
  unfold confirmEarlyStop
  refine leads_loadRide_of_found hr (leads_checkDriver_of_may hmay ?_)
  refine leads_apiErrorIf_of_not (fun h => h.2 hstatus) ?_
  refine Leads.bind (R := fun _ base' cur' => base' = db ∧ cur' = db) ?_ ?_
  · unfold checkEarlyStopRequest
    obtain ⟨hasked, expiresAt, hexpires, hlt⟩ := hopen
    obtain ⟨askedAt, hasked⟩ := Option.isSome_iff_exists.mp hasked
    rw [hasked, hexpires]
    exact Leads.of_bind_ret (leads_apiErrorIf_of_not (not_le.mpr hlt) (Leads.ret ⟨rfl, rfl⟩))
  rintro _ base cur ⟨hbase, hcur⟩
  rw [hbase, hcur]
  refine leads_closeWait_of_open hdistinct hr hmay hstatus hstarted fun metadata r₁ hr₁ hfree => ?_
  have htrip₁ : Ride.SameTrip r r₁ := by
    rw [hr₁]
    exact ⟨rfl, rfl, rfl⟩
  have htrace₁ : TraceUsable ask (db.put r₁) r₁.toDomain := by
    rw [hr₁]
    exact ⟨htrace.samples, htrace.traceable, htrace.append, htrace.finish, htrace.analyze⟩
  refine leads_applyActualPricing_of_usable htrace₁ fun r₂ fare hprice happlied hfare => ?_
  dsimp only
  rw [happlied, hfare]
  have hs : (r₂.stopEarly fare c.clock.now).status = .inProgress := by
    rw [show (r₂.stopEarly fare c.clock.now).status = r₂.status from rfl,
      show r₂.status = r₁.toDomain.status from hprice.status, hr₁]
    rfl
  refine leads_transitionOrRaise_of_allowed (by rw [hs]; decide) (by rw [hs]; decide) ?_
  have hrepriced : Repriced r₁.toDomain r₂ := hprice.repriced
  have htrip : Ride.SameTrip r₁.toDomain r₂ := hprice.sameTrip
  refine leads_save_after_wait hdistinct hr htrip₁ hfree (htrip.trans ⟨rfl, rfl, rfl⟩) rfl ?_ ?_ fun hstored => ?_
  · rw [show ((r₂.stopEarly fare c.clock.now).enter .completed c.clock.now _).quoteId = r₂.quoteId from rfl,
      hrepriced]
    rfl
  · rw [show ((r₂.stopEarly fare c.clock.now).enter .completed c.clock.now _).shareToken = r₂.shareToken
      from rfl, hrepriced]
    rfl
  · exact leads_recordStatusTransitions (leads_recordRideOutcome (Leads.ret ⟨_, hstored⟩))

/-- What is known of the wait of a ride, as long as no wait is patched. -/
structure WaitAgreed (r : Ride) : Prop where
  started : r.status = .waiting ↔ r.waitingStartedAt.isSome
  rate : r.waitingStartedAt.isSome → r.waitingRatePerMinute.isSome

theorem waitAgreed_runRides (hdb : Unrequested db)
    (hdraws : EachStep (RideStep.after env) RideStep.Draws steps db)
    (hpatch : EachStep (RideStep.after env) (fun step db => ¬ step.PatchesWait db) steps db) :
    ∀ x r, (runRides env steps db).ride? x = some r → WaitAgreed r := by
  refine forall_rides hdb hdraws hpatch ?_ ?_
  · intro c db quote ride h
    obtain ⟨request, method, -, -, rfl⟩ := h.made
    constructor <;> exact ⟨⟨(nomatch ·), (nomatch ·)⟩, (nomatch ·)⟩
  · intro c ask db r r' ts es hpatch hr hmove ih
    cases hmove.waitMove hr with
    | opened _ _ _ hstatus' hwait =>
      refine ⟨⟨fun _ => ?_, fun _ => hstatus'⟩, fun _ => ?_⟩
      · rw [show r'.toDomain.waitingStartedAt = _ from hwait.startedAt]
        rfl
      · rw [show r'.toDomain.waitingRatePerMinute = _ from hwait.rate]
        rfl
    | closed _ _ _ hstatus' hwait =>
      have hnone : r'.toDomain.waitingStartedAt = none := hwait.startedAt
      refine ⟨⟨fun h => absurd h hstatus', fun h => ?_⟩, fun h => ?_⟩
      · rw [hnone] at h
        cases h
      · rw [hnone] at h
        cases h
    | kept _ hiff hwait =>
      have hstarted : r'.toDomain.waitingStartedAt = r.waitingStartedAt := hwait.startedAt
      refine ⟨?_, fun h => ?_⟩
      · rw [hstarted, ← ih.started]
        exact hiff
      · rw [hstarted] at h
        rw [show r'.toDomain.waitingRatePerMinute = _ from hwait.rate]
        exact ih.rate h
    | patched _ h => exact absurd h hpatch

/-- As long as no wait is patched, a ride waits exactly if a wait is open, and can leave that state. -/
theorem waitingSound_rides (steps : List RideStep) (hdb : Unrequested db)
    (hdraws : EachStep (RideStep.after env) RideStep.Draws steps db)
    (hpatch : EachStep (RideStep.after env) (fun step db => ¬ step.PatchesWait db) steps db) :
    WaitingSound env steps db := by
  intro before later x r hsteps hr
  subst hsteps
  obtain rfl := RideDb.id_of_ride? hr
  have hdraws := (eachStep_append.mp hdraws).1
  have hagreed := waitAgreed_runRides hdb hdraws (eachStep_append.mp hpatch).1 _ r hr
  have hdistinct := distinct_runRides hdb hdraws
  refine ⟨⟨fun h => ?_, fun h => hagreed.started.mpr h.1⟩, fun hstatus => ?_⟩
  · have hsome := hagreed.started.mp h
    exact ⟨hsome, hagreed.rate hsome⟩
  · obtain ⟨startedAt, hstarted⟩ := Option.isSome_iff_exists.mp (hagreed.started.mp hstatus)
    constructor
    · intro c ask hop hactor hmay
      exact stopWaiting_succeeds hdistinct hr hop hactor hmay hstatus hstarted
    · intro c ask hop hactor hmay hmap hrelease
      exact completion_succeeds hdistinct hr hop hactor hmay hmap hrelease hstatus hstarted
    · intro c ask hop hactor hmay hopen htrace hrelease
      exact earlyStop_succeeds hdistinct hr hop hactor hmay hopen htrace hrelease hstatus hstarted
    · intro c ask reason hop hreason hmay hrelease
      exact cancel_succeeds hdistinct hr hop hreason hmay hrelease hstatus hstarted

theorem RideStep.PatchesWait.patchedTo {step : RideStep} (h : step.PatchesWait db) :
    ∃ newStatus, step.patchedTo = some newStatus ∧
      newStatus ∈ [.waiting, .cancelledByPassenger, .cancelledByDriver] := by
  cases step with
  | elsewhere => exact h.elim
  | request c ask =>
    obtain ⟨op, actor, config, clock⟩ := c
    obtain ⟨r, status, newStatus, hop, hnew, -, -, -, h⟩ := h
    obtain rfl : op = .updateStatus r.id status := hop
    refine ⟨newStatus, hnew, ?_⟩
    rcases h with ⟨-, rfl⟩ | ⟨-, rfl | rfl⟩ <;> decide

theorem waitingSound_sample :
    ((runRides Sample.env (Sample.started ++ [Sample.step (.startWaiting 50) 2 "driver" 300])
        Sample.db).ride? 50).map Ride.status = some .waiting ∧
      WaitingSound Sample.env (Sample.started ++ [Sample.step (.startWaiting 50) 2 "driver" 300])
        Sample.db :=
  ⟨by decide +kernel, waitingSound_rides _ ⟨rfl, rfl, rfl⟩ (by decide +kernel)
    (eachStep_of_forall fun step hstep db h => by
      obtain ⟨newStatus, hnew, hmem⟩ := h.patchedTo
      exact (by decide : ∀ step ∈ Sample.started ++ [Sample.step (.startWaiting 50) 2 "driver" 300],
        ∀ s ∈ [RideStatus.waiting, .cancelledByPassenger, .cancelledByDriver], step.patchedTo ≠ some s)
        step hstep newStatus hmem hnew)⟩

/-- A ride that is patched to `waiting` waits without a wait that could be closed. -/
theorem waitingSound_patched :
    Unrequested Sample.db ∧
      EachStep (RideStep.after Sample.env) RideStep.Draws
        (Sample.started ++ [Sample.step (.updateStatus 50 "waiting") 2 "driver" 300]) Sample.db ∧
      ¬ WaitingSound Sample.env
        (Sample.started ++ [Sample.step (.updateStatus 50 "waiting") 2 "driver" 300]) Sample.db := by
  refine ⟨⟨rfl, rfl, rfl⟩, by decide +kernel, fun h => ?_⟩
  have hride : ((runRides Sample.env
      (Sample.started ++ [Sample.step (.updateStatus 50 "waiting") 2 "driver" 300]) Sample.db).ride?
        50).map (fun r => (r.status, r.waitingStartedAt)) = some (.waiting, none) := by decide +kernel
  obtain ⟨r, hr, hstate⟩ := Option.map_eq_some_iff.mp hride
  obtain ⟨hstatus, hnone⟩ := Prod.mk.inj hstate
  have hsome := ((h _ [] 50 r (List.append_nil _).symm hr).1.mp hstatus).1
  rw [hnone] at hsome
  cases hsome

end DiddiGo.Rides
