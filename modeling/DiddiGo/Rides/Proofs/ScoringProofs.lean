import DiddiGo.Rides.Scoring
import DiddiGo.Rides.Proofs.OutcomesProofs
import Mathlib.Algebra.Order.BigOperators.Group.List
import Mathlib.Tactic.FieldSimp
import Mathlib.Tactic.Linarith

/-!
# A no-show and the score

A no-show counts as one more eligible ride that is not completed. The score of a driver depends only on his
ratings and on the part of his eligible rides that he completed.
-/

namespace DiddiGo.Rides

open Data (Json Keyed Table)
open Transactions Prog

variable {ask : Query → Answer} {env : Env} {c : RideCall} {db db' : RideDb} {r r' row : Ride} {x : UUID}
  {mine p q : Ride → Bool} {ratings : List RideRating} {driverId : UUID}

/-! ## Counting -/

theorem countRides_nonneg (db : RideDb) (mine p : Ride → Bool) : 0 ≤ db.countRides mine p := by
  unfold RideDb.countRides Table.sum
  refine List.sum_nonneg fun n hn => ?_
  obtain ⟨r, -, rfl⟩ := List.mem_map.mp hn
  split_ifs <;> decide

/-- Rides that are counted by one of two conditions. -/
theorem countRides_or (h : ∀ r, ¬ (p r = true ∧ q r = true)) :
    db.countRides mine (fun r => p r || q r) = db.countRides mine p + db.countRides mine q := by
  unfold RideDb.countRides Table.sum
  rw [← List.sum_map_add]
  refine congrArg List.sum (List.map_congr_left fun r _ => ?_)
  have hr := h r
  cases mine r <;> cases hp : p r <;> cases hq : q r <;> simp_all

/-- The ride that was written, and the others. -/
theorem countRides_put (hrow : db.rides.find? r.id = some row) (hmine : mine (r.storedOver row) = mine r)
    (hp : p (r.storedOver row) = p r) :
    (db.put r).countRides mine p = db.countRides mine p - (if mine row && p row then 1 else 0)
      + (if mine r && p r then 1 else 0) := by
  unfold RideDb.countRides
  have hsum := Table.sum_update (fun row => r.storedOver row) r.key_storedOver
    (fun r => if mine r && p r then (1 : Int) else 0) hrow
  rw [hmine, hp] at hsum
  exact hsum

/-- The ratings that count are those of completed rides. -/
theorem ratingsReceived_congr (raterRole : String)
    (h : ∀ x, ((db'.ride? x).any fun r => mine r && decide (r.status = .completed))
      = (db.ride? x).any fun r => mine r && decide (r.status = .completed)) :
    db'.ratingsReceived mine ratings raterRole = db.ratingsReceived mine ratings raterRole := by
  unfold RideDb.ratingsReceived
  simp only [h]

/-! ## The score of a driver -/

/-- Every eligible ride is completed or cancelled. -/
theorem eligibleRides_eq (db : RideDb) (ratings : List RideRating) (driverId : UUID) :
    (db.driverScoringStats ratings driverId).eligibleRides =
      (db.driverScoringStats ratings driverId).completedRides
        + (db.driverScoringStats ratings driverId).cancelledRides := by
  have hor : db.countRides (fun r => decide (r.driverId = some driverId))
      (fun r => decide (r.status = .completed) || decide (r.status = .cancelledByDriver)) = _ + _ :=
    countRides_or fun r h => by
      have hcompleted := of_decide_eq_true h.1
      have hcancelled := of_decide_eq_true h.2
      exact nomatch hcompleted.symm.trans hcancelled
  refine Eq.trans ?_ hor
  change db.countRides _ _ = _
  refine congrArg _ (funext fun r => ?_)
  exact Bool.decide_or _ _

/-- The score depends on the part of the eligible rides that was completed. -/
theorem ScoringStats.score_eq {stats : ScoringStats} (hne : stats.eligibleRides ≠ 0)
    (hsum : stats.eligibleRides = stats.completedRides + stats.cancelledRides) :
    stats.score = scoreOfShare stats.ratingValue (stats.completedRides / stats.eligibleRides) := by
  have hne' : (stats.eligibleRides : Decimal) ≠ 0 := Int.cast_ne_zero.mpr hne
  have hcancelled : (stats.cancelledRides : Decimal) = stats.eligibleRides - stats.completedRides := by
    rw [hsum]
    push_cast
    ring
  have hrate : stats.cancellationRate = 1 - (stats.completedRides : Decimal) / stats.eligibleRides := by
    unfold cancellationRate
    rw [if_neg hne, hcancelled, sub_div, div_self hne']
  unfold score scoreOfShare
  rw [hrate]
  unfold completionRate
  rw [if_neg hne]
  congr 3
  ring

/-- One more eligible ride that is not completed. -/
theorem ScoringStats.score_of_more {stats stats' : ScoringStats} (hspares : stats.SparesCancellation)
    (hsum : stats.eligibleRides = stats.completedRides + stats.cancelledRides)
    (hsum' : stats'.eligibleRides = stats'.completedRides + stats'.cancelledRides)
    (hnonneg : 0 ≤ stats.eligibleRides) (heligible : stats'.eligibleRides = stats.eligibleRides + 1)
    (hcompleted : stats'.completedRides = stats.completedRides) (hrating : stats'.ratingAvg = stats.ratingAvg) :
    stats'.score = stats.score := by
  have hne' : stats'.eligibleRides ≠ 0 := by omega
  have hvalue : stats'.ratingValue = stats.ratingValue := by
    unfold ratingValue
    rw [hrating]
  rw [score_eq hspares.1 hsum, score_eq hne' hsum', hvalue, hcompleted, heligible]
  push_cast
  exact hspares.2

theorem ScoringStats.score_congr {stats stats' : ScoringStats} (heligible : stats'.eligibleRides = stats.eligibleRides)
    (hcompleted : stats'.completedRides = stats.completedRides)
    (hcancelled : stats'.cancelledRides = stats.cancelledRides) (hrating : stats'.ratingAvg = stats.ratingAvg) :
    stats'.score = stats.score := by
  unfold score ratingValue completionRate cancellationRate
  rw [heligible, hcompleted, hcancelled, hrating]

/-! ## One ride changes -/

/-- The rides of a driver in some status, after a ride of his, or of another driver, has changed. -/
theorem countRides_move {ts : List RideStatusTransition} {es : List PriorityEvent} (p : RideStatus → Bool)
    (hr : db.ride? r.id = some r) (ht : Ride.SameTrip r r') (hdriver : r'.driverId = r.driverId) :
    (db.move r' ts es).countRides (fun r => r.driverId = some driverId) (fun r => p r.status) =
      db.countRides (fun r => r.driverId = some driverId) (fun r => p r.status)
        - (if decide (r.driverId = some driverId) && p r.status then 1 else 0)
        + (if decide (r.driverId = some driverId) && p r'.status then 1 else 0) := by
  obtain ⟨row, hrow, rfl⟩ := RideDb.ride?_eq_some.mp hr
  have hrow' : db.rides.find? r'.id = some row := by
    rw [ht.id]
    exact hrow
  have hput : (db.put r').countRides (fun r => r.driverId = some driverId) (fun r => p r.status) = _ - _ + _ :=
    countRides_put hrow' rfl rfl
  rw [hdriver] at hput
  exact hput

theorem ratingsReceived_move {ts : List RideStatusTransition} {es : List PriorityEvent} {raterRole : String}
    (hr : db.ride? r.id = some r) (ht : Ride.SameTrip r r') (hdriver : r'.driverId = r.driverId)
    (hcompleted : r'.status = .completed ↔ r.status = .completed) :
    (db.move r' ts es).ratingsReceived (fun r => r.driverId = some driverId) ratings raterRole =
      db.ratingsReceived (fun r => r.driverId = some driverId) ratings raterRole := by
  refine ratingsReceived_congr raterRole fun x => ?_
  rw [RideDb.ride?_move, RideDb.ride?_put hr ht]
  by_cases hx : x = r.id
  · rw [if_pos hx, hx, hr]
    have hmine : decide (r'.driverId = some driverId) = decide (r.driverId = some driverId) := by
      rw [hdriver]
    exact congrArg₂ (· && ·) hmine (decide_eq_decide.mpr hcompleted)
  · rw [if_neg hx]

/-! ## Marking a no-show -/

/-- What a no-show that is marked makes of the ride. -/
structure MarksNoShow (db : RideDb) (r r' : Ride) (db' : RideDb) : Prop where
  found : db.ride? r.id = some r
  trip : Ride.SameTrip r r'
  arrived : r.status = .arrived
  cancelled : r'.status = .cancelledByDriver
  driverId : r'.driverId = r.driverId
  emergencyStatus : r'.emergencyStatus = r.emergencyStatus
  after : ∃ ts, db' = db.move r' ts []

theorem marksNoShow_of_succeeds (hop : c.op = .markNoShow x) (hok : RideStep.Succeeds env c ask db) :
    ∃ r r', r.id = x ∧ MarksNoShow db r r' ((RideStep.request c ask).after env db) := by
  have hleads : Leads ask (fun _ => True) (fun _ _ cur => MovesRide env ask c db x cur) (c.action env) db db := by
    unfold RideCall.action
    rw [hop]
    refine Leads.bind_reads (reads_requireBusinessDriver c.actor) trivial fun _ => ?_
    refine Leads.bind ((leads_markPassengerNoShow hop).mono (fun _ _ => trivial) fun _ _ _ h => h.2) ?_
    intro _ base cur hmoves
    exact Leads.of_bind_ret (Leads.bind_reads (reads_releaseDriverOf x) trivial fun _ => Leads.ret hmoves)
  obtain ⟨-, r, r', ts, es, hid, hr, hmove, -, hafter⟩ := Leads.run_ok hleads hok
  have htrip := hmove.sameTrip
  refine ⟨r, r', hid, ?_⟩
  cases hmove with
  | absent _ _ hstatus _ _ hr' =>
    have hafter' : (RideStep.request c ask).after env db = db.move r' r'.statusHistory [] := hafter
    refine ⟨hr, htrip, hstatus, ?_, ?_, ?_, _, hafter'⟩
    · rw [hr']
      rfl
    · rw [hr']
      rfl
    · rw [hr']
      rfl
  | waitStopped hop' => rcases hop' with hop' | ⟨_, hop'⟩ <;> exact nomatch hop.symm.trans hop'
  | lost hop' => rcases hop' with hop' | hop' <;> exact nomatch hop.symm.trans hop'
  | patched hop' | completed hop' | earlyStopAsked hop' | stoppedEarly hop' | arrived hop' | started hop'
  | wrongCode hop' | waitStarted hop' | supplementDecided hop' | cancelled hop' | shared hop' | alerted hop'
  | accepted hop' => exact nomatch hop.symm.trans hop'

theorem ratingAvg_move {ts : List RideStatusTransition} {es : List PriorityEvent}
    (hr : db.ride? r.id = some r) (ht : Ride.SameTrip r r') (hdriver : r'.driverId = r.driverId)
    (hcompleted : r'.status = .completed ↔ r.status = .completed) :
    ((db.move r' ts es).driverScoringStats ratings driverId).ratingAvg
      = (db.driverScoringStats ratings driverId).ratingAvg := by
  change RideDb.ratingAverage _ = RideDb.ratingAverage _
  rw [ratingsReceived_move hr ht hdriver hcompleted]

/-- A change that keeps the status and the driver of a ride. -/
theorem score_move {ts : List RideStatusTransition} {es : List PriorityEvent} (hr : db.ride? r.id = some r)
    (ht : Ride.SameTrip r r') (hdriver : r'.driverId = r.driverId) (hstatus : r'.status = r.status) :
    ((db.move r' ts es).driverScoringStats ratings driverId).score
      = (db.driverScoringStats ratings driverId).score := by
  have hcount : ∀ p : RideStatus → Bool,
      (db.move r' ts es).countRides (fun r => r.driverId = some driverId) (fun r => p r.status) =
        db.countRides (fun r => r.driverId = some driverId) (fun r => p r.status) := by
    intro p
    rw [countRides_move p hr ht hdriver, hstatus]
    exact sub_add_cancel _ _
  refine ScoringStats.score_congr ?_ ?_ ?_ (ratingAvg_move hr ht hdriver (by rw [hstatus]))
  · exact hcount fun s => s = .completed ∨ s = .cancelledByDriver
  · exact hcount fun s => s = .completed
  · exact hcount fun s => s = .cancelledByDriver

/-- A no-show costs its driver nothing if one more cancellation does, and the other drivers nothing. -/
theorem MarksNoShow.noPenalty (h : MarksNoShow db r r' db')
    (hspares : r.driverId = some driverId → (db.driverScoringStats ratings driverId).SparesCancellation) :
    NoPenalty ratings driverId db db' := by
  obtain ⟨ts, rfl⟩ := h.after
  have hledger : (db.move r' ts []).cancellationsOf driverId = db.cancellationsOf driverId := by
    unfold RideDb.cancellationsOf
    exact congrArg _ (List.append_nil db.priorityEvents)
  refine ⟨le_of_eq ?_, hledger⟩
  have hrating := @ratingAvg_move db r r' ratings driverId ts [] h.found h.trip h.driverId
    (by rw [h.cancelled, h.arrived]; decide)
  have hcount : ∀ p : RideStatus → Bool,
      (db.move r' ts []).countRides (fun r => r.driverId = some driverId) (fun r => p r.status) = _ - _ + _ :=
    fun p => countRides_move p h.found h.trip h.driverId
  have heligible := hcount fun s => s = .completed ∨ s = .cancelledByDriver
  have hcompleted := hcount fun s => s = .completed
  have hcancelled := hcount fun s => s = .cancelledByDriver
  rw [h.arrived, h.cancelled] at heligible hcompleted hcancelled
  by_cases hdriver : r.driverId = some driverId
  · rw [decide_eq_true hdriver] at heligible hcompleted
    refine (ScoringStats.score_of_more (hspares hdriver) (eligibleRides_eq _ _ _) (eligibleRides_eq _ _ _)
      (countRides_nonneg _ _ _) ?_ ?_ hrating).symm
    · exact heligible.trans (by rw [if_neg (by decide), if_pos (by decide), sub_zero]; rfl)
    · exact hcompleted.trans (by rw [if_neg (by decide), if_neg (by decide), sub_zero, add_zero]; rfl)
  · rw [decide_eq_false hdriver] at heligible hcompleted hcancelled
    refine (ScoringStats.score_congr ?_ ?_ ?_ hrating).symm
    · exact heligible.trans (by simp only [Bool.false_and, Bool.false_eq_true, if_false, sub_zero, add_zero]; rfl)
    · exact hcompleted.trans (by simp only [Bool.false_and, Bool.false_eq_true, if_false, sub_zero, add_zero]; rfl)
    · exact hcancelled.trans (by simp only [Bool.false_and, Bool.false_eq_true, if_false, sub_zero, add_zero]; rfl)

/-! ## Retries -/

/-- What a retry leaves behind: nothing is recorded, and the ride keeps its status and its driver. -/
def RetriedQuietly (db : RideDb) (x : UUID) (db' : RideDb) : Prop :=
  db' = db ∨ ∃ r r' ts, r.id = x ∧ db.ride? r.id = some r ∧ Ride.SameTrip r r' ∧ r'.status = r.status ∧
    r'.driverId = r.driverId ∧ db' = db.move r' ts []

/-- A rejected request of another kind than a start leaves everything as it is. -/
theorem Rejected.eq_of_op (h : Rejected env ask c db db') (hop : ∀ rideId code, c.op ≠ .startRide rideId code) :
    db' = db := by
  cases h with
  | unchanged => rfl
  | wrongCode hstart => exact absurd hstart (hop _ _)

theorem moves_of_patch {status : String} {newStatus : RideStatus} (hop : c.op = .updateStatus x status)
    (hnew : rideStatusOf status = some newStatus) (hcompleted : newStatus ≠ .completed)
    (hok : RideStep.Succeeds env c ask db) : MovesRide env ask c db x ((RideStep.request c ask).after env db) := by
  have hleads : Leads ask (fun _ => True) (fun _ _ cur => MovesRide env ask c db x cur) (c.action env) db db := by
    unfold RideCall.action
    rw [hop]
    dsimp only
    unfold updateStatusRoute
    refine leads_requireBusinessDriver trivial fun hactor => ?_
    rw [hnew]
    dsimp only
    rw [if_neg hcompleted]
    refine Leads.bind ((leads_updateStatus hop hnew hactor).mono (fun _ _ => trivial) fun _ _ _ h => h.2) ?_
    rintro _ base cur (⟨-, h, -⟩ | hmoves)
    · exact absurd h hcompleted
    · exact Leads.ret hmoves
  obtain ⟨-, h⟩ := Leads.run_ok hleads hok
  exact h

theorem retriedQuietly_step {step : RideStep} (hstep : step.RetriesNoShow x) (hr : db.ride? x = some r)
    (hstatus : r.status = .cancelledByDriver)
    (hrepeats : ¬ (LedgerStep.ride step).RepeatsCancellation db) :
    RetriedQuietly db x (step.after env db) := by
  cases step with
  | elsewhere => exact hstep.elim
  | request c ask =>
    have hdraws : (RideStep.request c ask).Draws db := by
      intro id hid
      obtain ⟨op, actor, config, clock⟩ := c
      rcases hstep with hop | hop <;> obtain rfl := hop <;> cases hid
    rcases @request_cases ask env c db hdraws with ⟨hok, -⟩ | ⟨-, hrejected⟩
    · obtain rfl := RideDb.id_of_ride? hr
      rcases hstep with hop | hop
      · obtain ⟨r₀, r', hid, hmarks⟩ := marksNoShow_of_succeeds hop hok
        obtain rfl := Option.some.inj (hr.symm.trans (hid ▸ hmarks.found))
        exact nomatch hmarks.arrived.symm.trans hstatus
      · obtain ⟨r₀, r', ts, es, hid, hr₀, hmove, -, hafter⟩ := moves_of_patch hop rfl (by decide) hok
        obtain rfl := Option.some.inj (hr.symm.trans (hid ▸ hr₀))
        obtain ⟨hsame, hdriver, rfl⟩ := hmove.outcome.of_over (by rw [hstatus]; rfl) hr hrepeats
        exact Or.inr ⟨r, r', ts, rfl, hr, hmove.sameTrip, hsame, hdriver, hafter⟩
    · refine Or.inl (hrejected.eq_of_op ?_)
      intro rideId code hop'
      rcases hstep with hop | hop <;> exact nomatch hop.symm.trans hop'

theorem RetriedQuietly.noPenalty (h : RetriedQuietly db x db') (ratings : List RideRating) (driverId : UUID) :
    NoPenalty ratings driverId db db' := by
  rcases h with rfl | ⟨r, r', ts, -, hr, ht, hstatus, hdriver, rfl⟩
  · exact ⟨le_rfl, rfl⟩
  · refine ⟨(score_move hr ht hdriver hstatus).ge, ?_⟩
    unfold RideDb.cancellationsOf
    exact congrArg _ (List.append_nil db.priorityEvents)

theorem RetriedQuietly.statusOf (h : RetriedQuietly db x db') (hr : db.ride? x = some r) :
    ∃ r', db'.ride? x = some r' ∧ r'.status = r.status := by
  rcases h with rfl | ⟨r₀, r', ts, rfl, hr₀, ht, hstatus, -, rfl⟩
  · exact ⟨r, hr, rfl⟩
  · obtain rfl := Option.some.inj (hr.symm.trans hr₀)
    exact ⟨r'.toDomain, by rw [RideDb.ride?_move, RideDb.ride?_put_self hr ht], hstatus⟩

theorem NoPenalty.trans {db'' : RideDb} (h : NoPenalty ratings driverId db db')
    (h' : NoPenalty ratings driverId db' db'') : NoPenalty ratings driverId db db'' :=
  ⟨h.score.trans h'.score, h'.ledger.trans h.ledger⟩

theorem noPenalty_retries {retries : List RideStep} (hretries : ∀ step ∈ retries, step.RetriesNoShow x)
    (hr : db.ride? x = some r) (hstatus : r.status = .cancelledByDriver)
    (hrepeats : EachStep (RideStep.after env) (fun step db => ¬ (LedgerStep.ride step).RepeatsCancellation db)
      retries db) (ratings : List RideRating) (driverId : UUID) :
    NoPenalty ratings driverId db (runRides env retries db) := by
  induction retries generalizing db r with
  | nil => exact ⟨le_rfl, rfl⟩
  | cons step retries ih =>
    have hquiet : RetriedQuietly db x (step.after env db) :=
      retriedQuietly_step (hretries step List.mem_cons_self) hr hstatus hrepeats.1
    obtain ⟨r', hr', hstatus'⟩ := hquiet.statusOf hr
    have hrest := ih (fun s hs => hretries s (List.mem_cons_of_mem step hs)) hr' (hstatus'.trans hstatus)
      hrepeats.2
    exact (hquiet.noPenalty ratings driverId).trans hrest

end DiddiGo.Rides
