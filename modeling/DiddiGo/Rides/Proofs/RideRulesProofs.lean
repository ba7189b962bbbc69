import DiddiGo.Rides.Proofs.RideDbProofs
import DiddiGo.Transactions.Proofs.LeadsProofs

/-!
# Rules for the parts of ride requests

One rule for each routine that ride requests are made of, to follow a request from its first statement to
its last one. A routine that raises leaves behind what was committed before.
-/

namespace DiddiGo.Rides

open Data (Json Keyed Table)
open Transactions Prog

variable {α β : Type} {ask : Query → Answer} {E : RideDb → Prop} {Q : α → RideDb → RideDb → Prop}
  {base cur : RideDb}

/-! ## Errors and answers -/

theorem leads_apiError {statusCode : Nat} {code message : String} {details : Json} (hE : E base) :
    Leads ask E Q (apiError statusCode code message details) base cur := Leads.raise hE

theorem leads_throw {e : Err} (hE : E base) : Leads ask E Q (throw e : Action α) base cur :=
  Leads.raise hE

theorem leads_apiErrorIf {c : Prop} [Decidable c] {statusCode : Nat} {code message : String}
    {details : Json} {f : Unit → Action α} (hE : E base)
    (h : ¬ c → Leads ask E Q (f ()) base cur) :
    Leads ask E Q (apiErrorIf c statusCode code message details >>= f) base cur :=
  Leads.bind_raiseIf hE h

theorem leads_askFor {read : Reply → Option β} {q : Query} {f : β → Action α} (hE : E base)
    (h : ∀ b reply, ask q = .ok reply → read reply = some b → Leads ask E Q (f b) base cur) :
    Leads ask E Q (askFor read q >>= f) base cur := by
  have hspec : Leads ask E (fun b base' cur' => base' = base ∧ cur' = cur ∧
      ∃ reply, ask q = .ok reply ∧ read reply = some b) (askFor read q) base cur := by
    refine Leads.bind_ask ?_
    cases ha : ask q with
    | error e => exact leads_throw hE
    | ok reply =>
      dsimp only
      cases hr : read reply with
      | none => exact leads_throw hE
      | some b => exact Leads.ret ⟨rfl, rfl, reply, rfl, hr⟩
  refine hspec.bind ?_
  rintro b _ _ ⟨rfl, rfl, reply, ha, hr⟩
  exact h b reply ha hr

theorem leads_tell {q : Query} {f : Unit → Action α} (hE : E base)
    (h : Leads ask E Q (f ()) base cur) : Leads ask E Q (tell q >>= f) base cur :=
  leads_askFor hE fun _ _ _ _ => h

/-! ## Who may do what -/

theorem exec_isAssignedDriver (ride : Ride) (userId : UUID) :
    (isAssignedDriver ride userId).exec ask base cur = (.ok (cur.assigned ride userId), base, cur) := by
  unfold isAssignedDriver RideDb.assigned
  cases ride.driverId <;> rfl

theorem leads_isAssignedDriver {ride : Ride} {userId : UUID} {f : Bool → Action α}
    (h : Leads ask E Q (f (cur.assigned ride userId)) base cur) :
    Leads ask E Q (isAssignedDriver ride userId >>= f) base cur := by
  refine Leads.bind (R := fun b base' cur' => b = cur.assigned ride userId ∧ base' = base ∧ cur' = cur)
    (Leads.of_exec (exec_isAssignedDriver ride userId) ⟨rfl, rfl, rfl⟩) ?_
  rintro _ _ _ ⟨rfl, rfl, rfl⟩
  exact h

theorem leads_checkDriver {ride : Ride} {actor : Actor} {message : String} {f : Unit → Action α}
    (hE : E base) (h : cur.MayDrive ride actor → Leads ask E Q (f ()) base cur) :
    Leads ask E Q (checkDriver ride actor message >>= f) base cur := by
  have hspec : Leads ask E (fun _ base' cur' => base' = base ∧ cur' = cur ∧ cur.MayDrive ride actor)
      (checkDriver ride actor message) base cur := by
    unfold checkDriver
    by_cases hadmin : actor.isAdmin = true
    · rw [if_pos hadmin]
      exact Leads.ret ⟨rfl, rfl, Or.inl hadmin⟩
    · rw [if_neg hadmin]
      refine leads_isAssignedDriver ?_
      unfold apiErrorIf raiseIf
      split_ifs with hassigned
      · exact Leads.raise hE
      · exact Leads.ret ⟨rfl, rfl, Or.inr (Bool.eq_true_of_not_eq_false hassigned)⟩
  refine hspec.bind ?_
  rintro _ _ _ ⟨rfl, rfl, hmay⟩
  exact h hmay

theorem leads_requireBusinessDriver {actor : Actor} {f : Unit → Action α} (hE : E base)
    (h : cur.BusinessDriver actor → Leads ask E Q (f ()) base cur) :
    Leads ask E Q (requireBusinessDriver actor >>= f) base cur := by
  have hspec : Leads ask E (fun _ base' cur' => base' = base ∧ cur' = cur ∧ cur.BusinessDriver actor)
      (requireBusinessDriver actor) base cur := by
    unfold requireBusinessDriver
    by_cases hadmin : actor.isAdmin = true
    · rw [if_pos hadmin]
      exact Leads.ret ⟨rfl, rfl, Or.inl hadmin⟩
    · rw [if_neg hadmin]
      refine Leads.bind_select ?_
      cases hprofile : cur.profileOf actor.userId with
      | none => exact leads_apiError hE
      | some profile =>
        refine Leads.of_bind_ret (leads_apiErrorIf hE fun hactive => ?_)
        exact Leads.ret ⟨rfl, rfl, Or.inr ⟨profile, hprofile, not_not.mp hactive⟩⟩
  refine hspec.bind ?_
  rintro _ _ _ ⟨rfl, rfl, hactor⟩
  exact h hactor

theorem reads_isAssignedDriver (ride : Ride) (userId : UUID) : (isAssignedDriver ride userId).Reads :=
  fun ask base cur => by rw [exec_isAssignedDriver]

theorem reads_apiErrorIf (c : Prop) [Decidable c] (statusCode : Nat) (code message : String)
    (details : Json) : (apiErrorIf c statusCode code message details).Reads := Reads.raiseIf _ _

theorem reads_loadRide (rideId : UUID) : (loadRide rideId).Reads := by
  refine Reads.bind (Reads.select _) fun found => ?_
  cases found with
  | none => exact Reads.raise _
  | some r => exact Reads.ret _

theorem reads_checkDriver (ride : Ride) (actor : Actor) (message : String) :
    (checkDriver ride actor message).Reads := by
  unfold checkDriver
  split_ifs
  · exact Reads.ret _
  · exact Reads.bind (reads_isAssignedDriver _ _) fun _ => reads_apiErrorIf _ _ _ _ _

theorem reads_checkParticipant (ride : Ride) (actor : Actor) : (checkParticipant ride actor).Reads := by
  refine Reads.bind ?_ fun _ => reads_apiErrorIf _ _ _ _ _
  unfold isParticipant
  split_ifs
  · exact Reads.ret _
  · exact reads_isAssignedDriver _ _

theorem reads_requireBusinessDriver (actor : Actor) : (requireBusinessDriver actor).Reads := by
  unfold requireBusinessDriver
  split_ifs
  · exact Reads.ret _
  · refine Reads.bind (Reads.select _) fun profile => ?_
    cases profile with
    | none => exact Reads.raise _
    | some p => exact reads_apiErrorIf _ _ _ _ _

theorem reads_askFor (read : Reply → Option β) (q : Query) : (askFor read q).Reads := by
  refine Reads.bind (Reads.ask q) fun a => ?_
  cases a with
  | error e => exact Reads.raise _
  | ok reply =>
    dsimp only
    cases read reply with
    | none => exact Reads.raise _
    | some b => exact Reads.ret _

theorem reads_tell (q : Query) : (tell q).Reads := reads_askFor _ _

/-! ## Loading and writing rides -/

theorem leads_loadRide {rideId : UUID} {f : Ride → Action α} (hE : E base)
    (h : ∀ r, cur.ride? rideId = some r → Leads ask E Q (f r) base cur) :
    Leads ask E Q (loadRide rideId >>= f) base cur := by
  have hspec : Leads ask E (fun r base' cur' => base' = base ∧ cur' = cur ∧ cur.ride? rideId = some r)
      (loadRide rideId) base cur := by
    refine Leads.bind_select ?_
    cases hr : cur.ride? rideId with
    | none =>
      rw [show (cur.rides.find? rideId).map Ride.toDomain = none from hr]
      exact leads_apiError hE
    | some r =>
      rw [show (cur.rides.find? rideId).map Ride.toDomain = some r from hr]
      exact Leads.ret ⟨rfl, rfl, rfl⟩
  refine hspec.bind ?_
  rintro r _ _ ⟨rfl, rfl, hr⟩
  exact h r hr

@[simp] theorem Ride.status_enter (r : Ride) (newStatus : RideStatus) (now : DateTime)
    (metadata : Option Json) : (r.enter newStatus now metadata).status = newStatus := rfl

/-- What `transition` does to a ride whose status changes. -/
theorem Ride.transition_eq_some {r r' : Ride} {newStatus : RideStatus} {now : DateTime}
    {metadata : Option Json} (h : r.transition newStatus now metadata = some r')
    (hne : newStatus ≠ r.status) :
    newStatus ∈ r.status.allowedTransitions ∧ r' = r.enter newStatus now metadata := by
  unfold transition at h
  rw [if_neg hne] at h
  by_cases hallowed : newStatus ∈ r.status.allowedTransitions
  · rw [if_pos hallowed] at h
    exact ⟨hallowed, (Option.some.inj h).symm⟩
  · rw [if_neg hallowed] at h
    cases h

/-- What `transition` does to a ride. -/
theorem Ride.transition_cases {r r' : Ride} {newStatus : RideStatus} {now : DateTime}
    {metadata : Option Json} (h : r.transition newStatus now metadata = some r') :
    newStatus = r.status ∧ r' = r ∨
      newStatus ≠ r.status ∧ newStatus ∈ r.status.allowedTransitions ∧
        r' = r.enter newStatus now metadata := by
  by_cases hne : newStatus = r.status
  · unfold transition at h
    rw [if_pos hne] at h
    exact Or.inl ⟨hne, (Option.some.inj h).symm⟩
  · exact Or.inr ⟨hne, transition_eq_some h hne⟩

theorem leads_transitionOrRaise {ride : Ride} {newStatus : RideStatus} {now : DateTime}
    {metadata : Option Json} {f : Ride → Action α} (hE : E base) (hne : newStatus ≠ ride.status)
    (h : newStatus ∈ ride.status.allowedTransitions →
      Leads ask E Q (f (ride.enter newStatus now metadata)) base cur) :
    Leads ask E Q (transitionOrRaise ride newStatus now metadata >>= f) base cur := by
  unfold transitionOrRaise
  cases ht : ride.transition newStatus now metadata with
  | none => exact Leads.bind_raise hE
  | some r =>
    obtain ⟨hallowed, rfl⟩ := Ride.transition_eq_some ht hne
    exact Leads.bind_ret (h hallowed)

/-- A ride that is there is written. -/
theorem leads_save {read ride r : Ride} {f : Unit → Action α} (hE : E base)
    (hr : cur.ride? ride.id = some r)
    (h : cur.Admits ride → Leads ask E Q (f ()) base (cur.put ride)) :
    Leads ask E Q (save read ride >>= f) base cur := by
  have hspec : Leads ask E (fun _ base' cur' => base' = base ∧ cur' = cur.put ride ∧ cur.Admits ride)
      (save read ride) base cur := by
    obtain ⟨row, hrow, -⟩ := RideDb.ride?_eq_some.mp hr
    refine Leads.bind_selectAs ?_
    rw [hrow]
    unfold Leads
    rw [exec_writeOrRaiseAs]
    cases hc : cur.conflict (cur.flushed row ride) with
    | true => exact hE
    | false => exact ⟨rfl, RideDb.flushRide_eq_put hrow, RideDb.admits_of_flushed hrow hc⟩
  refine hspec.bind ?_
  rintro _ _ _ ⟨rfl, rfl, hfree⟩
  exact h hfree

/-- A new ride is written. -/
theorem leads_save_new {read ride : Ride} {f : Unit → Action α} (hE : E base)
    (hr : cur.ride? ride.id = none)
    (h : cur.Admits ride → Leads ask E Q (f ()) base (cur.insertRide ride)) :
    Leads ask E Q (save read ride >>= f) base cur := by
  have hspec : Leads ask E
      (fun _ base' cur' => base' = base ∧ cur' = cur.insertRide ride ∧ cur.Admits ride)
      (save read ride) base cur := by
    have hnone : cur.rides.find? ride.id = none := by simpa [RideDb.ride?] using hr
    refine Leads.bind_selectAs ?_
    rw [hnone]
    unfold Leads
    rw [exec_writeOrRaise, hnone]
    cases hc : cur.conflict ride with
    | true => exact hE
    | false => exact ⟨rfl, rfl, RideDb.admits_of_conflict hc⟩
  refine hspec.bind ?_
  rintro _ _ _ ⟨rfl, rfl, hfree⟩
  exact h hfree

theorem exec_recordStatusTransitions (ts : List RideStatusTransition) (cur : RideDb) :
    (recordStatusTransitions ts).exec ask base cur = (.ok (), base, cur.logged ts) := by
  induction ts generalizing cur with
  | nil => rw [RideDb.logged_nil]; rfl
  | cons t ts ih =>
    change (recordStatusTransitions ts).exec ask base (cur.logged [t]) = _
    rw [ih]
    simp only [RideDb.logged, List.append_assoc, List.singleton_append]

theorem leads_recordStatusTransitions {ts : List RideStatusTransition} {f : Unit → Action α}
    (h : Leads ask E Q (f ()) base (cur.logged ts)) :
    Leads ask E Q (recordStatusTransitions ts >>= f) base cur := by
  refine Leads.bind (R := fun _ base' cur' => base' = base ∧ cur' = cur.logged ts)
    (Leads.of_exec (exec_recordStatusTransitions ts cur) ⟨rfl, rfl⟩) ?_
  rintro _ _ _ ⟨rfl, rfl⟩
  exact h

theorem leads_recordLastTransition {ride : Ride} {t : RideStatusTransition} {f : Unit → Action α}
    (ht : ride.statusHistory = [t]) (h : Leads ask E Q (f ()) base (cur.logged ride.statusHistory)) :
    Leads ask E Q (recordLastTransition ride >>= f) base cur := by
  unfold recordLastTransition
  rw [ht] at h ⊢
  exact Leads.bind_update h

theorem leads_recordRideOutcome {cfg : DispatchConfig} {ride : Ride} {f : Unit → Action α}
    (h : Leads ask E Q (f ()) base (cur.withEvents (outcomesOf cfg ride))) :
    Leads ask E Q (recordRideOutcome cfg ride >>= f) base cur := by
  have hspec : Leads ask E
      (fun _ base' cur' => base' = base ∧ cur' = cur.withEvents (outcomesOf cfg ride))
      (recordRideOutcome cfg ride) base cur := by
    unfold recordRideOutcome outcomesOf
    cases outcomeKind ride.status with
    | none => exact Leads.ret ⟨rfl, (RideDb.withEvents_nil cur).symm⟩
    | some kind =>
      cases ride.driverId with
      | none => exact Leads.ret ⟨rfl, (RideDb.withEvents_nil cur).symm⟩
      | some driverId => exact ⟨rfl, rfl⟩
  refine hspec.bind ?_
  rintro _ _ _ ⟨rfl, rfl⟩
  exact h

end DiddiGo.Rides
