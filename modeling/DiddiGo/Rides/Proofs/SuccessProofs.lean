import DiddiGo.Rides.Gate
import DiddiGo.Rides.Proofs.RideRunsProofs

/-!
# Requests that go through

Rules to show that a request returns: each check passes, each command is answered, and no other ride has
a unique key of the ride that is written. For the last one, no two rides ever share a unique key.
-/

namespace DiddiGo.Rides

open Data (Json Keyed Table)
open Transactions Prog

variable {α β : Type} {ask : Query → Answer} {E : RideDb → Prop} {Q : α → RideDb → RideDb → Prop}
  {base cur db db' : RideDb} {env : Env} {c : RideCall} {r r' : Ride} {ts : List RideStatusTransition}
  {es : List PriorityEvent} {steps : List RideStep}

/-! ## Checks that pass -/

theorem leads_apiErrorIf_of_not {p : Prop} [Decidable p] {statusCode : Nat} {code message : String}
    {details : Json} {f : Unit → Action α} (hp : ¬ p) (h : Leads ask E Q (f ()) base cur) :
    Leads ask E Q (apiErrorIf p statusCode code message details >>= f) base cur := by
  unfold apiErrorIf raiseIf
  rw [if_neg hp]
  exact Leads.bind_ret h

theorem leads_tell_of_answer {q : Query} {reply : Reply} {f : Unit → Action α} (hq : ask q = .ok reply)
    (h : Leads ask E Q (f ()) base cur) : Leads ask E Q (tell q >>= f) base cur := by
  refine Leads.bind (R := fun _ base' cur' => base' = base ∧ cur' = cur) ?_ ?_
  · refine Leads.bind_ask ?_
    rw [hq]
    exact Leads.ret ⟨rfl, rfl⟩
  · rintro _ _ _ ⟨rfl, rfl⟩
    exact h

theorem leads_loadRide_of_found {rideId : UUID} {f : Ride → Action α} (hr : cur.ride? rideId = some r)
    (h : Leads ask E Q (f r) base cur) : Leads ask E Q (loadRide rideId >>= f) base cur := by
  refine Leads.bind (R := fun x base' cur' => x = r ∧ base' = base ∧ cur' = cur) ?_ ?_
  · refine Leads.bind_select ?_
    rw [show (cur.rides.find? rideId).map Ride.toDomain = some r from hr]
    exact Leads.ret ⟨rfl, rfl, rfl⟩
  · rintro _ _ _ ⟨rfl, rfl, rfl⟩
    exact h

theorem leads_checkDriver_of_may {actor : Actor} {message : String} {f : Unit → Action α}
    (hmay : cur.MayDrive r actor) (h : Leads ask E Q (f ()) base cur) :
    Leads ask E Q (checkDriver r actor message >>= f) base cur := by
  unfold checkDriver
  by_cases hadmin : actor.isAdmin = true
  · rw [if_pos hadmin]
    exact Leads.bind_ret h
  · rw [if_neg hadmin]
    have hassigned := hmay.resolve_left hadmin
    refine Leads.bind (R := fun _ base' cur' => base' = base ∧ cur' = cur) ?_ ?_
    · refine leads_isAssignedDriver ?_
      rw [hassigned]
      exact Leads.of_bind_ret (leads_apiErrorIf_of_not Bool.noConfusion (Leads.ret ⟨rfl, rfl⟩))
    · rintro _ _ _ ⟨rfl, rfl⟩
      exact h

theorem leads_requireBusinessDriver_of_business {actor : Actor} {f : Unit → Action α}
    (hactor : cur.BusinessDriver actor) (h : Leads ask E Q (f ()) base cur) :
    Leads ask E Q (requireBusinessDriver actor >>= f) base cur := by
  refine Leads.bind (R := fun _ base' cur' => base' = base ∧ cur' = cur) ?_ ?_
  · unfold requireBusinessDriver
    by_cases hadmin : actor.isAdmin = true
    · rw [if_pos hadmin]
      exact Leads.ret ⟨rfl, rfl⟩
    · rw [if_neg hadmin]
      obtain ⟨profile, hprofile, hactive⟩ := hactor.resolve_left hadmin
      refine Leads.bind_select ?_
      rw [hprofile]
      exact Leads.of_bind_ret (leads_apiErrorIf_of_not (not_not.mpr hactive) (Leads.ret ⟨rfl, rfl⟩))
  · rintro _ _ _ ⟨rfl, rfl⟩
    exact h

theorem leads_transitionOrRaise_of_allowed {newStatus : RideStatus} {now : DateTime}
    {metadata : Option Json} {f : Ride → Action α} (hne : newStatus ≠ r.status)
    (hallowed : newStatus ∈ r.status.allowedTransitions)
    (h : Leads ask E Q (f (r.enter newStatus now metadata)) base cur) :
    Leads ask E Q (transitionOrRaise r newStatus now metadata >>= f) base cur := by
  unfold transitionOrRaise Ride.transition
  rw [if_neg hne, if_pos hallowed]
  exact Leads.bind_ret h

/-- A program that always returns does what it is known to do whenever it returns. -/
theorem Leads.of_returns {E' : RideDb → Prop} {p : Action α} (h : Leads ask E' Q p base cur)
    (hret : Leads ask (fun _ => False) (fun _ _ _ => True) p base cur) : Leads ask E Q p base cur := by
  unfold Leads at h hret ⊢
  rcases hp : p.exec ask base cur with ⟨e | a, base', cur'⟩
  · rw [hp] at hret
    exact hret.elim
  · rw [hp] at h ⊢
    exact h

/-! ## Unique keys -/

theorem conflict_eq_false (hfree : db.Admits r) : db.conflict r = false := by
  refine List.any_eq_false.mpr fun x hx hcond => ?_
  have hcond := of_decide_eq_true hcond
  have hfound : db.rides.find? x.id = some x := Table.find?_key_of_mem hx
  exact hfree x.id x.toDomain (RideDb.ride?_eq_some.mpr ⟨x, hfound, rfl⟩) hcond.1
    (RideDb.conflicts_toDomain.mpr hcond.2)

theorem leads_save_of_admits {read ride : Ride} {f : Unit → Action α} (hr : cur.ride? ride.id = some r)
    (hfree : cur.Admits ride) (h : Leads ask E Q (f ()) base (cur.put ride)) :
    Leads ask E Q (save read ride >>= f) base cur := by
  obtain ⟨row, hrow, -⟩ := RideDb.ride?_eq_some.mp hr
  have hconflict : cur.conflict (cur.flushed row ride) = false := by
    have hflushed : cur.flushed row ride = ride.storedOver row := by
      unfold RideDb.flushed
      rw [hrow, Option.getD_some, Ride.flush_self]
    have hid : row.id = ride.id := Table.key_of_find? hrow
    rw [hflushed]
    refine conflict_eq_false fun id x hx hne hc => hfree id x hx ?_ (RideDb.conflicts_storedOver.mp hc)
    rw [← hid]
    exact hne
  refine Leads.bind (R := fun _ base' cur' => base' = base ∧ cur' = cur.put ride) ?_ ?_
  · refine Leads.bind_selectAs ?_
    rw [hrow]
    unfold Leads
    rw [exec_writeOrRaiseAs, hconflict]
    exact ⟨rfl, RideDb.flushRide_eq_put hrow⟩
  · rintro _ _ _ ⟨rfl, rfl⟩
    exact h

theorem Ride.Conflicts.symm {r x : Ride} (h : r.Conflicts x) : x.Conflicts r := by
  rcases h with ⟨h, he⟩ | ⟨h, he⟩ | ⟨h, he⟩
  · exact Or.inl ⟨he ▸ h, he.symm⟩
  · exact Or.inr (Or.inl ⟨he ▸ h, he.symm⟩)
  · exact Or.inr (Or.inr ⟨he ▸ h, he.symm⟩)

/-- A ride that is there may be written with the same keys, or with fewer. -/
theorem RideDb.Distinct.admits (h : db.Distinct) (hr : db.ride? r.id = some r) (hid : r'.id = r.id)
    (hdriver : r'.activeDriver = r.activeDriver ∨ r'.activeDriver = none) (hquote : r'.quoteId = r.quoteId)
    (hshare : r'.shareToken = r.shareToken) : db.Admits r' := by
  intro id x hx hne hc
  refine h r.id id r x hr hx (fun he => hne (by rw [hid, ← he])) ?_
  rcases hc with ⟨hsome, he⟩ | ⟨hsome, he⟩ | ⟨hsome, he⟩
  · rcases hdriver with hdriver | hdriver
    · exact Or.inl ⟨hdriver ▸ hsome, he.trans hdriver⟩
    · rw [hdriver] at hsome
      cases hsome
  · exact Or.inr (Or.inl ⟨hquote ▸ hsome, he.trans hquote⟩)
  · exact Or.inr (Or.inr ⟨hshare ▸ hsome, he.trans hshare⟩)

/-- The unique keys can be checked. -/
theorem RideDb.distinct_of_conflict (h : ∀ r ∈ db.rides.rows, db.conflict r = false) : db.Distinct := by
  intro id id' r r' hr hr' hne hc
  obtain ⟨row, hrow, rfl⟩ := RideDb.ride?_eq_some.mp hr
  obtain ⟨row', hrow', rfl⟩ := RideDb.ride?_eq_some.mp hr'
  have hid : row.id = id := Table.key_of_find? hrow
  have hid' : row'.id = id' := Table.key_of_find? hrow'
  have hnone := List.any_eq_false.mp (h row (Table.mem_of_find? hrow)) row' (Table.mem_of_find? hrow')
  exact hnone (decide_eq_true ⟨fun he => hne (by rw [← hid, ← hid', he]), hc⟩)

theorem RideDb.Distinct.put (h : db.Distinct) (hr : db.ride? r.id = some r) (ht : Ride.SameTrip r r')
    (hfree : db.Admits r') : (db.put r').Distinct := by
  intro id id' x x' hx hx' hne hc
  rw [RideDb.ride?_put hr ht] at hx hx'
  by_cases hid : id = r.id
  · have hid' : id' ≠ r.id := fun h => hne (hid.trans h.symm)
    rw [if_pos hid] at hx
    rw [if_neg hid'] at hx'
    obtain rfl := Option.some.inj hx
    exact hfree id' x' hx' (by rw [ht.id]; exact hid') hc
  · rw [if_neg hid] at hx
    by_cases hid' : id' = r.id
    · rw [if_pos hid'] at hx'
      obtain rfl := Option.some.inj hx'
      exact hfree id x hx (by rw [ht.id]; exact hid) hc.symm
    · rw [if_neg hid'] at hx'
      exact h id id' x x' hx hx' hne hc

theorem RideDb.Distinct.congr (h : db.Distinct) (hrides : ∀ x, db'.ride? x = db.ride? x) : db'.Distinct :=
  fun id id' r r' hr hr' => h id id' r r' ((hrides id).symm.trans hr) ((hrides id').symm.trans hr')

theorem RideDb.Distinct.createRide {quoteId : UUID} {now : DateTime} (h : db.Distinct)
    (hfresh : db.ride? r.id = none) (hfree : db.Admits r) : (db.createRide r quoteId now).Distinct := by
  intro id id' x x' hx hx' hne hc
  rw [RideDb.ride?_createRide hfresh] at hx hx'
  by_cases hid : id = r.id
  · have hid' : id' ≠ r.id := fun h => hne (hid.trans h.symm)
    rw [if_pos hid] at hx
    rw [if_neg hid'] at hx'
    obtain rfl := Option.some.inj hx
    exact hfree id' x' hx' hid' hc
  · rw [if_neg hid] at hx
    by_cases hid' : id' = r.id
    · rw [if_pos hid'] at hx'
      obtain rfl := Option.some.inj hx'
      exact hfree id x hx hid hc.symm
    · rw [if_neg hid'] at hx'
      exact h id id' x x' hx hx' hne hc

theorem Effect.distinct (h : Effect env ask c db db') (hd : db.Distinct) : db'.Distinct := by
  cases h with
  | unchanged => exact hd
  | supplementAdded => exact hd.congr fun _ => rfl
  | created h => exact hd.createRide h.fresh h.admitted
  | @createdLost quote ride lost h hlost =>
    have hcreated : (db.createRide ride quote.id c.clock.now).Distinct :=
      hd.createRide h.fresh h.admitted
    have hdomain : ride.toDomain = ride := by
      obtain ⟨request, method, -, -, rfl⟩ := h.made
      rfl
    have hstored : (db.createRide ride quote.id c.clock.now).ride? ride.id = some ride := by
      rw [RideDb.ride?_createRide h.fresh, if_pos rfl, hdomain]
    have htrip : Ride.SameTrip ride lost := by
      rw [hlost]
      exact sameTrip_enter _ _ _
    refine RideDb.Distinct.congr (hcreated.put hstored htrip ?_) fun _ => rfl
    rw [hlost]
    exact hcreated.admits hstored rfl (Or.inr rfl) rfl rfl
  | moved hr hmove _ hfree => exact (hd.put hr hmove.sameTrip hfree).congr fun _ => rfl
  | alerted hr hmove hfree => exact (hd.put hr hmove.sameTrip hfree).congr fun _ => rfl
  | decided hr hop hactive _ _ _ hdb₁ hfree =>
    rw [hdb₁] at hfree ⊢
    refine RideDb.Distinct.congr (hd.put hr ?_ hfree) fun _ => rfl
    exact ⟨rfl, rfl, rfl⟩

theorem Rejected.distinct (h : Rejected env ask c db db') (hd : db.Distinct) : db'.Distinct := by
  cases h with
  | unchanged => exact hd
  | wrongCode _ hr hmove hfree => exact (hd.put hr hmove.sameTrip hfree).congr fun _ => rfl

/-- No two rides ever share a unique key. -/
theorem distinct_runRides (hdb : Unrequested db)
    (hdraws : EachStep (RideStep.after env) RideStep.Draws steps db) : (runRides env steps db).Distinct := by
  refine inv_runSteps hdraws ?_ ?_
  · intro id id' r r' hr
    unfold RideDb.ride? at hr
    rw [hdb.rides] at hr
    cases hr
  · intro step db hd hdistinct
    cases step with
    | elsewhere patch h => exact hdistinct.congr (h db).ride?
    | request c ask =>
      rcases request_cases hd with ⟨-, h⟩ | ⟨-, h⟩
      · exact h.distinct hdistinct
      · exact h.distinct hdistinct

/-- A request that always returns succeeds. -/
theorem succeeds_of_leads {Q : Unit → RideDb → RideDb → Prop}
    (h : Leads ask (fun _ => False) Q (c.action env) db db) : RideStep.Succeeds env c ask db := by
  unfold RideStep.Succeeds
  unfold Leads at h
  rcases hp : (c.action env).exec ask db db with ⟨e | a, base, cur⟩
  · rw [hp] at h
    exact h.elim
  · rw [run_of_ok _ hp]

end DiddiGo.Rides
