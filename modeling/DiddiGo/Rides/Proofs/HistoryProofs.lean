import DiddiGo.Rides.History
import DiddiGo.Rides.Proofs.WaitingProofs

/-!
# The status history is a faithful trace

As long as no wait is opened and no ride is cancelled through `cancel`, whose callers do not record their
transitions, every change of a status leaves exactly its row.
-/

namespace DiddiGo.Rides

open Data (Json Keyed Table)
open Transactions Prog

variable {ask : Query → Answer} {env : Env} {c : RideCall} {db db' : RideDb} {r r' : Ride}
  {ts : List RideStatusTransition} {es : List PriorityEvent} {steps : List RideStep}

/-! ## Releasing a driver -/

theorem leads_releaseDriverOf_returns {rideId : UUID} {base cur : RideDb} :
    Leads ask (fun _ => True) (fun _ base' cur' => base' = base ∧ cur' = cur ∧
      ∃ r, cur.ride? rideId = some r ∧ Releasable ask cur r) (releaseDriverOf rideId) base cur := by
  unfold releaseDriverOf
  refine leads_loadRide trivial fun r hr => ?_
  unfold releaseDriver
  refine leads_askFor trivial fun _ reply hclear _ => ?_
  cases hdriver : r.driverId with
  | none =>
    exact Leads.ret ⟨rfl, rfl, r, hr, ⟨reply, hclear⟩, fun _ _ h => by rw [hdriver] at h; cases h⟩
  | some driverId =>
    refine Leads.bind_select ?_
    cases hprofile : cur.profiles.find? driverId with
    | none =>
      refine Leads.ret ⟨rfl, rfl, r, hr, ⟨reply, hclear⟩, fun id profile hid hp => ?_⟩
      obtain rfl := Option.some.inj (hdriver.symm.trans hid)
      rw [hprofile] at hp
      cases hp
    | some profile =>
      refine Leads.of_bind_ret (leads_askFor trivial fun _ reply' havailable _ => ?_)
      refine Leads.ret ⟨rfl, rfl, r, hr, ⟨reply, hclear⟩, fun id profile' hid hp => ?_⟩
      obtain rfl := Option.some.inj (hdriver.symm.trans hid)
      obtain rfl := Option.some.inj (hprofile.symm.trans hp)
      exact ⟨reply', havailable⟩

/-- Requests leave the profiles alone. -/
theorem Effect.profiles (h : Effect env ask c db db') : db'.profiles = db.profiles := by
  cases h with
  | decided _ _ _ _ _ _ hdb₁ => rw [hdb₁]; rfl
  | _ => rfl

/-- Only an acceptance changes the driver of a ride. -/
theorem Moves.driverId (h : Moves env ask c db r r' ts es) (hop : c.op ≠ .accept r.id) :
    r'.driverId = r.driverId := by
  have hclosed : ∀ {reason : String} {now : DateTime} {r₁ : Ride}, ClosedWait env reason now r r₁ →
      r₁.driverId = r.driverId := by
    intro reason now r₁ h
    cases h <;> rfl
  cases h with
  | patched _ _ _ _ _ _ ht =>
    rcases Ride.transition_cases ht with ⟨-, rfl⟩ | ⟨-, -, rfl⟩ <;> rfl
  | @completed _ r₁ r₂ _ _ _ hclose _ hprice =>
    rw [← hclosed hclose, show ((r₂.enter .completed c.clock.doneAt).complete).driverId = r₂.driverId from rfl,
      hprice.repriced]
  | @stoppedEarly r₁ r₂ _ fare _ _ _ _ _ hclose hprice _ _ hr₃ =>
    have hrepriced : Repriced r₁ r₂ := hprice.repriced
    rw [← hclosed hclose, hr₃,
      show ((r₂.stopEarly fare c.clock.now).enter .completed c.clock.now _).driverId = r₂.driverId from rfl,
      hrepriced]
  | cancelled _ _ _ _ hclose hr₂ =>
    rw [hr₂, ← hclosed hclose]
    rfl
  | started _ _ _ _ _ _ hr' =>
    rw [hr'.repriced]
    rfl
  | arrived _ _ _ _ _ _ hr' => rw [hr']; rfl
  | absent _ _ _ _ _ hr' => rw [hr']; rfl
  | accepted h => exact absurd h hop
  | lost _ _ hr' => rw [hr']; rfl
  | _ => rfl

/-- A cancellation that succeeds has released the driver. -/
theorem releasable_of_cancel {reason : String} (hop : c.op = .cancel r.id reason)
    (hr : db.ride? r.id = some r) (hok : RideStep.Succeeds env c ask db) : Releasable ask db r := by
  have haction : c.action env
      = cancel env c.config r.id reason c.actor c.clock >>= fun _ => releaseDriverOf r.id := by
    unfold RideCall.action
    rw [hop]
  have hleads : Leads ask (fun _ => True) (fun _ _ _ => Releasable ask db r) (c.action env) db db := by
    rw [haction]
    refine Leads.bind ((leads_cancel hop).mono (fun _ _ => trivial) fun _ _ _ h => h) ?_
    rintro _ base _ ⟨-, r₁, r₂, ts, es, hid₁, hr₁, hmove, -, rfl⟩
    obtain rfl := Option.some.inj (hr.symm.trans (hid₁ ▸ hr₁))
    refine leads_releaseDriverOf_returns.mono (fun _ h => h) ?_
    rintro _ _ _ ⟨-, -, r', hr', hclear, havailable⟩
    have hid : r'.id = r.id := RideDb.id_of_ride? hr'
    rw [RideDb.ride?_move, RideDb.ride?_put_self hr hmove.sameTrip] at hr'
    obtain rfl := Option.some.inj hr'
    have hdriver : r₂.driverId = r.driverId := hmove.driverId (by rw [hop]; exact fun h => nomatch h)
    refine ⟨hid ▸ hclear, fun driverId profile hd hp => ?_⟩
    exact havailable driverId profile (hdriver.trans hd) hp
  obtain ⟨_, h⟩ := Leads.run_ok hleads hok
  exact h

/-! ## One step -/

/-- A change of a ride that leaves exactly its row behind. -/
def RecordsOnce (r r' : Ride) (ts : List RideStatusTransition) : Prop :=
  r'.status = r.status ∧ ts = [] ∨
    r'.status ≠ r.status ∧ r'.status ∈ r.status.allowedTransitions ∧
      ∃ t, ts = [t] ∧ t.rideId = r.id ∧ t.fromStatus = some r.status ∧ t.toStatus = r'.status

/-- The object `r₁` that the new status is entered from may differ from `r` elsewhere. -/
theorem RecordsOnce.enter {r₁ : Ride} {status newStatus : RideStatus} {now : DateTime}
    {metadata : Option Json} (hid : r₁.id = r.id) (hstatus : r.status = status)
    (hstatus₁ : r₁.status = r.status) (hhistory : r₁.statusHistory = []) (hne : newStatus ≠ status)
    (hallowed : newStatus ∈ status.allowedTransitions) :
    RecordsOnce r (r₁.enter newStatus now metadata) (r₁.enter newStatus now metadata).statusHistory := by
  rw [← hstatus] at hne hallowed
  refine Or.inr ⟨hne, hallowed, ⟨r₁.id, some r₁.status, newStatus, now, metadata⟩, ?_, hid, ?_, rfl⟩
  · change r₁.statusHistory ++ _ = _
    rw [hhistory]
    rfl
  · rw [hstatus₁]

/-- The same change, of another object with the same new status. -/
theorem RecordsOnce.congr {r₂ : Ride} (h : RecordsOnce r r₂ ts) (hstatus : r'.status = r₂.status) :
    RecordsOnce r r' ts := by
  unfold RecordsOnce
  rw [hstatus]
  exact h

theorem Repriced.statusHistory (h : Repriced r r') : r'.statusHistory = r.statusHistory := by
  unfold Repriced at h
  rw [h]

theorem Moves.recordsOnce (hr : db.ride? r.id = some r) (h : Moves env ask c db r r' ts es)
    (hnone : r.waitingStartedAt = none) (hrecords : (RideStep.request c ask).Records env db)
    (hrelease : ∀ reason, c.op = .cancel r.id reason → Releasable ask db r) : RecordsOnce r r' ts := by
  have hhistory : r.statusHistory = [] := RideDb.statusHistory_of_ride? hr
  have hclosed : ∀ {reason : String} {now : DateTime} {r₁ : Ride}, ClosedWait env reason now r r₁ → r₁ = r := by
    intro reason now r₁ h
    cases h with
    | idle => rfl
    | closed _ hw => cases hnone.symm.trans hw
  cases h with
  | patched _ _ _ _ _ _ ht =>
    rcases Ride.transition_cases ht with ⟨-, rfl⟩ | ⟨hne, hallowed, rfl⟩
    · exact Or.inl ⟨rfl, hhistory⟩
    · exact .enter rfl rfl rfl hhistory hne hallowed
  | @completed _ r₁ r₂ _ _ _ hclose hstatus hprice =>
    obtain rfl := hclosed hclose
    have henter : RecordsOnce r₁ (r₂.enter .completed c.clock.doneAt) _ :=
      .enter hprice.sameTrip.id hstatus hprice.status (hprice.repriced.statusHistory.trans hhistory)
        (by decide) (by decide)
    exact henter.congr rfl
  | @stoppedEarly r₁ r₂ _ fare _ _ _ hactive _ hclose hprice _ _ hr₃ =>
    have hidle := hclose.status_ne
    obtain rfl := hclosed hclose
    have hrepriced : Repriced r₁ r₂ := hprice.repriced
    rw [hr₃]
    exact .enter hprice.sameTrip.id (hactive.resolve_right hidle) hprice.status
      (hrepriced.statusHistory.trans hhistory) (by decide) (by decide)
  | arrived _ _ hstatus _ _ _ hr' =>
    rw [hr']
    exact .enter rfl hstatus rfl hhistory (by decide) (by decide)
  | started _ _ hstatus _ _ _ hr' =>
    rw [hr'.repriced.statusHistory]
    refine RecordsOnce.congr ?_ hr'.status
    exact .enter rfl hstatus rfl hhistory (by decide) (by decide)
  | absent _ _ hstatus _ _ hr' =>
    rw [hr']
    exact .enter rfl hstatus rfl hhistory (by decide) (by decide)
  | waitStarted hop hactor hmay hstatus hspeed hstopped =>
    exact absurd ⟨r, _, hop, hr, hstatus, hactor, hmay, hspeed, hstopped⟩ hrecords.1
  | waitStopped _ _ _ hw => cases hnone.symm.trans hw
  | cancelled hop hreason hmay hopen hclose =>
    refine absurd ⟨r, _, hop, hreason, hr, hmay, hopen, fun hwaiting => ?_, hrelease _ hop⟩ hrecords.2
    generalize Ride.toDomain _ = r₁ at hclose
    cases hclose with
    | idle hidle => exact absurd hwaiting hidle
    | closed _ hstarted => cases hnone.symm.trans hstarted
  | accepted _ hstatus _ _ hr' =>
    rw [hr']
    exact .enter rfl hstatus rfl hhistory (by decide) (by decide)
  | lost _ hstatus hr' =>
    rw [hr']
    exact .enter rfl hstatus rfl hhistory (by decide) (by decide)
  | _ => exact Or.inl ⟨rfl, rfl⟩

/-- What a step does to the status of the ride `x`, and to its rows. -/
def Recorded (db db' : RideDb) (x : UUID) : Prop :=
  db'.statusOf x = db.statusOf x ∧ db'.historyOf x = db.historyOf x ∨
    db'.statusOf x ≠ db.statusOf x ∧ db'.statusOf x ∈ (db.statusOf x).allowedTransitions ∧
      ∃ t, db'.historyOf x = db.historyOf x ++ [t] ∧ t.fromStatus = some (db.statusOf x) ∧
        t.toStatus = db'.statusOf x

theorem Recorded.of_eq {x : UUID} (hride : db'.ride? x = db.ride? x) (hhistory : db'.history = db.history) :
    Recorded db db' x := by
  refine Or.inl ⟨?_, ?_⟩
  · unfold RideDb.statusOf
    rw [hride]
  · unfold RideDb.historyOf
    rw [hhistory]

/-- A change of a ride that leaves its row, in the database. -/
theorem Recorded.of_move (hr : db.ride? r.id = some r) (ht : Ride.SameTrip r r') (h : RecordsOnce r r' ts)
    (hrides : ∀ x, db'.ride? x = (db.put r').ride? x) (hhistory : db'.history = db.history ++ ts)
    (x : UUID) : Recorded db db' x := by
  by_cases hx : x = r.id
  · subst hx
    have hbefore : db.statusOf r.id = r.status := by
      unfold RideDb.statusOf
      rw [hr]
      rfl
    have hlater : db'.statusOf r.id = r'.status := by
      unfold RideDb.statusOf
      rw [hrides, RideDb.ride?_put_self hr ht]
      rfl
    unfold Recorded
    rw [hbefore, hlater]
    rcases h with ⟨hstatus, rfl⟩ | ⟨hne, hallowed, t, rfl, hid, hfrom, hto⟩
    · refine Or.inl ⟨hstatus, ?_⟩
      unfold RideDb.historyOf
      rw [hhistory, List.append_nil]
    · refine Or.inr ⟨hne, hallowed, t, ?_, hfrom, hto⟩
      unfold RideDb.historyOf
      rw [hhistory, List.filter_append]
      simp [hid]
  · have hstatus : db'.statusOf x = db.statusOf x := by
      unfold RideDb.statusOf
      rw [hrides, RideDb.ride?_put_of_ne hr ht hx]
    refine Or.inl ⟨hstatus, ?_⟩
    have hothers : ts.filter (fun t => t.rideId = x) = [] := by
      rcases h with ⟨-, rfl⟩ | ⟨-, -, t, rfl, hid, -⟩
      · rfl
      · have hne : t.rideId ≠ x := fun h => hx (h.symm.trans hid)
        simp [hne]
    unfold RideDb.historyOf
    rw [hhistory, List.filter_append, hothers, List.append_nil]

theorem statusOf_createRide {quoteId : UUID} {now : DateTime} (hfresh : db.ride? r.id = none)
    (hstatus : r.status = .requested) (x : UUID) :
    (db.createRide r quoteId now).statusOf x = db.statusOf x := by
  unfold RideDb.statusOf
  rw [RideDb.ride?_createRide hfresh]
  split_ifs with hx
  · rw [hx, hfresh]
    exact hstatus
  · rfl

/-- A request that opens no wait and cancels nothing. -/
theorem Effect.recorded (h : Effect env ask c db db')
    (hnone : ∀ x r, db.ride? x = some r → r.waitingStartedAt = none)
    (hrecords : (RideStep.request c ask).Records env db)
    (hrelease : ∀ r reason, db.ride? r.id = some r → c.op = .cancel r.id reason → Releasable ask db r)
    (x : UUID) : Recorded db db' x := by
  have honce : ∀ {r r' : Ride} {ts : List RideStatusTransition} {es : List PriorityEvent},
      db.ride? r.id = some r → Moves env ask c db r r' ts es → RecordsOnce r r' ts :=
    fun {r r' ts es} hr hmove =>
      hmove.recordsOnce hr (hnone _ _ hr) hrecords fun reason => hrelease _ reason hr
  cases h with
  | unchanged => exact .of_eq rfl rfl
  | supplementAdded => exact .of_eq rfl rfl
  | @created quote ride h =>
    have hstatus : ride.status = .requested := by
      obtain ⟨request, method, -, -, rfl⟩ := h.made
      rfl
    exact Or.inl ⟨statusOf_createRide h.fresh hstatus x, rfl⟩
  | @createdLost quote ride lost h hlost =>
    obtain ⟨hdomain, hstatus, hhistory⟩ : ride.toDomain = ride ∧ ride.status = .requested ∧
        ride.statusHistory = [] := by
      obtain ⟨request, method, -, -, rfl⟩ := h.made
      exact ⟨rfl, rfl, rfl⟩
    have hstored : (db.createRide ride quote.id c.clock.now).ride? ride.id = some ride := by
      rw [RideDb.ride?_createRide h.fresh, if_pos rfl, hdomain]
    have hrecords : RecordsOnce ride lost lost.statusHistory := by
      rw [hlost]
      exact .enter rfl hstatus rfl hhistory (by decide) (by decide)
    have htrip : Ride.SameTrip ride lost := by
      rw [hlost]
      exact sameTrip_enter _ _ _
    have hrides : ∀ y, ((db.createRide ride quote.id c.clock.now).move lost lost.statusHistory []).ride? y
        = ((db.createRide ride quote.id c.clock.now).put lost).ride? y := fun _ => rfl
    have hmoved := Recorded.of_move hstored htrip hrecords hrides rfl x
    unfold Recorded at hmoved
    rw [statusOf_createRide h.fresh hstatus] at hmoved
    exact hmoved
  | @moved r r' ts es hr hmove =>
    have hrides : ∀ y, (db.move r' ts es).ride? y = (db.put r').ride? y := fun _ => rfl
    exact .of_move hr hmove.sameTrip (honce hr hmove) hrides rfl x
  | alerted hr hmove =>
    exact .of_move hr hmove.sameTrip (honce hr hmove) (fun _ => rfl) (List.append_nil _).symm x
  | @decided r id s accepted db₁ hr hop hactive _ _ _ hdb₁ =>
    have hrides : ∀ y, (db₁.put (r.withSupplements (db₁.acceptedSupplements r.id))).ride? y
        = (db.put (r.withSupplements (db₁.acceptedSupplements r.id))).ride? y := by
      intro y
      rw [hdb₁]
      rfl
    have htrip : Ride.SameTrip r (r.withSupplements (db₁.acceptedSupplements r.id)) := ⟨rfl, rfl, rfl⟩
    refine .of_move hr htrip (Or.inl ⟨rfl, rfl⟩) hrides ?_ x
    rw [hdb₁]
    exact (List.append_nil _).symm

/-! ## Whole histories -/

theorem Chain.snoc {first last : RideStatus} {ts : List RideStatusTransition} {t : RideStatusTransition}
    (h : Chain first ts last) (hfrom : t.fromStatus = some last)
    (hallowed : t.toStatus ∈ last.allowedTransitions) : Chain first (ts ++ [t]) t.toStatus := by
  induction ts generalizing first with
  | nil =>
    obtain rfl : first = last := h
    exact ⟨hfrom, hallowed, rfl⟩
  | cons t' ts ih => exact ⟨h.1, h.2.1, ih h.2.2⟩

/-- No row leads back to `requested`. -/
theorem Chain.eq_nil {first : RideStatus} {ts : List RideStatusTransition}
    (h : Chain first ts .requested) : ts = [] := by
  induction ts generalizing first with
  | nil => rfl
  | cons t ts ih =>
    obtain rfl := ih h.2.2
    have hto : t.toStatus = .requested := h.2.2
    have hallowed := h.2.1
    rw [hto] at hallowed
    exact absurd hallowed (by cases first <;> decide)

theorem changesOf_snoc (x : UUID) (step : RideStep) (db : RideDb) :
    changesOf env x (steps ++ [step]) db = changesOf env x steps db ++
      if (runRides env steps db).statusOf x = (step.after env (runRides env steps db)).statusOf x then []
      else [((runRides env steps db).statusOf x, (step.after env (runRides env steps db)).statusOf x)] := by
  induction steps generalizing db with
  | nil =>
    change (if _ then [] else _) ++ [] = [] ++ _
    rw [List.append_nil, List.nil_append]
    rfl
  | cons first steps ih =>
    change _ ++ changesOf env x (steps ++ [step]) (first.after env db) = (_ ++ _) ++ _
    rw [ih (first.after env db), List.append_assoc]
    rfl

/-- As long as no wait is opened there is none. -/
theorem noWait_runRides (hdb : Unrequested db)
    (hdraws : EachStep (RideStep.after env) RideStep.Draws steps db)
    (hrecords : EachStep (RideStep.after env) (RideStep.Records env) steps db) :
    ∀ x r, (runRides env steps db).ride? x = some r → r.waitingStartedAt = none := by
  refine forall_rides hdb hdraws hrecords ?_ ?_
  · intro c db quote ride h
    obtain ⟨request, method, -, -, rfl⟩ := h.made
    exact ⟨rfl, rfl⟩
  · intro c ask db r r' ts es hrecords hr hmove ih
    cases hmove.waitMove hr with
    | opened _ hopens => exact absurd hopens hrecords.1
    | closed _ _ hstarted => cases ih.symm.trans hstarted
    | kept _ _ hwait => exact hwait.startedAt.trans ih
    | patched _ _ hwait => exact hwait.startedAt.trans ih

/-- What a history has recorded of the ride `x`. -/
structure HistoryKept (env : Env) (steps : List RideStep) (db : RideDb) (x : UUID) : Prop where
  chain : Chain .requested ((runRides env steps db).historyOf x) ((runRides env steps db).statusOf x)
  complete : ((runRides env steps db).historyOf x).map (fun t => (t.fromStatus, t.toStatus))
    = (changesOf env x steps db).map fun (before, later) => (some before, later)

theorem HistoryKept.snoc {step : RideStep} {x : UUID} (h : HistoryKept env steps db x)
    (hstep : Recorded (runRides env steps db) (step.after env (runRides env steps db)) x) :
    HistoryKept env (steps ++ [step]) db x := by
  rcases hstep with ⟨hstatus, hrows⟩ | ⟨hne, hallowed, t, hrows, hfrom, hto⟩
  · constructor
    · rw [runRides_snoc, hstatus, hrows]
      exact h.chain
    · rw [changesOf_snoc, runRides_snoc, hrows, if_pos hstatus.symm, List.append_nil]
      exact h.complete
  · constructor
    · rw [runRides_snoc, hrows, ← hto]
      exact h.chain.snoc hfrom (hto ▸ hallowed)
    · rw [changesOf_snoc, runRides_snoc, hrows, if_neg fun h => hne h.symm, List.map_append, h.complete,
        List.map_append, List.map_singleton, List.map_singleton, hfrom, hto]

theorem recorded_step {step : RideStep} (hdraws : step.Draws db) (hrecords : step.Records env db)
    (hnone : ∀ x r, db.ride? x = some r → r.waitingStartedAt = none) (x : UUID) :
    Recorded db (step.after env db) x := by
  cases step with
  | elsewhere patch h => exact .of_eq ((h db).ride? x) (h db).history
  | request c ask =>
    rcases request_cases hdraws with ⟨hok, h⟩ | ⟨-, h⟩
    · exact h.recorded hnone hrecords (fun r reason hr hop => releasable_of_cancel hop hr hok) x
    · generalize hafter : (RideStep.request c ask).after env db = db' at h ⊢
      cases h with
      | unchanged => exact .of_eq rfl rfl
      | @wrongCode r code _ hr hmove =>
        have hrides : ∀ y, (db.move (r.countWrongCode env.settings c.clock.now) [] []).ride? y
            = (db.put (r.countWrongCode env.settings c.clock.now)).ride? y := fun _ => rfl
        exact .of_move hr hmove.sameTrip (Or.inl ⟨rfl, rfl⟩) hrides rfl x

theorem historyKept_runRides (hdb : Unrequested db)
    (hdraws : EachStep (RideStep.after env) RideStep.Draws steps db)
    (hrecords : EachStep (RideStep.after env) (RideStep.Records env) steps db) (x : UUID) :
    HistoryKept env steps db x := by
  induction steps using List.reverseRecOn with
  | nil =>
    have hrows : db.historyOf x = [] := by
      unfold RideDb.historyOf
      rw [hdb.history]
      rfl
    have hstatus : db.statusOf x = .requested := by
      unfold RideDb.statusOf RideDb.ride?
      rw [hdb.rides]
      rfl
    constructor
    · change Chain .requested (db.historyOf x) (db.statusOf x)
      rw [hrows, hstatus]
      rfl
    · change (db.historyOf x).map _ = _
      rw [hrows]
      rfl
  | append_singleton steps step ih =>
    rw [eachStep_snoc] at hdraws hrecords
    exact (ih hdraws.1 hrecords.1).snoc
      (recorded_step hdraws.2 hrecords.2 (noWait_runRides hdb hdraws.1 hrecords.1) x)

/-- As long as no wait is opened and nothing is cancelled through `cancel`, the status history of every
ride is a faithful trace. -/
theorem historyFaithful_rides (steps : List RideStep) (hdb : Unrequested db)
    (hdraws : EachStep (RideStep.after env) RideStep.Draws steps db)
    (hrecords : EachStep (RideStep.after env) (RideStep.Records env) steps db) :
    ∀ x r, (runRides env steps db).ride? x = some r → HistoryFaithful env steps db r := by
  intro x r hr
  obtain rfl := RideDb.id_of_ride? hr
  have hkept := historyKept_runRides hdb hdraws hrecords r.id
  have hstatus : (runRides env steps db).statusOf r.id = r.status := by
    unfold RideDb.statusOf
    rw [hr]
    rfl
  have hchain := hkept.chain
  rw [hstatus] at hchain
  refine ⟨hchain, ⟨fun hrows => ?_, fun h => ?_⟩, hkept.complete⟩
  · rw [hrows] at hchain
    exact hchain.symm
  · rw [h] at hchain
    exact hchain.eq_nil

theorem RideStep.records_of_op {step : RideStep} (h : step.asksToWaitOrCancel = false) :
    step.Records env db := by
  cases step with
  | elsewhere => exact ⟨id, id⟩
  | request c ask =>
    obtain ⟨op, actor, config, clock⟩ := c
    constructor
    · rintro ⟨r, speed, hop, -⟩
      obtain rfl : op = .startWaiting r.id := hop
      cases h
    · rintro ⟨r, reason, hop, -⟩
      obtain rfl : op = .cancel r.id reason := hop
      cases h

theorem historyFaithful_sample :
    ((runRides Sample.env Sample.started Sample.db).historyOf 50).map RideStatusTransition.toStatus
        = [.matched, .driverEnRoute, .arrived, .inProgress] ∧
      ∀ x r, (runRides Sample.env Sample.started Sample.db).ride? x = some r →
        HistoryFaithful Sample.env Sample.started Sample.db r :=
  ⟨by decide +kernel, historyFaithful_rides Sample.started ⟨rfl, rfl, rfl⟩ (by decide +kernel)
    (eachStep_of_forall fun step hstep _ => RideStep.records_of_op
      ((by decide : ∀ step ∈ Sample.started, step.asksToWaitOrCancel = false) step hstep))⟩

/-- A cancellation is not recorded. -/
theorem historyFaithful_cancelled :
    Unrequested Sample.db ∧
      EachStep (RideStep.after Sample.env) RideStep.Draws
        (Sample.enRoute ++ [Sample.step (.cancel 50 "other") 1 "passenger" 30]) Sample.db ∧
      ¬ ∀ x r, (runRides Sample.env (Sample.enRoute ++ [Sample.step (.cancel 50 "other") 1 "passenger" 30])
          Sample.db).ride? x = some r →
        HistoryFaithful Sample.env
          (Sample.enRoute ++ [Sample.step (.cancel 50 "other") 1 "passenger" 30]) Sample.db r := by
  refine ⟨⟨rfl, rfl, rfl⟩, by decide +kernel, fun h => ?_⟩
  have hrun : ((runRides Sample.env (Sample.enRoute ++ [Sample.step (.cancel 50 "other") 1 "passenger" 30])
      Sample.db).ride? 50).map Ride.status = some .cancelledByPassenger := by decide +kernel
  obtain ⟨r, hr, hstatus⟩ := Option.map_eq_some_iff.mp hrun
  have hcomplete := (h 50 r hr).complete
  rw [show r.id = 50 from RideDb.id_of_ride? hr] at hcomplete
  revert hcomplete
  decide +kernel

end DiddiGo.Rides

