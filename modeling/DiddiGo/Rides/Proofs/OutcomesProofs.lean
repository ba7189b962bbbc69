import DiddiGo.Rides.Outcomes
import DiddiGo.Rides.Proofs.HistoryProofs

/-!
# One outcome for each ride

A terminal status is left by no transition, so a second outcome can only come from a transition to the status
that the ride already has.
-/

namespace DiddiGo.Rides

open Data (Json Keyed Table)
open Transactions

variable {ask : Query → Answer} {env : Env} {c : RideCall} {db db' : RideDb} {r r' : Ride}
  {ts : List RideStatusTransition} {es : List PriorityEvent} {steps : List LedgerStep} {x : UUID}

/-! ## Changes of one ride -/

theorem outcomesOf_congr (cfg : DispatchConfig) (hid : r'.id = r.id) (hstatus : r'.status = r.status)
    (hdriver : r'.driverId = r.driverId) : outcomesOf cfg r' = outcomesOf cfg r := by
  unfold outcomesOf
  rw [hid, hstatus, hdriver]

theorem outcomesOf_of_kind {cfg : DispatchConfig} (h : outcomeKind r.status = none) : outcomesOf cfg r = [] := by
  unfold outcomesOf
  rw [h]

theorem outcomesOf_of_driver {cfg : DispatchConfig} (h : r.driverId = none) : outcomesOf cfg r = [] := by
  unfold outcomesOf
  rw [h]
  cases outcomeKind r.status <;> rfl

theorem outcomeKind_eq_none {s : RideStatus} (hcompleted : s ≠ .completed) (hcancelled : s ≠ .cancelledByDriver) :
    outcomeKind s = none := by
  cases s with
  | completed => exact absurd rfl hcompleted
  | cancelledByDriver => exact absurd rfl hcancelled
  | _ => rfl

/-- The outcomes of a ride belong to it. -/
theorem rideId_of_mem_outcomesOf {cfg : DispatchConfig} {e : PriorityEvent} (h : e ∈ outcomesOf cfg r) :
    e.rideId = some r.id := by
  unfold outcomesOf at h
  split at h
  · rw [List.mem_singleton.mp h]
  · exact absurd h List.not_mem_nil

theorem map_outcomesOf_completed (cfg : DispatchConfig) (h : r.status = .completed) :
    (outcomesOf cfg r).map (fun e => (e.driverId, e.kind))
      = (r.driverId.map fun d => (d, PriorityEventKind.rideCompleted)).toList := by
  unfold outcomesOf
  rw [h]
  cases r.driverId <;> rfl

theorem map_outcomesOf_cancelled (cfg : DispatchConfig) (h : r.status = .cancelledByDriver) :
    (outcomesOf cfg r).map (fun e => (e.driverId, e.kind))
      = (r.driverId.map fun d => (d, PriorityEventKind.rideCancelledByDriver)).toList := by
  unfold outcomesOf
  rw [h]
  cases r.driverId <;> rfl

/-- The end of a wait leaves a ride that is not over. -/
theorem ClosedWait.open_of_open {reason : String} {now : DateTime} {r₁ : Ride} (h : ClosedWait env reason now r r₁)
    (hopen : r₁.status.allowedTransitions ≠ []) : r.status.allowedTransitions ≠ [] := by
  cases h with
  | idle => exact hopen
  | closed hstatus =>
    rw [hstatus]
    decide

theorem status_countWrongCode (s : Settings) (now : DateTime) : (r.countWrongCode s now).status = r.status := by
  unfold Ride.countWrongCode
  rfl

theorem Moves.outcome (h : Moves env ask c db r r' ts es) : Outcome c db r r' es := by
  cases h with
  | @patched status newStatus _ hop hnew hactor hmay hcompleted _ ht =>
    rcases Ride.transition_cases ht with ⟨hsame, rfl⟩ | ⟨-, hallowed, rfl⟩
    · exact .repeats status hop (by rw [hnew, hsame]) hactor hmay (by rwa [← hsame]) rfl rfl
    · refine .ends (by rw [hop]; exact nofun) (List.ne_nil_of_mem hallowed) rfl
  | completed hop _ _ hclose hstatus _ =>
    have hopen := hclose.open_of_open (by rw [hstatus]; decide)
    refine .ends (by rw [hop]; exact nofun) hopen ?_
    exact outcomesOf_congr _ rfl rfl rfl
  | earlyStopAsked => exact .stays rfl rfl rfl
  | stoppedEarly hop _ hactive _ _ _ _ _ hr₃ =>
    refine .ends (by rw [hop]; exact nofun) ?_ rfl
    rcases hactive with hs | hs <;> rw [hs] <;> decide
  | arrived _ _ hstatus _ _ _ hr' =>
    rw [hr']
    exact .goesOn (by rw [hstatus]; decide) nofun nofun rfl
  | started _ _ hstatus _ _ _ hr' =>
    have hstatus' := hr'.status
    rw [Ride.status_enter] at hstatus'
    exact .goesOn (by rw [hstatus]; decide) (by rw [hstatus']; exact nofun) (by rw [hstatus']; exact nofun) rfl
  | wrongCode => exact .stays (status_countWrongCode _ _) rfl rfl
  | absent hop _ hstatus _ _ hr' =>
    rw [hr']
    exact .noShow hop (by rw [hstatus]; decide) rfl rfl
  | waitStarted _ _ _ hstatus => exact .goesOn (by rw [hstatus]; decide) nofun nofun rfl
  | waitStopped _ _ hstatus => exact .goesOn (by rw [hstatus]; decide) nofun nofun rfl
  | supplementDecided => exact .stays rfl rfl rfl
  | @cancelled reason r₁ r₂ _ hop _ _ hopen _ hr₂ =>
    have hactive : r.status.allowedTransitions ≠ [] := by
      revert hopen
      cases r.status <;> decide
    refine .ends (by rw [hop]; exact nofun) hactive ?_
    exact outcomesOf_congr _ rfl rfl rfl
  | shared => exact .stays rfl rfl rfl
  | alerted => exact .stays rfl rfl rfl
  | accepted _ hstatus _ _ hr' =>
    rw [hr']
    exact .goesOn (by rw [hstatus]; decide) nofun nofun rfl
  | lost _ hstatus hr' =>
    rw [hr']
    exact .goesOn (by rw [hstatus]; decide) nofun nofun rfl

/-- What is added to the ledger belongs to the ride. -/
theorem Moves.rideId_of_mem (h : Moves env ask c db r r' ts es) : ∀ e ∈ es, e.rideId = some r.id := by
  have hid := h.sameTrip.id
  intro e he
  cases h.outcome with
  | stays _ _ hes | goesOn _ _ _ hes | noShow _ _ _ hes => exact absurd (hes ▸ he) List.not_mem_nil
  | ends _ _ hes => rw [← hid]; exact rideId_of_mem_outcomesOf (hes ▸ he)
  | repeats _ _ _ _ _ _ _ hes => exact rideId_of_mem_outcomesOf (hes ▸ he)

/-! ## One step -/

theorem LedgerChange.of_eq {step : LedgerStep} (hride : db'.ride? x = db.ride? x)
    (hledger : db'.priorityEvents = db.priorityEvents) : LedgerChange db step x db' := by
  refine .kept hride ?_
  unfold RideDb.outcomesOf RideDb.ledgerOf
  rw [hledger]

/-- A ride that changes, in the database. -/
theorem LedgerChange.of_move (hr : db.ride? r.id = some r) (hmove : Moves env ask c db r r' ts es)
    (hrides : ∀ y, db'.ride? y = (db.put r').ride? y) (hledger : db'.priorityEvents = db.priorityEvents ++ es)
    (x : UUID) : LedgerChange db (.ride (.request c ask)) x db' := by
  have houtcomes : db'.outcomesOf x = db.outcomesOf x ++
      (es.filter fun e => e.rideId = some x).map fun e => (e.driverId, e.kind) := by
    unfold RideDb.outcomesOf RideDb.ledgerOf
    rw [hledger, List.filter_append, List.map_append]
  have hids := hmove.rideId_of_mem
  by_cases hx : x = r.id
  · subst hx
    have hall : es.filter (fun e => e.rideId = some r.id) = es :=
      List.filter_eq_self.mpr fun e he => decide_eq_true (hids e he)
    rw [hall] at houtcomes
    have hput : db'.ride? r.id = some r'.toDomain := by
      rw [hrides, RideDb.ride?_put_self hr hmove.sameTrip]
    exact .moved c ask r r' es rfl hr hput hmove.outcome houtcomes
  · have hnone : es.filter (fun e => e.rideId = some x) = [] := by
      refine List.filter_eq_nil_iff.mpr fun e he h => hx ?_
      have h' := of_decide_eq_true h
      rw [hids e he] at h'
      exact (Option.some.inj h').symm
    rw [hnone] at houtcomes
    refine .kept ?_ (houtcomes.trans (List.append_nil _))
    rw [hrides, RideDb.ride?_put_of_ne hr hmove.sameTrip hx]

/-- What a request makes of a ride and of its part of the ledger. -/
theorem Effect.ledgerChange (h : Effect env ask c db db') (x : UUID) :
    LedgerChange db (.ride (.request c ask)) x db' := by
  cases h with
  | unchanged => exact .of_eq rfl rfl
  | supplementAdded => exact .of_eq rfl rfl
  | @created quote ride h =>
    have hride := @RideDb.ride?_createRide db ride quote.id c.clock.now h.fresh x
    by_cases hx : x = ride.id
    · rw [if_pos hx] at hride
      have hstatus : ride.status = .requested := by
        obtain ⟨request, method, -, -, rfl⟩ := h.made
        rfl
      refine .created ride.toDomain (hx ▸ h.fresh) hride ?_ ?_ rfl
      · exact fun hcompleted => nomatch hstatus.symm.trans hcompleted
      · exact fun hcancelled => nomatch hstatus.symm.trans hcancelled
    · rw [if_neg hx] at hride
      exact .of_eq hride rfl
  | @createdLost quote ride lost h hlost =>
    have hcreated := @RideDb.ride?_createRide db ride quote.id c.clock.now h.fresh
    have hdomain : ride.toDomain = ride := by
      obtain ⟨request, method, -, -, rfl⟩ := h.made
      rfl
    have hstored : (db.createRide ride quote.id c.clock.now).ride? ride.id = some ride := by
      rw [hcreated, if_pos rfl, hdomain]
    have htrip : Ride.SameTrip ride lost := by
      rw [hlost]
      exact sameTrip_enter _ _ _
    have hledger : ((db.createRide ride quote.id c.clock.now).move lost lost.statusHistory []).outcomesOf x
        = db.outcomesOf x := by
      unfold RideDb.outcomesOf RideDb.ledgerOf
      change (List.filter _ (db.priorityEvents ++ [])).map _ = _
      rw [List.append_nil]
    by_cases hx : x = ride.id
    · refine .created lost.toDomain (hx ▸ h.fresh) ?_ ?_ ?_ hledger
      · rw [RideDb.ride?_move, hx, RideDb.ride?_put_self hstored htrip]
      · rw [hlost]
        exact nofun
      · rw [hlost]
        exact nofun
    · refine .kept ?_ hledger
      rw [RideDb.ride?_move, RideDb.ride?_put_of_ne hstored htrip hx, hcreated, if_neg hx]
  | @moved r r' ts es hr hmove =>
    have hrides : ∀ y, (db.move r' ts es).ride? y = (db.put r').ride? y := fun _ => rfl
    exact .of_move hr hmove hrides rfl x
  | @alerted r r' e hr hmove =>
    have hrides : ∀ y, ({ db.put r' with emergencyEvents := db.emergencyEvents.insert e } : RideDb).ride? y
        = (db.put r').ride? y := fun _ => rfl
    exact .of_move hr hmove hrides (List.append_nil _).symm x
  | @decided r id s accepted db₁ hr hop hactive _ _ _ hdb₁ =>
    have hmove : Moves env ask c db r (r.withSupplements (db₁.acceptedSupplements r.id)) [] [] :=
      .supplementDecided hop hactive
    refine .of_move hr hmove (fun _ => ?_) ?_ x
    · rw [hdb₁]
      rfl
    · rw [hdb₁]
      exact (List.append_nil _).symm

theorem ledgerChange_step {step : LedgerStep} (hdraws : step.Draws db) (x : UUID) :
    LedgerChange db step x (step.after env db) := by
  cases step with
  | boost driverId points expiresAt reason zoneId =>
    refine .kept rfl ?_
    unfold RideDb.outcomesOf RideDb.ledgerOf
    change (List.filter _ (db.priorityEvents ++ [_])).map _ = _
    rw [List.filter_append]
    simp
  | ride step =>
    cases step with
    | elsewhere patch h => exact .of_eq ((h db).ride? x) (h db).priorityEvents
    | request c ask =>
      rcases @request_cases ask env c db hdraws with ⟨-, h⟩ | ⟨-, h⟩
      · exact h.ledgerChange x
      · change LedgerChange db _ x ((RideStep.request c ask).after env db)
        generalize (RideStep.request c ask).after env db = db' at h ⊢
        cases h with
        | unchanged => exact .of_eq rfl rfl
        | @wrongCode r code _ hr hmove =>
          have hrides : ∀ y, (db.move (r.countWrongCode env.settings c.clock.now) [] []).ride? y
              = (db.put (r.countWrongCode env.settings c.clock.now)).ride? y := fun _ => rfl
          exact .of_move hr hmove hrides rfl x

/-! ## Whole histories -/

theorem runLedger_snoc (steps : List LedgerStep) (step : LedgerStep) (db : RideDb) :
    runLedger env (steps ++ [step]) db = step.after env (runLedger env steps db) := runSteps_snoc steps step

theorem statusOf_of_ride? (h : db.ride? x = some r) : db.statusOf x = r.status := by
  unfold RideDb.statusOf
  rw [h]
  rfl

/-- A step that leaves the ride alone. -/
theorem LedgerKept.of_kept {step : LedgerStep} (h : LedgerKept env steps db x)
    (hride : (step.after env (runLedger env steps db)).ride? x = (runLedger env steps db).ride? x)
    (hledger : (step.after env (runLedger env steps db)).outcomesOf x = (runLedger env steps db).outcomesOf x)
    : LedgerKept env (steps ++ [step]) db x := by
  have hquiet : ¬ step.CancelsForDriver env x (runLedger env steps db) := by
    intro hcancels
    cases step with
    | boost => exact hcancels
    | ride step =>
      cases step with
      | elsewhere => exact hcancels
      | request c ask =>
        obtain ⟨-, hbefore, hafter⟩ := hcancels
        unfold RideDb.statusOf at hbefore hafter
        change Option.getD (Option.map _ ((LedgerStep.after env (.ride (.request c ask)) _).ride? x)) _ = _ at hafter
        rw [hride] at hafter
        exact hbefore hafter
  have hcancelled : SomeStep (LedgerStep.after env) (LedgerStep.CancelsForDriver env x) (steps ++ [step]) db ↔
      SomeStep (LedgerStep.after env) (LedgerStep.CancelsForDriver env x) steps db := by
    rw [someStep_snoc]
    exact or_iff_left hquiet
  rw [← runLedger_snoc] at hride hledger
  cases h with
  | absent hr hnone hc => exact .absent (hride.trans hr) (hledger.trans hnone) (mt hcancelled.mp hc)
  | noOutcome r hr hs hnone hc => exact .noOutcome r (hride.trans hr) hs (hledger.trans hnone) (mt hcancelled.mp hc)
  | completed r hr hs hone hc => exact .completed r (hride.trans hr) hs (hledger.trans hone) (mt hcancelled.mp hc)
  | cancelled r hr hs hone hc => exact .cancelled r (hride.trans hr) hs (hledger.trans hone) (hcancelled.mpr hc)

/-- A step that creates the ride. -/
theorem LedgerKept.of_created {step : LedgerStep} (h : LedgerKept env steps db x)
    (hfresh : (runLedger env steps db).ride? x = none)
    (hride : (step.after env (runLedger env steps db)).ride? x = some r') (hcompleted : r'.status ≠ .completed)
    (hcancelled : r'.status ≠ .cancelledByDriver)
    (hledger : (step.after env (runLedger env steps db)).outcomesOf x = (runLedger env steps db).outcomesOf x) :
    LedgerKept env (steps ++ [step]) db x := by
  have hquiet : ¬ step.CancelsForDriver env x (runLedger env steps db) := by
    intro hcancels
    cases step with
    | boost => exact hcancels
    | ride step =>
      cases step with
      | elsewhere => exact hcancels
      | request c ask => exact hcancelled ((statusOf_of_ride? hride).symm.trans hcancels.2.2)
  rw [← runLedger_snoc] at hride hledger
  have hnever : ∀ (hc : ¬ SomeStep (LedgerStep.after env) (LedgerStep.CancelsForDriver env x) steps db),
      ¬ SomeStep (LedgerStep.after env) (LedgerStep.CancelsForDriver env x) (steps ++ [step]) db := by
    intro hc
    rw [someStep_snoc]
    exact not_or_intro hc hquiet
  cases h with
  | absent _ hnone hc => exact .noOutcome r' hride hcompleted (hledger.trans hnone) (hnever hc)
  | noOutcome _ hr => exact nomatch hfresh.symm.trans hr
  | completed _ hr => exact nomatch hfresh.symm.trans hr
  | cancelled _ hr => exact nomatch hfresh.symm.trans hr

/-- Nothing is added for a ride that is over. -/
theorem Outcome.of_over (h : Outcome c db r r' es) (hover : r.status.allowedTransitions = [])
    (hr : db.ride? r.id = some r) (hrepeats : ¬ (LedgerStep.ride (.request c ask)).RepeatsCancellation db) :
    r'.status = r.status ∧ r'.driverId = r.driverId ∧ es = [] := by
  cases h with
  | stays hstatus hdriver hes => exact ⟨hstatus, hdriver, hes⟩
  | goesOn hopen => exact absurd hover hopen
  | noShow _ hopen => exact absurd hover hopen
  | ends _ hopen => exact absurd hover hopen
  | repeats status hop hnew hactor hmay hcompleted hr' hes =>
    refine ⟨congrArg Ride.status hr', congrArg Ride.driverId hr', ?_⟩
    rw [hes]
    by_cases hcancelled : r.status = .cancelledByDriver
    · refine outcomesOf_of_driver (Option.not_isSome_iff_eq_none.mp fun hdriver => ?_)
      rw [hcancelled] at hnew
      exact hrepeats ⟨r, status, hop, hnew, hr, hcancelled, hdriver, hactor, hmay⟩
    · exact outcomesOf_of_kind (outcomeKind_eq_none hcompleted hcancelled)

/-- A request that changes the ride. -/
theorem LedgerKept.of_moved (h : LedgerKept env steps db x) (hr : (runLedger env steps db).ride? x = some r)
    (hr' : ((LedgerStep.ride (.request c ask)).after env (runLedger env steps db)).ride? x = some r'.toDomain)
    (houtcome : Outcome c (runLedger env steps db) r r' es)
    (hledger : ((LedgerStep.ride (.request c ask)).after env (runLedger env steps db)).outcomesOf x =
      (runLedger env steps db).outcomesOf x ++ es.map fun e => (e.driverId, e.kind))
    (hrepeats : ¬ (LedgerStep.ride (.request c ask)).RepeatsCancellation (runLedger env steps db)) :
    LedgerKept env (steps ++ [.ride (.request c ask)]) db x := by
  obtain rfl : r.id = x := RideDb.id_of_ride? hr
  have hcancels : (LedgerStep.ride (.request c ask)).CancelsForDriver env r.id (runLedger env steps db) ↔
      c.op ≠ .markNoShow r.id ∧ r.status ≠ .cancelledByDriver ∧ r'.status = .cancelledByDriver := by
    have hafter : ((RideStep.request c ask).after env (runLedger env steps db)).statusOf r.id
        = r'.toDomain.status := statusOf_of_ride? hr'
    change _ ∧ (runLedger env steps db).statusOf r.id ≠ _ ∧ _ = _ ↔ _
    rw [statusOf_of_ride? hr, hafter]
    exact Iff.rfl
  have hcancelled : SomeStep (LedgerStep.after env) (LedgerStep.CancelsForDriver env r.id)
      (steps ++ [.ride (.request c ask)]) db ↔
      SomeStep (LedgerStep.after env) (LedgerStep.CancelsForDriver env r.id) steps db ∨
        c.op ≠ .markNoShow r.id ∧ r.status ≠ .cancelledByDriver ∧ r'.status = .cancelledByDriver := by
    rw [someStep_snoc]
    exact or_congr_right hcancels
  rw [← runLedger_snoc] at hr' hledger
  cases h with
  | absent hnone => exact nomatch hr.symm.trans hnone
  | noOutcome r₀ hr₀ hstatus hnone hc =>
    obtain rfl := Option.some.inj (hr.symm.trans hr₀)
    rw [hnone, List.nil_append] at hledger
    cases houtcome with
    | stays hsame _ hes =>
      refine .noOutcome _ hr' (hsame ▸ hstatus) (by rw [hledger, hes]; rfl) fun hc' => ?_
      rcases hcancelled.mp hc' with hc' | ⟨-, hbefore, hafter⟩
      · exact hc hc'
      · exact hbefore (hsame ▸ hafter)
    | goesOn _ hcompleted hcancelled' hes =>
      refine .noOutcome _ hr' hcompleted (by rw [hledger, hes]; rfl) fun hc' => ?_
      rcases hcancelled.mp hc' with hc' | ⟨-, -, hafter⟩
      · exact hc hc'
      · exact hcancelled' hafter
    | noShow hop _ hafter hes =>
      have hcompleted : r'.toDomain.status ≠ .completed := fun h => nomatch hafter.symm.trans h
      refine .noOutcome _ hr' hcompleted (by rw [hledger, hes]; rfl) fun hc' => ?_
      rcases hcancelled.mp hc' with hc' | ⟨hop', -⟩
      · exact hc hc'
      · exact hop' hop
    | ends hop hopen hes =>
      rw [hes] at hledger
      have hbefore : r.status ≠ .cancelledByDriver := by
        rintro hs
        rw [hs] at hopen
        exact hopen rfl
      by_cases hcompleted : r'.status = .completed
      · refine .completed _ hr' hcompleted (hledger.trans (map_outcomesOf_completed _ hcompleted)) fun hc' => ?_
        rcases hcancelled.mp hc' with hc' | ⟨-, -, hafter⟩
        · exact hc hc'
        · exact nomatch hcompleted.symm.trans hafter
      · by_cases hafter : r'.status = .cancelledByDriver
        · exact .cancelled _ hr' hafter (hledger.trans (map_outcomesOf_cancelled _ hafter))
            (hcancelled.mpr (Or.inr ⟨hop, hbefore, hafter⟩))
        · rw [outcomesOf_of_kind (outcomeKind_eq_none hcompleted hafter)] at hledger
          refine .noOutcome _ hr' hcompleted hledger fun hc' => ?_
          rcases hcancelled.mp hc' with hc' | ⟨-, -, h⟩
          · exact hc hc'
          · exact hafter h
    | repeats status hop hnew hactor hmay hcompleted hsame hes =>
      have hnothing : es = [] := by
        rw [hes]
        by_cases hs : r.status = .cancelledByDriver
        · refine outcomesOf_of_driver (Option.not_isSome_iff_eq_none.mp fun hdriver => ?_)
          rw [hs] at hnew
          exact hrepeats ⟨r, status, hop, hnew, hr, hs, hdriver, hactor, hmay⟩
        · exact outcomesOf_of_kind (outcomeKind_eq_none hcompleted hs)
      subst hsame
      refine .noOutcome _ hr' hcompleted (by rw [hledger, hnothing]; rfl) fun hc' => ?_
      rcases hcancelled.mp hc' with hc' | ⟨-, hbefore, hafter⟩
      · exact hc hc'
      · exact hbefore hafter
  | completed r₀ hr₀ hstatus hone hc =>
    obtain rfl := Option.some.inj (hr.symm.trans hr₀)
    obtain ⟨hsame, hdriver, hes⟩ := houtcome.of_over (by rw [hstatus]; rfl) hr hrepeats
    rw [hone, hes] at hledger
    refine .completed _ hr' (hsame.trans hstatus) ?_ fun hc' => ?_
    · rw [hledger]
      change _ ++ [] = (r'.driverId.map _).toList
      rw [List.append_nil, hdriver]
    · rcases hcancelled.mp hc' with hc' | ⟨-, -, hafter⟩
      · exact hc hc'
      · exact nomatch (hsame.trans hstatus).symm.trans hafter
  | cancelled r₀ hr₀ hstatus hone hc =>
    obtain rfl := Option.some.inj (hr.symm.trans hr₀)
    obtain ⟨hsame, hdriver, hes⟩ := houtcome.of_over (by rw [hstatus]; rfl) hr hrepeats
    rw [hone, hes] at hledger
    refine .cancelled _ hr' (hsame.trans hstatus) ?_ (hcancelled.mpr (Or.inl hc))
    rw [hledger]
    change _ ++ [] = (r'.driverId.map _).toList
    rw [List.append_nil, hdriver]

theorem ledgerKept_runLedger (hdb : BoostsOnly db)
    (hdraws : EachStep (LedgerStep.after env) LedgerStep.Draws steps db)
    (hrepeats : EachStep (LedgerStep.after env) (fun step db => ¬ step.RepeatsCancellation db) steps db)
    (x : UUID) : LedgerKept env steps db x := by
  induction steps using List.reverseRecOn with
  | nil =>
    have hride : db.ride? x = none := by
      unfold RideDb.ride?
      rw [hdb.rides]
      rfl
    have hnone : db.outcomesOf x = [] := by
      unfold RideDb.outcomesOf RideDb.ledgerOf
      rw [List.map_eq_nil_iff, List.filter_eq_nil_iff]
      intro e he h
      rw [hdb.boosts e he] at h
      exact (Option.some_ne_none x).symm (of_decide_eq_true h)
    exact .absent hride hnone id
  | append_singleton steps step ih =>
    rw [eachStep_snoc] at hdraws hrepeats
    have hkept := ih hdraws.1 hrepeats.1
    cases ledgerChange_step hdraws.2 x with
    | kept hride hledger => exact hkept.of_kept hride hledger
    | created r' hfresh hride hcompleted hcancelled hledger => exact hkept.of_created hfresh hride hcompleted hcancelled hledger
    | moved c ask r r' es hstep hr hr' houtcome hledger =>
      subst hstep
      exact hkept.of_moved hr hr' houtcome hledger hrepeats.2

theorem LedgerKept.outcomeOnce (h : LedgerKept env steps db r.id)
    (hr : (runLedger env steps db).ride? r.id = some r) : OutcomeOnce env steps db r := by
  cases h with
  | absent hnone => exact nomatch hr.symm.trans hnone
  | noOutcome r₀ hr₀ hstatus hnone hc =>
    obtain rfl := Option.some.inj (hr.symm.trans hr₀)
    exact ⟨fun hs => absurd hs hstatus, fun hs => absurd hs hc, fun _ _ => hnone⟩
  | completed r₀ hr₀ hstatus hone hc =>
    obtain rfl := Option.some.inj (hr.symm.trans hr₀)
    exact ⟨fun _ => hone, fun hs => absurd hs hc, fun hs => absurd hstatus hs⟩
  | cancelled r₀ hr₀ hstatus hone hc =>
    obtain rfl := Option.some.inj (hr.symm.trans hr₀)
    exact ⟨fun hs => (nomatch hstatus.symm.trans hs), fun _ => hone, fun _ hs => absurd hc hs⟩

theorem LedgerKept.length_le (h : LedgerKept env steps db x) :
    ((runLedger env steps db).ledgerOf x).length ≤ 1 := by
  have hlength : ((runLedger env steps db).outcomesOf x).length = ((runLedger env steps db).ledgerOf x).length :=
    List.length_map _
  rw [← hlength]
  cases h with
  | absent _ hnone => rw [hnone]; exact Nat.zero_le 1
  | noOutcome _ _ _ hnone => rw [hnone]; exact Nat.zero_le 1
  | completed r _ _ hone => rw [hone]; cases r.driverId <;> simp
  | cancelled r _ _ hone => rw [hone]; cases r.driverId <;> simp

/-- The ledger knows no rides that are not there. -/
theorem LedgerKept.ride?_of_mem (h : LedgerKept env steps db x) {e : PriorityEvent}
    (he : e ∈ (runLedger env steps db).priorityEvents) (hx : e.rideId = some x) :
    ∃ r, (runLedger env steps db).ride? x = some r := by
  cases h with
  | absent _ hnone =>
    refine absurd (List.map_eq_nil_iff.mp hnone) (List.ne_nil_of_mem (a := e) ?_)
    exact List.mem_filter.mpr ⟨he, decide_eq_true hx⟩
  | noOutcome r hr | completed r hr | cancelled r hr => exact ⟨r, hr⟩

/-! ## Points -/

theorem map_ledgerRows (createdAt : ℕ → DateTime) :
    (db.ledgerRows createdAt).map Prod.fst = db.priorityEvents := by
  unfold RideDb.ledgerRows
  rw [List.map_map]
  exact List.zipIdx_map_fst 0 _

theorem length_filter_ledgerRows (createdAt : ℕ → DateTime) (x : UUID) :
    ((db.ledgerRows createdAt).filter fun row => row.1.rideId = some x).length = (db.ledgerOf x).length := by
  unfold RideDb.ledgerOf
  rw [← map_ledgerRows createdAt, List.filter_map, List.length_map]
  rfl

/-- A sum over at most one row. -/
theorem sum_filter_of_length_le {α : Type} {l : List α} {p : α → Bool} (f : α → Int)
    (h : (l.filter p).length ≤ 1) : ((l.filter p).map f).sum = ((l.find? p).map f).getD 0 := by
  rw [← List.head?_filter]
  match l.filter p, h with
  | [], _ => rfl
  | [a], _ => exact Int.add_zero (f a)

/-- As long as nobody repeats a cancellation, every ride contributes its outcome once, and the points of a
driver are those of his boosts and of the outcomes of distinct rides. -/
theorem ledgerFaithful_run (steps : List LedgerStep) (hdb : BoostsOnly db)
    (hdraws : EachStep (LedgerStep.after env) LedgerStep.Draws steps db)
    (hrepeats : EachStep (LedgerStep.after env) (fun step db => ¬ step.RepeatsCancellation db) steps db) :
    LedgerFaithful env steps db := by
  have hkept := ledgerKept_runLedger hdb hdraws hrepeats
  refine ⟨fun r hr => (hkept r.id).outcomeOnce hr, fun createdAt driverId since zoneId now => ?_⟩
  have hknown : ∀ row ∈ (runLedger env steps db).ledgerRows createdAt, ∀ x, row.1.rideId = some x →
      x ∈ (runLedger env steps db).rides.rows.map Keyed.key := by
    intro row hrow x hx
    have hmem : row.1 ∈ (runLedger env steps db).priorityEvents := by
      rw [← map_ledgerRows createdAt]
      exact List.mem_map_of_mem hrow
    obtain ⟨r, hr⟩ := (hkept x).ride?_of_mem hmem hx
    obtain ⟨found, hfound, -⟩ := RideDb.ride?_eq_some.mp hr
    rw [← Table.key_of_find? hfound]
    exact List.mem_map_of_mem (Table.mem_of_find? hfound)
  have hsum := Table.sum_by_key (fun row : PriorityEvent × DateTime => row.1.rideId)
    (fun row => row.1.counted row.2 driverId since zoneId now)
    (runLedger env steps db).rides.nodup hknown
  refine hsum.trans (congrArg₂ _ rfl ?_)
  rw [List.map_map]
  unfold Table.sum
  refine congrArg List.sum (List.map_congr_left fun r _ => ?_)
  refine sum_filter_of_length_le _ ?_
  rw [length_filter_ledgerRows]
  exact (hkept _).length_le

theorem LedgerStep.not_repeats_of_asks {step : LedgerStep} (h : step.asksForCancellation = false) :
    ¬ step.RepeatsCancellation db := by
  intro hrepeats
  match step, hrepeats with
  | .ride (.request ⟨op, actor, config, clock⟩ ask), hrepeats =>
    obtain ⟨r, status, hop, hstatus, -⟩ := hrepeats
    obtain rfl : op = .updateStatus r.id status := hop
    exact of_decide_eq_false h hstatus

theorem ledgerFaithful_run_boosted :
    (runLedger Sample.env Sample.boosted Sample.db).outcomesOf 50 = [(20, .rideCompleted)] ∧
      LedgerFaithful Sample.env Sample.boosted Sample.db :=
  ⟨by decide +kernel, ledgerFaithful_run Sample.boosted ⟨⟨rfl, rfl, rfl⟩, nofun⟩ (by decide +kernel)
    (eachStep_of_forall fun step hstep _ => LedgerStep.not_repeats_of_asks
      ((by decide +kernel : ∀ step ∈ Sample.boosted, step.asksForCancellation = false) step hstep))⟩

/-- A cancellation that is repeated counts twice. -/
theorem ledgerFaithful_cancelledTwice :
    BoostsOnly Sample.db ∧ EachStep (LedgerStep.after Sample.env) LedgerStep.Draws Sample.cancelledTwice Sample.db ∧
      ¬ LedgerFaithful Sample.env Sample.cancelledTwice Sample.db := by
  refine ⟨⟨⟨rfl, rfl, rfl⟩, nofun⟩, by decide +kernel, fun h => ?_⟩
  have hrun : ((runLedger Sample.env Sample.cancelledTwice Sample.db).ride? 50).map (fun r => (r.status, r.driverId))
      = some (.cancelledByDriver, some 20) := by decide +kernel
  obtain ⟨r, hr, hended⟩ := Option.map_eq_some_iff.mp hrun
  obtain ⟨hstatus, hdriver⟩ := Prod.mk.inj hended
  have hid : r.id = 50 := RideDb.id_of_ride? hr
  have htwice : (runLedger Sample.env Sample.cancelledTwice Sample.db).outcomesOf 50
      = [(20, .rideCancelledByDriver), (20, .rideCancelledByDriver)] := by decide +kernel
  have honce := h.rides r (hid ▸ hr)
  by_cases hcancelled : SomeStep (LedgerStep.after Sample.env) (LedgerStep.CancelsForDriver Sample.env r.id)
      Sample.cancelledTwice Sample.db
  · have houtcome := honce.cancelled hcancelled
    rw [hid, htwice, hdriver] at houtcome
    exact absurd houtcome (by decide)
  · have houtcome := honce.otherwise (by rw [hstatus]; decide) hcancelled
    rw [hid, htwice] at houtcome
    exact absurd houtcome (by decide)

end DiddiGo.Rides
