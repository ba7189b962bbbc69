import DiddiGo.Rides.Proofs.SuccessProofs

/-!
# The gate of a ride

What each change of a ride does about its start code, and from it that every ride gets under way through
the gate, and once.
-/

namespace DiddiGo.Rides

open Data (Json Keyed Table)
open Transactions Prog

variable {ask : Query → Answer} {env : Env} {c : RideCall} {db db' : RideDb} {r r' : Ride}
  {ts : List RideStatusTransition} {es : List PriorityEvent} {steps : List RideStep}

/-! ## The start code of one ride -/

/-- The start code and the wait of the driver are as they were. -/
structure SameCode (r r' : Ride) : Prop where
  hash : r'.startCodeHash = r.startCodeHash
  wait : r'.preRideWaitStartedAt = r.preRideWaitStartedAt
  blocked : r'.startCodeBlockedAt = r.startCodeBlockedAt
  used : r'.startCodeUsedAt = r.startCodeUsedAt

/-- What a change of a ride does about its start code. -/
inductive CodeMove (env : Env) (ask : Query → Answer) (c : RideCall) (db : RideDb) (r r' : Ride) : Prop
  | armed {position pickup : GeoPoint} (hop : c.op = .markArrived r.id) (hstatus : r.status = .driverEnRoute)
      (hposition : ask (.position c.actor.userId) = .ok (.position (some position)))
      (hpickup : r.pickupLocation = some pickup)
      (hnear : env.distanceMeters position pickup ≤ env.settings.driverArrivalMaxDistanceMeters)
      (hstatus' : r'.status = .arrived)
      (hcode : SameCode (r.armStartCode env.settings c.clock.now) r')
  | used {code : String} (hop : c.op = .startRide r.id code) (hmay : db.MayDrive r c.actor)
      (hstatus : r.status = .arrived) (hunused : r.startCodeUsedAt = none)
      (hunblocked : r.startCodeBlockedAt = none)
      (hcode : r.startCodeHash.getD "" = hashStartCode env.settings r.id code)
      (hstatus' : r'.status = .inProgress) (hcode' : SameCode (r.useCode env.settings c.clock.now) r')
  | missed {code : String} (hop : c.op = .startRide r.id code) (hstatus : r.status = .arrived)
      (hr' : r' = r.countWrongCode env.settings c.clock.now)
  | kept (hcode : SameCode r r') (hbegun : r'.Begun → r.Begun) (hearly : r'.Early → r.Early)
      (harrived : r'.status = .arrived → r.status = .arrived ∨ (RideStep.request c ask).PatchesArrived db)

theorem SameCode.refl (r : Ride) : SameCode r r := ⟨rfl, rfl, rfl, rfl⟩

theorem Repriced.sameCode (h : Repriced r r') : SameCode r r' := by
  unfold Repriced at h
  rw [h]
  exact ⟨rfl, rfl, rfl, rfl⟩

theorem SameCode.trans {r'' : Ride} (h : SameCode r r') (h' : SameCode r' r'') : SameCode r r'' :=
  ⟨h'.hash.trans h.hash, h'.wait.trans h.wait, h'.blocked.trans h.blocked, h'.used.trans h.used⟩

theorem ClosedWait.sameCode {reason : String} {now : DateTime} (h : ClosedWait env reason now r r') :
    SameCode r r' := by
  cases h with
  | idle => exact .refl r
  | closed => exact ⟨rfl, rfl, rfl, rfl⟩

theorem ClosedWait.underWay {reason : String} {now : DateTime} (h : ClosedWait env reason now r r')
    (hstatus : r'.status = .inProgress) : r.UnderWay := by
  cases h with
  | idle => exact Or.inl hstatus
  | closed h => exact Or.inr h

theorem Traced.sameCode (h : Traced r r') : SameCode r r' := h.repriced.sameCode

theorem Ride.Begun.of_patched {newStatus : RideStatus}
    (hallowed : newStatus ∈ r.status.allowedTransitions) (hcompleted : newStatus ≠ .completed)
    (hstart : newStatus ≠ .inProgress) (hnew : newStatus = .waiting) : r.Begun := by
  subst hnew
  generalize hs : r.status = s at hallowed
  cases s <;> simp_all [RideStatus.allowedTransitions, Ride.Begun, Ride.UnderWay]

theorem Ride.Early.of_patched {newStatus : RideStatus}
    (hallowed : newStatus ∈ r.status.allowedTransitions)
    (hnew : newStatus ∈ [.requested, .matched, .driverEnRoute, .arrived]) : r.Early := by
  unfold Ride.Early
  generalize r.status = s at hallowed
  revert hallowed hnew
  cases s <;> cases newStatus <;> decide

theorem CodeMove.still (hcode : SameCode r r') (hstatus : r'.status = r.status) :
    CodeMove env ask c db r r' := by
  refine .kept hcode ?_ ?_ fun h => Or.inl (hstatus.symm.trans h)
  · unfold Ride.Begun Ride.UnderWay
    rw [hstatus]
    exact id
  · unfold Ride.Early
    rw [hstatus]
    exact id

theorem CodeMove.onward (hcode : SameCode r r')
    (hstatus : r'.status ∉ [.requested, .matched, .driverEnRoute, .arrived]) (hbegun : r'.Begun → r.Begun) :
    CodeMove env ask c db r r' :=
  .kept hcode hbegun (fun h => absurd h hstatus) fun h => absurd (by rw [h]; decide) hstatus

theorem not_begun (h : r.status ∉ [.inProgress, .waiting, .completed]) : ¬ r.Begun := by
  rintro ((h' | h') | h') <;> exact h (by rw [h']; decide)

theorem Moves.codeMove (hr : db.ride? r.id = some r) (h : Moves env ask c db r r' ts es) :
    CodeMove env ask c db r r' := by
  cases h with
  | @patched status newStatus _ hop hnew hactor hmay hcompleted hstart ht =>
    rcases Ride.transition_cases ht with ⟨-, rfl⟩ | ⟨-, hallowed, rfl⟩
    · exact .still (.refl _) rfl
    · refine .kept ⟨rfl, rfl, rfl, rfl⟩ ?_ (Ride.Early.of_patched hallowed) ?_
      · rintro ((h | h) | h)
        · exact absurd h hstart
        · exact .of_patched hallowed hcompleted hstart h
        · exact absurd h hcompleted
      · intro h
        obtain rfl : newStatus = .arrived := h
        refine Or.inr ⟨r, status, hop, hnew, hr, ?_, hactor, hmay⟩
        generalize r.status = s at hallowed
        cases s <;> simp_all [RideStatus.allowedTransitions]
  | @completed _ r₁ r₂ _ _ _ hclose hstatus hprice =>
    have hcode : SameCode r₁ (r₂.enter .completed c.clock.doneAt).complete :=
      hprice.repriced.sameCode.trans ⟨rfl, rfl, rfl, rfl⟩
    have hs : (r₂.enter .completed c.clock.doneAt).complete.status = .completed := rfl
    exact .onward (hclose.sameCode.trans hcode) (by rw [hs]; decide) fun _ => Or.inl (hclose.underWay hstatus)
  | earlyStopAsked => exact .still ⟨rfl, rfl, rfl, rfl⟩ rfl
  | stoppedEarly _ _ hactive _ hclose hprice _ _ hr₃ =>
    have hs : r'.status = .completed := by rw [hr₃]; rfl
    refine .onward ?_ (by rw [hs]; decide) fun _ => Or.inl hactive
    rw [hr₃]
    exact hclose.sameCode.trans (hprice.repriced.sameCode.trans ⟨rfl, rfl, rfl, rfl⟩)
  | arrived hop _ hstatus hposition hpickup hnear hr' =>
    rw [hr']
    exact .armed hop hstatus hposition hpickup hnear rfl ⟨rfl, rfl, rfl, rfl⟩
  | started hop hmay hstatus hunused hunblocked hcode hr' =>
    have hsame := hr'.sameCode
    exact .used hop hmay hstatus hunused hunblocked hcode hr'.status
      ⟨hsame.hash, hsame.wait, hsame.blocked, hsame.used⟩
  | wrongCode hop _ hstatus => exact .missed hop hstatus rfl
  | absent _ _ _ _ _ hr' =>
    have hs : r'.status = .cancelledByDriver := by rw [hr']; rfl
    refine .onward ?_ (by rw [hs]; decide) fun h => absurd h (not_begun (by rw [hs]; decide))
    rw [hr']
    exact ⟨rfl, rfl, rfl, rfl⟩
  | waitStarted _ _ _ hstatus =>
    exact .onward ⟨rfl, rfl, rfl, rfl⟩ (by rw [Ride.status_enter]; decide) fun _ => Or.inl (Or.inl hstatus)
  | waitStopped _ _ hstatus =>
    exact .onward ⟨rfl, rfl, rfl, rfl⟩ (by rw [Ride.status_enter]; decide) fun _ => Or.inl (Or.inr hstatus)
  | supplementDecided => exact .still ⟨rfl, rfl, rfl, rfl⟩ rfl
  | @cancelled reason r₁ r₂ metadata _ _ _ _ hclose hr₂ =>
    have hcode := hclose.sameCode
    have hs : (r₂.withReason reason).status = .cancelledByDriver ∨
        (r₂.withReason reason).status = .cancelledByPassenger := by
      rw [hr₂]
      exact cancelledStatus_cases _ _ _
    refine .onward ?_ (by rcases hs with hs | hs <;> rw [hs] <;> decide) fun h => ?_
    · rw [hr₂]
      exact ⟨hcode.hash, hcode.wait, hcode.blocked, hcode.used⟩
    · exact absurd h (not_begun (by rcases hs with hs | hs <;> rw [hs] <;> decide))
  | shared => exact .still ⟨rfl, rfl, rfl, rfl⟩ rfl
  | alerted => exact .still ⟨rfl, rfl, rfl, rfl⟩ rfl
  | accepted _ hstatus _ _ hr' =>
    have hs : r'.status = .matched := by rw [hr']; rfl
    refine .kept ?_ (fun h => absurd h (not_begun (by rw [hs]; decide))) (fun _ => ?_) fun h => ?_
    · rw [hr']
      exact ⟨rfl, rfl, rfl, rfl⟩
    · unfold Ride.Early
      rw [hstatus]
      decide
    · exact absurd (hs.symm.trans h) RideStatus.noConfusion
  | lost _ _ hr' =>
    have hs : r'.status = .noDriverFound := by rw [hr']; rfl
    refine .onward ?_ (by rw [hs]; decide) fun h => absurd h (not_begun (by rw [hs]; decide))
    rw [hr']
    exact ⟨rfl, rfl, rfl, rfl⟩

/-! ## Requests that start a ride -/

/-- A request that starts a ride moves it. -/
theorem RideStep.Starts.moved {step : RideStep} {x : UUID} (h : step.Starts env x db) :
    ∃ c ask code r r', step = .request c ask ∧ r.id = x ∧ c.op = .startRide x code ∧
      StartMove env code c db r r' ∧ RideMoved env ask c db r r' := by
  cases step with
  | elsewhere patch h' => exact h.elim
  | request c ask =>
    obtain ⟨⟨code, hop⟩, hok⟩ := h
    have haction : c.action env
        = requireBusinessDriver c.actor >>= fun _ =>
            Prog.ignore (startRideWithCode env x c.actor code c.clock) := by
      unfold RideCall.action
      rw [hop]
    have hleads : Leads ask (Rejected env ask c db) (fun _ base cur => base = db ∧ ∃ r r',
        db.ride? x = some r ∧ StartMove env code c db r r' ∧ cur = db.move r' r'.statusHistory [])
        (c.action env) db db := by
      rw [haction]
      refine Leads.bind_reads (reads_requireBusinessDriver _) .unchanged fun _ => Leads.ignore ?_
      refine (leads_startRideWithCode hop).mono (fun _ h => h) ?_
      rintro r' base cur ⟨hbase, r, hr, hmove, -, hcur⟩
      exact ⟨hbase, r, r', hr, hmove, hcur⟩
    obtain ⟨base, -, r, r', hr, hmove, hcur⟩ := Leads.run_ok hleads hok
    obtain rfl := RideDb.id_of_ride? hr
    have hmoves : Moves env ask c db r r' r'.statusHistory [] := hmove.moves hop
    refine ⟨c, ask, code, r, r', rfl, rfl, hop, hmove, hr, ⟨_, _, hmoves⟩, ?_, Or.inl hok⟩
    change ((c.action env).run ask db).2.ride? r.id = _
    rw [hcur, RideDb.ride?_move, RideDb.ride?_put_self hr hmoves.sameTrip]

theorem StartMove.used {code : String} (h : StartMove env code c db r r') : r'.startCodeUsedAt.isSome := by
  obtain ⟨metadata, htraced⟩ := h.traced
  rw [htraced.sameCode.used]
  rfl

/-- A used code stays used. -/
theorem CodeMove.used_mono (h : CodeMove env ask c db r r') (hused : r.startCodeUsedAt.isSome) :
    r'.startCodeUsedAt.isSome := by
  cases h with
  | armed _ _ _ _ _ _ hcode => rw [hcode.used]; exact hused
  | used _ _ _ _ _ _ _ hcode => rw [hcode.used]; rfl
  | missed _ _ hr' => rw [hr']; exact hused
  | kept hcode => rw [hcode.used]; exact hused

/-- No step starts a ride whose code was used. -/
theorem not_starts_of_used {before : List RideStep} {step : RideStep}
    (hdraws : EachStep (RideStep.after env) RideStep.Draws before db)
    (h : ∃ r, db.ride? r'.id = some r ∧ r.startCodeUsedAt.isSome) :
    ¬ step.Starts env r'.id (runRides env before db) := by
  intro hstarts
  obtain ⟨c, ask, code, r, r₁, rfl, hid, hop, hmove, hmoved⟩ := hstarts.moved
  have hlater : ∃ r, (runRides env before db).ride? r'.id = some r ∧ r.startCodeUsedAt.isSome := by
    refine ride_persists hdraws (fun c ask db r r' hm hused => ?_) h
    obtain ⟨ts, es, hmoves⟩ := hm.moves
    exact (hmoves.codeMove hm.found).used_mono hused
  obtain ⟨x, hx, hused⟩ := hlater
  rw [← hid] at hx
  obtain rfl := Option.some.inj (hmoved.found.symm.trans hx)
  rw [hmove.unused] at hused
  cases hused

/-! ## Whole histories -/

/-- A ride that began was started. -/
theorem started_of_begun (hdb : Unrequested db)
    (hdraws : EachStep (RideStep.after env) RideStep.Draws steps db) :
    ∀ x r, (runRides env steps db).ride? x = some r → r.Begun →
      SomeStep (RideStep.after env) (RideStep.Starts env r.id) steps db := by
  refine forall_rides_along hdb hdraws (eachStep_true steps)
    (P := fun steps r => r.Begun → SomeStep (RideStep.after env) (RideStep.Starts env r.id) steps db)
    ?_ ?_ ?_
  · intro steps step r _ _ ih hbegun
    exact (someStep_snoc steps step).mpr (Or.inl (ih hbegun))
  · intro steps c ask quote ride r _ h hr _
    obtain ⟨request, method, -, -, rfl⟩ := h.made
    rcases hr with rfl | rfl <;> rintro ((h | h) | h) <;> cases h
  · intro steps c ask r r' _ h ih hbegun
    rw [someStep_snoc, show r'.toDomain.id = r.id from h.id]
    obtain ⟨ts, es, hmove⟩ := h.moves
    cases hmove.codeMove h.found with
    | armed _ _ _ _ _ hstatus =>
      rcases hbegun with (h | h) | h <;> exact absurd (hstatus.symm.trans h) RideStatus.noConfusion
    | @used code hop _ hstatus _ _ _ hstatus' =>
      refine Or.inr ⟨⟨code, hop⟩, h.succeeds.resolve_right fun hr' => ?_⟩
      rw [hr'] at hstatus'
      exact RideStatus.noConfusion (hstatus'.symm.trans hstatus)
    | missed _ _ hr' =>
      rw [hr'] at hbegun
      exact Or.inl (ih hbegun)
    | kept _ hkept => exact Or.inl (ih (hkept hbegun))

/-- The hash of a start code was stored by an arrival. -/
theorem armed_of_hash (hdb : Unrequested db)
    (hdraws : EachStep (RideStep.after env) RideStep.Draws steps db) :
    ∀ x r, (runRides env steps db).ride? x = some r → ∀ hash, r.startCodeHash = some hash →
      SomeStep (RideStep.after env) (RideStep.Arms env r.id hash) steps db := by
  refine forall_rides_along hdb hdraws (eachStep_true steps)
    (P := fun steps r => ∀ hash, r.startCodeHash = some hash →
      SomeStep (RideStep.after env) (RideStep.Arms env r.id hash) steps db) ?_ ?_ ?_
  · intro steps step r _ _ ih hash hhash
    exact (someStep_snoc steps step).mpr (Or.inl (ih hash hhash))
  · intro steps c ask quote ride r _ h hr _ hash hhash
    obtain ⟨request, method, -, -, rfl⟩ := h.made
    rcases hr with rfl | rfl <;> cases hhash
  · intro steps c ask r r' _ h ih hash hhash
    rw [someStep_snoc, show r'.toDomain.id = r.id from h.id]
    obtain ⟨ts, es, hmove⟩ := h.moves
    cases hmove.codeMove h.found with
    | armed hop hstatus hposition hpickup hnear hstatus' =>
      refine Or.inr ⟨hop, h.succeeds.resolve_right fun hr' => ?_, ?_, r'.toDomain, h.stored, hhash⟩
      · rw [hr'] at hstatus'
        exact RideStatus.noConfusion (hstatus.symm.trans hstatus')
      · exact ⟨r, _, _, h.found, hstatus, hposition, hpickup, hnear⟩
    | used _ _ _ _ _ _ _ hcode => exact Or.inl (ih hash (hcode.hash.symm.trans hhash))
    | missed _ _ hr' =>
      rw [hr'] at hhash
      exact Or.inl (ih hash hhash)
    | kept hcode => exact Or.inl (ih hash (hcode.hash.symm.trans hhash))

/-- What is known of a ride whose driver has arrived, as long as no ride is patched to `arrived`. -/
structure ArrivalKept (env : Env) (r : Ride) : Prop where
  pickup : r.pickupLocation.isSome
  dropoff : r.dropoffLocation.isSome
  hash : r.status = .arrived →
    r.startCodeHash = some (hashStartCode env.settings r.id (rideStartCode env.settings r.id))
  wait : r.status = .arrived → r.preRideWaitStartedAt.isSome
  unused : r.Early → r.startCodeUsedAt = none

theorem arrivalKept_runRides (hdb : Unrequested db)
    (hdraws : EachStep (RideStep.after env) RideStep.Draws steps db)
    (hpatch : EachStep (RideStep.after env) (fun step db => ¬ step.PatchesArrived db) steps db) :
    ∀ x r, (runRides env steps db).ride? x = some r → ArrivalKept env r := by
  refine forall_rides hdb hdraws hpatch ?_ ?_
  · intro c db quote ride h
    obtain ⟨request, method, -, -, rfl⟩ := h.made
    constructor
    · exact ⟨rfl, rfl, (nomatch ·), (nomatch ·), fun _ => rfl⟩
    · exact ⟨rfl, rfl, (nomatch ·), (nomatch ·), fun _ => rfl⟩
  · intro c ask db r r' ts es hpatch hr hmove ih
    have htrip := hmove.sameTrip
    have hid : r'.toDomain.id = r.id := htrip.id
    have hpickup : r'.pickupLocation.isSome := htrip.pickup ▸ ih.pickup
    have hdropoff : r'.dropoffLocation.isSome := htrip.dropoff ▸ ih.dropoff
    cases hmove.codeMove hr with
    | armed _ hstatus _ _ _ _ hcode =>
      have hearly : r.Early := by
        unfold Ride.Early
        rw [hstatus]
        decide
      refine ⟨hpickup, hdropoff, fun _ => ?_, fun _ => ?_, fun _ => hcode.used.trans (ih.unused hearly)⟩
      · rw [hid]
        exact hcode.hash
      · rw [show r'.toDomain.preRideWaitStartedAt = _ from hcode.wait]
        rfl
    | used _ _ _ _ _ _ hstatus =>
      refine ⟨hpickup, hdropoff, fun h => ?_, fun h => ?_, fun h => ?_⟩
      · exact absurd (hstatus.symm.trans h) RideStatus.noConfusion
      · exact absurd (hstatus.symm.trans h) RideStatus.noConfusion
      · exact absurd h (by unfold Ride.Early; rw [show r'.toDomain.status = _ from hstatus]; decide)
    | missed _ _ hr' =>
      rw [hr']
      exact ⟨ih.pickup, ih.dropoff, ih.hash, ih.wait, ih.unused⟩
    | kept hcode _ hearly harrived =>
      have harrived : r'.status = .arrived → r.status = .arrived := fun h =>
        (harrived h).resolve_right hpatch
      refine ⟨hpickup, hdropoff, fun h => ?_, fun h => ?_, fun h => hcode.used.trans (ih.unused (hearly h))⟩
      · rw [hid]
        exact hcode.hash.trans (ih.hash (harrived h))
      · rw [show r'.toDomain.preRideWaitStartedAt = _ from hcode.wait]
        exact ih.wait (harrived h)

/-- A digest has a first byte, so its text is not empty. -/
theorem hexdigest_sha256_ne_empty (message : Data.Bytes) : Data.hexdigest (Data.sha256 message) ≠ "" := by
  intro h
  have hlist := congrArg String.toList h
  simp only [Data.hexdigest, String.toList_ofList] at hlist
  unfold Data.sha256 at hlist
  simp [Data.Sha256.State.words, Data.Sha256.bytesOfWord] at hlist

theorem StartMove.hash {code : String} (h : StartMove env code c db r r') :
    r.startCodeHash = some (hashStartCode env.settings r.id code) := by
  have hcode := h.code
  cases hhash : r.startCodeHash with
  | none =>
    rw [hhash] at hcode
    exact absurd hcode.symm (hexdigest_sha256_ne_empty _)
  | some hash =>
    rw [hhash] at hcode
    exact congrArg some hcode

/-- Every ride gets under way through the gate, and once. -/
theorem startGate_rides (steps : List RideStep) (hdb : Unrequested db)
    (hdraws : EachStep (RideStep.after env) RideStep.Draws steps db) : StartGate env steps db where
  started before later x r hsteps hr hbegun := by
    subst hsteps
    obtain rfl := RideDb.id_of_ride? hr
    exact started_of_begun hdb (eachStep_append.mp hdraws).1 _ r hr hbegun
  passed before step later x hsteps hstarts := by
    subst hsteps
    obtain ⟨c, ask, code, r, r', rfl, rfl, hop, hmove, hmoved⟩ := hstarts.moved
    refine ⟨hashStartCode env.settings r.id code, ⟨code, r, hop, hmoved.found, hmove.mayDrive,
      hmove.arrived, hmove.unblocked, hmove.hash, rfl⟩, ?_⟩
    exact armed_of_hash hdb (eachStep_append.mp hdraws).1 _ r hmoved.found _ hmove.hash
  once before first between second later x hsteps hfirst := by
    subst hsteps
    obtain ⟨c, ask, code, r, r', rfl, rfl, hop, hmove, hmoved⟩ := hfirst.moved
    have hstored : (runRides env (before ++ [.request c ask]) db).ride? r'.id = some r'.toDomain := by
      rw [runRides_snoc, hmoved.id]
      exact hmoved.stored
    have hsplit : before ++ RideStep.request c ask :: between
        = (before ++ [RideStep.request c ask]) ++ between := by simp
    have hrun : runRides env (before ++ RideStep.request c ask :: between) db
        = runRides env between (runRides env (before ++ [RideStep.request c ask]) db) := by
      rw [hsplit]
      exact runSteps_append _ _
    rw [show before ++ RideStep.request c ask :: (between ++ second :: later)
      = (before ++ [RideStep.request c ask]) ++ (between ++ second :: later) by simp] at hdraws
    have hlater := (eachStep_append.mp (eachStep_append.mp hdraws).2).1
    rw [hrun, ← hmoved.id]
    exact not_starts_of_used hlater ⟨r'.toDomain, hstored, hmove.used⟩

theorem startGate_sample :
    ((runRides Sample.env Sample.started Sample.db).ride? 50).map Ride.status = some .inProgress ∧
      StartGate Sample.env Sample.started Sample.db :=
  ⟨by decide +kernel, startGate_rides Sample.started ⟨rfl, rfl, rfl⟩ (by decide +kernel)⟩

/-! ## Going on after the arrival -/

theorem leads_ensureMapTraceStarted_of_traceable {α : Type} {E : RideDb → Prop}
    {Q : α → RideDb → RideDb → Prop} {base cur : RideDb} {f : Except ApiError Ride → Action α}
    (htrace : Traceable ask r)
    (h : ∀ r', Traced r r' → r'.mapTraceId.isSome → Leads ask E Q (f (.ok r')) base cur) :
    Leads ask E Q (ensureMapTraceStarted r >>= f) base cur := by
  unfold ensureMapTraceStarted
  by_cases hid : r.mapTraceId.getD "" ≠ ""
  · rw [if_pos hid]
    refine Leads.bind_ret (h r (Or.inl rfl) ?_)
    cases hnone : r.mapTraceId with
    | none =>
      rw [hnone] at hid
      exact absurd rfl hid
    | some id => rfl
  · rw [if_neg hid]
    obtain ⟨pickup, dropoff, id, hpickup, hdropoff, hanswer⟩ := htrace.resolve_left hid
    split
    swap
    · rename_i hnone
      exact (hnone pickup dropoff hpickup hdropoff).elim
    rename_i pickup' dropoff' hpickup' hdropoff'
    obtain rfl := Option.some.inj (hpickup'.symm.trans hpickup)
    obtain rfl := Option.some.inj (hdropoff'.symm.trans hdropoff)
    refine Leads.bind (R := fun x base' cur' => base' = base ∧ cur' = cur ∧
      x = .ok { r with mapTraceId := some id }) ?_ ?_
    · refine Leads.bind (R := fun x base' cur' => base' = base ∧ cur' = cur ∧ x = .ok id) ?_ ?_
      · refine Leads.bind_ask ?_
        rw [hanswer]
        exact Leads.ret ⟨rfl, rfl, rfl⟩
      · rintro _ _ _ ⟨rfl, rfl, rfl⟩
        exact Leads.ret ⟨rfl, rfl, rfl⟩
    · rintro _ _ _ ⟨rfl, rfl, rfl⟩
      exact h _ (Or.inr ⟨id, rfl⟩) rfl

/-- The code of a ride that is not blocked starts it. -/
theorem startRide_succeeds {code : String} (hdistinct : db.Distinct) (hr : db.ride? r.id = some r)
    (hop : c.op = .startRide r.id code) (hactor : db.BusinessDriver c.actor) (hmay : db.MayDrive r c.actor)
    (hstatus : r.status = .arrived) (hunused : r.startCodeUsedAt = none)
    (hunblocked : r.startCodeBlockedAt = none)
    (hcode : r.startCodeHash = some (hashStartCode env.settings r.id code)) (htrace : Traceable ask r) :
    RideStep.Succeeds env c ask db := by
  refine succeeds_of_leads (Q := fun _ _ _ => True) ?_
  unfold RideCall.action
  rw [hop]
  refine leads_requireBusinessDriver_of_business hactor (Leads.ignore ?_)
  unfold startRideWithCode
  refine leads_loadRide_of_found hr (leads_checkDriver_of_may hmay ?_)
  refine leads_apiErrorIf_of_not (not_not.mpr hstatus) (leads_apiErrorIf_of_not (by simp [hunused]) ?_)
  refine leads_apiErrorIf_of_not (by simp [hunblocked]) ?_
  rw [if_neg (by rw [hcode]; exact not_not.mpr rfl)]
  have hs : (r.useCode env.settings c.clock.now).status = .arrived := hstatus
  refine leads_transitionOrRaise_of_allowed (by rw [hs]; decide) (by rw [hs]; decide) ?_
  refine leads_ensureMapTraceStarted_of_traceable htrace fun r' htraced _ => ?_
  have htrip := htraced.sameTrip
  have hid : r'.id = r.id := htrip.id
  have hfree : db.Admits r' := by
    refine hdistinct.admits hr hid (Or.inl ?_) ?_ ?_
    · unfold Ride.activeDriver
      rw [htraced.status, hstatus]
      rcases htraced with rfl | ⟨id, rfl⟩ <;> rfl
    · rcases htraced with rfl | ⟨id, rfl⟩ <;> rfl
    · rcases htraced with rfl | ⟨id, rfl⟩ <;> rfl
  refine leads_save_of_admits (by rw [hid]; exact hr) hfree ?_
  refine leads_recordLastTransition (t := ⟨r.id, some r.status, .inProgress, c.clock.now,
    some (.ofMembers [("start_code_verified", .bool true)])⟩) ?_ (Leads.ret trivial)
  rw [show r'.statusHistory = r.statusHistory ++ [_] by rcases htraced with rfl | ⟨id, rfl⟩ <;> rfl,
    RideDb.statusHistory_of_ride? hr]
  rfl

theorem leads_releaseDriverOf {E : RideDb → Prop} {base cur : RideDb} {rideId : UUID}
    (hr : cur.ride? rideId = some r) (hanswers : ReleaseAnswers ask) :
    Leads ask E (fun _ _ _ => True) (releaseDriverOf rideId) base cur := by
  refine leads_loadRide_of_found hr ?_
  obtain ⟨reply, hclear⟩ := hanswers.clear r.id
  refine leads_tell_of_answer hclear ?_
  cases r.driverId with
  | none => exact Leads.ret trivial
  | some driverId =>
    refine Leads.bind_select ?_
    cases cur.profiles.find? driverId with
    | none => exact Leads.ret trivial
    | some profile =>
      obtain ⟨reply, havailable⟩ := hanswers.available profile.userId
      exact Leads.of_bind_ret (leads_tell_of_answer havailable (Leads.ret trivial))

/-- After the delay the passenger can be marked as absent. -/
theorem markNoShow_succeeds {startedAt : DateTime} (hdistinct : db.Distinct)
    (hr : db.ride? r.id = some r) (hop : c.op = .markNoShow r.id) (hactor : db.BusinessDriver c.actor)
    (hmay : db.MayDrive r c.actor) (hstatus : r.status = .arrived)
    (hwait : r.preRideWaitStartedAt = some startedAt)
    (hlate : (env.settings.preRideNoShowSeconds : Int) ≤ wholeSeconds (c.clock.now - startedAt))
    (hanswers : ReleaseAnswers ask) : RideStep.Succeeds env c ask db := by
  refine succeeds_of_leads (Q := fun _ _ _ => True) ?_
  unfold RideCall.action
  rw [hop]
  refine leads_requireBusinessDriver_of_business hactor ?_
  refine Leads.bind (R := fun _ _ (cur : RideDb) => ∃ r', cur.ride? r.id = some r') ?_ ?_
  · unfold markPassengerNoShow
    refine leads_loadRide_of_found hr (leads_checkDriver_of_may hmay ?_)
    rw [hstatus, hwait]
    refine leads_apiErrorIf_of_not (not_lt.mpr hlate) ?_
    have hs : (r.markAbsent (wholeSeconds (c.clock.now - startedAt))).status = .arrived := hstatus
    refine leads_transitionOrRaise_of_allowed (by rw [hs]; decide) (by rw [hs]; decide) ?_
    refine leads_save_of_admits hr (hdistinct.admits hr rfl (Or.inr rfl) rfl rfl) ?_
    refine leads_recordLastTransition (t := ⟨r.id, some r.status, .cancelledByDriver, c.clock.doneAt,
      some (.ofMembers [("reason", .str "passenger_no_show")])⟩) ?_ (Leads.ret ?_)
    · change r.statusHistory ++ [_] = [_]
      rw [RideDb.statusHistory_of_ride? hr]
      rfl
    · exact ⟨_, RideDb.ride?_put_self hr (by exact ⟨rfl, rfl, rfl⟩)⟩
  · rintro _ base cur ⟨r', hr'⟩
    exact leads_releaseDriverOf hr' hanswers

theorem ArrivalKept.usable (h : ArrivalKept env r) (hdistinct : db.Distinct) (hr : db.ride? r.id = some r)
    (hstatus : r.status = .arrived) : ArrivalUsable env db r := by
  have hearly : r.Early := by
    unfold Ride.Early
    rw [hstatus]
    decide
  have hhash := h.hash hstatus
  have hunused := h.unused hearly
  refine ⟨by rw [hhash]; rfl, h.wait hstatus, ⟨rideStartCode env.settings r.id, ?_, ?_⟩, ?_⟩
  · unfold startAuthorizationCode
    rw [if_pos ⟨rfl, by rw [hhash]; exact hexdigest_sha256_ne_empty _, hunused⟩]
  · intro c ask hop hactor hmay hunblocked htrace
    exact startRide_succeeds hdistinct hr hop hactor hmay hstatus hunused hunblocked hhash htrace
  · intro c ask startedAt hop hactor hmay hwait hlate hanswers
    exact markNoShow_succeeds hdistinct hr hop hactor hmay hstatus hwait hlate hanswers

/-- As long as no ride is patched to `arrived`, the arrival of a driver is checked and the ride can go
on. -/
theorem arrivalChecked_rides (steps : List RideStep) (hdb : Unrequested db)
    (hdraws : EachStep (RideStep.after env) RideStep.Draws steps db)
    (hpatch : EachStep (RideStep.after env) (fun step db => ¬ step.PatchesArrived db) steps db) :
    ArrivalChecked env steps db := by
  intro before later x r hsteps hr hstatus
  subst hsteps
  obtain rfl := RideDb.id_of_ride? hr
  have hdraws := (eachStep_append.mp hdraws).1
  have hkept := arrivalKept_runRides hdb hdraws (eachStep_append.mp hpatch).1 _ r hr
  have hhash := hkept.hash hstatus
  exact ⟨⟨_, hhash, armed_of_hash hdb hdraws _ r hr _ hhash⟩,
    hkept.usable (distinct_runRides hdb hdraws) hr hstatus⟩

theorem RideStep.PatchesArrived.patchedTo {step : RideStep} (h : step.PatchesArrived db) :
    step.patchedTo = some .arrived := by
  cases step with
  | elsewhere => exact h.elim
  | request c ask =>
    obtain ⟨op, actor, config, clock⟩ := c
    obtain ⟨r, status, hop, hnew, -⟩ := h
    obtain rfl : op = .updateStatus r.id status := hop
    exact hnew

theorem arrivalChecked_sample :
    ((runRides Sample.env (Sample.enRoute ++ [Sample.step (.markArrived 50) 2 "driver" 100])
        Sample.db).ride? 50).map Ride.status = some .arrived ∧
      ArrivalChecked Sample.env (Sample.enRoute ++ [Sample.step (.markArrived 50) 2 "driver" 100])
        Sample.db :=
  ⟨by decide +kernel, arrivalChecked_rides _ ⟨rfl, rfl, rfl⟩ (by decide +kernel)
    (eachStep_of_forall fun step hstep db h => absurd h.patchedTo
      ((by decide : ∀ step ∈ Sample.enRoute ++ [Sample.step (.markArrived 50) 2 "driver" 100],
        step.patchedTo ≠ some .arrived) step hstep))⟩

/-- A ride that is patched to `arrived` has no code that starts it. -/
theorem arrivalChecked_patched :
    Unrequested Sample.db ∧
      EachStep (RideStep.after Sample.env) RideStep.Draws
        (Sample.enRoute ++ [Sample.step (.updateStatus 50 "arrived") 2 "driver" 100]) Sample.db ∧
      ¬ ArrivalChecked Sample.env
        (Sample.enRoute ++ [Sample.step (.updateStatus 50 "arrived") 2 "driver" 100]) Sample.db := by
  refine ⟨⟨rfl, rfl, rfl⟩, by decide +kernel, fun h => ?_⟩
  have hride : ((runRides Sample.env
      (Sample.enRoute ++ [Sample.step (.updateStatus 50 "arrived") 2 "driver" 100]) Sample.db).ride?
        50).map (fun r => (r.status, r.startCodeHash)) = some (.arrived, none) := by decide +kernel
  obtain ⟨r, hr, hstate⟩ := Option.map_eq_some_iff.mp hride
  obtain ⟨hstatus, hhash⟩ := Prod.mk.inj hstate
  obtain ⟨⟨hash, hsome, -⟩, -⟩ := h _ [] 50 r (List.append_nil _).symm hr hstatus
  rw [hhash] at hsome
  cases hsome

end DiddiGo.Rides
