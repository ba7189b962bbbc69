import DiddiGo.Rides.Proofs.RideRulesProofs

/-!
# The effect of each ride request

What each use case does to the database when it returns, and what it leaves behind when it raises; from
these, that every request has one of the effects of `Effect`.
-/

namespace DiddiGo.Rides

open Data (Json Keyed Table)
open Transactions Prog

/-! ## Parts of a request -/

section Parts

variable {α : Type} {ask : Query → Answer} {E : RideDb → Prop} {Q : α → RideDb → RideDb → Prop}
  {base cur db : RideDb} {env : Env} {r r₁ r' : Ride}

/-- The ride `r` of `db` is now stored as `r₁`, and a write of it leaves what a write in `db` leaves. -/
structure Held (db cur : RideDb) (r r₁ : Ride) : Prop where
  stored : cur.ride? r.id = some r₁
  trip : Ride.SameTrip r r₁
  put : ∀ r', Ride.SameTrip r₁ r' → cur.put r' = db.put r'
  others : ∀ x, x ≠ r.id → cur.ride? x = db.ride? x

theorem Held.refl (h : db.ride? r.id = some r) : Held db db r r :=
  ⟨h, .refl r, fun _ _ => rfl, fun _ _ => rfl⟩

theorem Held.written (h : db.ride? r.id = some r) (ht : Ride.SameTrip r r') :
    Held db (db.put r') r r'.toDomain where
  stored := RideDb.ride?_put_self h ht
  trip := ⟨ht.id, ht.pickup, ht.dropoff⟩
  put _ hx := RideDb.put_put ⟨hx.id, hx.pickup, hx.dropoff⟩
  others _ hx := RideDb.ride?_put_of_ne h ht hx

theorem Held.id (h : Held db cur r r₁) : r₁.id = r.id := h.trip.id

theorem Held.admits (h : Held db cur r r₁) (hid : r'.id = r.id) (hr' : cur.Admits r') :
    db.Admits r' :=
  RideDb.admits_congr (fun x hx => h.others x (hid ▸ hx)) hr'

theorem leads_finishWaiting {reason : String} {now : DateTime} {f : Ride → Action α} (hE : E base)
    (hr : cur.ride? r.id = some r)
    (h : ∀ startedAt metadata r', r.status = .waiting → r.waitingStartedAt = some startedAt →
      r' = (r.billWait env.settings startedAt now).enter .inProgress now (some metadata) →
      cur.Admits r' → Leads ask E Q (f r') base (cur.put r')) :
    Leads ask E Q (finishWaiting env r reason now >>= f) base cur := by
  refine Leads.bind (R := fun r' base' cur' => base' = base ∧ cur' = cur.put r' ∧ cur.Admits r' ∧
    ∃ startedAt metadata, r.status = .waiting ∧ r.waitingStartedAt = some startedAt ∧
      r' = (r.billWait env.settings startedAt now).enter .inProgress now (some metadata)) ?_ ?_
  · unfold finishWaiting
    cases hs : r.status <;> try exact leads_apiError hE
    cases hw : r.waitingStartedAt with
    | none => exact leads_apiError hE
    | some startedAt =>
      refine leads_transitionOrRaise hE ?_ fun _ => ?_
      · rw [show (r.billWait env.settings startedAt now).status = r.status from rfl, hs]
        decide
      · refine leads_save hE hr fun hfree => Leads.ret ⟨rfl, rfl, hfree, startedAt, _, rfl, rfl, rfl⟩
  · rintro r' _ _ ⟨rfl, rfl, hfree, startedAt, metadata, hs, hw, hr'⟩
    exact h startedAt metadata r' hs hw hr' hfree

/-- Closing a wait before the ride ends. -/
theorem leads_closeWait {actor : Actor} {reason : String} {now : DateTime} {f : Ride → Action α}
    (hE : E db) (hr : db.ride? r.id = some r)
    (h : ∀ cur r₁, ClosedWait env reason now r r₁ → Held db cur r r₁ →
      Leads ask E Q (f r₁) db cur) :
    Leads ask E Q (closeWait env r actor reason now >>= f) db db := by
  refine Leads.bind (R := fun r₁ base' cur' => base' = db ∧ ClosedWait env reason now r r₁ ∧
    Held db cur' r r₁) ?_ ?_
  · unfold closeWait
    by_cases hs : r.status = .waiting
    · rw [if_pos hs]
      refine Leads.bind (R := fun r' base' cur' => base' = db ∧ cur' = db.put r' ∧
        ∃ startedAt metadata, r.waitingStartedAt = some startedAt ∧
          r' = (r.billWait env.settings startedAt now).enter .inProgress now (some metadata)) ?_ ?_
      · unfold stopWaiting
        refine leads_loadRide hE fun x hx => ?_
        obtain rfl := Option.some.inj (hr.symm.trans hx)
        refine leads_checkDriver hE fun _ => ?_
        exact Leads.of_bind_ret (leads_finishWaiting hE hr fun startedAt metadata r' _ hw hr' _ =>
          Leads.ret ⟨rfl, rfl, startedAt, metadata, hw, hr'⟩)
      · rintro r' _ _ ⟨rfl, rfl, startedAt, metadata, hw, hr'⟩
        have ht : Ride.SameTrip r r' := by rw [hr']; exact ⟨rfl, rfl, rfl⟩
        have hheld := Held.written hr ht
        refine Leads.of_bind_ret (leads_loadRide hE fun x hx => ?_)
        obtain rfl := Option.some.inj (hheld.stored.symm.trans hx)
        rw [hr'] at hheld ⊢
        exact Leads.ret ⟨rfl, .closed hs hw, hheld⟩
    · rw [if_neg hs]
      exact Leads.ret ⟨rfl, .idle hs, .refl hr⟩
  · rintro r₁ _ cur ⟨rfl, hclose, hheld⟩
    exact h cur r₁ hclose hheld

theorem reads_askMap {β : Type} (read : Reply → Option β) (q : Query) : (askMap read q).Reads := by
  refine Reads.bind (Reads.ask q) fun a => ?_
  rcases a with e | reply
  · cases e with
    | api e => exact Reads.ret _
    | _ => exact Reads.raise _
  · dsimp only
    cases read reply with
    | none => exact Reads.raise _
    | some b => exact Reads.ret _

theorem reads_analyzeTrace (traceId : String) (points : List RideRoutePoint) (finishedAt : DateTime) :
    (analyzeTrace traceId points finishedAt).Reads := by
  refine Reads.bind (reads_askMap _ _) fun a => ?_
  cases a with
  | error e => exact Reads.ret _
  | ok _ =>
    refine Reads.bind (reads_askMap _ _) fun b => ?_
    cases b with
    | error e => exact Reads.ret _
    | ok _ => exact reads_askMap _ _

/-- Starting the trace gives the ride a trace, or it does not change. -/
theorem leads_ensureMapTraceStarted {f : Except ApiError Ride → Action α} (hE : E base)
    (herror : ∀ e, Leads ask E Q (f (.error e)) base cur)
    (hok : ∀ r', Traced r r' → Leads ask E Q (f (.ok r')) base cur) :
    Leads ask E Q (ensureMapTraceStarted r >>= f) base cur := by
  refine Leads.bind (R := fun x base' cur' => base' = base ∧ cur' = cur ∧
    ∀ r', x = .ok r' → Traced r r') ?_ ?_
  · unfold ensureMapTraceStarted
    split_ifs with htrace
    · refine Leads.ret ⟨rfl, rfl, fun r' hr' => Or.inl ?_⟩
      exact (Except.ok.inj hr').symm
    · cases hpickup : r.pickupLocation with
      | none => exact Leads.ret ⟨rfl, rfl, fun _ h => nomatch h⟩
      | some pickup =>
        cases hdropoff : r.dropoffLocation with
        | none => exact Leads.ret ⟨rfl, rfl, fun _ h => nomatch h⟩
        | some dropoff =>
          refine Leads.bind_reads (reads_askMap _ _) hE fun a => ?_
          cases a with
          | error e => exact Leads.ret ⟨rfl, rfl, fun _ h => nomatch h⟩
          | ok traceId =>
            refine Leads.ret ⟨rfl, rfl, fun r' hr' => Or.inr ⟨traceId, ?_⟩⟩
            rw [← Except.ok.inj hr', ← hpickup, ← hdropoff]
  · rintro x _ _ ⟨rfl, rfl, hx⟩
    cases x with
    | error e => exact herror e
    | ok r' => exact hok r' (hx r' rfl)

theorem leads_applyActualPricingIfPossible {finishedAt : DateTime}
    {f : Ride × Option ApiError → Action α} (hE : E base)
    (h : ∀ x, Priced env r x → Leads ask E Q (f x) base cur) :
    Leads ask E Q (applyActualPricingIfPossible env r finishedAt >>= f) base cur := by
  refine Leads.bind (R := fun x base' cur' => base' = base ∧ cur' = cur ∧ Priced env r x) ?_ ?_
  · unfold applyActualPricingIfPossible listRoutePoints
    refine Leads.bind_select ?_
    split_ifs with hpoints
    · exact Leads.ret ⟨rfl, rfl, .noSamples⟩
    · refine leads_ensureMapTraceStarted hE (fun e => ?_) fun r' htraced => ?_
      · exact Leads.ret ⟨rfl, rfl, .failed e (Or.inl rfl)⟩
      · dsimp only
        cases r'.mapTraceId with
        | none => exact Leads.ret ⟨rfl, rfl, .failed _ htraced⟩
        | some traceId =>
          refine Leads.bind_reads (reads_analyzeTrace _ _ _) hE fun a => ?_
          cases a with
          | error e => exact Leads.ret ⟨rfl, rfl, .failed e htraced⟩
          | ok a => exact Leads.ret ⟨rfl, rfl, .analysed a htraced⟩
  · rintro x _ _ ⟨rfl, rfl, hx⟩
    exact h x hx

theorem leads_priceCompletion {finishedAt : DateTime} {f : Ride → Action α} (hE : E base)
    (h : ∀ r', CompletionPriced env r r' → Leads ask E Q (f r') base cur) :
    Leads ask E Q (priceCompletion env r finishedAt >>= f) base cur := by
  refine Leads.bind (R := fun r' base' cur' => base' = base ∧ cur' = cur ∧ CompletionPriced env r r')
    ?_ ?_
  · refine leads_applyActualPricingIfPossible hE ?_
    rintro ⟨r', _ | e⟩ hx
    · exact Leads.ret ⟨rfl, rfl, .priced hx⟩
    · exact Leads.ret ⟨rfl, rfl, .failed hx⟩
  · rintro r' _ _ ⟨rfl, rfl, hx⟩
    exact h r' hx

end Parts

/-! ## Use cases -/

section UseCases

variable {α β : Type} {ask : Query → Answer} {env : Env} {c : RideCall} {db cur : RideDb} {r r' : Ride}

/-- The program, as a part of the request `c` that starts at `db`, has an effect of `c`. -/
def Acts (env : Env) (ask : Query → Answer) (c : RideCall) (db : RideDb) (p : Action α) : Prop :=
  Leads ask (Rejected env ask c db) (fun _ base cur => base = db ∧ Effect env ask c db cur) p db db

theorem Acts.reads {p : Action α} (h : p.Reads) : Acts env ask c db p :=
  Leads.of_bind_ret (Leads.bind_reads h .unchanged fun _ => Leads.ret ⟨rfl, .unchanged⟩)

/-- Reading first. -/
theorem Acts.bind_reads {p : Action β} {f : β → Action α} (hp : p.Reads)
    (h : ∀ b, Acts env ask c db (f b)) : Acts env ask c db (p >>= f) :=
  Leads.bind_reads hp .unchanged h

/-- Reading afterwards. -/
theorem Acts.then_reads {p : Action β} {f : β → Action α} (hp : Acts env ask c db p)
    (hf : ∀ b, (f b).Reads) : Acts env ask c db (p >>= f) := by
  refine Leads.bind hp ?_
  rintro b _ cur ⟨rfl, heffect⟩
  exact Leads.of_bind_ret (Leads.bind_reads (hf b) .unchanged fun _ => Leads.ret ⟨rfl, heffect⟩)

theorem Acts.ignore {p : Action β} (hp : Acts env ask c db p) : Acts env ask c db (Prog.ignore p) :=
  hp.then_reads fun _ => Reads.ret ()

/-- A request that returns has an effect; one that raises is rejected. -/
theorem Acts.effect {p : Action Unit} (h : Acts env ask c db p) :
    (p.run ask db).1 = .ok () ∧ Effect env ask c db (p.run ask db).2 ∨
      (p.run ask db).1 ≠ .ok () ∧ Rejected env ask c db (p.run ask db).2 := by
  unfold Acts Leads at h
  rcases hp : p.exec ask db db with ⟨e | a, base, cur⟩
  · rw [hp] at h
    rw [run_of_error _ hp]
    exact Or.inr ⟨fun h => (nomatch h), h⟩
  · rw [hp] at h
    rw [run_of_ok _ hp]
    exact Or.inl ⟨rfl, h.2⟩

/-- The request is not about a supplement. -/
theorem not_decides {op : RideOp} (hop : c.op = op)
    (h : ∀ rideId id accepted, op ≠ .decideSupplement rideId id accepted) (rideId id : UUID)
    (accepted : Bool) : c.op ≠ .decideSupplement rideId id accepted := hop ▸ h rideId id accepted

/-- The request moves the ride, and does nothing else to the database. -/
def MovesRide (env : Env) (ask : Query → Answer) (c : RideCall) (db : RideDb) (rideId : UUID) (db' : RideDb) :
    Prop :=
  ∃ r r' ts es, r.id = rideId ∧ db.ride? r.id = some r ∧ Moves env ask c db r r' ts es ∧ db.Admits r' ∧
    db' = db.move r' ts es

theorem Acts.of_moves {p : Action α} {rideId : UUID}
    (h : Leads ask (Rejected env ask c db) (fun _ base cur => base = db ∧ MovesRide env ask c db rideId cur)
      p db db)
    (hnd : ∀ rideId id accepted, c.op ≠ .decideSupplement rideId id accepted) : Acts env ask c db p := by
  refine h.mono (fun _ h => h) ?_
  rintro _ base _ ⟨hbase, r, r', ts, es, -, hr, hmove, hfree, rfl⟩
  exact ⟨hbase, .moved hr hmove hnd hfree⟩

/-- A ride is written, then its status changes and its outcome are recorded. -/
theorem move_of_held {r₁ : Ride} (h : Held db cur r r₁) (ht : Ride.SameTrip r₁ r')
    (ts : List RideStatusTransition) (es : List PriorityEvent) :
    ((cur.put r').logged ts).withEvents es = db.move r' ts es := by
  rw [h.put r' ht]
  rfl

theorem sameTrip_enter (newStatus : RideStatus) (now : DateTime) (metadata : Option Json) :
    Ride.SameTrip r (r.enter newStatus now metadata) := ⟨rfl, rfl, rfl⟩

theorem ClosedWait.sameTrip {reason : String} {now : DateTime} (h : ClosedWait env reason now r r') :
    Ride.SameTrip r r' := by
  cases h with
  | idle => exact .refl r
  | closed => exact ⟨rfl, rfl, rfl⟩

theorem Traced.sameTrip (h : Traced r r') : Ride.SameTrip r r' := by
  rcases h with rfl | ⟨id, rfl⟩
  · exact .refl _
  · exact ⟨rfl, rfl, rfl⟩

theorem sameTrip_applyAnalysis (a : RouteTraceAnalysis) :
    Ride.SameTrip r (r.applyAnalysis env a).1 := by
  unfold Ride.applyAnalysis
  dsimp only
  split_ifs
  · exact ⟨rfl, rfl, rfl⟩
  · split
    · exact ⟨rfl, rfl, rfl⟩
    · exact ⟨rfl, rfl, rfl⟩

theorem Priced.sameTrip {x : Ride × Option ApiError} (h : Priced env r x) : Ride.SameTrip r x.1 := by
  cases h with
  | noSamples => exact ⟨rfl, rfl, rfl⟩
  | failed e h => exact h.sameTrip
  | analysed a h => exact h.sameTrip.trans (sameTrip_applyAnalysis a)

theorem CompletionPriced.sameTrip (h : CompletionPriced env r r') : Ride.SameTrip r r' := by
  cases h with
  | priced h => exact h.sameTrip
  | failed h => exact ⟨h.sameTrip.id, h.sameTrip.pickup, h.sameTrip.dropoff⟩

theorem sameTrip_transition {newStatus : RideStatus} {now : DateTime} {metadata : Option Json}
    (h : r.transition newStatus now metadata = some r') : Ride.SameTrip r r' := by
  rcases Ride.transition_cases h with ⟨-, rfl⟩ | ⟨-, -, rfl⟩
  · exact .refl r'
  · exact sameTrip_enter _ _ _

theorem ClosedWait.status_ne {reason : String} {now : DateTime} (h : ClosedWait env reason now r r') :
    r'.status ≠ .waiting := by
  cases h with
  | idle h => exact h
  | closed => exact RideStatus.noConfusion

theorem Traced.status (h : Traced r r') : r'.status = r.status := by
  rcases h with rfl | ⟨id, rfl⟩ <;> rfl

theorem status_applyAnalysis (a : RouteTraceAnalysis) : (r.applyAnalysis env a).1.status = r.status := by
  unfold Ride.applyAnalysis
  dsimp only
  split_ifs
  · rfl
  · split <;> rfl

theorem Priced.status {x : Ride × Option ApiError} (h : Priced env r x) : x.1.status = r.status := by
  cases h with
  | noSamples => rfl
  | failed e h => exact h.status
  | analysed a h => exact (status_applyAnalysis a).trans h.status

theorem CompletionPriced.status (h : CompletionPriced env r r') : r'.status = r.status := by
  cases h with
  | priced h => exact h.status
  | failed h => exact h.status

theorem eq_inProgress_of_completed {s : RideStatus} (h : RideStatus.completed ∈ s.allowedTransitions)
    (hne : s ≠ .waiting) : s = .inProgress := by
  cases s <;> simp_all [RideStatus.allowedTransitions]

/-- A completion of a ride that is completed changes nothing; anything else moves the ride. -/
theorem leads_updateStatus {rideId : UUID} {status : String} {newStatus : RideStatus}
    (hop : c.op = .updateStatus rideId status) (hnew : rideStatusOf status = some newStatus)
    (hactor : db.BusinessDriver c.actor) :
    Leads ask (Rejected env ask c db) (fun _ base cur => base = db ∧
        ((cur = db ∧ newStatus = .completed ∧ ∃ r, db.ride? rideId = some r ∧ r.status = .completed) ∨
          MovesRide env ask c db rideId cur))
      (updateStatus env c.config rideId newStatus c.actor c.clock) db db := by
  have hE : Rejected env ask c db db := .unchanged
  unfold updateStatus
  refine leads_loadRide hE fun r hr => ?_
  obtain rfl := RideDb.id_of_ride? hr
  refine leads_checkDriver hE fun hmay => ?_
  split_ifs with hdone
  · exact Leads.ret ⟨rfl, .inl ⟨rfl, hdone.2, r, hr, hdone.1⟩⟩
  refine leads_apiErrorIf hE fun _ => leads_apiErrorIf hE fun hstart => ?_
  by_cases hcompleted : newStatus = .completed
  · subst hcompleted
    refine leads_closeWait hE hr fun cur r₁ hclose hheld => leads_priceCompletion hE fun r₂ hprice => ?_
    have hs₁ : r₁.status ≠ .completed := by
      intro hs
      cases hclose with
      | idle => exact hdone ⟨hs, rfl⟩
      | closed => exact RideStatus.noConfusion hs
    cases ht : r₂.transition .completed c.clock.doneAt with
    | none => exact leads_apiError hE
    | some r₃ =>
      have hne : RideStatus.completed ≠ r₂.status := fun h => hs₁ (hprice.status ▸ h.symm)
      obtain ⟨hallowed, rfl⟩ := Ride.transition_eq_some ht hne
      have htrip : Ride.SameTrip r₁ (r₂.enter .completed c.clock.doneAt).complete :=
        hprice.sameTrip.trans ⟨rfl, rfl, rfl⟩
      have hid : (r₂.enter .completed c.clock.doneAt).complete.id = r.id := htrip.id.trans hheld.id
      rw [hprice.status] at hallowed
      have hstatus := eq_inProgress_of_completed hallowed hclose.status_ne
      dsimp only
      rw [show (r₂.enter .completed c.clock.doneAt).completeIf .completed
        = (r₂.enter .completed c.clock.doneAt).complete from if_pos rfl]
      refine leads_save hE (by rw [hid]; exact hheld.stored) fun hfree => ?_
      refine leads_recordStatusTransitions (leads_recordRideOutcome (Leads.ret ⟨rfl, .inr ?_⟩))
      have hmove : Moves env ask c db r _ _ _ :=
        .completed hop hnew hmay hclose hstatus hprice
      rw [move_of_held hheld htrip]
      exact ⟨r, _, _, _, rfl, hr, hmove, hheld.admits hid hfree, rfl⟩
  · unfold closeWaitIf priceIf
    simp only [if_neg hcompleted]
    cases ht : r.transition newStatus c.clock.doneAt with
    | none =>
      refine Leads.bind_ret (Leads.bind_ret ?_)
      rw [ht]
      exact leads_apiError hE
    | some r' =>
      refine Leads.bind_ret (Leads.bind_ret ?_)
      rw [ht]
      have htrip := sameTrip_transition ht
      dsimp only
      rw [show r'.completeIf newStatus = r' from if_neg hcompleted]
      refine leads_save hE (by rw [htrip.id]; exact hr) fun hfree => ?_
      refine leads_recordStatusTransitions (leads_recordRideOutcome (Leads.ret ⟨rfl, .inr ?_⟩))
      exact ⟨r, r', _, _, rfl, hr, .patched hop hnew hactor hmay hcompleted hstart ht, hfree, rfl⟩

theorem acts_updateStatus {rideId : UUID} {status : String} {newStatus : RideStatus}
    (hop : c.op = .updateStatus rideId status) (hnew : rideStatusOf status = some newStatus)
    (hactor : db.BusinessDriver c.actor) :
    Acts env ask c db (updateStatus env c.config rideId newStatus c.actor c.clock) := by
  refine (leads_updateStatus hop hnew hactor).mono (fun _ h => h) ?_
  rintro _ base cur ⟨hbase, ⟨rfl, -, -⟩ | ⟨r, r', ts, es, -, hr, hmove, hfree, rfl⟩⟩
  · exact ⟨hbase, .unchanged⟩
  · exact ⟨hbase, .moved hr hmove (not_decides hop fun _ _ _ h => nomatch h) hfree⟩

theorem reads_provisionalEarlyStopAmount (r : Ride) (now : DateTime) :
    (provisionalEarlyStopAmount env r now).Reads :=
  Reads.bind (Reads.select _) fun _ => Reads.ret _

theorem underWay_of_not (h : ¬ (r.status ≠ .inProgress ∧ r.status ≠ .waiting)) : r.UnderWay := by
  unfold Ride.UnderWay
  by_contra hn
  exact h (not_or.mp hn)

theorem acts_requestEarlyStop {rideId : UUID} (hop : c.op = .requestEarlyStop rideId) :
    Acts env ask c db (requestEarlyStop env rideId c.actor.userId c.clock) := by
  have hnd := not_decides hop fun _ _ _ h => nomatch h
  have hE : Rejected env ask c db db := .unchanged
  unfold Acts requestEarlyStop
  refine leads_loadRide hE fun r hr => ?_
  obtain rfl := RideDb.id_of_ride? hr
  refine leads_apiErrorIf hE fun hpassenger => leads_apiErrorIf hE fun hactive => ?_
  refine leads_save hE hr fun hfree => ?_
  refine Leads.bind_reads (reads_provisionalEarlyStopAmount _ _) hE fun _ => Leads.ret ⟨rfl, ?_⟩
  rw [← RideDb.move_nil]
  exact .moved hr (.earlyStopAsked hop (not_not.mp hpassenger) (underWay_of_not hactive)) hnd hfree

theorem leads_checkEarlyStopRequest {E : RideDb → Prop} {Q : α → RideDb → RideDb → Prop}
    {base : RideDb} {now : DateTime} {f : Unit → Action α} (hE : E base)
    (h : EarlyStopOpen r now → Leads ask E Q (f ()) base cur) :
    Leads ask E Q (checkEarlyStopRequest r now >>= f) base cur := by
  unfold checkEarlyStopRequest
  cases ha : r.earlyStopRequestedAt with
  | none => exact Leads.bind_raise hE
  | some requestedAt =>
    cases hx : r.earlyStopExpiresAt with
    | none => exact Leads.bind_raise hE
    | some expiresAt =>
      refine leads_apiErrorIf hE fun hlate => h ⟨by rw [ha]; rfl, expiresAt, hx, not_le.mp hlate⟩

theorem leads_confirmEarlyStop {rideId : UUID} (hop : c.op = .confirmEarlyStop rideId) :
    Leads ask (Rejected env ask c db) (fun _ base cur => base = db ∧ MovesRide env ask c db rideId cur)
      (confirmEarlyStop env c.config rideId c.actor c.clock) db db := by
  have hE : Rejected env ask c db db := .unchanged
  unfold confirmEarlyStop
  refine leads_loadRide hE fun r hr => ?_
  obtain rfl := RideDb.id_of_ride? hr
  refine leads_checkDriver hE fun hmay => leads_apiErrorIf hE fun hactive => ?_
  refine leads_checkEarlyStopRequest hE fun hasked => leads_closeWait hE hr fun cur r₁ hclose hheld => ?_
  refine leads_applyActualPricingIfPossible hE ?_
  rintro ⟨r₂, _ | e⟩ hprice
  swap
  · exact leads_throw hE
  dsimp only
  split
  · rename_i fare happlied hfare
    have hstatus : r₂.status ≠ .completed := by
      rw [show r₂.status = r₁.status from hprice.status]
      cases hclose with
      | idle =>
        rcases underWay_of_not hactive with h | h <;> rw [h] <;> exact RideStatus.noConfusion
      | closed => exact RideStatus.noConfusion
    refine leads_transitionOrRaise hE (fun h => hstatus h.symm) fun _ => ?_
    have htrip : Ride.SameTrip r₁ ((r₂.stopEarly fare c.clock.now).enter .completed c.clock.now
        (some (.ofMembers [("completion_reason", .str "early_stop")]))) :=
      (show Ride.SameTrip r₁ r₂ from hprice.sameTrip).trans ⟨rfl, rfl, rfl⟩
    have hid := htrip.id.trans hheld.id
    refine leads_save hE (by rw [hid]; exact hheld.stored) fun hfree => ?_
    refine leads_recordStatusTransitions (leads_recordRideOutcome (Leads.ret ⟨rfl, ?_⟩))
    rw [move_of_held hheld htrip]
    exact ⟨r, _, _, _, rfl, hr, .stoppedEarly hop hmay (underWay_of_not hactive) hasked hclose hprice happlied
      hfare rfl, hheld.admits hid hfree, rfl⟩
  · exact leads_apiError hE

theorem acts_confirmEarlyStop {rideId : UUID} (hop : c.op = .confirmEarlyStop rideId) :
    Acts env ask c db (confirmEarlyStop env c.config rideId c.actor c.clock) :=
  .of_moves (leads_confirmEarlyStop hop) (not_decides hop fun _ _ _ h => nomatch h)

theorem acts_markArrived {rideId : UUID} {position : Option GeoPoint} (hop : c.op = .markArrived rideId)
    (hposition : ask (.position c.actor.userId) = .ok (.position position)) :
    Acts env ask c db (markArrived env rideId c.actor position c.clock) := by
  have hnd := not_decides hop fun _ _ _ h => nomatch h
  have hE : Rejected env ask c db db := .unchanged
  unfold Acts markArrived
  refine leads_loadRide hE fun r hr => ?_
  obtain rfl := RideDb.id_of_ride? hr
  refine leads_checkDriver hE fun hmay => ?_
  split_ifs with harrived
  · exact Leads.ret ⟨rfl, .unchanged⟩
  refine leads_apiErrorIf hE fun hroute => ?_
  have hroute := not_not.mp hroute
  split
  · rename_i position pickup hpickup
    refine leads_apiErrorIf hE fun hfar => leads_transitionOrRaise hE ?_ fun _ => ?_
    · rw [show (r.armStartCode env.settings c.clock.now).status = r.status from rfl, hroute]
      decide
    refine leads_save hE hr fun hfree => leads_recordLastTransition (t := ?_) ?_ ?_
    · exact ⟨r.id, some r.status, .arrived, c.clock.now,
        some (.ofMembers [("distance_meters", jsonTenths (env.distanceMeters position pickup))])⟩
    · change r.statusHistory ++ _ = _
      rw [RideDb.statusHistory_of_ride? hr]
      rfl
    · refine Leads.ret ⟨rfl, ?_⟩
      rw [← RideDb.move_logged]
      exact .moved hr (.arrived hop hmay hroute hposition hpickup (not_lt.mp hfar) rfl) hnd hfree
  · exact leads_apiError hE

theorem leads_rejectCode {E : RideDb → Prop} {Q : α → RideDb → RideDb → Prop} {base : RideDb}
    {s : Settings} {now : DateTime} (hE : E base) (hr : cur.ride? r.id = some r)
    (h : cur.Admits (r.countWrongCode s now) → E (cur.put (r.countWrongCode s now))) :
    Leads ask E Q (rejectCode s r now) base cur := by
  unfold rejectCode
  refine Leads.bind_mark (leads_save hE hr fun hfree => Leads.bind_commitNow ?_)
  have hE' := h hfree
  dsimp only
  split_ifs
  · exact leads_apiError hE'
  · exact leads_apiError hE'

/-- The request moves `r` to `r'` by starting it with the code. -/
structure StartMove (env : Env) (code : String) (c : RideCall) (db : RideDb) (r r' : Ride) : Prop where
  mayDrive : db.MayDrive r c.actor
  arrived : r.status = .arrived
  unused : r.startCodeUsedAt = none
  unblocked : r.startCodeBlockedAt = none
  code : r.startCodeHash.getD "" = hashStartCode env.settings r.id code
  traced : ∃ metadata,
    Traced ((r.useCode env.settings c.clock.now).enter .inProgress c.clock.now (some metadata)) r'

theorem StartMove.moves {code : String} (h : StartMove env code c db r r') (hop : c.op = .startRide r.id code) :
    Moves env ask c db r r' r'.statusHistory [] := by
  obtain ⟨metadata, htraced⟩ := h.traced
  exact .started hop h.mayDrive h.arrived h.unused h.unblocked h.code htraced

/-- The program of `start_ride_with_code`, which ends with the ride started if it returns. -/
theorem leads_startRideWithCode {rideId : UUID} {code : String} (hop : c.op = .startRide rideId code) :
    Leads ask (Rejected env ask c db) (fun r' base cur => base = db ∧ ∃ r, db.ride? rideId = some r ∧
      StartMove env code c db r r' ∧ db.Admits r' ∧ cur = db.move r' r'.statusHistory [])
      (startRideWithCode env rideId c.actor code c.clock) db db := by
  have hE : Rejected env ask c db db := .unchanged
  unfold startRideWithCode
  refine leads_loadRide hE fun r hr => ?_
  obtain rfl := RideDb.id_of_ride? hr
  refine leads_checkDriver hE fun hmay => leads_apiErrorIf hE fun hstatus => ?_
  refine leads_apiErrorIf hE fun hunused => leads_apiErrorIf hE fun hunblocked => ?_
  have hstatus := not_not.mp hstatus
  have hunused := Option.not_isSome_iff_eq_none.mp hunused
  have hunblocked := Option.not_isSome_iff_eq_none.mp hunblocked
  split_ifs with hcode
  · refine leads_rejectCode hE hr fun hfree => ?_
    rw [← RideDb.move_nil]
    exact .wrongCode hop hr (.wrongCode hop hmay hstatus hunused hunblocked hcode) hfree
  · refine leads_transitionOrRaise hE ?_ fun _ => ?_
    · rw [show (r.useCode env.settings c.clock.now).status = r.status from rfl, hstatus]
      decide
    refine leads_ensureMapTraceStarted hE (fun e => leads_throw hE) fun r' htraced => ?_
    have htrip : Ride.SameTrip r r' := by
      have h := htraced.sameTrip
      exact ⟨h.id, h.pickup, h.dropoff⟩
    refine leads_save hE (by rw [htrip.id]; exact hr) fun hfree => ?_
    refine leads_recordLastTransition (t := ?_) ?_ (Leads.ret ⟨rfl, r, hr,
      ⟨hmay, hstatus, hunused, hunblocked, not_not.mp hcode, _, htraced⟩, hfree,
      (RideDb.move_logged r' r'.statusHistory).symm⟩)
    · exact ⟨r.id, some r.status, .inProgress, c.clock.now,
        some (.ofMembers [("start_code_verified", .bool true)])⟩
    · have hhistory : r'.statusHistory = r.statusHistory ++ [⟨r.id, some r.status, .inProgress,
          c.clock.now, some (.ofMembers [("start_code_verified", .bool true)])⟩] := by
        rcases htraced with rfl | ⟨id, rfl⟩ <;> rfl
      rw [hhistory, RideDb.statusHistory_of_ride? hr]
      rfl

theorem acts_startRideWithCode {rideId : UUID} {code : String} (hop : c.op = .startRide rideId code) :
    Acts env ask c db (startRideWithCode env rideId c.actor code c.clock) := by
  refine (leads_startRideWithCode hop).mono (fun _ h => h) ?_
  rintro r' base cur ⟨hbase, r, hr, hmove, hfree, rfl⟩
  obtain rfl := RideDb.id_of_ride? hr
  exact ⟨hbase, .moved hr (hmove.moves hop) (not_decides hop fun _ _ _ h => nomatch h) hfree⟩

theorem leads_markPassengerNoShow {rideId : UUID} (hop : c.op = .markNoShow rideId) :
    Leads ask (Rejected env ask c db) (fun _ base cur => base = db ∧ MovesRide env ask c db rideId cur)
      (markPassengerNoShow env rideId c.actor c.clock) db db := by
  have hE : Rejected env ask c db db := .unchanged
  unfold markPassengerNoShow
  refine leads_loadRide hE fun r hr => ?_
  obtain rfl := RideDb.id_of_ride? hr
  refine leads_checkDriver hE fun hmay => ?_
  split
  · rename_i startedAt hstatus hwait
    refine leads_apiErrorIf hE fun hearly => leads_transitionOrRaise hE ?_ fun _ => ?_
    · rw [show (r.markAbsent _).status = r.status from rfl, hstatus]
      decide
    refine leads_save hE hr fun hfree => leads_recordLastTransition (t := ?_) ?_ (Leads.ret ⟨rfl, ?_⟩)
    · exact ⟨r.id, some r.status, .cancelledByDriver, c.clock.doneAt,
        some (.ofMembers [("reason", .str "passenger_no_show")])⟩
    · change r.statusHistory ++ _ = _
      rw [RideDb.statusHistory_of_ride? hr]
      rfl
    · rw [← RideDb.move_logged]
      exact ⟨r, _, _, _, rfl, hr, .absent hop hmay hstatus hwait (not_lt.mp hearly) rfl, hfree, rfl⟩
  · exact leads_apiError hE

theorem acts_markPassengerNoShow {rideId : UUID} (hop : c.op = .markNoShow rideId) :
    Acts env ask c db (markPassengerNoShow env rideId c.actor c.clock) :=
  .of_moves (leads_markPassengerNoShow hop) (not_decides hop fun _ _ _ h => nomatch h)

theorem acts_startWaiting {rideId : UUID} {speed : Option ℚ} (hop : c.op = .startWaiting rideId)
    (hactor : db.BusinessDriver c.actor)
    (hspeed : ask (.speed c.actor.userId) = .ok (.speed speed)) :
    Acts env ask c db (startWaiting env rideId c.actor speed c.clock) := by
  have hnd := not_decides hop fun _ _ _ h => nomatch h
  have hE : Rejected env ask c db db := .unchanged
  unfold Acts startWaiting
  refine leads_loadRide hE fun r hr => ?_
  obtain rfl := RideDb.id_of_ride? hr
  refine leads_checkDriver hE fun hmay => ?_
  split_ifs with hwaiting
  · exact Leads.ret ⟨rfl, .unchanged⟩
  refine leads_apiErrorIf hE fun hstatus => ?_
  have hstatus := not_not.mp hstatus
  cases speed with
  | none => exact leads_apiError hE
  | some speed =>
    refine leads_apiErrorIf hE fun hmoving => leads_transitionOrRaise hE ?_ fun _ => ?_
    · rw [show (r.beginWait env.settings c.clock.now).status = r.status from rfl, hstatus]
      decide
    refine leads_save hE hr fun hfree => Leads.ret ⟨rfl, ?_⟩
    rw [← RideDb.move_nil]
    exact .moved hr (.waitStarted hop hactor hmay hstatus hspeed (not_lt.mp hmoving)) hnd hfree

theorem acts_stopWaiting {reason : String} {actor : Actor} (hr : db.ride? r.id = some r)
    (hop : c.op = .stopWaiting r.id ∨ ∃ speed, c.op = .pushSpeed speed)
    (hmay : db.MayDrive r actor → db.assigned r c.actor.userId = true ∨
      c.op = .stopWaiting r.id ∧ c.actor.isAdmin = true) :
    Acts env ask c db (stopWaiting env r.id actor reason c.clock.stoppedAt) := by
  have hnd : ∀ rideId id accepted, c.op ≠ .decideSupplement rideId id accepted := by
    rcases hop with h | ⟨speed, h⟩ <;> rw [h] <;> exact fun _ _ _ h => nomatch h
  have hE : Rejected env ask c db db := .unchanged
  unfold Acts stopWaiting
  refine leads_loadRide hE fun x hx => ?_
  obtain rfl := Option.some.inj (hr.symm.trans hx)
  refine leads_checkDriver hE fun hdrive => Leads.of_bind_ret (leads_finishWaiting hE hr ?_)
  intro startedAt metadata r' hstatus hwait hr' hfree
  refine Leads.ret ⟨rfl, ?_⟩
  rw [← RideDb.move_nil]
  rw [hr'] at hfree ⊢
  exact .moved hr (.waitStopped hop (hmay hdrive) hstatus hwait) hnd hfree

theorem reads_findActiveByDriverUserId (userId : UUID) : (findActiveByDriverUserId userId).Reads :=
  Reads.select _

theorem acts_stopWaitingIfVehicleMoves {speed : ℚ} (hop : c.op = .pushSpeed speed) :
    Acts env ask c db (stopWaitingIfVehicleMoves env c.actor.userId c.clock.stoppedAt) := by
  have hE : Rejected env ask c db db := .unchanged
  unfold stopWaitingIfVehicleMoves
  refine Acts.bind_reads (reads_findActiveByDriverUserId _) fun found => ?_
  cases found with
  | none => exact Acts.reads (Reads.ret ())
  | some x =>
    dsimp only
    split_ifs with hwaiting
    · refine Acts.ignore ?_
      cases hr : db.ride? x.id with
      | none =>
        unfold Acts stopWaiting
        refine leads_loadRide hE fun r hr' => ?_
        rw [hr] at hr'
        cases hr'
      | some r =>
        have hid := RideDb.id_of_ride? hr
        rw [← hid] at hr ⊢
        refine acts_stopWaiting hr (Or.inr ⟨speed, hop⟩) fun hmay => Or.inl ?_
        rcases hmay with hadmin | hassigned
        · exact absurd hadmin (by simp [Actor.isAdmin])
        · exact hassigned
    · exact Acts.reads (Reads.ret ())

theorem reads_supplementAmount (supplementType : String) (amount : Option Decimal) :
    (supplementAmount supplementType amount).Reads := by
  unfold supplementAmount
  cases supplementFixedAmounts.lookup supplementType with
  | some fixed => exact Reads.bind (reads_apiErrorIf _ _ _ _ _) fun _ => Reads.ret _
  | none =>
    refine Reads.bind (reads_apiErrorIf _ _ _ _ _) fun _ => ?_
    cases amount.filter fun a => 0 < a ∧ a ≤ supplementOtherMax with
    | none => exact Reads.raise _
    | some a => exact Reads.ret _

theorem reads_supplementLabel (supplementType : String) (customLabel : Option String) :
    (supplementLabel supplementType customLabel).Reads := by
  unfold supplementLabel
  split_ifs
  · exact Reads.bind (reads_apiErrorIf _ _ _ _ _) fun _ => Reads.ret _
  · exact Reads.ret _

theorem reads_requireActiveRideForDriver (rideId : UUID) (actor : Actor) (action : String) :
    (requireActiveRideForDriver rideId actor action).Reads :=
  Reads.bind (reads_loadRide rideId) fun r =>
    Reads.bind (reads_checkDriver r actor ("Seul le chauffeur assigne peut " ++ action ++ ".")) fun _ =>
      Reads.bind (reads_apiErrorIf _ _ _ _ _) fun _ => Reads.ret r

theorem acts_insertSupplement {s : RideSupplement} (h : s.status = .pending) :
    Acts env ask c db (insertSupplement s) := by
  have hE : Rejected env ask c db db := .unchanged
  refine Leads.of_bind_ret (Leads.bind_writeOrRaise hE fun hfresh => Leads.ret ⟨rfl, ?_⟩)
  have hnone : db.supplements.find? s.id = none := by simpa using hfresh
  exact .supplementAdded hnone h

theorem acts_addSupplement {rideId supplementId : UUID} {supplementType : String}
    {amount : Option Decimal} {customLabel : Option String} {now : DateTime} :
    Acts env ask c db
      (addSupplement rideId c.actor supplementType amount customLabel supplementId now) := by
  unfold addSupplement
  refine Acts.bind_reads (reads_requireActiveRideForDriver _ _ _) fun r => ?_
  generalize Data.lower (Data.strip supplementType) = supplementType
  refine Acts.bind_reads (reads_supplementAmount supplementType amount) fun amount => ?_
  refine Acts.bind_reads (reads_supplementLabel _ _) fun label => ?_
  exact (acts_insertSupplement rfl).then_reads fun _ => Reads.ret _

theorem leads_findSupplementForUpdate {E : RideDb → Prop} {Q : α → RideDb → RideDb → Prop}
    {base : RideDb} {rideId supplementId : UUID} {f : Option RideSupplement → Action α}
    (h : Leads ask E Q (f ((cur.supplements.find? supplementId).filter fun s => s.rideId = rideId))
      base cur) :
    Leads ask E Q (findSupplementForUpdate rideId supplementId >>= f) base cur := h

theorem leads_saveSupplement {E : RideDb → Prop} {Q : α → RideDb → RideDb → Prop} {base : RideDb}
    {s row : RideSupplement} {decision : SupplementStatus} {userId : UUID} {now : DateTime}
    {f : Unit → Action α} (hs : cur.supplements.find? s.id = some row)
    (h : Leads ask E Q (f ()) base (cur.decideSupplement s.id decision userId now)) :
    Leads ask E Q (saveSupplement (s.decide decision userId now) >>= f) base cur := by
  refine Leads.bind (R := fun _ base' cur' => base' = base ∧
    cur' = cur.decideSupplement s.id decision userId now) ?_ ?_
  · unfold saveSupplement
    refine Leads.bind_select ?_
    rw [show (s.decide decision userId now).id = s.id from rfl, hs]
    exact ⟨rfl, rfl⟩
  · rintro _ _ _ ⟨rfl, rfl⟩
    exact h

theorem acts_decideSupplement {rideId supplementId : UUID} {accepted : Bool}
    (hop : c.op = .decideSupplement rideId supplementId accepted) :
    Acts env ask c db (decideSupplement rideId supplementId c.actor
      (if accepted then .accepted else .disputed) c.clock.now) := by
  have hE : Rejected env ask c db db := .unchanged
  unfold Acts decideSupplement
  refine leads_loadRide hE fun r hr => ?_
  obtain rfl := RideDb.id_of_ride? hr
  refine leads_apiErrorIf hE fun _ => leads_apiErrorIf hE fun hactive => ?_
  refine leads_findSupplementForUpdate ?_
  cases hs : (db.supplements.find? supplementId).filter fun s => s.rideId = r.id with
  | none => exact leads_apiError hE
  | some s =>
    obtain ⟨hfound, hride⟩ := Option.filter_eq_some_iff.mp hs
    have hid : s.id = supplementId := Table.key_of_find? hfound
    dsimp only
    by_cases hsame : s.status = if accepted then SupplementStatus.accepted else .disputed
    · rw [if_pos hsame]
      exact Leads.ret ⟨rfl, .unchanged⟩
    rw [if_neg hsame]
    refine leads_apiErrorIf hE fun hpending => leads_saveSupplement (by rw [hid]; exact hfound) ?_
    rw [hid]
    refine Leads.bind_select (leads_save hE hr fun hfree => Leads.ret ⟨rfl, ?_⟩)
    exact .decided hr hop (underWay_of_not hactive) hfound (by simpa using hride) (not_not.mp hpending)
      rfl hfree

theorem leads_abandonWait {E : RideDb → Prop} {Q : α → RideDb → RideDb → Prop} {now : DateTime}
    {f : Ride → Action α} (hE : E db) (hr : db.ride? r.id = some r)
    (h : ∀ cur r₁, ClosedWait env "ride_cancelled" now r r₁.toDomain → Held db cur r r₁.toDomain →
      Leads ask E Q (f r₁) db cur) :
    Leads ask E Q (abandonWait env r now >>= f) db db := by
  unfold abandonWait
  by_cases hs : r.status = .waiting
  · rw [if_pos hs]
    refine leads_finishWaiting hE hr fun startedAt metadata r' _ hw hr' _ => ?_
    have ht : Ride.SameTrip r r' := by rw [hr']; exact ⟨rfl, rfl, rfl⟩
    refine h _ r' ?_ (Held.written hr ht)
    rw [hr']
    exact .closed hs hw
  · rw [if_neg hs]
    have hdomain := RideDb.toDomain_of_ride? hr
    refine Leads.bind_ret (h db r ?_ ?_)
    · rw [hdomain]
      exact .idle hs
    · rw [hdomain]
      exact .refl hr

theorem cancelledStatus_cases (reason : String) (isDriver : Bool) (actor : Actor) :
    cancelledStatus reason isDriver actor = .cancelledByDriver ∨
      cancelledStatus reason isDriver actor = .cancelledByPassenger := by
  unfold cancelledStatus
  split_ifs
  · exact Or.inl rfl
  · exact Or.inr rfl

theorem leads_cancel {rideId : UUID} {reason : String} (hop : c.op = .cancel rideId reason) :
    Leads ask (Rejected env ask c db) (fun _ base cur => base = db ∧ MovesRide env ask c db rideId cur)
      (cancel env c.config rideId reason c.actor c.clock) db db := by
  have hE : Rejected env ask c db db := .unchanged
  unfold cancel
  refine leads_apiErrorIf hE fun hreason => leads_loadRide hE fun r hr => ?_
  obtain rfl := RideDb.id_of_ride? hr
  refine leads_isAssignedDriver (leads_apiErrorIf hE fun hforeign => ?_)
  refine leads_apiErrorIf hE fun h1 => leads_apiErrorIf hE fun h2 => leads_apiErrorIf hE fun h3 => ?_
  have hopen : r.status ∉ [.completed, .cancelledByPassenger, .cancelledByDriver, .noDriverFound] := by
    simp only [List.mem_cons, List.not_mem_nil, or_false, not_or]
    exact ⟨h1, fun h => h2 (Or.inl h), fun h => h2 (Or.inr h), h3⟩
  refine leads_abandonWait hE hr fun cur r₁ hclose hheld => ?_
  have hne : cancelledStatus reason (db.assigned r c.actor.userId) c.actor ≠ r₁.status := by
    intro h
    have hs : r₁.status = r.status ∨ r₁.status = .inProgress := by
      generalize hx : r₁.toDomain = x at hclose
      have hstatus : r₁.status = x.status := by rw [← hx]; rfl
      rw [hstatus]
      cases hclose with
      | idle => exact Or.inl rfl
      | closed => exact Or.inr rfl
    rcases cancelledStatus_cases reason (db.assigned r c.actor.userId) c.actor with hc | hc <;>
      rw [hc] at h <;> rcases hs with hs | hs <;> rw [hs] at h
    · exact h2 (Or.inr h.symm)
    · cases h
    · exact h2 (Or.inl h.symm)
    · cases h
  refine leads_transitionOrRaise hE hne fun _ => ?_
  have htrip : Ride.SameTrip r₁.toDomain ((r₁.enter (cancelledStatus reason
      (db.assigned r c.actor.userId) c.actor) c.clock.doneAt
        (some (.ofMembers [("reason", .str reason)]))).withReason reason) := ⟨rfl, rfl, rfl⟩
  refine leads_save hE (by rw [htrip.id, hheld.id]; exact hheld.stored) fun hfree => ?_
  refine leads_recordRideOutcome (Leads.ret ⟨rfl, ?_⟩)
  have hmay : db.MayDrive r c.actor ∨ r.passengerUserId = c.actor.userId := by
    unfold RideDb.MayDrive
    by_contra hn
    simp only [not_or, Bool.not_eq_true] at hn
    exact hforeign ⟨hn.1.1, hn.2, hn.1.2⟩
  rw [← RideDb.logged_nil (cur.put _), move_of_held hheld htrip]
  exact ⟨r, _, _, _, rfl, hr, .cancelled hop (not_not.mp hreason) hmay hopen hclose rfl,
    hheld.admits (htrip.id.trans hheld.id) hfree, rfl⟩

theorem acts_cancel {rideId : UUID} {reason : String} (hop : c.op = .cancel rideId reason) :
    Acts env ask c db (cancel env c.config rideId reason c.actor c.clock) :=
  .of_moves (leads_cancel hop) (not_decides hop fun _ _ _ h => nomatch h)

theorem acts_createShareLink {rideId : UUID} {token : String} (hop : c.op = .createShareLink rideId token) :
    Acts env ask c db (createShareLink rideId c.actor token c.clock.now) := by
  have hnd := not_decides hop fun _ _ _ h => nomatch h
  have hE : Rejected env ask c db db := .unchanged
  unfold Acts createShareLink
  refine leads_loadRide hE fun r hr => ?_
  obtain rfl := RideDb.id_of_ride? hr
  refine Leads.bind_reads (reads_checkParticipant _ _) hE fun _ => ?_
  refine leads_save hE hr fun hfree => Leads.ret ⟨rfl, ?_⟩
  rw [← RideDb.move_nil]
  exact .moved hr (.shared hop) hnd hfree

theorem reads_checkEmergencyRate (s : Settings) (latest : Option RideEmergencyEvent) (now : DateTime) :
    (checkEmergencyRate s latest now).Reads := by
  unfold checkEmergencyRate
  cases latest with
  | none => exact Reads.ret _
  | some event => exact reads_apiErrorIf _ _ _ _ _

theorem acts_requestEmergency {rideId eventId : UUID} {note : Option String}
    (hop : c.op = .requestEmergency rideId note eventId) :
    Acts env ask c db (requestEmergency env rideId c.actor note eventId c.clock.now) := by
  have hE : Rejected env ask c db db := .unchanged
  unfold Acts requestEmergency
  refine leads_loadRide hE fun r hr => ?_
  obtain rfl := RideDb.id_of_ride? hr
  refine Leads.bind_reads (reads_checkParticipant _ _) hE fun _ => ?_
  refine Leads.bind_reads (Reads.select _) hE fun latest => ?_
  refine Leads.bind_reads (reads_checkEmergencyRate _ _ _) hE fun _ => ?_
  refine leads_save hE hr fun hfree => ?_
  refine Leads.bind_reads (reads_askFor _ _) hE fun contact => ?_
  refine Leads.bind_reads (reads_askFor _ _) hE fun results => ?_
  refine Leads.bind_writeOrRaise hE fun _ => Leads.ret ⟨rfl, ?_⟩
  exact .alerted hr (.alerted hop) hfree

end UseCases

end DiddiGo.Rides
