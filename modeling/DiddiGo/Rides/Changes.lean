import DiddiGo.Rides.Routes
import DiddiGo.Transactions.Sequential

/-!
# What ride requests do

The effect of a request that runs alone, as a relation between the database before and after it. `Moves`
is what can happen to one ride; `Effect` is what can happen to the database.
-/

namespace DiddiGo.Rides

open Data (Json Keyed)
open Transactions

namespace Ride

/-- What `transition` does when the new status is allowed. -/
def enter (r : Ride) (newStatus : RideStatus) (now : DateTime) (metadata : Option Json := none) : Ride :=
  let isCancellation := newStatus = .cancelledByPassenger ∨ newStatus = .cancelledByDriver
  let completes := newStatus = .completed ∧ r.completedAt = none
  { r with
    status := newStatus
    matchedAt := if newStatus = .matched ∧ r.matchedAt = none then some now else r.matchedAt
    arrivedAt := if newStatus = .arrived ∧ r.arrivedAt = none then some now else r.arrivedAt
    startedAt := if newStatus = .inProgress ∧ r.startedAt = none then some now else r.startedAt
    completedAt := if completes then some now else r.completedAt
    finalFare := if completes ∧ r.finalFare = none then r.estimatedFare else r.finalFare
    cancelledAt := if isCancellation ∧ r.cancelledAt = none then some now else r.cancelledAt
    statusHistory := r.statusHistory ++
      [{ rideId := r.id, fromStatus := some r.status, toStatus := newStatus, changedAt := now
         metadata := metadata }] }

/-- The row `row` after the object `r` is written over it. -/
def storedOver (r row : Ride) : Ride :=
  { r with
    id := row.id
    pickupLocation := r.pickupLocation.or row.pickupLocation
    dropoffLocation := r.dropoffLocation.or row.dropoffLocation
    statusHistory := row.statusHistory }

/-- The two rides lead from the same place to the same place. -/
structure SameTrip (r r' : Ride) : Prop where
  id : r'.id = r.id
  pickup : r'.pickupLocation = r.pickupLocation
  dropoff : r'.dropoffLocation = r.dropoffLocation

/-- The ride is under way. -/
def UnderWay (r : Ride) : Prop := r.status = .inProgress ∨ r.status = .waiting

instance (r : Ride) : Decidable r.UnderWay := by unfold UnderWay; infer_instance

end Ride

namespace RideDb

/-- The ride as code sees it. -/
def ride? (db : RideDb) (id : UUID) : Option Ride := (db.rides.find? id).map Ride.toDomain

/-- The ride object is written over its row. -/
def put (db : RideDb) (r : Ride) : RideDb :=
  { db with rides := db.rides.update r.id fun row => r.storedOver row }

/-- Status changes are recorded. -/
def logged (db : RideDb) (ts : List RideStatusTransition) : RideDb := { db with history := db.history ++ ts }

/-- Ride outcomes are recorded. -/
def withEvents (db : RideDb) (es : List PriorityEvent) : RideDb :=
  { db with priorityEvents := db.priorityEvents ++ es }

/-- The ride is written, its status changes and its outcome are recorded. -/
def move (db : RideDb) (r : Ride) (ts : List RideStatusTransition) (es : List PriorityEvent) : RideDb :=
  ((db.put r).logged ts).withEvents es

/-- A new ride and its quote, which is used now. -/
def createRide (db : RideDb) (ride : Ride) (quoteId : UUID) (now : DateTime) : RideDb :=
  { db.insertRide ride with
    quotes := db.quotes.update quoteId fun q => { q with rideId := some ride.id, consumedAt := some now } }

/-- A supplement is decided. -/
def decideSupplement (db : RideDb) (id : UUID) (decision : SupplementStatus) (userId : UUID)
    (now : DateTime) : RideDb :=
  { db with supplements := db.supplements.update id fun s => s.decide decision userId now }

/-- What `_is_assigned_driver` finds. -/
def assigned (db : RideDb) (ride : Ride) (userId : UUID) : Bool :=
  match ride.driverId with
  | none => false
  | some driverId => (db.profileOf userId).map DriverProfile.id = some driverId

/-- The actor is the assigned driver of the ride or an administrator. -/
def MayDrive (db : RideDb) (ride : Ride) (actor : Actor) : Prop :=
  actor.isAdmin = true ∨ db.assigned ride actor.userId = true

/-- The actor passes `require_business_driver`. -/
def BusinessDriver (db : RideDb) (actor : Actor) : Prop :=
  actor.isAdmin = true ∨ ∃ profile, db.profileOf actor.userId = some profile ∧ profile.status = .active

/-- No other ride has a unique key of `r`. -/
def Admits (db : RideDb) (r : Ride) : Prop :=
  ∀ id r', db.ride? id = some r' → id ≠ r.id → ¬ r.Conflicts r'

/-- No two rides share a unique key. -/
def Distinct (db : RideDb) : Prop :=
  ∀ id id' r r', db.ride? id = some r → db.ride? id' = some r' → id ≠ id' → ¬ r.Conflicts r'

end RideDb

/-- The outcome that the priority ledger learns. -/
def outcomesOf (cfg : DispatchConfig) (ride : Ride) : List PriorityEvent :=
  match outcomeKind ride.status, ride.driverId with
  | some kind, some driverId =>
    [{ driverId := driverId, kind := kind, points := cfg.pointsForRideOutcome kind
       zoneId := some defaultZoneId, rideId := some ride.id, reason := some kind.value }]
  | _, _ => []

/-! ## Parts of a change -/

/-- `r'` is `r` with its wait closed for the reason, if it was open. -/
inductive ClosedWait (env : Env) (reason : String) (now : DateTime) (r : Ride) : Ride → Prop
  | idle (h : r.status ≠ .waiting) : ClosedWait env reason now r r
  | closed {startedAt : DateTime} {metadata : Json} (h : r.status = .waiting)
      (hw : r.waitingStartedAt = some startedAt) :
      ClosedWait env reason now r
        ((r.billWait env.settings startedAt now).enter .inProgress now (some metadata)).toDomain

/-- `r'` is `r` with a trace. -/
def Traced (r r' : Ride) : Prop := r' = r ∨ ∃ id, r' = { r with mapTraceId := some id }

/-- What `_apply_actual_pricing_if_possible` does to the ride, and the `ApiError` it ends with. -/
inductive Priced (env : Env) (r : Ride) : Ride × Option ApiError → Prop
  | noSamples : Priced env r
      ({ r with traceAnalysisStatus := some "no_samples", traceAnalysisErrorCode := none }, none)
  | failed {r' : Ride} (e : ApiError) (h : Traced r r') : Priced env r (r', some e)
  | analysed {r' : Ride} (a : RouteTraceAnalysis) (h : Traced r r') :
      Priced env r (r'.applyAnalysis env a)

/-- What pricing before a completion does to the ride. -/
inductive CompletionPriced (env : Env) (r : Ride) : Ride → Prop
  | priced {r' : Ride} (h : Priced env r (r', none)) : CompletionPriced env r r'
  | failed {r' : Ride} {e : ApiError} (h : Priced env r (r', some e)) :
      CompletionPriced env r
        { r' with traceAnalysisStatus := some "provider_error", traceAnalysisErrorCode := some e.code }

/-- The request for an early stop is there and has not expired. -/
def EarlyStopOpen (r : Ride) (now : DateTime) : Prop :=
  r.earlyStopRequestedAt.isSome ∧ ∃ expiresAt, r.earlyStopExpiresAt = some expiresAt ∧ now < expiresAt

/-! ## One ride -/

/-- What a request can do to the ride `r`: the object it writes, the status changes and the outcomes it
records. -/
inductive Moves (env : Env) (ask : Query → Answer) (c : RideCall) (db : RideDb) (r : Ride) :
    Ride → List RideStatusTransition → List PriorityEvent → Prop
  /-- `PATCH /status`, but not to `completed`. -/
  | patched {status : String} {newStatus : RideStatus} {r' : Ride}
      (hop : c.op = .updateStatus r.id status) (hnew : rideStatusOf status = some newStatus)
      (hactor : db.BusinessDriver c.actor) (hmay : db.MayDrive r c.actor)
      (hcompleted : newStatus ≠ .completed)
      (hstart : newStatus ≠ .inProgress) (ht : r.transition newStatus c.clock.doneAt = some r') :
      Moves env ask c db r r' r'.statusHistory (outcomesOf c.config r')
  /-- `PATCH /status` to `completed`. -/
  | completed {status : String} {r₁ r₂ : Ride} (hop : c.op = .updateStatus r.id status)
      (hnew : rideStatusOf status = some .completed) (hmay : db.MayDrive r c.actor)
      (hclose : ClosedWait env "ride_completed" c.clock.stoppedAt r r₁)
      (hstatus : r₁.status = .inProgress) (hprice : CompletionPriced env r₁ r₂) :
      Moves env ask c db r (r₂.enter .completed c.clock.doneAt).complete
        (r₂.enter .completed c.clock.doneAt).statusHistory
        (outcomesOf c.config (r₂.enter .completed c.clock.doneAt))
  | earlyStopAsked (hop : c.op = .requestEarlyStop r.id)
      (hpassenger : r.passengerUserId = c.actor.userId) (hactive : r.UnderWay) :
      Moves env ask c db r (r.askEarlyStop c.actor.userId c.clock.now) [] []
  | stoppedEarly {r₁ r₂ r₃ : Ride} {fare : Decimal} {metadata : Json}
      (hop : c.op = .confirmEarlyStop r.id) (hmay : db.MayDrive r c.actor) (hactive : r.UnderWay)
      (hasked : EarlyStopOpen r c.clock.now)
      (hclose : ClosedWait env "early_stop" c.clock.stoppedAt r r₁) (hprice : Priced env r₁ (r₂, none))
      (happlied : r₂.traceAnalysisStatus = some "applied") (hfare : r₂.actualPricingFare = some fare)
      (hr₃ : r₃ = (r₂.stopEarly fare c.clock.now).enter .completed c.clock.now (some metadata)) :
      Moves env ask c db r r₃ r₃.statusHistory (outcomesOf c.config r₃)
  | arrived {position pickup : GeoPoint} {r' : Ride} {metadata : Json}
      (hop : c.op = .markArrived r.id) (hmay : db.MayDrive r c.actor) (hstatus : r.status = .driverEnRoute)
      (hposition : ask (.position c.actor.userId) = .ok (.position (some position)))
      (hpickup : r.pickupLocation = some pickup)
      (hnear : env.distanceMeters position pickup ≤ env.settings.driverArrivalMaxDistanceMeters)
      (hr' : r' = (r.armStartCode env.settings c.clock.now).enter .arrived c.clock.now (some metadata)) :
      Moves env ask c db r r' r'.statusHistory []
  | started {code : String} {r' : Ride} {metadata : Json} (hop : c.op = .startRide r.id code)
      (hmay : db.MayDrive r c.actor) (hstatus : r.status = .arrived) (hunused : r.startCodeUsedAt = none)
      (hunblocked : r.startCodeBlockedAt = none)
      (hcode : r.startCodeHash.getD "" = hashStartCode env.settings r.id code)
      (hr' : Traced ((r.useCode env.settings c.clock.now).enter .inProgress c.clock.now (some metadata))
        r') :
      Moves env ask c db r r' r'.statusHistory []
  | wrongCode {code : String} (hop : c.op = .startRide r.id code) (hmay : db.MayDrive r c.actor)
      (hstatus : r.status = .arrived) (hunused : r.startCodeUsedAt = none)
      (hunblocked : r.startCodeBlockedAt = none)
      (hcode : r.startCodeHash.getD "" ≠ hashStartCode env.settings r.id code) :
      Moves env ask c db r (r.countWrongCode env.settings c.clock.now) [] []
  | absent {startedAt : DateTime} {r' : Ride} {metadata : Json} (hop : c.op = .markNoShow r.id)
      (hmay : db.MayDrive r c.actor) (hstatus : r.status = .arrived)
      (hwait : r.preRideWaitStartedAt = some startedAt)
      (hlate : (env.settings.preRideNoShowSeconds : Int) ≤ wholeSeconds (c.clock.now - startedAt))
      (hr' : r' = (r.markAbsent (wholeSeconds (c.clock.now - startedAt))).enter .cancelledByDriver
        c.clock.doneAt (some metadata)) :
      Moves env ask c db r r' r'.statusHistory []
  | waitStarted {speed : ℚ} {metadata : Json} (hop : c.op = .startWaiting r.id)
      (hactor : db.BusinessDriver c.actor) (hmay : db.MayDrive r c.actor) (hstatus : r.status = .inProgress)
      (hspeed : ask (.speed c.actor.userId) = .ok (.speed (some speed)))
      (hstopped : speed ≤ env.settings.waitingStationarySpeedThresholdKmh) :
      Moves env ask c db r
        ((r.beginWait env.settings c.clock.now).enter .waiting c.clock.now (some metadata)) [] []
  | waitStopped {startedAt : DateTime} {metadata : Json}
      (hop : c.op = .stopWaiting r.id ∨ ∃ speed, c.op = .pushSpeed speed)
      (hmay : db.assigned r c.actor.userId = true ∨ c.op = .stopWaiting r.id ∧ c.actor.isAdmin = true)
      (hstatus : r.status = .waiting) (hwait : r.waitingStartedAt = some startedAt) :
      Moves env ask c db r ((r.billWait env.settings startedAt c.clock.stoppedAt).enter .inProgress
        c.clock.stoppedAt (some metadata)) [] []
  | supplementDecided {supplementId : UUID} {accepted : Bool} {total : Decimal}
      (hop : c.op = .decideSupplement r.id supplementId accepted) (hactive : r.UnderWay) :
      Moves env ask c db r (r.withSupplements total) [] []
  | cancelled {reason : String} {r₁ r₂ : Ride} {metadata : Json} (hop : c.op = .cancel r.id reason)
      (hreason : reason ∈ validCancelReasons)
      (hmay : db.MayDrive r c.actor ∨ r.passengerUserId = c.actor.userId)
      (hopen : r.status ∉ [.completed, .cancelledByPassenger, .cancelledByDriver, .noDriverFound])
      (hclose : ClosedWait env "ride_cancelled" c.clock.stoppedAt r r₁.toDomain)
      (hr₂ : r₂ = r₁.enter (cancelledStatus reason (db.assigned r c.actor.userId) c.actor)
        c.clock.doneAt (some metadata)) :
      Moves env ask c db r (r₂.withReason reason) [] (outcomesOf c.config r₂)
  | shared {token : String} (hop : c.op = .createShareLink r.id token) :
      Moves env ask c db r (r.share token c.clock.now) [] []
  | alerted {note : Option String} {eventId : UUID} (hop : c.op = .requestEmergency r.id note eventId) :
      Moves env ask c db r (r.alert note c.clock.now) [] []
  | accepted {profile : DriverProfile} {vehicle : Vehicle} {r' : Ride} (hop : c.op = .accept r.id)
      (hstatus : r.status = .requested) (hprofile : db.profileOf c.actor.userId = some profile)
      (hactive : profile.status = .active)
      (hr' : r' = (r.assign profile.id vehicle.id).enter .matched c.clock.now) :
      Moves env ask c db r r' r'.statusHistory []
  /-- The search is given up. -/
  | lost {r' : Ride} (hop : c.op = .decline r.id ∨ c.op = .expireWave r.id)
      (hstatus : r.status = .requested) (hr' : r' = r.enter .noDriverFound c.clock.gaveUpAt) :
      Moves env ask c db r r' r'.statusHistory []

/-! ## The database -/

/-- A ride that a request creates. -/
structure Creates (c : RideCall) (db : RideDb) (quote : RideQuote) (ride : Ride) : Prop where
  found : db.quotes.find? quote.id = some quote
  unused : quote.consumedAt = none
  fresh : db.ride? ride.id = none
  admitted : db.Admits ride
  made : ∃ request method, request.passengerUserId = c.actor.userId ∧ request.rideId = ride.id ∧
    ride = quote.toRide request method c.clock.now

/-- What a request can do to the database. -/
inductive Effect (env : Env) (ask : Query → Answer) (c : RideCall) (db : RideDb) : RideDb → Prop
  | unchanged : Effect env ask c db db
  | supplementAdded {s : RideSupplement} (hfresh : db.supplements.find? s.id = none)
      (hpending : s.status = .pending) :
      Effect env ask c db { db with supplements := db.supplements.insert s }
  | created {quote : RideQuote} {ride : Ride} (h : Creates c db quote ride) :
      Effect env ask c db (db.createRide ride quote.id c.clock.now)
  /-- No driver is found right after the ride is created. -/
  | createdLost {quote : RideQuote} {ride lost : Ride} (h : Creates c db quote ride)
      (hlost : lost = ride.enter .noDriverFound c.clock.gaveUpAt) :
      Effect env ask c db
        ((db.createRide ride quote.id c.clock.now).move lost lost.statusHistory [])
  | moved {r r' : Ride} {ts : List RideStatusTransition} {es : List PriorityEvent}
      (hr : db.ride? r.id = some r) (hmove : Moves env ask c db r r' ts es)
      (hop : ∀ rideId id accepted, c.op ≠ .decideSupplement rideId id accepted)
      (hfree : db.Admits r') :
      Effect env ask c db (db.move r' ts es)
  | alerted {r r' : Ride} {e : RideEmergencyEvent} (hr : db.ride? r.id = some r)
      (hmove : Moves env ask c db r r' [] []) (hfree : db.Admits r') :
      Effect env ask c db { db.put r' with emergencyEvents := db.emergencyEvents.insert e }
  | decided {r : Ride} {id : UUID} {s : RideSupplement} {accepted : Bool} {db₁ : RideDb}
      (hr : db.ride? r.id = some r) (hop : c.op = .decideSupplement r.id id accepted)
      (hactive : r.UnderWay) (hs : db.supplements.find? id = some s) (hride : s.rideId = r.id)
      (hpending : s.status = .pending)
      (hdb₁ : db₁ = db.decideSupplement id (if accepted then .accepted else .disputed) c.actor.userId
        c.clock.now)
      (hfree : db.Admits (r.withSupplements (db₁.acceptedSupplements r.id))) :
      Effect env ask c db (db₁.put (r.withSupplements (db₁.acceptedSupplements r.id)))

/-- What a request that raises leaves behind: only a wrong start code is counted. -/
inductive Rejected (env : Env) (ask : Query → Answer) (c : RideCall) (db : RideDb) : RideDb → Prop
  | unchanged : Rejected env ask c db db
  | wrongCode {r : Ride} {code : String} (hop : c.op = .startRide r.id code)
      (hr : db.ride? r.id = some r)
      (hmove : Moves env ask c db r (r.countWrongCode env.settings c.clock.now) [] [])
      (hfree : db.Admits (r.countWrongCode env.settings c.clock.now)) :
      Rejected env ask c db (db.move (r.countWrongCode env.settings c.clock.now) [] [])

/-! ## Histories -/

/-- What the other modules may do to the tables of the ride module: they leave rides and what belongs to
them alone, they add quotes, and they neither delete a driver profile nor give it to another user. -/
structure Elsewhere (db db' : RideDb) : Prop where
  rides : db'.rides = db.rides
  history : db'.history = db.history
  supplements : db'.supplements = db.supplements
  emergencyEvents : db'.emergencyEvents = db.emergencyEvents
  priorityEvents : db'.priorityEvents = db.priorityEvents
  quotes : ∀ id q, db.quotes.find? id = some q → db'.quotes.find? id = some q
  profiles : ∀ id p, db.profiles.find? id = some p →
    ∃ p', db'.profiles.find? id = some p' ∧ p'.userId = p.userId

/-- One step of a history of the ride module. -/
inductive RideStep
  /-- A request, with the answers it gets. -/
  | request (c : RideCall) (ask : Query → Answer)
  /-- Another module writes its tables. -/
  | elsewhere (patch : RideDb → RideDb) (h : ∀ db, Elsewhere db (patch db))

namespace RideStep

/-- The database after the step. -/
def after (env : Env) : RideStep → RideDb → RideDb
  | request c ask, db => ((c.action env).run ask db).2
  | elsewhere patch _, db => patch db

/-- The step is a request that succeeds. -/
def Succeeds (env : Env) (c : RideCall) (ask : Query → Answer) (db : RideDb) : Prop :=
  ((c.action env).run ask db).1 = .ok ()

/-- The identifier that the step draws for a new ride. -/
def newRide : RideStep → Option UUID
  | request { op := .createRide _ _ _ _ rideId, .. } _ => some rideId
  | _ => none

/-- An identifier that the step draws is not in use (`uuid4`). -/
def Draws (step : RideStep) (db : RideDb) : Prop := ∀ id, step.newRide = some id → db.ride? id = none

instance (step : RideStep) (db : RideDb) : Decidable (step.Draws db) :=
  match h : step.newRide with
  | none => isTrue fun _ h' => nomatch h.symm.trans h'
  | some id => decidable_of_iff (db.ride? id = none)
      ⟨fun hnone _ h' => Option.some.inj (h.symm.trans h') ▸ hnone, fun hall => hall id h⟩

end RideStep

/-- The database after a history. -/
def runRides (env : Env) (steps : List RideStep) (db : RideDb) : RideDb :=
  runSteps (RideStep.after env) steps db

/-- The databases that a history goes through. -/
def rideStates (env : Env) (steps : List RideStep) (db : RideDb) : List RideDb :=
  statesAlong (RideStep.after env) steps db

/-- Nothing has been requested yet. -/
structure Unrequested (db : RideDb) : Prop where
  rides : db.rides = .empty
  history : db.history = []
  supplements : db.supplements = .empty

/-! ## A sample -/

namespace Sample

/-- The default settings; all places are close to each other. -/
def env : Env := { settings := {}, distanceMeters := fun _ _ => 0 }

/-- Where the passenger waits. -/
def pickup : GeoPoint := ⟨5, -4⟩

/-- The quote 40 of the passenger 1. -/
def quote : RideQuote where
  id := 40
  passengerUserId := 1
  pickupLocation := pickup
  dropoffLocation := ⟨6, -4⟩
  estimatedFare := 2000
  distanceKm := 5
  durationSeconds := 600
  baseFare := 250
  distanceFare := 1200
  durationFare := 550
  surgeMultiplier := 1
  surgeCap := 8 / 5
  commissionRate := 9 / 50
  platformCommission := 360
  driverPayoutEstimate := 1640
  expiresAt := seconds 600

/-- The quote, and the active driver 2 with his profile and his vehicle. -/
def db : RideDb where
  quotes := .insert .empty quote
  profiles := .insert .empty { id := 20, userId := 2, status := .active }
  vehicles := .insert .empty { id := 30, driverId := 20 }

/-- The driver 2 holds every offer, wins every claim and stands still at the pickup; DiddiMap traces and
analyses. -/
def ask : Query → Answer
  | .offerType _ _ => .ok (.keyType .set)
  | .offerMembers _ _ => .ok (.users [2])
  | .claim _ _ => .ok (.flag true)
  | .position _ => .ok (.position (some pickup))
  | .speed _ => .ok (.speed (some 0))
  | .startTrace _ _ _ _ _ _ => .ok (.trace "trace")
  | .analyzeTrace _ => .ok (.analysis { actualDistanceKm := some 5, actualDurationSeconds := some 600 })
  | _ => .ok .done

/-- A request of a user at an instant in seconds. -/
def step (op : RideOp) (userId : UUID) (role : String) (now : Int) : RideStep :=
  .request { op := op, actor := ⟨userId, role⟩, config := dispatchConfigFromSettings env.settings
             clock := { now := seconds now } } ask

/-- The passenger requests the ride 50, and the driver accepts it and sets out. -/
def enRoute : List RideStep :=
  [step (.createRide false 40 "cash" none 50) 1 "passenger" 0, step (.accept 50) 2 "driver" 10,
    step (.updateStatus 50 "driver_en_route") 2 "driver" 20]

/-- The driver arrives and the ride is started with the code. -/
def started : List RideStep :=
  enRoute ++ [step (.markArrived 50) 2 "driver" 100,
    step (.startRide 50 (rideStartCode env.settings 50)) 2 "driver" 200]

/-- The driver waits for a while, and completes the ride. -/
def waited : List RideStep :=
  started ++ [step (.startWaiting 50) 2 "driver" 300, step (.startWaiting 50) 2 "driver" 310,
    step (.stopWaiting 50) 2 "driver" 390, step (.updateStatus 50 "completed") 2 "driver" 900]

end Sample

end DiddiGo.Rides
