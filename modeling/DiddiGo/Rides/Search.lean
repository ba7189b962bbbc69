import DiddiGo.Rides.Changes
import DiddiGo.Rides.Dispatching

/-!
# The search for a driver

Runs of complete matching steps for one ride: searches, answers of drivers, waves that expire, and anything
that happens elsewhere in between.
-/

namespace DiddiGo.Rides

open Transactions

/-- The ride has the status. -/
def RideDb.HasStatus (db : RideDb) (rideId : UUID) (status : RideStatus) : Prop :=
  ∃ r, db.ride? rideId = some r ∧ r.status = status

/-- What `try_match` does for the ride as it is stored. -/
inductive Searching (env : Env) (m : Matching) (w : Dispatching) (db : RideDb) (ride : Ride) (clock : Clock) :
    MatchingDispatch → Dispatching → RideDb → Prop
  | idle (hs : ride.status ≠ .requested) :
      Searching env m w db ride clock { driverUserIds := [], newWave := false } w db
  /-- The search is given up. -/
  | lost (hs : ride.status = .requested)
      (hwhy : searchBudgetExceeded m.config ride clock.searchedAt ∨ commissionTooHigh env.settings ride ∨
        (w.offers ride.id = [] ∧ w.candidates env m db ride clock = []))
      (hfree : db.Admits (ride.enter .noDriverFound clock.gaveUpAt)) :
      Searching env m w db ride clock { driverUserIds := [], newWave := true, noDriverFound := true }
        (w.clear ride.id)
        ((db.put (ride.enter .noDriverFound clock.gaveUpAt)).logged
          (ride.enter .noDriverFound clock.gaveUpAt).statusHistory)
  /-- The last wave is still open. -/
  | waits (hs : ride.status = .requested) (hoffers : w.offers ride.id ≠ []) :
      Searching env m w db ride clock { driverUserIds := w.offers ride.id, newWave := false } w db
  | opened (hs : ride.status = .requested)
      (hbudget : searchBudgetExceeded m.config ride clock.searchedAt = false)
      (hcommission : commissionTooHigh env.settings ride = false) (hoffers : w.offers ride.id = [])
      (hcandidates : w.candidates env m db ride clock ≠ []) :
      Searching env m w db ride clock
        { driverUserIds := w.candidates env m db ride clock, newWave := true }
        (w.openOffers ride.id (w.candidates env m db ride clock)) db

/-- What a `decline` that returns does. -/
inductive Declining (env : Env) (m : Matching) (w : Dispatching) (db : RideDb) (rideId userId : UUID)
    (clock : Clock) : MatchingDispatch → Dispatching → RideDb → Prop
  /-- The other drivers of the wave can still answer. -/
  | stays (hmem : userId ∈ w.offers rideId) (hrest : (w.offers rideId).filter (· ≠ userId) ≠ []) :
      Declining env m w db rideId userId clock
        { driverUserIds := (w.offers rideId).filter (· ≠ userId), newWave := false }
        (w.removeOffer rideId userId) db
  /-- There was no wave. -/
  | late {ride : Ride} {d : MatchingDispatch} {w' : Dispatching} {db' : RideDb}
      (hr : db.ride? rideId = some ride) (hs : ride.status = .requested) (hnone : w.offers rideId = [])
      (h : Searching env m w db ride clock d w' db') : Declining env m w db rideId userId clock d w' db'
  /-- The wave is used up. -/
  | last {ride : Ride} {d : MatchingDispatch} {w' : Dispatching} {db' : RideDb}
      (hr : db.ride? rideId = some ride) (hs : ride.status = .requested) (hmem : userId ∈ w.offers rideId)
      (hrest : (w.offers rideId).filter (· ≠ userId) = [])
      (h : Searching env m ((w.removeOffer rideId userId).deleteOffers rideId) db ride clock d w' db') :
      Declining env m w db rideId userId clock d w' db'

/-- What an `accept` that returns `matched` has found, and what it does. -/
structure Accepting (w : Dispatching) (db : RideDb) (rideId userId : UUID) (now : DateTime) (ride : Ride)
    (profile : DriverProfile) (vehicle : Vehicle) (matched : Ride) (w' : Dispatching) (db' : RideDb) :
    Prop where
  found : db.ride? rideId = some ride
  requested : ride.status = .requested
  holds : userId ∈ w.offers rideId
  known : db.profileOf userId = some profile
  active : profile.status = .active
  cohort : profile.isReviewAccount = ride.isReviewAccount
  equipped : (db.vehicles.rows.find? fun v => v.driverId = profile.id ∧ v.active) = some vehicle
  free : db.Admits matched
  assigned : matched = (ride.assign profile.id vehicle.id).enter .matched now
  served : w' = ((w.setClaim rideId (some userId)).deleteOffers rideId).setAvailable userId false
  stored : db' = (db.put matched).logged matched.statusHistory

/-- A wave, and how many drivers it was allowed. -/
structure Wave where
  drivers : List UUID
  limit : Nat
  deriving DecidableEq

/-- The services and the database, and what has happened to the search for a driver for one ride. -/
structure Search where
  world : Dispatching
  db : RideDb
  /-- The waves that were opened, oldest first. -/
  waves : List Wave := []
  /-- Who declined since the last wave was opened. -/
  declined : List UUID := []
  /-- The last wave has expired. -/
  lapsed : Bool := false

namespace Search

variable (s : Search)

/-- Everybody who was offered the ride. -/
def offered : List UUID := s.waves.flatMap Wave.drivers

/-- The driver is in the last wave, which has not expired, and has not declined. -/
def Holds (userId : UUID) : Prop :=
  s.lapsed = false ∧ userId ∉ s.declined ∧ ∃ last, s.waves.getLast? = some last ∧ userId ∈ last.drivers

/-- The search has not begun. -/
structure Fresh (rideId : UUID) : Prop where
  waves : s.waves = []
  offers : s.world.offers rideId = []
  tried : s.world.tried rideId = []
  distinct : s.db.Distinct

/-- Every driver with a profile is one of `users`, each driver is offered the ride once, and Redis knows whom
it was offered and who can still accept. -/
structure Orderly (rideId : UUID) (users : List UUID) : Prop where
  distinct : s.db.Distinct
  sizes : ∀ wave ∈ s.waves, 1 ≤ wave.drivers.length ∧ wave.drivers.length ≤ wave.limit
  nodup : s.offered.Nodup
  known : s.offered ⊆ users
  tried : s.db.HasStatus rideId .requested → s.world.tried rideId = s.offered
  holders : s.db.HasStatus rideId .requested → ∀ u ∈ s.world.offers rideId, s.Holds u

/-- After a matching step with `m`. -/
def dispatched (m : Matching) (answered : List UUID) :
    Except Err MatchingDispatch × Dispatching × RideDb → Search
  | (.ok d, w, db) =>
    if d.newWave ∧ d.driverUserIds ≠ [] then
      { world := w, db := db, waves := s.waves ++ [⟨d.driverUserIds, m.config.offerWaveSize⟩] }
    else { s with world := w, db := db, declined := s.declined ++ answered }
  | (.error _, w, db) => { s with world := w, db := db }

end Search

/-- A step of the search. -/
inductive SearchStep
  /-- `try_match`, by the request that created the ride. -/
  | tryMatch (m : Matching) (clock : Clock)
  | decline (m : Matching) (userId : UUID) (clock : Clock)
  | accept (userId : UUID) (now : DateTime)
  /-- `advance_expired_offer`, by the timer. -/
  | expire (m : Matching) (clock : Clock)
  /-- Redis expires the wave. -/
  | lapse
  /-- Something else happens. -/
  | elsewhere (world : Dispatching) (db : RideDb)

namespace SearchStep

variable (env : Env) (rideId : UUID)

/-- What the step leaves behind. -/
def after (step : SearchStep) (s : Search) : Search :=
  match step with
  | tryMatch m clock => s.dispatched m []
      (serveRequest Dispatching.serve (do
        let ride ← loadRide rideId
        Rides.tryMatch env m ride clock) (s.world, s.db))
  | decline m userId clock => s.dispatched m [userId]
      (serveRequest Dispatching.serve (Rides.decline env m rideId userId clock) (s.world, s.db))
  | accept userId now =>
    let (_, w, db) := serveRequest Dispatching.serve (Rides.accept rideId userId now) (s.world, s.db)
    { s with world := w, db := db }
  | expire m clock => s.dispatched m []
      (serveRequest Dispatching.serve (advanceExpiredOffer env m rideId clock) (s.world, s.db))
  | lapse => { s with world := s.world.deleteOffers rideId, lapsed := true }
  | elsewhere world db => { s with world := world, db := db }

/-- The step searches with `m`. -/
def searches : SearchStep → Option Matching
  | tryMatch m _ | decline m _ _ | expire m _ => some m
  | _ => none

/-- A wave has room for a driver; every driver with a profile is one of `users`; what happens elsewhere
keeps the unique keys, and the keys of the ride while it waits for a driver, which it does not do again. -/
def Allowed (users : List UUID) (step : SearchStep) (s : Search) : Prop :=
  (∀ p ∈ s.db.profiles.rows, p.userId ∈ users) ∧
    match step with
    | elsewhere world db => db.Distinct ∧
        (db.HasStatus rideId .requested → s.db.HasStatus rideId .requested ∧
          world.offers rideId = s.world.offers rideId ∧ world.tried rideId = s.world.tried rideId)
    | step => ∀ m, step.searches = some m → 0 < m.config.offerWaveSize

end SearchStep

/-- The law of a search, in a state that it reaches. -/
structure Disciplined (env : Env) (rideId : UUID) (users : List UUID) (s : Search) : Prop where
  disjoint : s.waves.Pairwise fun a b => a.drivers.Disjoint b.drivers
  sizes : ∀ wave ∈ s.waves, 1 ≤ wave.drivers.length ∧ wave.drivers.length ≤ wave.limit
  once : s.offered.Nodup
  /-- Only a driver who holds the ride can get it. -/
  holder : ∀ userId now matched,
    (serveRequest Dispatching.serve (accept rideId userId now) (s.world, s.db)).1 = .ok matched →
      s.Holds userId
  bounded : s.waves.length ≤ users.length
  /-- When a wave is over, another one follows, of which there are at most as many as drivers, or the search
  is given up. -/
  progress : s.db.HasStatus rideId .requested → s.world.offers rideId = [] → ∀ m clock,
    ∀ step ∈ [SearchStep.tryMatch m clock, .expire m clock], step.Allowed rideId users s →
      (step.after env rideId s).waves.length = s.waves.length + 1 ∧ s.waves.length < users.length ∨
        (step.after env rideId s).db.HasStatus rideId .noDriverFound

/-!
## Who may drive a ride

The rules for driving a ride, which a driver has to satisfy when he is offered it and when he gets it.
-/

/-- The driver and his vehicle satisfy every rule for driving the ride. -/
structure MayDrive (env : Env) (w : Dispatching) (db : RideDb) (ride : Ride) (profile : DriverProfile)
    (vehicle : Vehicle) : Prop where
  known : profile ∈ db.profiles.rows
  active : profile.status = .active
  cohort : profile.isReviewAccount = ride.isReviewAccount
  onFile : vehicle ∈ db.vehicles.rows
  owned : vehicle.driverId = profile.id
  inUse : vehicle.active
  verified : vehicle.verificationStatus = .active
  category : vehicle.category = ride.vehicleCategory
  comfort : comfortCanServe vehicle.comfortLevel ride.comfortLevel
  unblocked : w.outside.blocked profile.id = false
  solvent : (env.settings.driverMinBalance : Decimal) ≤ w.outside.balance profile.id

/-- The vehicle that the driver is taken to drive is approved. -/
def RideDb.DrivesVerified (db : RideDb) (userId : UUID) : Prop :=
  ∀ p, db.profileOf userId = some p → ∀ v, (db.vehicles.rows.find? fun v => v.driverId = p.id ∧ v.active) = some v →
    v.verificationStatus = .active

namespace SearchStep

variable (env : Env) (rideId : UUID)

/-- The unique keys hold, which the database sees to, and a wave has room for a driver. -/
def Possible (step : SearchStep) (s : Search) : Prop :=
  s.db.Distinct ∧ ∀ m, step.searches = some m → 0 < m.config.offerWaveSize

/-- Everybody whom the step offers the ride, and the driver to whom it gives the ride with the vehicle that it
records, may drive it at that moment. -/
def OffersToEligible (step : SearchStep) (s : Search) : Prop :=
  (∀ wave, (step.after env rideId s).waves = s.waves ++ [wave] → ∀ u ∈ wave.drivers,
    ∃ ride profile vehicle, s.db.ride? rideId = some ride ∧ profile.userId = u ∧
      MayDrive env s.world s.db ride profile vehicle) ∧
  ∀ userId now matched, step = .accept userId now →
    (serveRequest Dispatching.serve (Rides.accept rideId userId now) (s.world, s.db)).1 = .ok matched →
      ∃ profile vehicle, profile.userId = userId ∧ matched.driverId = some profile.id ∧
        matched.vehicleId = some vehicle.id ∧ MayDrive env s.world s.db matched profile vehicle

/-- Whoever is found and can take the ride drives an approved vehicle, and so does a driver who accepts; he
can still take the ride then. -/
def FindsVerified (step : SearchStep) (s : Search) : Prop :=
  ∀ ride, s.db.ride? rideId = some ride → ride.status = .requested →
    match step with
    | tryMatch m _ | decline m _ _ | expire m _ =>
      ∀ pickup, ride.pickupLocation = some pickup → ∀ u ∈ s.world.found m ride pickup, u ∉ s.world.tried rideId →
        s.world.canTake env s.db ride u → s.db.DrivesVerified u
    | accept userId _ =>
      userId ∈ s.world.offers rideId → s.world.canTake env s.db ride userId ∧ s.db.DrivesVerified userId
    | _ => True

end SearchStep

end DiddiGo.Rides
