import DiddiGo.Rides.Search

/-!
# What a search covers

The radius of each search of a run, and the drivers in the radius when a search is given up.
-/

namespace DiddiGo.Rides

open Transactions

/-- `try_match` comes to look for candidates. -/
structure Dispatching.Searches (w : Dispatching) (env : Env) (m : Matching) (ride : Ride) (clock : Clock) : Prop
    where
  requested : ride.status = .requested
  budget : searchBudgetExceeded m.config ride clock.searchedAt = false
  commission : commissionTooHigh env.settings ride = false
  noOffers : w.offers ride.id = []

/-! ## The radius -/

/-- The radius of a request, if it is a search. -/
def Query.radius? : Query → Option ℚ
  | geosearch _ radiusKm _ => some radiusKm
  | _ => none

/-- The radius that is due after `n` waves. -/
def DispatchConfig.radiusAfter (cfg : DispatchConfig) (n : Nat) : ℚ :=
  min (cfg.searchRadiusKm + n * cfg.searchRadiusStepKm) cfg.searchRadiusMaxKm

namespace SearchStep

variable (env : Env) (rideId : UUID) (cfg : DispatchConfig)

/-- The radii of the searches in the step. -/
def radii (step : SearchStep) (s : Search) : List ℚ :=
  (match step with
    | tryMatch m clock => Prog.queries Dispatching.serve (do
        let ride ← loadRide rideId
        Rides.tryMatch env m ride clock) s.world s.db
    | decline m userId clock =>
      Prog.queries Dispatching.serve (Rides.decline env m rideId userId clock) s.world s.db
    | expire m clock =>
      Prog.queries Dispatching.serve (advanceExpiredOffer env m rideId clock) s.world s.db
    | _ => []).filterMap Query.radius?

/-- The step comes to look for candidates around a pickup. -/
def Searches (step : SearchStep) (s : Search) : Prop :=
  ∃ ride, s.db.ride? rideId = some ride ∧ ride.pickupLocation.isSome ∧
    match step with
    | tryMatch m clock | expire m clock => s.world.Searches env m ride clock
    | decline m userId clock => (s.world.removeOffer rideId userId).Searches env m ride clock
    | _ => False

/-- Each search in the step has the radius that is due after the waves that were opened. -/
def WidensByWave (step : SearchStep) (s : Search) : Prop :=
  ∀ r ∈ step.radii env rideId s, r = cfg.radiusAfter s.waves.length

/-- If the step searches, the waves were full, or the radius does not grow any more. -/
def FindsWavesFull (step : SearchStep) (s : Search) : Prop :=
  step.Searches env rideId s →
    (∀ wave ∈ s.waves, wave.drivers.length = cfg.offerWaveSize) ∨ cfg.searchRadiusStepKm = 0 ∨
      cfg.searchRadiusMaxKm ≤
        cfg.searchRadiusKm + cfg.searchRadiusStepKm * (s.offered.length / cfg.offerWaveSize : Nat)

/-- The step is allowed, and the policy is `cfg`. -/
def AllowedWith (users : List UUID) (step : SearchStep) (s : Search) : Prop :=
  step.Allowed rideId users s ∧ ∀ m, step.searches = some m → m.config = cfg

end SearchStep

/-! ## Giving up -/

namespace Dispatching

variable (w : Dispatching) (env : Env) (m : Matching) (db : RideDb) (ride : Ride)

/-- The members within the radius of the search, nearest first. -/
def inRange (pickup : GeoPoint) : List String :=
  w.locations.inRange w.outside.distanceKm pickup (radiusKm m.config (w.tried ride.id).length)

/-- The driver is present and available within the radius and can take the ride, which he was not offered. -/
structure Unasked (pickup : GeoPoint) (userId : UUID) : Prop where
  inRange : UUID.str userId ∈ w.inRange m ride pickup
  marked : w.locations.marked w.now true (UUID.str userId)
  can : w.canTake env db ride userId
  untried : userId ∉ w.tried ride.id

/-- Fewer than 100 members are nearer, and fewer than 25 of them are present and available. -/
def InWindow (pickup : GeoPoint) (userId : UUID) : Prop :=
  ∃ nearer farther, w.inRange m ride pickup = nearer ++ UUID.str userId :: farther ∧
    nearer.length < maxCandidates * 4 ∧
      ((nearer.filter (w.locations.marked w.now true)).filterMap UUID.ofString).length < maxCandidates

/-- If the search ends without candidates, nobody is left who could be asked. -/
def GivesUpComplete (clock : Clock) : Prop :=
  w.Searches env m ride clock →
    (serveRequest serve (tryMatch env m ride clock) (w, db)).2.2.HasStatus ride.id .noDriverFound →
      ∀ pickup userId, ride.pickupLocation = some pickup → ¬ w.Unasked env m db ride pickup userId

/-- If the search finds somebody who could be asked, one of these is in the window. -/
def WindowSuffices (clock : Clock) : Prop :=
  w.Searches env m ride clock → ∀ pickup, ride.pickupLocation = some pickup →
    (∃ userId, w.Unasked env m db ride pickup userId) →
      ∃ userId, w.Unasked env m db ride pickup userId ∧ w.InWindow m ride pickup userId

end Dispatching

/-!
## Two dispatch policies

The timer of a wave builds its own matching engine, the requests are given another one. Both go on with the
search for a driver; here they are compared.
-/

/-- The matching engine of `_advance_offer_wave_after_timeout`. -/
def timerMatching (env : Env) : Matching :=
  { config := dispatchConfigFromSettings env.settings, routing := false, priority := false }

/-- The matching engine of a request, when `cfg` is stored. -/
def requestMatching (cfg : DispatchConfig) : Matching := { config := cfg }

/-- The timer and the requests do the same from every state in which a ride waits for its next wave: they open
the same wave, in the same order, or give up. -/
def SamePolicy (env : Env) (cfg : DispatchConfig) : Prop :=
  ∀ (rideId userId : UUID) (clock : Clock) (w : Dispatching) (db : RideDb) (ride : Ride),
    db.ride? rideId = some ride → ride.status = .requested → w.offers rideId = [] →
      serveRequest Dispatching.serve (advanceExpiredOffer env (timerMatching env) rideId clock) (w, db) =
          serveRequest Dispatching.serve (tryMatch env (requestMatching cfg) ride clock) (w, db) ∧
        serveRequest Dispatching.serve (advanceExpiredOffer env (timerMatching env) rideId clock) (w, db) =
          serveRequest Dispatching.serve (decline env (requestMatching cfg) rideId userId clock) (w, db)

/-- The stored policy says what the settings say, as far as the timer knows them. -/
structure Agrees (env : Env) (cfg : DispatchConfig) : Prop where
  waveSize : cfg.offerWaveSize = (dispatchConfigFromSettings env.settings).offerWaveSize
  radius : ∀ n : Nat, cfg.radiusAfter n = (dispatchConfigFromSettings env.settings).radiusAfter n
  budget : max 0 cfg.searchBudgetSeconds = max 0 env.settings.matchingSearchBudgetSeconds
  ranking : env.settings.matchingEtaRankingEnabled = false

end DiddiGo.Rides
