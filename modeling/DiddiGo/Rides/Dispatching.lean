import DiddiGo.Rides.Locations
import DiddiGo.Rides.Routes

/-!
# Matching against Redis

The keys of the offer store, the keys of the drivers, and what matching learns from the other modules; and
what each part of a search comes to when the services answer from these.
-/

namespace DiddiGo.Rides

open Transactions

/-- What matching learns from the other modules and from DiddiMap. -/
structure Outside where
  /-- The distance that Redis computes. -/
  distanceKm : GeoPoint → GeoPoint → ℚ
  blocked : UUID → Bool := fun _ => false
  balance : UUID → Decimal := fun _ => 0
  /-- The travel time of a driver; `none` if DiddiMap raises. -/
  eta : UUID → GeoPoint → GeoPoint → Option Int := fun _ _ _ => none
  /-- The priority scores; `none` if they cannot be read. -/
  scores : List UUID → DateTime → Option (List (UUID × Int)) := fun _ _ => none

/-- Redis at `now`, and the rest of the services. -/
structure Dispatching where
  /-- `rides:offer:{ride}`. -/
  offers : UUID → List UUID := fun _ => []
  /-- `rides:offer:tried:{ride}`. -/
  tried : UUID → List UUID := fun _ => []
  /-- `rides:claim:{ride}`. -/
  claims : UUID → Option UUID := fun _ => none
  locations : Locations := {}
  now : DateTime
  outside : Outside

/-- `SADD`. -/
def sadd (s members : List UUID) : List UUID := s ++ members.dedup.filter (· ∉ s)

namespace Dispatching

variable (w : Dispatching)

/-- `open_offers`: the wave replaces the last one, and its drivers are tried. -/
def openOffers (rideId : UUID) (members : List UUID) : Dispatching :=
  { w with
    offers := Function.update w.offers rideId (sadd [] members)
    tried := Function.update w.tried rideId (sadd (w.tried rideId) members) }

/-- `SREM rides:offer:{ride}`. -/
def removeOffer (rideId userId : UUID) : Dispatching :=
  { w with offers := Function.update w.offers rideId ((w.offers rideId).filter (· ≠ userId)) }

/-- `DEL rides:offer:{ride}`, or the key expires. -/
def deleteOffers (rideId : UUID) : Dispatching :=
  { w with offers := Function.update w.offers rideId [] }

/-- `SET rides:claim:{ride}` or `DEL rides:claim:{ride}`. -/
def setClaim (rideId : UUID) (claim : Option UUID) : Dispatching :=
  { w with claims := Function.update w.claims rideId claim }

/-- `clear`. -/
def clear (rideId : UUID) : Dispatching :=
  { w with
    offers := Function.update w.offers rideId []
    tried := Function.update w.tried rideId []
    claims := Function.update w.claims rideId none }

/-- `set_available`. -/
def setAvailable (userId : UUID) (available : Bool) : Dispatching :=
  { w with locations := w.locations.setAvailable userId available w.now }

/-- What is answered to a request, and what is remembered then. -/
def serve : Services sig Dispatching := fun w q =>
  match q with
  | .offerType rideId _ => (.ok (.keyType (if w.offers rideId = [] then .none else .set)), w)
  | .offerMembers rideId _ => (.ok (.users (w.offers rideId)), w)
  | .openOffers rideId members => (.ok .done, w.openOffers rideId members)
  | .removeOffer rideId userId => (.ok .done, w.removeOffer rideId userId)
  | .countOffers rideId => (.ok (.count (w.offers rideId).length), w)
  | .deleteOffers rideId => (.ok .done, w.deleteOffers rideId)
  | .triedMembers rideId => (.ok (.users (w.tried rideId)), w)
  | .claim rideId userId =>
    if (w.claims rideId).isSome then (.ok (.flag false), w)
    else (.ok (.flag true), w.setClaim rideId (some userId))
  | .releaseClaim rideId => (.ok .done, w.setClaim rideId none)
  | .clear rideId => (.ok .done, w.clear rideId)
  | .setAvailable userId available => (.ok .done, w.setAvailable userId available)
  | .estimate userId origin destination _ =>
    (match w.outside.eta userId origin destination with
      | some n => .ok (.seconds n)
      | none => .error (.other "MapUnavailable"), w)
  | .blockedByPartner driverId => (.ok (.blocked (w.outside.blocked driverId) none), w)
  | .walletBalance driverId => (.ok (.amount (w.outside.balance driverId)), w)
  | .priorityScores driverIds now =>
    (match w.outside.scores driverIds now with
      | some points => .ok (.scores points)
      | none => .error (.other "SQLAlchemyError"), w)
  | q =>
    (match w.locations.reply w.outside.distanceKm w.now q with
      | some r => .ok r
      | none => .error (.other "ConnectionError"), w)

/-! ## What a search comes to -/

variable (env : Env) (m : Matching) (db : RideDb) (ride : Ride)

/-- `_can_take_ride`. -/
def canTake (userId : UUID) : Bool :=
  (db.profileOf userId).any fun p =>
    p.isReviewAccount = ride.isReviewAccount ∧ p.status = .active ∧
      ((db.vehicles.rows.find? fun v => v.driverId = p.id ∧ v.active).any fun v =>
        w.outside.blocked p.id = false ∧ (env.settings.driverMinBalance : Decimal) ≤ w.outside.balance p.id ∧
          v.category = ride.vehicleCategory ∧ comfortCanServe v.comfortLevel ride.comfortLevel)

/-- The radius of a search by which `tried` drivers were tried. -/
def radiusKm (cfg : DispatchConfig) (tried : Nat) : ℚ :=
  min (cfg.searchRadiusKm + cfg.searchRadiusStepKm * (tried / cfg.offerWaveSize : Nat)) cfg.searchRadiusMaxKm

/-- The drivers that the search for the next wave finds. -/
def found (pickup : GeoPoint) : List UUID :=
  w.locations.nearby w.outside.distanceKm w.now pickup (radiusKm m.config (w.tried ride.id).length)
    maxCandidates true

/-- The shortlist. -/
def shortlist (pickup : GeoPoint) : List UUID :=
  ((w.found m ride pickup).filter fun u => u ∉ w.tried ride.id ∧ w.canTake env db ride u).take
    (max m.config.offerWaveSize m.config.etaShortlistSize)

/-- The travel time of a driver to the pickup. -/
def etaOf (pickup : GeoPoint) (userId : UUID) : Option Int :=
  (w.locations.positionOf (UUID.str userId)).bind fun origin => w.outside.eta userId origin pickup

/-- `_priority_bonuses`. -/
def bonuses (userIds : List UUID) (now : DateTime) : List (UUID × Int) :=
  if m.priority = false ∨ userIds = [] then []
  else
    let profileIds := (db.profiles.rows.filter fun p => p.userId ∈ userIds).map fun p => (p.userId, p.id)
    match w.outside.scores (profileIds.map Prod.snd) now with
    | some points => profileIds.filterMap fun (userId, profileId) =>
        (points.lookup profileId).map fun p =>
          (userId, min (m.config.bonusSeconds p) m.config.priorityCapSeconds)
    | none => []

/-- `_rank_by_eta`. -/
def rank (pickup : GeoPoint) (eligible : List UUID) (now : DateTime) : List UUID :=
  if m.routing = false ∨ env.settings.matchingEtaRankingEnabled = false ∨ eligible.length ≤ 1 then eligible
  else
    let etas := eligible.map fun u => (u, w.etaOf pickup u)
    let timed := etas.filterMap fun (userId, eta) => eta.map fun n => (userId, n)
    let untimed := (etas.filter fun (_, eta) => eta.isNone).map Prod.fst
    if timed = [] then eligible
    else
      let bonuses := w.bonuses m db (timed.map Prod.fst) now
      let score := fun ((userId, eta) : UUID × Int) => eta - (bonuses.lookup userId).getD 0
      (timed.mergeSort fun a b => score a ≤ score b).map Prod.fst ++ untimed

/-- `_next_candidates`. -/
def candidates (clock : Clock) : List UUID :=
  match ride.pickupLocation with
  | none => []
  | some pickup =>
    (w.rank env m db pickup (w.shortlist env m db ride pickup) clock.rankedAt).take m.config.offerWaveSize

end Dispatching

end DiddiGo.Rides
