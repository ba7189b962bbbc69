import DiddiGo.Rides.RideService

/-!
# Matching

A ride is offered to a wave of nearby eligible drivers; the first accept wins. Offers, the drivers that
were tried and the claim of the winner live in Redis, positions and availability as well.
-/

namespace DiddiGo.Rides

open Data (Json)
open Transactions

/-! ## The offer store -/

/-- The type of a key. -/
def Reply.keyType? : Reply → Option KeyType
  | keyType t => some t
  | _ => none

/-- A set of users. -/
def Reply.users? : Reply → Option (List UUID)
  | users l => some l
  | _ => none

/-- A number of members. -/
def Reply.count? : Reply → Option Nat
  | count n => some n
  | _ => none

/-- Yes or no. -/
def Reply.flag? : Reply → Option Bool
  | flag b => some b
  | _ => none

/-- `current_offers`: the drivers of the active wave. -/
def currentOffers (rideId : UUID) (nth : Nat) : Action (List UUID) := do
  match ← askFor Reply.keyType? (.offerType rideId nth) with
  | .none => return []
  | _ => askFor Reply.users? (.offerMembers rideId nth)

/-- `decline_offer`: whether another driver can still answer. -/
def declineOffer (rideId driverUserId : UUID) : Action Bool := do
  match ← askFor Reply.keyType? (.offerType rideId 1) with
  | .set =>
    tell (.removeOffer rideId driverUserId)
    let remaining ← askFor Reply.count? (.countOffers rideId)
    if remaining = 0 then
      tell (.deleteOffers rideId)
    return decide (remaining ≠ 0)
  | .string =>
    tell (.deleteOffers rideId)
    return false
  | .none => return false

/-! ## Driver locations -/

/-- Members of the position set. -/
def Reply.members? : Reply → Option (List String)
  | members l => some l
  | _ => none

/-- The results of a pipeline of `EXISTS`. -/
def Reply.flags? : Reply → Option (List Bool)
  | flags l => some l
  | _ => none

/-- The position of a driver. -/
def Reply.position? : Reply → Option (Option GeoPoint)
  | position p => some p
  | _ => none

/-- The speed of a driver. -/
def Reply.speed? : Reply → Option (Option ℚ)
  | speed v => some v
  | _ => none

/-- The loop of `_search`, at the member with the index `index`: the first `limit` members that have all their
markers, of which each has `stride`, and are identifiers. -/
def collectNearby (stride limit : Nat) (flags : List Bool) : Nat → List String → List UUID → List UUID
  | _, [], nearby => nearby
  | index, member :: members, nearby =>
    let window := (flags.take ((index + 1) * stride)).drop (index * stride)
    if !window.all id then collectNearby stride limit flags (index + 1) members nearby
    else
      let nearby := match UUID.ofString member with
        | some userId => nearby ++ [userId]
        | none => nearby
      if limit ≤ nearby.length then nearby
      else collectNearby stride limit flags (index + 1) members nearby

/-- `_search`. -/
def searchDrivers (location : GeoPoint) (radiusKm : ℚ) (limit : Nat) (requireAvailable : Bool) :
    Action (List UUID) := do
  let members ← askFor Reply.members?
    (.geosearch location radiusKm (if requireAvailable then limit * 4 else limit))
  if members = [] then
    return []
  let flags ← askFor Reply.flags? (.markers members requireAvailable)
  return collectNearby (if requireAvailable then 2 else 1) limit flags 0 members []

/-! ## Candidates -/

/-- What the matching engine is wired with. -/
structure Matching where
  config : DispatchConfig
  routing : Bool := true
  priority : Bool := true

/-- The rank of a comfort level. -/
def comfortRank : ComfortLevel → Nat
  | .standard => 1
  | .comfort => 2
  | .premium => 3

/-- `_comfort_can_serve`. -/
def comfortCanServe (vehicle requested : ComfortLevel) : Bool := comfortRank requested ≤ comfortRank vehicle

/-- Whether a partner blocks the driver. -/
def Reply.blocked? : Reply → Option Bool
  | blocked b _ => some b
  | _ => none

/-- An amount of money. -/
def Reply.amount? : Reply → Option Decimal
  | amount d => some d
  | _ => none

/-- `_can_take_ride`; the reason is only logged. -/
def canTakeRide (env : Env) (userId : UUID) (ride : Ride) : Action Bool := do
  match ← findProfileByUserId userId with
  | none => return false
  | some profile =>
    if profile.isReviewAccount ≠ ride.isReviewAccount then
      return false
    if profile.status ≠ .active then
      return false
    match ← findActiveVehicle profile.id with
    | none => return false
    | some vehicle =>
      let blocked ← askFor Reply.blocked? (.blockedByPartner profile.id)
      if blocked = true then
        return false
      let balance ← askFor Reply.amount? (.walletBalance profile.id)
      if balance < env.settings.driverMinBalance then
        return false
      if vehicle.category ≠ ride.vehicleCategory then
        return false
      return comfortCanServe vehicle.comfortLevel ride.comfortLevel

/-- The drivers among `nearby` that can take the ride and were not tried, at most `size`. -/
def eligibleDrivers (env : Env) (ride : Ride) (tried : List UUID) (size : Nat) :
    List UUID → List UUID → Action (List UUID)
  | [], eligible => return eligible
  | userId :: nearby, eligible => do
    if userId ∈ tried then
      eligibleDrivers env ride tried size nearby eligible
    else
      let can ← canTakeRide env userId ride
      if can = true then
        if size ≤ (eligible ++ [userId]).length then return eligible ++ [userId]
        else eligibleDrivers env ride tried size nearby (eligible ++ [userId])
      else eligibleDrivers env ride tried size nearby eligible

/-- The travel time of a driver to the pickup; an exception counts as unknown. -/
def driverEta (pickup : GeoPoint) (positions : List (UUID × GeoPoint)) (userId : UUID) :
    Action (Option Int) :=
  match positions.lookup userId with
  | none => return none
  | some origin => do
    match ← Prog.ask (.estimate userId origin pickup "palh_vtc") with
    | .ok (.seconds n) => return some n
    | _ => return none

/-- The travel time of each driver to the pickup, as far as it is known. -/
def driverEtas (pickup : GeoPoint) (positions : List (UUID × GeoPoint)) :
    List UUID → Action (List (UUID × Option Int))
  | [] => return []
  | userId :: rest => do
    let eta ← driverEta pickup positions userId
    let etas ← driverEtas pickup positions rest
    return (userId, eta) :: etas

/-- `_priority_bonuses`: none whenever priority is unavailable. -/
def priorityBonuses (m : Matching) (userIds : List UUID) (now : DateTime) :
    Action (List (UUID × Int)) :=
  if m.priority = false ∨ userIds = [] then return []
  else do
    let profileIds ← profileIdsForUsers userIds
    match ← Prog.ask (.priorityScores (profileIds.map Prod.snd) now) with
    | .ok (.scores points) =>
      return profileIds.filterMap fun (userId, profileId) =>
        (points.lookup profileId).map fun p =>
          (userId, min (m.config.bonusSeconds p) m.config.priorityCapSeconds)
    | _ => return []

/-- `_rank_by_eta`: drivers with a known travel time by that time less their bonus, then the others;
the order stays when nothing is known. -/
def rankByEta (env : Env) (m : Matching) (ride : Ride) (eligible : List UUID) (now : DateTime) :
    Action (List UUID) :=
  match ride.pickupLocation with
  | none => return eligible
  | some pickup =>
    if m.routing = false ∨ env.settings.matchingEtaRankingEnabled = false ∨ eligible.length ≤ 1 then
      return eligible
    else do
      match ← Prog.ask (.coordinates eligible) with
      | .ok (.positions positions) =>
        let etas ← driverEtas pickup positions eligible
        let timed := etas.filterMap fun (userId, eta) => eta.map fun n => (userId, n)
        let untimed := (etas.filter fun (_, eta) => eta.isNone).map Prod.fst
        if timed = [] then
          return eligible
        let bonuses ← priorityBonuses m (timed.map Prod.fst) now
        let score := fun (userId, eta) => eta - (bonuses.lookup userId).getD 0
        return (timed.mergeSort fun a b => score a ≤ score b).map Prod.fst ++ untimed
      | _ => return eligible

/-- `MAX_CANDIDATES`. -/
def maxCandidates : Nat := 25

/-- `_next_candidates`. -/
def nextCandidates (env : Env) (m : Matching) (ride : Ride) (clock : Clock) : Action (List UUID) :=
  match ride.pickupLocation with
  | none => return []
  | some pickup => do
    let tried ← askFor Reply.users? (.triedMembers ride.id)
    let waveNumber := tried.length / m.config.offerWaveSize
    let radiusKm := min (m.config.searchRadiusKm + m.config.searchRadiusStepKm * waveNumber)
      m.config.searchRadiusMaxKm
    let nearby ← searchDrivers pickup radiusKm maxCandidates true
    if nearby = [] then
      return []
    let eligible ← eligibleDrivers env ride tried (max m.config.offerWaveSize m.config.etaShortlistSize)
      nearby []
    let ranked ← rankByEta env m ride eligible clock.rankedAt
    return ranked.take m.config.offerWaveSize

/-! ## Waves -/

/-- What a matching step leads to. -/
structure MatchingDispatch where
  driverUserIds : List UUID
  newWave : Bool
  noDriverFound : Bool := false
  deriving DecidableEq, Repr

/-- `_search_budget_exceeded`. -/
def searchBudgetExceeded (cfg : DispatchConfig) (ride : Ride) (now : DateTime) : Bool :=
  match ride.requestedAt with
  | none => false
  | some requestedAt => 0 < cfg.searchBudgetSeconds ∧ seconds cfg.searchBudgetSeconds < now - requestedAt

/-- The estimated commission is above the threshold for dispatch. -/
def commissionTooHigh (s : Settings) (ride : Ride) : Bool :=
  0 < s.driverMaxEstimatedCommission ∧
    ride.platformCommission.any fun c => (s.driverMaxEstimatedCommission : Decimal) < c

/-- `_give_up`. -/
def giveUp (ride : Ride) (now : DateTime) : Action MatchingDispatch := do
  let lost ← transitionOrRaise ride .noDriverFound now
  save ride.toDomain lost
  recordStatusTransitions lost.statusHistory
  tell (.clear ride.id)
  return { driverUserIds := [], newWave := true, noDriverFound := true }

/-- `try_match`. -/
def tryMatch (env : Env) (m : Matching) (ride : Ride) (clock : Clock) : Action MatchingDispatch := do
  if ride.status ≠ .requested then
    return { driverUserIds := [], newWave := false }
  if searchBudgetExceeded m.config ride clock.searchedAt then
    giveUp ride clock.gaveUpAt
  else if commissionTooHigh env.settings ride then
    giveUp ride clock.gaveUpAt
  else
    let outstanding ← currentOffers ride.id 2
    if outstanding ≠ [] then
      return { driverUserIds := outstanding, newWave := false }
    let candidates ← nextCandidates env m ride clock
    if candidates = [] then
      giveUp ride clock.gaveUpAt
    else
      tell (.openOffers ride.id candidates)
      return { driverUserIds := candidates, newWave := true }

/-- `_load_active_ride`. -/
def loadActiveRide (rideId : UUID) : Action Ride := do
  let ride ← loadRide rideId
  apiErrorIf (ride.status = .matched) 409 "RIDE_ALREADY_MATCHED" "Cette course a deja ete acceptee."
  apiErrorIf (ride.status ≠ .requested) 409 "RIDE_NOT_OFFERABLE"
    "Cette course n'attend plus de chauffeur."
    (.ofMembers [("current_status", .str ride.status.value)])
  return ride

/-- The ride gets a driver and a vehicle. -/
def Ride.assign (r : Ride) (driverId vehicleId : UUID) : Ride :=
  { r with driverId := some driverId, vehicleId := some vehicleId }

/-- The driver is assigned to the ride. -/
def assignDriver (ride : Ride) (driverId vehicleId : UUID) (now : DateTime) : Action Ride := do
  let matched ← transitionOrRaise (ride.assign driverId vehicleId) .matched now
  save ride matched
  recordStatusTransitions matched.statusHistory
  return matched

/-- `accept`. -/
def accept (rideId driverUserId : UUID) (now : DateTime) : Action Ride := do
  let ride ← loadActiveRide rideId
  let holders ← currentOffers rideId 0
  apiErrorIf (holders = []) 409 "OFFER_EXPIRED" "Cette demande n'est plus disponible."
  apiErrorIf (driverUserId ∉ holders) 403 "OFFER_NOT_YOURS"
    "Cette demande a ete proposee a un autre chauffeur."
  match (← findProfileByUserId driverUserId).filter fun p => p.status = .active with
  | none => apiError 403 "DRIVER_NOT_VERIFIED" "Votre profil chauffeur n'est pas valide."
  | some profile =>
    apiErrorIf (profile.isReviewAccount ≠ ride.isReviewAccount) 403 "REVIEW_COHORT_MISMATCH"
      "Cette course appartient a un autre groupe de test."
    match ← findActiveVehicle profile.id with
    | none => apiError 409 "NO_ACTIVE_VEHICLE" "Aucun vehicule actif n'est associe a ce chauffeur."
    | some vehicle =>
      let won ← askFor Reply.flag? (.claim rideId driverUserId)
      apiErrorIf (won = false) 409 "RIDE_ALREADY_MATCHED" "Cette course a deja ete acceptee."
      let matched ← Prog.tryCatch (assignDriver ride profile.id vehicle.id now) fun e => do
        tell (.releaseClaim rideId)
        if e = .integrity then
          apiError 409 "DRIVER_ALREADY_ON_ACTIVE_RIDE"
            "Ce chauffeur est deja affecte a une course active."
        else throw e
      tell (.deleteOffers rideId)
      tell (.setAvailable driverUserId false)
      return matched

/-- `decline`. -/
def decline (env : Env) (m : Matching) (rideId driverUserId : UUID) (clock : Clock) :
    Action MatchingDispatch := do
  let ride ← loadActiveRide rideId
  let holders ← currentOffers rideId 0
  apiErrorIf (holders ≠ [] ∧ driverUserId ∉ holders) 403 "OFFER_NOT_YOURS"
    "Cette demande a ete proposee a un autre chauffeur."
  let active ← declineOffer rideId driverUserId
  if active = true then
    let remaining ← currentOffers rideId 2
    return { driverUserIds := remaining, newWave := false }
  else tryMatch env m ride clock

/-- `advance_expired_offer`. -/
def advanceExpiredOffer (env : Env) (m : Matching) (rideId : UUID) (clock : Clock) :
    Action MatchingDispatch := do
  let outstanding ← currentOffers rideId 0
  if outstanding ≠ [] then
    return { driverUserIds := outstanding, newWave := false }
  match ← findRideById rideId with
  | none => return { driverUserIds := [], newWave := false }
  | some ride => tryMatch env m ride clock

/-- `release_driver`: the matching state of the ride is dropped and its driver is available again. -/
def releaseDriver (ride : Ride) : Action Unit := do
  tell (.clear ride.id)
  match ride.driverId with
  | none => return ()
  | some driverId =>
    match ← findProfileById driverId with
    | some profile => tell (.setAvailable profile.userId true)
    | none => return ()

end DiddiGo.Rides
