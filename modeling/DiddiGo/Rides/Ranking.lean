import DiddiGo.Rides.MatchingService
import DiddiGo.Transactions.Serving

/-!
# The ranking of a shortlist

What the calls of one ranking have led to, and the laws of the ranking in terms of it.
-/

namespace DiddiGo.Rides

open Transactions

variable {W : Type} (services : Services sig W) (env : Env) (m : Matching)

/-! ## Outcomes of calls -/

/-- The travel time in an answer; `None` and exceptions count as unknown. -/
def etaOfAnswer : Answer → Option Int
  | .ok (.seconds n) => some n
  | _ => none

/-- The travel times that the calls for these drivers give, and what the services remember then. A driver
without a position is not asked about. -/
def etaCalls (pickup : GeoPoint) (positions : List (UUID × GeoPoint)) : W → List UUID → List (Option Int) × W
  | w, [] => ([], w)
  | w, userId :: rest =>
    match positions.lookup userId with
    | none =>
      let (etas, w) := etaCalls pickup positions w rest
      (none :: etas, w)
    | some origin =>
      let (answer, w) := services w (.estimate userId origin pickup "palh_vtc")
      let (etas, w) := etaCalls pickup positions w rest
      (etaOfAnswer answer :: etas, w)

/-- The travel time of each driver of a shortlist, as far as it is known: of nobody if there is nothing to
rank, no pickup, or the lookup of the positions raises. -/
def etaOutcomes (ride : Ride) (w : W) (eligible : List UUID) : List (Option Int) × W :=
  match ride.pickupLocation with
  | none => (eligible.map fun _ => none, w)
  | some pickup =>
    if m.routing = false ∨ env.settings.matchingEtaRankingEnabled = false ∨ eligible.length ≤ 1 then
      (eligible.map fun _ => none, w)
    else
      match services w (.coordinates eligible) with
      | (.ok (.positions positions), w) => etaCalls services pickup positions w eligible
      | (_, w) => (eligible.map fun _ => none, w)

/-- The drivers whose travel time is known. -/
def timed (eligible : List UUID) (etas : List (Option Int)) : List (UUID × Int) :=
  (eligible.zip etas).filterMap fun (userId, eta) => eta.map fun n => (userId, n)

/-- The others. -/
def untimed (eligible : List UUID) (etas : List (Option Int)) : List UUID :=
  ((eligible.zip etas).filter fun (_, eta) => eta.isNone).map Prod.fst

/-- The priority points of the drivers that the ledger knows; of nobody if the lookup raises. -/
def pointsOutcome (w : W) (db : RideDb) (userIds : List UUID) (now : DateTime) : List (UUID × Int) :=
  if m.priority = false ∨ userIds = [] then []
  else
    let profileIds := (db.profiles.rows.filter fun p => p.userId ∈ userIds).map fun p => (p.userId, p.id)
    match services w (.priorityScores (profileIds.map Prod.snd) now) with
    | (.ok (.scores points), _) => profileIds.filterMap fun (userId, profileId) =>
        (points.lookup profileId).map fun p => (userId, p)
    | _ => []

/-- The bonus of a driver with `p` points. -/
def cappedBonus (cfg : DispatchConfig) (p : Int) : Int := min (cfg.bonusSeconds p) cfg.priorityCapSeconds

/-- By what a driver is ranked. -/
def rankKey (cfg : DispatchConfig) (points : List (UUID × Int)) (driver : UUID × Int) : Int :=
  driver.2 - ((points.map fun (userId, p) => (userId, cappedBonus cfg p)).lookup driver.1).getD 0

/-- The ranking that these travel times and points lead to. -/
def rankOutcome (cfg : DispatchConfig) (eligible : List UUID) (etas : List (Option Int))
    (points : List (UUID × Int)) : List UUID :=
  if timed eligible etas = [] then eligible
  else ((timed eligible etas).mergeSort fun a b => rankKey cfg points a ≤ rankKey cfg points b).map Prod.fst ++
    untimed eligible etas

/-! ## Laws -/

/-- The points of the driver, if he has any, are not negative. -/
def NoMalus (points : List (UUID × Int)) (userId : UUID) : Prop := ∀ p, points.lookup userId = some p → 0 ≤ p

/-- What a ranking of drivers with these travel times and points promises. -/
structure RankingLaws (cfg : DispatchConfig) (eligible : List UUID) (etas : List (Option Int))
    (points : List (UUID × Int)) (ranked : List UUID) : Prop where
  /-- Nobody is lost, and nobody is ranked twice. -/
  perm : ranked.Perm eligible
  unchanged : (∀ eta ∈ etas, eta = none) → ranked = eligible
  /-- Drivers without a travel time come last, in their order; and nobody comes before a driver who is nearer by
  more than the cap, unless that driver has negative points. -/
  proximity : ∃ order : List (UUID × Int), order.Perm (timed eligible etas) ∧
    ranked = order.map Prod.fst ++ untimed eligible etas ∧
    (0 ≤ cfg.prioritySecondsPerPoint → 0 ≤ cfg.priorityCapSeconds →
      order.Pairwise fun b a => NoMalus points a.1 → ¬ a.2 + cfg.priorityCapSeconds < b.2)

end DiddiGo.Rides
