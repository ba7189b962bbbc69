import DiddiGo.Data.Expiring
import DiddiGo.Rides.MatchingService
import DiddiGo.Transactions.Serving

/-!
# Driver locations

The positions of the drivers and their markers in Redis. A marker expires; a position stays until it is
removed.
-/

namespace DiddiGo.Rides

open Data (Expiring)
open Transactions

/-- `PRESENCE_TTL_SECONDS`. -/
def presenceTtlSeconds : Int := 30

/-- `AVAILABILITY_TTL_SECONDS`. -/
def availabilityTtlSeconds : Int := 300

/-- `telemetry_ttl_seconds`. -/
def telemetryTtlSeconds : Int := 30

/-- The keys of the drivers. -/
structure Locations where
  /-- `drivers:positions`. -/
  positions : List (String × GeoPoint) := []
  /-- A member has one position. -/
  nodup : (positions.map Prod.fst).Nodup := by exact List.nodup_nil
  /-- `drivers:seen:{id}`. -/
  seen : Expiring String DateTime := fun _ => none
  /-- `drivers:available:{id}`. -/
  available : Expiring String DateTime := fun _ => none
  /-- `drivers:speed:{id}`. -/
  speed : String → Option (ℚ × DateTime) := fun _ => none

/-! ## Markers -/

/-- The markers of a member that a search reads. -/
def markerWindow (seen available : String → Bool) (requireAvailable : Bool) (member : String) : List Bool :=
  if requireAvailable then [seen member, available member] else [seen member]

/-- The member has the markers that a search requires. -/
def hasMarkers (seen available : String → Bool) (requireAvailable : Bool) (member : String) : Bool :=
  seen member && (!requireAvailable || available member)

/-- The first `limit` drivers, among members of the position set, that a search shall find. -/
def firstMarked (seen available : String → Bool) (requireAvailable : Bool) (limit : Nat)
    (members : List String) : List UUID :=
  ((members.filter (hasMarkers seen available requireAvailable)).filterMap UUID.ofString).take limit

namespace Locations

/-- Removing members leaves one position each. -/
theorem nodup_filter {ps : List (String × GeoPoint)} (h : (ps.map Prod.fst).Nodup)
    (p : String × GeoPoint → Bool) : ((ps.filter p).map Prod.fst).Nodup :=
  h.sublist (List.filter_sublist.map _)

/-- A member that is placed again has one position. -/
theorem nodup_place {ps : List (String × GeoPoint)} (h : (ps.map Prod.fst).Nodup) (member : String)
    (location : GeoPoint) :
    (((ps.filter fun p => p.1 ≠ member) ++ [(member, location)]).map Prod.fst).Nodup := by
  rw [List.map_append, List.nodup_append]
  refine ⟨nodup_filter h _, List.nodup_singleton _, fun a ha b hb hab => ?_⟩
  obtain ⟨p, hp, rfl⟩ := List.mem_map.mp ha
  exact of_decide_eq_true (List.mem_filter.mp hp).2 (hab.trans (List.mem_singleton.mp hb))

variable (l : Locations)

/-- `update_position`. -/
def updatePosition (userId : UUID) (location : GeoPoint) (speedKmh : Option ℚ) (now : DateTime) :
    Locations where
  positions := (l.positions.filter fun p => p.1 ≠ UUID.str userId) ++ [(UUID.str userId, location)]
  nodup := nodup_place l.nodup _ _
  seen := l.seen.set (UUID.str userId) (now + seconds presenceTtlSeconds)
  available := l.available
  speed := match speedKmh with
    | none => l.speed
    | some v => Function.update l.speed (UUID.str userId) (some (max 0 v, now + seconds telemetryTtlSeconds))

/-- `set_available`. -/
def setAvailable (userId : UUID) (available : Bool) (now : DateTime) : Locations :=
  { l with available :=
      if available then l.available.set (UUID.str userId) (now + seconds availabilityTtlSeconds)
      else l.available.del (UUID.str userId) }

/-- `go_offline`. -/
def goOffline (userId : UUID) : Locations where
  positions := l.positions.filter fun p => p.1 ≠ UUID.str userId
  nodup := nodup_filter l.nodup _
  seen := l.seen.del (UUID.str userId)
  available := l.available.del (UUID.str userId)
  speed := Function.update l.speed (UUID.str userId) none

/-- The position of a member. -/
def positionOf (member : String) : Option GeoPoint := l.positions.lookup member

/-- `GEOSEARCH ... BYRADIUS radius km ASC COUNT count`; `distanceKm` is the distance that Redis computes. -/
def geosearch (distanceKm : GeoPoint → GeoPoint → ℚ) (location : GeoPoint) (radiusKm : ℚ) (count : Nat) :
    List String :=
  ((((l.positions.filter fun p => distanceKm location p.2 ≤ radiusKm).mergeSort fun p q =>
    distanceKm location p.2 ≤ distanceKm location q.2).take count).map Prod.fst)

/-- The members within the radius, nearest first. -/
def inRange (distanceKm : GeoPoint → GeoPoint → ℚ) (location : GeoPoint) (radiusKm : ℚ) : List String :=
  ((l.positions.filter fun p => distanceKm location p.2 ≤ radiusKm).mergeSort fun p q =>
    distanceKm location p.2 ≤ distanceKm location q.2).map Prod.fst

/-- The member has its markers. -/
def marked (now : DateTime) (requireAvailable : Bool) (member : String) : Bool :=
  l.seen.alive member now && (!requireAvailable || l.available.alive member now)

/-- The pipeline of `EXISTS`. -/
def markers (now : DateTime) (members : List String) (requireAvailable : Bool) : List Bool :=
  members.flatMap fun m =>
    if requireAvailable then [l.seen.alive m now, l.available.alive m now] else [l.seen.alive m now]

/-- What Redis answers to questions about drivers. -/
def reply (distanceKm : GeoPoint → GeoPoint → ℚ) (now : DateTime) : Query → Option Reply
  | .geosearch location radiusKm count => some (.members (l.geosearch distanceKm location radiusKm count))
  | .markers members requireAvailable => some (.flags (l.markers now members requireAvailable))
  | .coordinates userIds => some (.positions (userIds.filterMap fun u =>
      (l.positionOf (UUID.str u)).map fun p => (u, p)))
  | .position userId => some (.position (l.positionOf (UUID.str userId)))
  | .speed userId => some (.speed (((l.speed (UUID.str userId)).filter fun v => now < v.2).map Prod.fst))
  | _ => none

/-- The services, which remember `w`, answer questions about drivers from these keys. -/
def AnswerIn {W : Type} (distanceKm : GeoPoint → GeoPoint → ℚ) (now : DateTime) (services : Services sig W)
    (w : W) : Prop := ∀ q r, l.reply distanceKm now q = some r → services w q = (.ok r, w)

/-- What `_search` finds: of the nearest members, the first ones that have their markers. -/
def nearby (distanceKm : GeoPoint → GeoPoint → ℚ) (now : DateTime) (location : GeoPoint) (radiusKm : ℚ)
    (limit : Nat) (requireAvailable : Bool) : List UUID :=
  (((l.geosearch distanceKm location radiusKm (if requireAvailable then limit * 4 else limit)).filter
    (l.marked now requireAvailable)).filterMap UUID.ofString).take limit

end Locations

end DiddiGo.Rides
