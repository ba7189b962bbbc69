import DiddiGo.Rides.Locations
import DiddiGo.Transactions.Sequential

/-!
# Presence over time

What happens to the keys of the drivers while time passes: requests that set and remove them, and the
WebSockets over which drivers push their positions.
-/

namespace DiddiGo.Rides

open Data (Expiring)
open Transactions

/-- A command to Redis about a driver. -/
inductive LocationCommand
  /-- `update_position`: a push, or the first half of `go_online`. -/
  | push (userId : UUID) (location : GeoPoint) (speedKmh : Option ℚ)
  /-- `set_available`: the second half of `go_online`, a ride that was accepted, or one that has ended. -/
  | setAvailable (userId : UUID) (available : Bool)
  /-- `go_offline`: by request, or when a socket is closed. -/
  | goOffline (userId : UUID)
  deriving DecidableEq

/-- The keys after a command at `now`. -/
def LocationCommand.apply (now : DateTime) (l : Locations) : LocationCommand → Locations
  | push userId location speedKmh => l.updatePosition userId location speedKmh now
  | setAvailable userId available => l.setAvailable userId available now
  | goOffline userId => l.goOffline userId

/-- The keys after commands at their instants. -/
def runCommands (cs : List (DateTime × LocationCommand)) (l : Locations) : Locations :=
  runSteps (fun c l => c.2.apply c.1 l) cs l

/-! ## Waiting for a ride -/

/-- The driver is not assigned a ride, does not go offline and does not disconnect. -/
def Stays (userId : UUID) (cs : List (DateTime × LocationCommand)) : Prop :=
  ∀ c ∈ cs, c.2 ≠ .setAvailable userId false ∧ c.2 ≠ .goOffline userId

/-- The command places the driver. -/
def LocationCommand.places (userId : UUID) : LocationCommand → Bool
  | push u _ _ => u = userId
  | _ => false

/-- The command makes the driver available. -/
def LocationCommand.offers (userId : UUID) : LocationCommand → Bool
  | setAvailable u available => u = userId ∧ available
  | _ => false

/-- When the last command with `p` ran; at `first` if there is none. -/
def lastTime (p : LocationCommand → Bool) (cs : List (DateTime × LocationCommand)) (first : DateTime) :
    DateTime := cs.foldl (fun t c => if p c.2 then c.1 else t) first

/-- The driver is in the pool at `now`: he has both markers, and every search for available drivers whose
radius covers him and whose limit is not reached by nearer drivers finds him. -/
structure InPool (distanceKm : GeoPoint → GeoPoint → ℚ) (l : Locations) (now : DateTime) (userId : UUID) :
    Prop where
  present : l.seen.alive (UUID.str userId) now
  available : l.available.alive (UUID.str userId) now
  found : ∀ position location radiusKm limit, l.positionOf (UUID.str userId) = some position →
    distanceKm location position ≤ radiusKm →
    ((l.positions.filter fun q => q.1 ≠ UUID.str userId ∧
      distanceKm location q.2 ≤ distanceKm location position).length < limit) →
    ∀ {W : Type} (services : Services sig W) (w : W) (db : RideDb), l.AnswerIn distanceKm now services w →
      ∃ users, Prog.Finds services (searchDrivers location radiusKm limit true) w db users ∧ userId ∈ users

/-! ## Sockets -/

/-- A WebSocket of a user; `driver` tells whether the token has the role of a driver. -/
structure Socket where
  id : UUID
  userId : UUID
  driver : Bool
  deriving DecidableEq

/-- The server: the endpoints that run, the sockets that the connection manager knows, and Redis. -/
structure Server where
  running : List Socket := []
  registered : List Socket := []
  locations : Locations := {}

/-- What happens to the server. -/
inductive SocketEvent
  | connect (s : Socket)
  /-- `driver.location_push`, if it is accepted. -/
  | push (s : Socket) (location : GeoPoint) (speedKmh : Option ℚ)
  /-- A message cannot be sent because the peer has vanished: the manager drops the socket. -/
  | drop (s : Socket)
  /-- The endpoint ends; `cacheUp` tells whether Redis can be reached. -/
  | close (s : Socket) (cacheUp : Bool)
  /-- Another request. -/
  | other (c : LocationCommand)

/-- `websocket_endpoint`. -/
def SocketEvent.apply (now : DateTime) (v : Server) : SocketEvent → Server
  | connect s => { v with running := s :: v.running, registered := s :: v.registered }
  | push s location speedKmh =>
    if s ∈ v.running then { v with locations := v.locations.updatePosition s.userId location speedKmh now }
    else v
  | drop s => { v with registered := v.registered.filter (· ≠ s) }
  | close s cacheUp =>
    if s ∈ v.running then
      { running := v.running.filter (· ≠ s)
        registered := v.registered.filter (· ≠ s)
        locations := if s.driver && cacheUp then v.locations.goOffline s.userId else v.locations }
    else v
  | other c => { v with locations := c.apply now v.locations }

/-- The server after an event at its instant. -/
def Server.after (e : DateTime × SocketEvent) (v : Server) : Server := e.2.apply e.1 v

/-- At `now`, the position, the presence and the availability of the driver. -/
def Locations.stateOf (l : Locations) (now : DateTime) (userId : UUID) : Option GeoPoint × Bool × Bool :=
  (l.positionOf (UUID.str userId), l.seen.alive (UUID.str userId) now,
    l.available.alive (UUID.str userId) now)

/-- Another socket of the user is open. -/
def Server.OtherOpen (v : Server) (s : Socket) : Prop := ∃ t ∈ v.running, t ≠ s ∧ t.userId = s.userId

/-- The event takes no driver offline who has another open socket. -/
def KeepsOnline (e : DateTime × SocketEvent) (v : Server) : Prop :=
  ∀ s cacheUp, e.2 = .close s cacheUp → s ∈ v.running → v.OtherOpen s →
    (Server.after e v).locations.stateOf e.1 s.userId = v.locations.stateOf e.1 s.userId

/-- The event closes a socket of a driver who has another open socket, and Redis knows him. -/
def ClosesEarly (e : DateTime × SocketEvent) (v : Server) : Prop :=
  ∃ s, e.2 = .close s true ∧ s ∈ v.running ∧ s.driver ∧ v.OtherOpen s ∧
    v.locations.stateOf e.1 s.userId ≠ (none, false, false)

end DiddiGo.Rides
