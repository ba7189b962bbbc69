import DiddiGo.Rides.Repository
import Mathlib.Logic.Function.Basic

/-!
# The socket hub

One multiplexed socket per app session. The connection manager knows the sockets of every user and the sockets that
watch every ride; it lives in the memory of one process, where coroutines take turns at every `await`. Messages are
modelled as they were parsed, and the payloads of the server by their event.
-/

namespace DiddiGo.Rides.Sockets

variable {ω : Type} [DecidableEq ω]

/-! ## The connection manager -/

/-- `ConnectionManager`; `none` is a key that is not in the dictionary. Sockets are `ω`. -/
structure ConnectionManager (ω : Type) where
  byUser : UUID → Option (List ω)
  byRide : UUID → Option (List ω)
  sockets : ω → Option UUID

namespace ConnectionManager

/-- `__init__`. -/
def empty : ConnectionManager ω where
  byUser := fun _ => none
  byRide := fun _ => none
  sockets := fun _ => none

/-- `dict[key].add(socket)` of a `defaultdict(set)`. -/
def add (dict : UUID → Option (List ω)) (key : UUID) (ws : ω) : UUID → Option (List ω) :=
  Function.update dict key (some (((dict key).getD []).insert ws))

/-- The set after `discard`, which is deleted when it is empty. -/
def discard (set : Option (List ω)) (ws : ω) : Option (List ω) :=
  match (set.getD []).filter (· ≠ ws) with
  | [] => none
  | rest => some rest

/-- `connect`, after the handshake. -/
def connect (manager : ConnectionManager ω) (ws : ω) (userId : UUID) : ConnectionManager ω :=
  { manager with
    byUser := add manager.byUser userId ws
    sockets := Function.update manager.sockets ws (some userId) }

/-- `disconnect`. -/
def disconnect (manager : ConnectionManager ω) (ws : ω) : ConnectionManager ω where
  byUser :=
    match manager.sockets ws with
    | some userId => Function.update manager.byUser userId (discard (manager.byUser userId) ws)
    | none => manager.byUser
  byRide := fun rideId => (manager.byRide rideId).bind fun set => discard (some set) ws
  sockets := Function.update manager.sockets ws none

/-- `subscribe_to_ride`. -/
def subscribeToRide (manager : ConnectionManager ω) (ws : ω) (rideId : UUID) : ConnectionManager ω :=
  { manager with byRide := add manager.byRide rideId ws }

end ConnectionManager

/-- Whom `send_to_user` and `send_to_ride` address. -/
inductive Target
  | user (userId : UUID)
  | ride (rideId : UUID)
  deriving DecidableEq, Repr

/-- The sockets of a target. -/
def ConnectionManager.socketsOf (manager : ConnectionManager ω) : Target → List ω
  | .user userId => (manager.byUser userId).getD []
  | .ride rideId => (manager.byRide rideId).getD []

/-! ## Messages -/

/-- What the server sends to others than the sender. -/
inductive ServerEvent
  | statusChanged (status : String)
  | driverLocation (location : GeoPoint) (sender : UUID)
  | noDriverFound
  | newRequest (rideId : UUID)
  | waitingChanged
  | supplementChanged
  deriving DecidableEq, Repr

/-- The fields of `driver.location_push`; `none` for a location or an identifier that cannot be parsed. -/
structure LocationPush where
  location : Option GeoPoint
  speedKmh : Option ℚ
  rideId : Option (Option UUID)
  deriving DecidableEq, Repr

/-- A message of a client. -/
inductive ClientMessage
  | malformed
  | ping
  | locationPush (push : LocationPush)
  | subscribe (rideId : Option UUID)
  | unknown (event : Option String)
  deriving DecidableEq, Repr

/-- What the server answers to the sender. -/
inductive SocketReply
  | pong
  | ack (event : String)
  | ignored
  | error (code : String)
  deriving DecidableEq, Repr

/-- Only endpoints send the locations of drivers. -/
def ServerEvent.isLocation : ServerEvent → Bool
  | .driverLocation _ _ => true
  | _ => false

/-! ## Endpoints -/

/-- Who has connected. -/
structure Session where
  userId : UUID
  role : String
  deriving DecidableEq, Repr

/-- Why `_can_access_ride` is asked. -/
inductive Purpose
  | subscribe
  /-- `assigned_driver_required`. -/
  | push (location : GeoPoint)
  deriving DecidableEq, Repr

/-- Where `websocket_endpoint` waits. -/
inductive Endpoint
  /-- Before the handshake. -/
  | idle
  /-- In `receive_json`. -/
  | receiving (session : Session)
  /-- In `_has_active_driver_profile`. -/
  | profileCheck (session : Session) (push : LocationPush)
  /-- In the first query of `_can_access_ride`. -/
  | rideCheck (session : Session) (purpose : Purpose) (rideId : UUID)
  /-- In its second query. -/
  | driverCheck (session : Session) (purpose : Purpose) (rideId : UUID) (ride : Ride)
  /-- In `finally`, before `disconnect`. -/
  | closing (session : Session)
  | closed
  deriving DecidableEq

/-- The session of an endpoint that has not cleaned up. -/
def Endpoint.session? : Endpoint → Option Session
  | idle => none
  | receiving session => some session
  | profileCheck session _ => some session
  | rideCheck session _ _ => some session
  | driverCheck session _ _ _ => some session
  | closing session => some session
  | closed => none

/-! ## The hub -/

/-- What has happened. -/
inductive HubEvent (ω : Type)
  | connected (ws : ω) (session : Session)
  /-- The endpoint answers. -/
  | replied (ws : ω) (reply : SocketReply)
  /-- `update_position` of the user. -/
  | positioned (ws : ω) (session : Session) (profile : Option DriverProfile)
  /-- `_can_access_ride` was true: it has read the ride, and the driver's profile of the user. -/
  | granted (ws : ω) (session : Session) (purpose : Purpose) (ride : Ride) (driver : Option DriverProfile)
  /-- A fan-out has copied the sockets of its target. -/
  | started (target : Target) (event : ServerEvent) (sockets : List ω)
  | delivered (ws : ω) (target : Target) (event : ServerEvent)
  /-- The endpoint has ended. -/
  | ended (ws : ω)
  deriving DecidableEq

/-- A fan-out that has not reached every socket. -/
structure FanOut (ω : Type) where
  target : Target
  event : ServerEvent
  rest : List ω

/-- The process: what is committed in the database, the manager, the endpoints, the running fan-outs, and a record. -/
structure Hub (ω : Type) where
  db : RideDb
  manager : ConnectionManager ω
  endpoint : ω → Endpoint
  fanOuts : List (FanOut ω)
  history : List (HubEvent ω)

/-- The next thing that happens. -/
inductive HubMove (ω : Type)
  /-- Some transaction commits. -/
  | commit (db : RideDb)
  /-- The token was decoded and the handshake is done. -/
  | connect (ws : ω) (session : Session)
  | receive (ws : ω) (message : ClientMessage)
  /-- The query that the endpoint waits for is answered. -/
  | resume (ws : ω)
  /-- The endpoint fails: the peer is gone, Redis or the database raises. -/
  | fail (ws : ω)
  /-- The end of `finally`. -/
  | cleanUp (ws : ω)
  /-- Another part of the server sends an event. -/
  | broadcast (target : Target) (event : ServerEvent)
  /-- The fan-out with this number gets to its next socket, which takes the event if `ok`. -/
  | send (n : Nat) (ok : Bool)

namespace Hub

/-- Record an event. -/
def note (h : Hub ω) (e : HubEvent ω) : Hub ω := { h with history := h.history ++ [e] }

/-- The endpoint goes on. -/
def goTo (h : Hub ω) (ws : ω) (endpoint : Endpoint) : Hub ω :=
  { h with endpoint := Function.update h.endpoint ws endpoint }

/-- The endpoint answers and waits for the next message. -/
def reply (h : Hub ω) (ws : ω) (session : Session) (reply : SocketReply) : Hub ω :=
  (h.note (.replied ws reply)).goTo ws (.receiving session)

/-- `send_to_user`, `send_to_ride`: `_fan_out` copies the sockets. -/
def start (h : Hub ω) (target : Target) (event : ServerEvent) : Hub ω :=
  let sockets := h.manager.socketsOf target
  { h.note (.started target event sockets) with
    fanOuts := h.fanOuts ++ [{ target := target, event := event, rest := sockets }] }

/-- `driver.location_push` of a sender whose role was checked. -/
def pushed (h : Hub ω) (ws : ω) (session : Session) (push : LocationPush) (profile : Option DriverProfile) : Hub ω :=
  match push.location with
  | none => h.reply ws session (.error "INVALID_LOCATION")
  | some location =>
    let h := h.note (.positioned ws session profile)
    match push.rideId with
    | none => h.reply ws session (.ack "driver.location_push")
    | some none => h.reply ws session (.error "INVALID_RIDE_ID")
    | some (some rideId) => h.goTo ws (.rideCheck session (.push location) rideId)

/-- `_can_access_ride` is true. -/
def grant (h : Hub ω) (ws : ω) (session : Session) (purpose : Purpose) (rideId : UUID) (ride : Ride)
    (driver : Option DriverProfile) : Hub ω :=
  let h := h.note (.granted ws session purpose ride driver)
  match purpose with
  | .subscribe =>
    { h with manager := h.manager.subscribeToRide ws rideId }.reply ws session (.ack "ride.subscribe")
  | .push location =>
    (h.start (.ride rideId) (.driverLocation location session.userId)).reply ws session (.ack "driver.location_push")

/-- `is_assigned_driver`. -/
def isAssigned (ride : Ride) (driver : Option DriverProfile) : Bool :=
  match driver with
  | none => false
  | some profile => decide (ride.driverId = some profile.id)

/-- The end of `_can_access_ride`. -/
def isAllowed (session : Session) (purpose : Purpose) (ride : Ride) (driver : Option DriverProfile) : Bool :=
  match purpose with
  | .push _ => isAssigned ride driver
  | .subscribe => decide (ride.passengerUserId = session.userId) || isAssigned ride driver

/-- `_handle_message`, up to its first query. -/
def handle (h : Hub ω) (ws : ω) (session : Session) : ClientMessage → Hub ω
  | .malformed => h.reply ws session (.error "MALFORMED_MESSAGE")
  | .ping => h.reply ws session .pong
  | .locationPush push =>
    if session.role = "admin" ∨ session.role = "driver" then h.pushed ws session push none
    else h.goTo ws (.profileCheck session push)
  | .subscribe none => h.reply ws session (.error "INVALID_RIDE_ID")
  | .subscribe (some rideId) => h.goTo ws (.rideCheck session .subscribe rideId)
  | .unknown _ => h.reply ws session .ignored

/-- `_handle_message`, after a query. -/
def resume (h : Hub ω) (ws : ω) : Option (Hub ω) :=
  match h.endpoint ws with
  | .profileCheck session push =>
    match h.db.profileOf session.userId with
    | some profile =>
      if profile.status = .active then some (h.pushed ws session push (some profile))
      else some (h.reply ws session (.error "FORBIDDEN_ROLE"))
    | none => some (h.reply ws session (.error "FORBIDDEN_ROLE"))
  | .rideCheck session purpose rideId =>
    match h.db.rides.find? rideId with
    | none => some (h.reply ws session (.error "RIDE_NOT_OWNED_BY_USER"))
    | some ride =>
      if session.role = "admin" then some (h.grant ws session purpose rideId ride none)
      else some (h.goTo ws (.driverCheck session purpose rideId ride))
  | .driverCheck session purpose rideId ride =>
    let driver := h.db.profileOf session.userId
    if isAllowed session purpose ride driver then some (h.grant ws session purpose rideId ride driver)
    else some (h.reply ws session (.error "RIDE_NOT_OWNED_BY_USER"))
  | _ => none

/-- One move; `none` when it is not possible. -/
def step (h : Hub ω) : HubMove ω → Option (Hub ω)
  | .commit db => some { h with db := db }
  | .connect ws session =>
    match h.endpoint ws with
    | .idle =>
      some ({ h.note (.connected ws session) with manager := h.manager.connect ws session.userId }.goTo ws
        (.receiving session))
    | _ => none
  | .receive ws message =>
    match h.endpoint ws with
    | .receiving session => some (h.handle ws session message)
    | _ => none
  | .resume ws => h.resume ws
  | .fail ws => (h.endpoint ws).session?.map fun session => h.goTo ws (.closing session)
  | .cleanUp ws =>
    match h.endpoint ws with
    | .closing _ => some ({ h.note (.ended ws) with manager := h.manager.disconnect ws }.goTo ws .closed)
    | _ => none
  | .broadcast target event => if event.isLocation then none else some (h.start target event)
  | .send n ok =>
    match h.fanOuts[n]? with
    | some fanOut =>
      match fanOut.rest with
      | [] => none
      | ws :: rest =>
        let h := { h with fanOuts := h.fanOuts.set n { fanOut with rest := rest } }
        if ok then some (h.note (.delivered ws fanOut.target fanOut.event))
        else some { h with manager := h.manager.disconnect ws }
    | none => none

/-- The hub after a whole schedule; `none` when one of its moves is not possible. -/
def run (h : Hub ω) : List (HubMove ω) → Option (Hub ω)
  | [] => some h
  | m :: ms => (h.step m).bind fun h' => h'.run ms

/-- Nobody has connected. -/
def initial (db : RideDb) : Hub ω where
  db := db
  manager := .empty
  endpoint := fun _ => .idle
  fanOuts := []
  history := []

end Hub

/-! ## What the hub is for -/

/-- The session may follow the ride, or send its location to those who follow it. -/
def MayAccess (session : Session) (purpose : Purpose) (ride : Ride) (driver : Option DriverProfile) : Prop :=
  session.role = "admin" ∨
    (∃ profile ∈ driver, profile.userId = session.userId ∧ ride.driverId = some profile.id) ∨
      purpose = .subscribe ∧ ride.passengerUserId = session.userId

/-- What has happened entitles the socket to the events of the target. -/
def Entitled (history : List (HubEvent ω)) (ws : ω) : Target → Prop
  | .user userId => ∃ session, .connected ws session ∈ history ∧ session.userId = userId
  | .ride rideId => ∃ session ride driver, .connected ws session ∈ history ∧
      .granted ws session .subscribe ride driver ∈ history ∧ ride.id = rideId ∧
        MayAccess session .subscribe ride driver

/-- What has happened before an event justifies it. -/
def HubEvent.JustifiedBy (history : List (HubEvent ω)) : HubEvent ω → Prop
  | .delivered ws target _ => Entitled history ws target
  | .positioned ws session profile => .connected ws session ∈ history ∧
      (session.role = "admin" ∨ session.role = "driver" ∨
        ∃ p ∈ profile, p.userId = session.userId ∧ p.status = .active)
  | .started target event sockets => (∀ ws ∈ sockets, .ended ws ∉ history) ∧
      ∀ location sender, event = .driverLocation location sender → ∃ ws session ride driver,
        .granted ws session (.push location) ride driver ∈ history ∧ session.userId = sender ∧
          target = .ride ride.id ∧ MayAccess session (.push location) ride driver
  | _ => True

/-- The manager knows the sockets of every user, keeps no empty sets, and has forgotten those that have ended. -/
structure Hub.Tidy (h : Hub ω) : Prop where
  users : ∀ ws userId, ws ∈ h.manager.socketsOf (.user userId) ↔ h.manager.sockets ws = some userId
  noEmptySet : ∀ key, h.manager.byUser key ≠ some [] ∧ h.manager.byRide key ≠ some []
  forgotten : ∀ ws target, ws ∈ h.manager.socketsOf target → (h.endpoint ws).session?.isSome = true

/-- Everything that has happened was justified when it happened. -/
def Hub.Justified (h : Hub ω) : Prop :=
  ∀ before e later, h.history = before ++ e :: later → e.JustifiedBy before

end DiddiGo.Rides.Sockets
