import DiddiGo.Rides.Gate

/-!
# Waiting

A wait is opened by the driver and closed by whatever ends it. What is billed is told by the waits of the
history, and a ride that waits can be resumed, completed, stopped early and cancelled.
-/

namespace DiddiGo.Rides

open Transactions

variable (env : Env)

/-! ## The waits of a history -/

/-- A wait of a ride. -/
structure Wait where
  startedAt : DateTime
  closedAt : Option DateTime := none
  ratePerMinute : Decimal
  deriving DecidableEq

namespace Wait

/-- A wait that begins now. -/
def opened (s : Settings) (now : DateTime) : Wait :=
  { startedAt := now, ratePerMinute := (s.waitingPricePerMinuteXof : Decimal) }

/-- How long the wait lasted; a clock that was set back counts as no time. -/
def elapsed (w : Wait) : Int := max 0 (w.closedAt.getD w.startedAt - w.startedAt)

/-- The started seconds of the wait. -/
def seconds (w : Wait) : Int := ceilSeconds w.elapsed

/-- Its price: every started minute, and at least one. -/
def fee (w : Wait) : Decimal := w.ratePerMinute * (max 1 (ceilDiv w.seconds 60) : Int)

/-- A wait that is still open ends now. -/
def close (w : Wait) (now : DateTime) : Wait := { w with closedAt := w.closedAt.or (some now) }

end Wait

/-- The waits of the ride `x` after a step from `db`, if they were `waits` before. A wait opens when
`start_waiting` makes a ride wait, and closes when the ride no longer does. -/
def RideStep.note (x : UUID) (step : RideStep) (db : RideDb) (waits : List Wait) : List Wait :=
  match step with
  | .elsewhere _ _ => waits
  | .request c ask =>
    let before := (db.ride? x).map Ride.status
    let later := (((RideStep.request c ask).after env db).ride? x).map Ride.status
    if before = some .waiting then
      if later = some .waiting then waits else waits.map fun w => w.close c.clock.stoppedAt
    else if later = some .waiting ∧ c.op = .startWaiting x then
      waits ++ [Wait.opened env.settings c.clock.now]
    else waits

/-- The waits of the ride `x` in a history, if there were `waits` before. -/
def waitsFrom (x : UUID) : List RideStep → RideDb → List Wait → List Wait
  | [], _, waits => waits
  | step :: steps, db, waits => waitsFrom x steps (step.after env db) (step.note env x db waits)

/-- The waits of the ride `x` in a history. -/
def waitsOf (x : UUID) (steps : List RideStep) (db : RideDb) : List Wait := waitsFrom env x steps db []

/-- The ride `r` is billed for each of its waits, once. -/
structure WaitsBilled (waits : List Wait) (r : Ride) : Prop where
  closed : ∀ w ∈ waits, w.closedAt.isSome
  duration : r.waitingDurationSeconds = (waits.map Wait.seconds).sum
  fee : r.waitingFee = (waits.map Wait.fee).sum

/-- A completed ride is billed for each of its waits, once, and a ride that waits is not made to wait
again. -/
structure BilledOnce (steps : List RideStep) (db : RideDb) : Prop where
  billed : ∀ x r, (runRides env steps db).ride? x = some r → r.status = .completed →
    WaitsBilled (waitsOf env x steps db) r
  again : ∀ before c ask later x r, steps = before ++ .request c ask :: later → c.op = .startWaiting x →
    (runRides env before db).ride? x = some r → r.status = .waiting →
    (runRides env (before ++ [.request c ask]) db).ride? x = some r ∧
      waitsOf env x (before ++ [.request c ask]) db = waitsOf env x before db

/-! ## Leaving a wait -/

/-- DiddiMap answers each request about a trace, or refuses it with an `ApiError`. -/
structure MapAnswers (ask : Query → Answer) : Prop where
  start : ∀ rideId origin destination km n profile,
    (∃ e, ask (.startTrace rideId origin destination km n profile) = .error (.api e)) ∨
      ∃ id, ask (.startTrace rideId origin destination km n profile) = .ok (.trace id)
  append : ∀ id points, (∃ e, ask (.appendTracePositions id points) = .error (.api e)) ∨
    ∃ reply, ask (.appendTracePositions id points) = .ok reply
  finish : ∀ id now, (∃ e, ask (.finishTrace id now) = .error (.api e)) ∨
    ∃ reply, ask (.finishTrace id now) = .ok reply
  analyze : ∀ id, (∃ e, ask (.analyzeTrace id) = .error (.api e)) ∨
    ∃ a, ask (.analyzeTrace id) = .ok (.analysis a)

/-- The actual trip of the ride can be priced: there are samples, and DiddiMap makes a usable analysis of
the trace. -/
structure TraceUsable (ask : Query → Answer) (db : RideDb) (r : Ride) : Prop where
  samples : ∃ point ∈ db.routePoints, point.rideId = r.id
  traceable : Traceable ask r
  append : ∀ id points, ∃ reply, ask (.appendTracePositions id points) = .ok reply
  finish : ∀ id now, ∃ reply, ask (.finishTrace id now) = .ok reply
  analyze : ∀ id, ∃ a km n, ask (.analyzeTrace id) = .ok (.analysis a) ∧ a.usableForScoring = true ∧
    a.actualDistanceKm = some km ∧ a.actualDurationSeconds = some n

/-- The ride `r` waits and can leave that state on each way there is. -/
structure CanLeaveWaiting (db : RideDb) (r : Ride) : Prop where
  resumed : ∀ c ask, c.op = .stopWaiting r.id → db.BusinessDriver c.actor → db.MayDrive r c.actor →
    RideStep.Succeeds env c ask db
  completed : ∀ c ask, c.op = .updateStatus r.id "completed" → db.BusinessDriver c.actor →
    db.MayDrive r c.actor → MapAnswers ask → ReleaseAnswers ask → RideStep.Succeeds env c ask db
  stoppedEarly : ∀ c ask, c.op = .confirmEarlyStop r.id → db.BusinessDriver c.actor →
    db.MayDrive r c.actor → EarlyStopOpen r c.clock.now → TraceUsable ask db r → ReleaseAnswers ask →
    RideStep.Succeeds env c ask db
  cancelled : ∀ c ask reason, c.op = .cancel r.id reason → reason ∈ validCancelReasons →
    (db.MayDrive r c.actor ∨ r.passengerUserId = c.actor.userId) → ReleaseAnswers ask →
    RideStep.Succeeds env c ask db

/-- The ride waits exactly if a wait is open. -/
def Ride.WaitingAgrees (r : Ride) : Prop :=
  r.status = .waiting ↔ r.waitingStartedAt.isSome ∧ r.waitingRatePerMinute.isSome

/-- In every state of the history, a ride waits exactly if a wait is open, and can leave that state. -/
def WaitingSound (steps : List RideStep) (db : RideDb) : Prop :=
  ∀ before later x r, steps = before ++ later → (runRides env before db).ride? x = some r →
    r.WaitingAgrees ∧ (r.status = .waiting → CanLeaveWaiting env (runRides env before db) r)

/-- A request that opens a wait: somebody who may asks, the ride is in progress and the vehicle stands. -/
def RideStep.OpensWait : RideStep → RideDb → Prop
  | request c ask, db => ∃ r speed, c.op = .startWaiting r.id ∧ db.ride? r.id = some r ∧
    r.status = .inProgress ∧ db.BusinessDriver c.actor ∧ db.MayDrive r c.actor ∧
    ask (.speed c.actor.userId) = .ok (.speed (some speed)) ∧
    speed ≤ env.settings.waitingStationarySpeedThresholdKmh
  | elsewhere _ _, _ => False

/-- `PATCH /status` by somebody who may, to `waiting` for a ride that is in progress, or to a cancelled
status for a ride that waits. -/
def RideStep.PatchesWait : RideStep → RideDb → Prop
  | request c _, db => ∃ r status newStatus, c.op = .updateStatus r.id status ∧
    rideStatusOf status = some newStatus ∧ db.ride? r.id = some r ∧ db.BusinessDriver c.actor ∧
    db.MayDrive r c.actor ∧ (r.status = .inProgress ∧ newStatus = .waiting ∨
      r.status = .waiting ∧ (newStatus = .cancelledByPassenger ∨ newStatus = .cancelledByDriver))
  | elsewhere _ _, _ => False

end DiddiGo.Rides
