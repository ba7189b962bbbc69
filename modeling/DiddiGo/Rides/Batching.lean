import DiddiGo.Rides.LocationBatches
import DiddiGo.Transactions.RelyGuarantee

/-!
# Batches are stored once

Calls of `add_location_samples` run at once. Each of them is answered as if the calls had run one after another, in
the order in which they end.
-/

namespace DiddiGo.Rides.LocationBatches

open Data (Keyed Table)
open Transactions

/-! ## One call after another -/

namespace LocationCall

/-- What identifies the batch. -/
def key (call : LocationCall) : UUID × UUID := (call.rideId, call.batchId)

/-- The receipt of the batch. -/
def receipt (call : LocationCall) : RideLocationBatch :=
  { rideId := call.rideId, batchId := call.batchId, actorUserId := call.actorUserId
    samplesCount := call.points.length, payloadHash := call.payloadHash }

/-- The rows of the points; `none` is a `DataError`. -/
def rows (call : LocationCall) : Option (List RideRoutePoint) := call.points.mapM storedPoint

/-- What keeps the actor from sending samples of the ride. -/
def refusal (call : LocationCall) (db : RideDb) : Option Err :=
  match db.ride? call.rideId with
  | none => some rideNotFound
  | some ride => if db.assigned ride call.actorUserId = true then none else some notOwned

/-- The response with a number of samples. -/
def response (call : LocationCall) (acceptedSamples : Nat) (replayed : Bool) : LocationResponse :=
  { rideId := call.rideId, batchId := call.batchId, acceptedSamples := acceptedSamples, replayed := replayed }

/-- What an assigned driver is answered once the calls `recorded` have stored their batches. -/
def reply (call : LocationCall) (recorded : List LocationCall) : Except Err LocationResponse :=
  match recorded.find? fun first => first.key = call.key with
  | some first =>
    if first.samples = call.samples then .ok (call.response first.samples.length true)
    else .error call.conflict
  | none => if call.rows.isSome then .ok (call.response call.samples.length false) else .error (.other "DataError")

/-- What the call is answered. -/
def answer (call : LocationCall) (db : RideDb) (recorded : List LocationCall) : Except Err LocationResponse :=
  match call.refusal db with
  | some e => .error e
  | none => call.reply recorded

end LocationCall

/-- The result of a call that has stored its batch. -/
def stores : Except Err LocationResponse → Bool
  | .ok response => !response.replayed
  | .error _ => false

variable {Proc : Type}

/-- The calls that have stored their batches, in the order in which they ended. -/
def stored (calls : Proc → LocationCall) (log : List (Proc × Except Err LocationResponse)) : List LocationCall :=
  (log.filter fun entry => stores entry.2).map fun entry => calls entry.1

/-- The tables hold the receipts of the calls `recorded`, no two of one batch, and their points after those of
`base`. -/
structure LocationDb.Holds (base : List RideRoutePoint) (recorded : List LocationCall) (db : LocationDb) : Prop where
  receipts : db.batches.rows = recorded.map LocationCall.receipt
  distinct : (recorded.map LocationCall.key).Nodup
  points : ∃ rows, recorded.mapM LocationCall.rows = some rows ∧ db.routePoints = base ++ rows.flatten

/-! ## Runs -/

/-- The calls at once. -/
abbrev machine (Proc : Type) : Machine sig where
  Proc := Proc
  World := Unit
  Out := LocationResponse
  receives w _ _ := w
  answers _ _ _ _ := none

/-- None of the calls has started. -/
def initial (calls : Proc → LocationCall) (db : LocationDb) : Config (machine Proc) :=
  Config.initial db () fun i => (calls i).action

/-- After calls that had stored the batches `earlier`, each of the calls `calls` that has ended was answered as if they
had run one after another, and the tables hold what those have stored. -/
structure StoredOnce (db₀ : LocationDb) (base : List RideRoutePoint) (earlier : List LocationCall)
    (calls : Proc → LocationCall) (s : Shared (machine Proc)) : Prop where
  /-- The points are those of one call for each batch. -/
  holds : s.db.Holds base (earlier ++ stored calls s.log)
  /-- The batch of every call that succeeded is among them. -/
  covers : ∀ i response, (i, .ok response) ∈ s.log →
    ∃ first ∈ earlier ++ stored calls s.log, first.key = (calls i).key ∧ first.samples = (calls i).samples
  /-- A batch that is sent again is replayed if its samples are the same, and refused if they are not. -/
  answered : ∀ before i result after, s.log = before ++ (i, result) :: after →
    result = (calls i).answer db₀.toRideDb (earlier ++ stored calls before)

/-- The call has stored its batch before, or is one of those at once. -/
def Made (earlier : List LocationCall) (calls : Proc → LocationCall) (call : LocationCall) : Prop :=
  call ∈ earlier ∨ ∃ i, calls i = call

/-- The hashes of the batches that are sent differ where their texts differ. -/
def Collisionless (earlier : List LocationCall) (calls : Proc → LocationCall) : Prop :=
  ∀ call call', Made earlier calls call → Made earlier calls call' → call.payloadHash = call'.payloadHash →
    payloadText call.samples = payloadText call'.samples

/-! ## The discipline -/

/-- What is told by the lock on a key. -/
def sameReceipt : Row → LocationDb → LocationDb → Prop
  | .batch rideId batchId, db, db' => db.batches.find? (rideId, batchId) = db'.batches.find? (rideId, batchId)

/-- Receipts stay. -/
def ReceiptsStay (db db' : LocationDb) : Prop :=
  ∀ key batch, db.batches.find? key = some batch → db'.batches.find? key = some batch

/-- The calls are in step with the calls one after another, and nothing else has changed. -/
structure InStep (db₀ : LocationDb) (base : List RideRoutePoint) (earlier : List LocationCall)
    (calls : Proc → LocationCall) (s : Shared (machine Proc)) : Prop extends
    StoredOnce db₀ base earlier calls s where
  rides : s.db.rides = db₀.rides
  profiles : s.db.profiles = db₀.profiles

/-- The discipline. -/
def discipline (db₀ : LocationDb) (base : List RideRoutePoint) (earlier : List LocationCall)
    (calls : Proc → LocationCall) : RelyGuarantee (machine Proc) where
  inv := InStep db₀ base earlier calls
  rely _ s s' := ReceiptsStay s.db s'.db
  guar _ s s' := ReceiptsStay s.db s'.db
  same := sameReceipt
  rely_refl _ _ _ _ h := h
  rely_trans _ _ _ _ h h' key batch hbatch := h' key batch (h key batch hbatch)
  rely_of_guar _ _ _ _ _ h := h
  same_refl k _ := by
    cases k
    rfl
  same_trans k _ _ _ h h' := by
    cases k
    exact Eq.trans h h'

/-- The process has changed nothing. -/
def Unchanged (P : Point (machine Proc)) : Prop := ∀ db, P.pending db = db

/-- The process has written the receipt of a new batch. -/
structure HasReceipt (call : LocationCall) (P : Point (machine Proc)) : Prop where
  held : P.held (.batch call.rideId call.batchId)
  free : P.shared.db.batches.find? call.key = none
  pending : ∀ db, P.pending db = { db with batches := db.batches.insert call.receipt }

/-- The process has written the receipt and the points of a new batch. -/
structure HasPoints (call : LocationCall) (rows : List RideRoutePoint) (P : Point (machine Proc)) : Prop where
  held : P.held (.batch call.rideId call.batchId)
  free : P.shared.db.batches.find? call.key = none
  fits : call.rows = some rows
  pending : ∀ db, P.pending db =
    { db with batches := db.batches.insert call.receipt, routePoints := db.routePoints ++ rows }

/-- The process knows the receipt of a batch that was stored before. -/
structure HasFound (call : LocationCall) (batch : RideLocationBatch) (P : Point (machine Proc)) : Prop where
  unchanged : Unchanged P
  found : P.shared.db.batches.find? call.key = some batch

end DiddiGo.Rides.LocationBatches
