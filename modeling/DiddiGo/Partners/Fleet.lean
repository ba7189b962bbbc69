import DiddiGo.Partners.Isolation
import DiddiGo.Transactions.Timeliness
import DiddiGo.Transactions.UniqueKeys

/-!
# Consistent fleets

Requests for partners run at once. Links, assignments and the owners of vehicles must fit each other.
-/

namespace DiddiGo.Partners

open Data (Table)
open Dossiers (VehicleDossier)
open Transactions

/-! ## Keys -/

/-- The keys of the two partial unique indexes. -/
inductive ActiveKey
  | driver (driverId : UUID)
  | vehicle (vehicleId : UUID)
  deriving DecidableEq

/-- The links in force of a driver, and the assignments in force of a vehicle. -/
def activeIndex : Index sig where
  Key := ActiveKey
  Entry := UUID
  entries
    | .driver driverId, db =>
      ((db.links.rows.filter fun link => decide (link.driverId = driverId) && link.active).map (·.id))
    | .vehicle vehicleId, db => ((db.assignments.rows.filter (VehicleAssignment.ending vehicleId)).map (·.id))
  row
    | .driver driverId => .activeDriver driverId
    | .vehicle vehicleId => .activeVehicle vehicleId

namespace FleetDb

/-- The vehicle is the partner's and driven by the driver. -/
def DrivesFor (db : FleetDb) (assignment : VehicleAssignment) : Prop :=
  ∃ vehicle ∈ db.vehicles.find? assignment.vehicleId, vehicle.ownerType = "partner" ∧
    vehicle.partnerId = some assignment.partnerId ∧ vehicle.driverId = assignment.driverId

instance (db : FleetDb) (assignment : VehicleAssignment) : Decidable (db.DrivesFor assignment) :=
  inferInstanceAs (Decidable (∃ vehicle ∈ db.vehicles.find? assignment.vehicleId, _))

/-- Every assignment in force is of a driver who is affiliated to the partner, and of a vehicle that is the partner's
and his. -/
structure Linked (db : FleetDb) : Prop where
  affiliated : ∀ assignment ∈ db.assignments.rows, assignment.active = true →
    db.affiliated assignment.partnerId assignment.driverId = true
  owned : ∀ assignment ∈ db.assignments.rows, assignment.active = true → db.DrivesFor assignment

/-- The fleets fit together: a driver has one link in force, a vehicle has one assignment in force, and assignments
fit links and owners. -/
structure Consistent (db : FleetDb) : Prop extends Linked db where
  unique : activeIndex.Unique db

end FleetDb

/-! ## Runs -/

/-- Requests for partners at once. -/
abbrev machine (Proc : Type) : Machine sig where
  Proc := Proc
  World := Unit
  Out := Unit
  receives w _ _ := w
  answers _ _ _ _ := none

variable {Proc : Type}

/-- None of the requests has started. -/
def initial (calls : Proc → PartnerCall) (db : FleetDb) : Config (machine Proc) :=
  Config.initial db () fun i => (calls i).action

namespace PartnerCall

/-- Two requests draw different identifiers. -/
structure Apart (call other : PartnerCall) : Prop where
  member : call.memberId ≠ other.memberId
  link : call.linkId ≠ other.linkId
  vehicle : call.vehicleId ≠ other.vehicleId
  assignment : call.assignmentId ≠ other.assignmentId

/-- The owner's columns of the vehicle that an assignment would not write are in `db'` as they are in `db`. -/
def KeepsOwner (call : PartnerCall) (vehicleId driverId : UUID) (db db' : FleetDb) : Prop :=
  ∀ vehicle ∈ db.vehicles.find? vehicleId, ∃ vehicle' ∈ db'.vehicles.find? vehicleId,
    (vehicle.ownerType = "partner" → vehicle'.ownerType = "partner") ∧
      (vehicle.partnerId = some call.partnerId → vehicle'.partnerId = some call.partnerId) ∧
      (vehicle.driverId = driverId → vehicle'.driverId = driverId)

instance (call : PartnerCall) (vehicleId driverId : UUID) (db db' : FleetDb) :
    Decidable (call.KeepsOwner vehicleId driverId db db') :=
  inferInstanceAs (Decidable (∀ vehicle ∈ db.vehicles.find? vehicleId, ∃ vehicle' ∈ db'.vehicles.find? vehicleId, _))

/-- What the request relies on in `db` holds in `db'` too: the driver to whom it gives a vehicle is still affiliated,
the owner is still the one that was read, and a driver who leaves has no vehicle of the partner. -/
def Undisturbed (call : PartnerCall) (db db' : FleetDb) : Prop :=
  match call.op with
  | .unaffiliateDriver driverId => ∀ assignment ∈ db'.assignments.rows, assignment.active = true →
    assignment.partnerId = call.partnerId → assignment.driverId ≠ driverId
  | .assignVehicle vehicleId driverId =>
    (db.affiliated call.partnerId driverId = true → db'.affiliated call.partnerId driverId = true) ∧
      call.KeepsOwner vehicleId driverId db db'
  | .createVehicle driverId _ _ _ =>
    db.affiliated call.partnerId driverId = true → db'.affiliated call.partnerId driverId = true
  | _ => True

instance (call : PartnerCall) (db db' : FleetDb) : Decidable (call.Undisturbed db db') := by
  unfold Undisturbed
  cases call.op <;> exact inferInstance

end PartnerCall

end DiddiGo.Partners
