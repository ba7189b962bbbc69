import DiddiGo.Dossiers.Reviewing
import DiddiGo.Partners.PartnerService

/-!
# Partners are isolated from each other

What belongs to another partner, and when a request for a partner leaves it alone.
-/

namespace DiddiGo.Partners

open Dossiers (DossierCall VehicleDossier)
open Transactions

namespace FleetDb

/-- The keys that the database enforces: a driver has one link in force, and links refer to rows that exist. -/
structure Valid (db : FleetDb) : Prop where
  oneLink : ∀ link ∈ db.links.rows, ∀ link' ∈ db.links.rows, link.active = true → link'.active = true →
    link.driverId = link'.driverId → link = link'
  partners : ∀ link ∈ db.links.rows, (db.partners.find? link.partnerId).isSome = true
  profiles : ∀ link ∈ db.links.rows, (db.profiles.find? link.driverId).isSome = true

/-- The driver has a link in force with the partner. -/
def affiliated (db : FleetDb) (partnerId driverId : UUID) : Bool :=
  db.links.rows.any fun link =>
    decide (link.driverId = driverId) && link.active && decide (link.partnerId = partnerId)

/-- The vehicle belongs to another partner, or to a driver who is not affiliated to the partner. -/
def foreignVehicle (db : FleetDb) (partnerId : UUID) (vehicle : VehicleDossier) : Bool :=
  if vehicle.ownerType = "partner" then decide (vehicle.partnerId ≠ some partnerId)
  else !db.affiliated partnerId vehicle.driverId

/-- Nothing that does not belong to the partner is created, changed or ended between `db` and `db'`. -/
structure KeepsForeign (partnerId : UUID) (db db' : FleetDb) : Prop where
  members : db'.members.rows.filter (fun member => decide (member.partnerId ≠ partnerId)) =
    db.members.rows.filter fun member => decide (member.partnerId ≠ partnerId)
  links : db'.links.rows.filter (fun link => decide (link.partnerId ≠ partnerId)) =
    db.links.rows.filter fun link => decide (link.partnerId ≠ partnerId)
  assignments : db'.assignments.rows.filter (fun assignment => decide (assignment.partnerId ≠ partnerId)) =
    db.assignments.rows.filter fun assignment => decide (assignment.partnerId ≠ partnerId)
  vehicles : db'.vehicles.rows.filter (db.foreignVehicle partnerId) =
    db.vehicles.rows.filter (db.foreignVehicle partnerId)

/-- The driver has a link in force with another partner. -/
def LinkedElsewhere (db : FleetDb) (partnerId driverId : UUID) : Prop :=
  ∃ link ∈ db.links.rows, link.driverId = driverId ∧ link.active = true ∧ link.partnerId ≠ partnerId

/-- The vehicle is not the partner's, or its assignment in force is not. -/
def VehicleElsewhere (db : FleetDb) (partnerId vehicleId : UUID) : Prop :=
  (∃ vehicle, db.vehicles.find? vehicleId = some vehicle ∧ db.foreignVehicle partnerId vehicle = true) ∨
    ∃ assignment ∈ db.assignments.rows, assignment.ending vehicleId = true ∧ assignment.partnerId ≠ partnerId

end FleetDb

namespace PartnerCall

variable (call : PartnerCall) (db : FleetDb)

/-- The database after the request. -/
def after : FleetDb := (call.action.run id db).2

/-- The request raises. -/
def Raises : Prop := ∃ e, (call.action.run id db).1 = .error e

/-- The identifiers that the request draws are not in use (`uuid4`). -/
structure Draws : Prop where
  member : db.members.find? call.memberId = none
  link : db.links.find? call.linkId = none
  vehicle : db.vehicles.find? call.vehicleId = none
  assignment : db.assignments.find? call.assignmentId = none

/-- The request names something that does not belong to the partner. -/
def NamesForeign : Prop :=
  match call.op with
  | .addMember _ _ => False
  | .deactivateMember memberId =>
    ∃ member, db.members.find? memberId = some member ∧ member.partnerId ≠ call.partnerId
  | .affiliateDriver driverId => db.LinkedElsewhere call.partnerId driverId
  | .unaffiliateDriver driverId => db.LinkedElsewhere call.partnerId driverId
  | .assignVehicle vehicleId driverId =>
    db.VehicleElsewhere call.partnerId vehicleId ∨ db.LinkedElsewhere call.partnerId driverId
  | .createVehicle driverId _ _ _ => db.LinkedElsewhere call.partnerId driverId
  | .unassignVehicle vehicleId => db.VehicleElsewhere call.partnerId vehicleId

/-- The request leaves alone what does not belong to the partner, and fails if it names such a thing. -/
structure Isolated : Prop where
  keeps : FleetDb.KeepsForeign call.partnerId db (call.after db)
  fails : call.NamesForeign db → call.Raises db ∧ call.after db = db

/-- The member, the vehicle or the assignment that the request would change belongs to the partner. -/
def NamesOwn : Prop :=
  match call.op with
  | .deactivateMember memberId => (db.partners.find? call.partnerId).isSome = true →
    ∀ member, db.members.find? memberId = some member → member.partnerId = call.partnerId
  | .unassignVehicle vehicleId => (db.partners.find? call.partnerId).isSome = true →
    db.hasAssignment vehicleId = true → ¬ db.VehicleElsewhere call.partnerId vehicleId
  | .assignVehicle vehicleId driverId => ∀ partner, db.partners.find? call.partnerId = some partner →
    partner.status = .active → db.affiliated call.partnerId driverId = true → db.hasAssignment vehicleId = false →
      ¬ db.VehicleElsewhere call.partnerId vehicleId
  | _ => True

end PartnerCall

/-!
## The active vehicle of a driver

Vehicles become active when they are registered, reviewed or assigned. A driver's active vehicle is read as one row,
without an order.
-/

namespace FleetDb

/-- A driver has at most one active vehicle. -/
def OneActive (db : FleetDb) : Prop :=
  ∀ vehicle ∈ db.vehicles.rows, ∀ vehicle' ∈ db.vehicles.rows, vehicle.active = true → vehicle'.active = true →
    vehicle.driverId = vehicle'.driverId → vehicle = vehicle'

/-- Whatever the order of the rows, a query for the active vehicle of a driver takes the same one. -/
def ActiveDenotes (db : FleetDb) : Prop :=
  ∀ (driverId : UUID) (rows : List VehicleDossier), rows.Perm db.vehicles.rows →
    rows.find? (fun vehicle => decide (vehicle.driverId = driverId) && vehicle.active) = db.activeVehicleOf driverId

/-- The driver has no other active vehicle. -/
def Alone (db : FleetDb) (vehicleId driverId : UUID) : Prop :=
  ∀ vehicle ∈ db.vehicles.rows, vehicle.driverId = driverId → vehicle.active = true → vehicle.id = vehicleId

instance (db : FleetDb) (vehicleId driverId : UUID) : Decidable (db.Alone vehicleId driverId) :=
  inferInstanceAs (Decidable (∀ vehicle ∈ db.vehicles.rows, _))

end FleetDb

/-- A request of a driver, of a reviewer or for a partner. -/
inductive FleetCall
  | dossier (call : DossierCall)
  | partner (call : PartnerCall)

namespace FleetCall

variable (call : FleetCall) (db : FleetDb)

/-- The database after the request. -/
def after : FleetDb :=
  match call with
  | .dossier call => { db with toDossierDb := call.after db.toDossierDb }
  | .partner call => call.after db

/-- The identifiers that the request draws are not in use (`uuid4`). -/
def Draws : Prop :=
  match call with
  | .dossier call => call.Draws db.toDossierDb
  | .partner call => call.Draws db

/-- The vehicle that the request can make active, and its driver then. -/
def activates : Option (UUID × UUID) :=
  -- An assignment leaves only a verified vehicle active.
  let assigned (vehicleId driverId : UUID) := (db.vehicles.find? vehicleId).bind fun vehicle =>
    if vehicle.verificationStatus = .active ∧ vehicle.active = true then some (vehicleId, driverId) else none
  let reviewed (vehicleId : UUID) := (db.vehicles.find? vehicleId).map fun vehicle => (vehicleId, vehicle.driverId)
  match call with
  | .dossier call =>
    match call.op with
    | .registerVehicle id userId _ _ _ => (db.profileOf userId).map fun profile => (id, profile.id)
    | .approveVehicleKyv vehicleId _ _ _ => reviewed vehicleId
    | .rejectVehicleKyv vehicleId _ _ _ => reviewed vehicleId
    | .setVehiclePartnerOwner vehicleId _ driverId => assigned vehicleId driverId
    | _ => none
  | .partner call =>
    match call.op with
    | .createVehicle driverId _ _ _ => some (call.vehicleId, driverId)
    | .assignVehicle vehicleId driverId => assigned vehicleId driverId
    | _ => none

/-- A vehicle that the request can make active is the only one of its driver. -/
def KeepsAlone : Prop := ∀ found ∈ call.activates db, db.Alone found.1 found.2

instance : Decidable (call.KeepsAlone db) :=
  inferInstanceAs (Decidable (∀ found ∈ call.activates db, db.Alone found.1 found.2))

end FleetCall

/-- The database after a history. -/
def runFleet (calls : List FleetCall) (db : FleetDb) : FleetDb := runSteps FleetCall.after calls db

end DiddiGo.Partners
