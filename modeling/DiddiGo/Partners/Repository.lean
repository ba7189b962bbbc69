import DiddiGo.Dossiers.DriverService
import DiddiGo.Partners.Entities

/-!
# The repository of partners

Reads and writes of members, driver links and assignments. An insertion violates a key that is taken and a reference
to a row that is not there.
-/

namespace DiddiGo.Partners

open Data (Keyed Table)
open Dossiers (VehicleDossier)
open Transactions

/-! ## What the tables hold -/

namespace FleetDb

/-- The link in force of a driver, and its partner. -/
def linkOf (db : FleetDb) (driverId : UUID) : Option (Partner × PartnerDriverLink) :=
  db.links.rows.findSome? fun link =>
    if link.driverId = driverId ∧ link.active = true then (db.partners.find? link.partnerId).map fun p => (p, link)
    else none

/-- The assignment in force of a vehicle. -/
def assignmentOf (db : FleetDb) (vehicleId : UUID) : Option VehicleAssignment :=
  db.assignments.rows.find? fun assignment => decide (assignment.vehicleId = vehicleId) && assignment.active

/-- The driver has a link in force. -/
def hasLink (db : FleetDb) (driverId : UUID) : Bool :=
  db.links.rows.any fun link => decide (link.driverId = driverId) && link.active

/-- The vehicle has an assignment in force. -/
def hasAssignment (db : FleetDb) (vehicleId : UUID) : Bool :=
  db.assignments.rows.any fun assignment => decide (assignment.vehicleId = vehicleId) && assignment.active

/-- A new link violates a key or refers to a row that is not there. -/
def linkViolated (db : FleetDb) (link : PartnerDriverLink) : Bool :=
  (db.links.find? link.id).isSome || db.hasLink link.driverId || (db.partners.find? link.partnerId).isNone ||
    (db.profiles.find? link.driverId).isNone

/-- A new assignment violates a key or refers to a row that is not there. -/
def assignmentViolated (db : FleetDb) (assignment : VehicleAssignment) : Bool :=
  (db.assignments.find? assignment.id).isSome || db.hasAssignment assignment.vehicleId ||
    (db.partners.find? assignment.partnerId).isNone || (db.vehicles.find? assignment.vehicleId).isNone ||
    (db.profiles.find? assignment.driverId).isNone

/-- The user is a member of the partner. -/
def hasMember (db : FleetDb) (partnerId userId : UUID) : Bool :=
  db.members.rows.any fun member => decide (member.partnerId = partnerId) && decide (member.userId = userId)

/-- The user was a member of the partner already. -/
def alreadyMember : Err :=
  .api
    { statusCode := 409, code := "PARTNER_ALREADY_EXISTS"
      message := "Cet utilisateur est deja membre de ce partenaire." }

/-- What the insertion of a new member raises. -/
def memberViolation (db : FleetDb) (member : PartnerMember) : Option Err :=
  if (db.members.find? member.id).isSome then some .integrity
  else if db.hasMember member.partnerId member.userId then some alreadyMember
  else if (db.partners.find? member.partnerId).isNone ∨ member.userId ∉ db.users then some .integrity
  else none

end FleetDb

/-! ## Partners -/

/-- `partner_repo.find_by_id`. -/
def findPartnerById (id : UUID) : Action (Option Partner) := Prog.select fun db => db.partners.find? id

/-! ## Members -/

/-- `save_member` of a new member; `add_member` reports a user who is a member already. -/
def saveMember (member : PartnerMember) : Action Unit :=
  .stmt none
    (fun v => if (v.memberViolation member).isSome then []
      else [.member member.id, .partnerUser member.partnerId member.userId])
    (fun v db => if (v.memberViolation member).isSome then db else { db with members := db.members.insert member })
    fun v =>
      match v.memberViolation member with
      | some e => throw e
      | none => return ()

/-- `deactivate_member`. -/
def deactivateMember (memberId : UUID) : Action Bool := do
  match ← Prog.select fun db => db.members.find? memberId with
  | none => return false
  | some _ =>
    Prog.update [.member memberId] fun db =>
      { db with members := db.members.update memberId fun member => { member with active := false } }
    return true

/-! ## Driver links -/

/-- `save_driver_link` of a new link. -/
def saveDriverLink (link : PartnerDriverLink) : Action Unit :=
  Prog.writeOrRaise [.link link.id, .activeDriver link.driverId] (fun db => db.linkViolated link)
    (fun db => { db with links := db.links.insert link }) .integrity

/-- `find_active_driver_link`. -/
def findActiveDriverLink (driverId : UUID) : Action (Option (Partner × PartnerDriverLink)) :=
  Prog.select fun db => db.linkOf driverId

/-- The links that `end_driver_link` ends. -/
def PartnerDriverLink.ending (partnerId driverId : UUID) (link : PartnerDriverLink) : Bool :=
  decide (link.partnerId = partnerId) && decide (link.driverId = driverId) && link.active

/-- `end_driver_link`. -/
def endDriverLink (partnerId driverId : UUID) (now : DateTime) : Action Bool :=
  let ending (db : FleetDb) := db.links.rows.filter (PartnerDriverLink.ending partnerId driverId)
  .stmt none (fun v => (ending v).flatMap fun link => [.link link.id, .activeDriver driverId])
    -- The condition is checked again for a row that was locked.
    (fun v db => { db with
      links := db.links.updateWhere
        (fun link => decide (link.id ∈ (ending v).map (·.id)) && link.ending partnerId driverId)
        fun link => { link with active := false, endedAt := some now } })
    fun v => return !(ending v).isEmpty

/-! ## Vehicles and assignments -/

/-- The vehicle is as `set_vehicle_partner_owner` leaves it. -/
def isOwned (vehicle : VehicleDossier) (partnerId driverId : UUID) : Bool :=
  decide (vehicle.ownerType = "partner") && decide (vehicle.partnerId = some partnerId) &&
    decide (vehicle.driverId = driverId) &&
    (decide (vehicle.verificationStatus = .active) ||
      decide (vehicle.verificationStatus = .pendingVerification) && !vehicle.active)

/-- `set_vehicle_partner_owner`; a row that does not change is not written. -/
def setVehiclePartnerOwner (vehicleId partnerId driverId : UUID) : Action Bool := do
  match ← Prog.select fun db => db.vehicles.find? vehicleId with
  | none => return false
  | some loaded =>
    Prog.update (if isOwned loaded partnerId driverId then [] else [.dossier (.vehicle vehicleId)]) fun db =>
      { db with
        vehicles := db.vehicles.update vehicleId (fun row => loaded.flush (loaded.assigned partnerId driverId) row)
          (VehicleDossier.key_flush_assigned loaded partnerId driverId) }
    return true

/-- `save_vehicle_assignment` of a new assignment. -/
def saveVehicleAssignment (assignment : VehicleAssignment) : Action Unit :=
  Prog.writeOrRaise [.assignment assignment.id, .activeVehicle assignment.vehicleId]
    (fun db => db.assignmentViolated assignment)
    (fun db => { db with assignments := db.assignments.insert assignment }) .integrity

/-- `find_active_vehicle_assignment`. -/
def findActiveVehicleAssignment (vehicleId : UUID) : Action (Option VehicleAssignment) :=
  Prog.select fun db => db.assignmentOf vehicleId

/-- The assignments that `end_vehicle_assignment` ends. -/
def VehicleAssignment.ending (vehicleId : UUID) (assignment : VehicleAssignment) : Bool :=
  decide (assignment.vehicleId = vehicleId) && assignment.active

/-- `end_vehicle_assignment`. -/
def endVehicleAssignment (vehicleId : UUID) (now : DateTime) : Action Bool :=
  let ending (db : FleetDb) := db.assignments.rows.filter (VehicleAssignment.ending vehicleId)
  .stmt none (fun v => (ending v).flatMap fun assignment => [.assignment assignment.id, .activeVehicle vehicleId])
    -- The condition is checked again for a row that was locked.
    (fun v db => { db with
      assignments := db.assignments.updateWhere
        (fun assignment => decide (assignment.id ∈ (ending v).map (·.id)) && assignment.ending vehicleId)
        fun assignment => { assignment with active := false, endedAt := some now } })
    fun v => return !(ending v).isEmpty

end DiddiGo.Partners
