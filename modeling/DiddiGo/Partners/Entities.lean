import DiddiGo.Dossiers.Entities
import DiddiGo.Transactions.Embedding

/-!
# Partners and their fleets

The rows of the partner module, and the vocabulary of the transactions on them. Profiles and vehicles are those of
the dossiers.
-/

namespace DiddiGo.Partners

open Data (Json Keyed Table)
open Dossiers (DossierDb)
open Transactions

/-- `PartnerStatus`. -/
inductive PartnerStatus
  | pendingVerification
  | active
  | suspended
  | rejected
  deriving DecidableEq, Repr

/-- The stored text. -/
def PartnerStatus.value : PartnerStatus → String
  | pendingVerification => "pending_verification"
  | active => "active"
  | suspended => "suspended"
  | rejected => "rejected"

/-- `PartnerMemberRole`. -/
inductive PartnerMemberRole
  | manager
  | operator
  | viewer
  deriving DecidableEq, Repr

/-- The stored text. -/
def PartnerMemberRole.value : PartnerMemberRole → String
  | manager => "partner_manager"
  | operator => "partner_operator"
  | viewer => "partner_viewer"

/-- A row of `partners`. -/
structure Partner where
  id : UUID
  status : PartnerStatus := .pendingVerification
  deriving DecidableEq, Repr

/-- A row of `partner_members`. -/
structure PartnerMember where
  id : UUID
  partnerId : UUID
  userId : UUID
  role : PartnerMemberRole
  active : Bool := true
  deriving DecidableEq, Repr

/-- A row of `partner_driver_links`. -/
structure PartnerDriverLink where
  id : UUID
  partnerId : UUID
  driverId : UUID
  active : Bool := true
  endedAt : Option DateTime := none
  deriving DecidableEq, Repr

/-- A row of `vehicle_assignments`. -/
structure VehicleAssignment where
  id : UUID
  partnerId : UUID
  vehicleId : UUID
  driverId : UUID
  active : Bool := true
  endedAt : Option DateTime := none
  deriving DecidableEq, Repr

instance : Keyed Partner UUID := ⟨Partner.id⟩
instance : Keyed PartnerMember UUID := ⟨PartnerMember.id⟩
instance : Keyed PartnerDriverLink UUID := ⟨PartnerDriverLink.id⟩
instance : Keyed VehicleAssignment UUID := ⟨VehicleAssignment.id⟩

/-- The tables that these operations read or write. -/
structure FleetDb extends DossierDb where
  partners : Table Partner := .empty
  members : Table PartnerMember := .empty
  links : Table PartnerDriverLink := .empty
  assignments : Table VehicleAssignment := .empty
  /-- The keys of `auth.users`. -/
  users : List UUID := []

/-- Rows and unique keys that a statement can lock. -/
inductive Row
  | dossier (row : Dossiers.Row)
  | member (id : UUID)
  /-- `partner_members_partner_user_unique`. -/
  | partnerUser (partnerId userId : UUID)
  | link (id : UUID)
  /-- `ux_partner_driver_links_one_active_driver`. -/
  | activeDriver (driverId : UUID)
  | assignment (id : UUID)
  /-- `ux_vehicle_assignments_one_active_vehicle`. -/
  | activeVehicle (vehicleId : UUID)
  deriving DecidableEq, Repr

/-- Transactions on fleets; they ask nobody. -/
abbrev sig : Signature where
  State := FleetDb
  Row := Row
  Label := Empty
  Query := Empty
  Answer := Empty
  Err := Err

/-- A program on fleets. -/
abbrev Action (α : Type) := Prog sig α

/-- Programs on dossiers are programs on fleets. -/
def onDossiers : Embedding Dossiers.sig sig where
  get db := db.toDossierDb
  put part db := { db with toDossierDb := part }
  row := .dossier
  label _ := none
  query := nofun
  answer := nofun
  err e := e
  get_put _ _ := rfl
  put_get _ := rfl
  put_put _ _ _ := rfl

/-- Raise an `ApiError`. -/
def apiError {α : Type} (statusCode : Nat) (code message : String) (details : Json := .null) : Action α :=
  throw (.api { statusCode := statusCode, code := code, message := message, details := details })

/-- Raise an `ApiError` if `c` holds. -/
def apiErrorIf (c : Prop) [Decidable c] (statusCode : Nat) (code message : String) (details : Json := .null) :
    Action Unit :=
  Prog.raiseIf c (.api { statusCode := statusCode, code := code, message := message, details := details })

end DiddiGo.Partners
