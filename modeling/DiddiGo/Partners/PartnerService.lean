import DiddiGo.Partners.Repository

/-!
# Partner requests

What a partner does with its members, its drivers and its vehicles. The identifiers of new rows are drawn by the
request.
-/

namespace DiddiGo.Partners

open Data (Json)
open Dossiers (KyvFields VehicleDescription blankToNone)
open Rides (VehicleCategory ComfortLevel)
open Transactions

/-! ## Checks -/

/-- `_require_partner`. -/
def requirePartner (partnerId : UUID) : Action Partner := do
  match ← findPartnerById partnerId with
  | some partner => return partner
  | none => apiError 404 "PARTNER_NOT_FOUND" "Partenaire introuvable."

/-- `_require_active_partner`. -/
def requireActivePartner (partnerId : UUID) : Action Partner := do
  let partner ← requirePartner partnerId
  apiErrorIf (partner.status ≠ .active) 409 "PARTNER_NOT_ACTIVE" "Le partenaire doit etre actif pour cette operation."
    (Json.ofMembers [("status", .str partner.status.value)])
  return partner

/-- The value of a field that has only some texts, or an error that names them. -/
def allowed {α : Type} (value : α → String) (all : List α) (code message field text : String) : Action α :=
  match all.find? fun a => value a = text with
  | some a => return a
  | none => apiError 422 code message (Json.ofMembers
      [("field", .str field), ("allowed", all.foldr (fun a rest => .arrCons (.str (value a)) rest) .arrNil)])

/-- `_member_role`. -/
def memberRole (text : String) : Action PartnerMemberRole :=
  allowed PartnerMemberRole.value [.manager, .operator, .viewer] "INVALID_PARTNER_ROLE" "Role partenaire invalide."
    "role" text

/-- `_vehicle_category`. -/
def vehicleCategory (text : String) : Action VehicleCategory :=
  allowed VehicleCategory.value [.standard, .comfort, .van] "INVALID_VEHICLE_CATEGORY"
    "Categorie de vehicule invalide." "category" text

/-- `_comfort_level`. -/
def comfortLevel (text : String) : Action ComfortLevel :=
  allowed ComfortLevel.value [.standard, .comfort, .premium] "INVALID_COMFORT_LEVEL"
    "Niveau de confort invalide." "comfort_level" text

/-- `_required_text`. -/
def requiredText (text field : String) : Action String :=
  match blankToNone (some text) with
  | some text => return text
  | none => apiError 422 "VALIDATION_ERROR" "Champ obligatoire." (Json.ofMembers [("field", .str field)])

/-! ## Requests -/

/-- What a request asks for. -/
inductive PartnerOp
  | addMember (userId : UUID) (role : String)
  | deactivateMember (memberId : UUID)
  | affiliateDriver (driverId : UUID)
  | unaffiliateDriver (driverId : UUID)
  | assignVehicle (vehicleId driverId : UUID)
  | createVehicle (driverId : UUID) (description : VehicleDescription) (comfortLevel : String) (fields : KyvFields)
  | unassignVehicle (vehicleId : UUID)

/-- A request for a partner, with the time and what it draws. -/
structure PartnerCall where
  partnerId : UUID
  op : PartnerOp
  now : DateTime
  memberId : UUID
  linkId : UUID
  vehicleId : UUID
  assignmentId : UUID

namespace PartnerCall

variable (call : PartnerCall)

/-- `add_member`. -/
def addMember (userId : UUID) (role : String) : Action Unit := do
  let _ ← requirePartner call.partnerId
  let role ← memberRole role
  saveMember { id := call.memberId, partnerId := call.partnerId, userId := userId, role := role }

/-- `deactivate_member`. -/
def deactivateMember (memberId : UUID) : Action Unit := do
  let _ ← requirePartner call.partnerId
  let removed ← Partners.deactivateMember memberId
  apiErrorIf (removed = false) 404 "PARTNER_MEMBER_NOT_FOUND" "Membre partenaire introuvable."

/-- `affiliate_driver`. -/
def affiliateDriver (driverId : UUID) : Action Unit := do
  let partner ← requireActivePartner call.partnerId
  match ← findActiveDriverLink driverId with
  | some (existing, _) =>
    apiError 409 "DRIVER_ALREADY_AFFILIATED" "Ce chauffeur est deja affilie a un partenaire actif."
      (Json.ofMembers [("partner_id", .str (UUID.str existing.id))])
  | none => saveDriverLink { id := call.linkId, partnerId := partner.id, driverId := driverId }

/-- `unaffiliate_driver`. -/
def unaffiliateDriver (driverId : UUID) : Action Unit := do
  let _ ← requirePartner call.partnerId
  let removed ← endDriverLink call.partnerId driverId call.now
  apiErrorIf (removed = false) 404 "DRIVER_NOT_AFFILIATED" "Ce chauffeur n'est pas affilie a ce partenaire."

/-- The assignment that the request makes. -/
def assignment (vehicleId driverId : UUID) : VehicleAssignment :=
  { id := call.assignmentId, partnerId := call.partnerId, vehicleId := vehicleId, driverId := driverId }

/-- `assign_vehicle`. -/
def assignVehicle (vehicleId driverId : UUID) : Action Unit := do
  let _ ← requireActivePartner call.partnerId
  let link ← findActiveDriverLink driverId
  apiErrorIf (link.map (fun link => link.1.id) ≠ some call.partnerId) 409 "DRIVER_NOT_AFFILIATED"
    "Le chauffeur doit etre affilie au partenaire avant assignation du vehicule."
  match ← findActiveVehicleAssignment vehicleId with
  | some current =>
    apiError 409 "VEHICLE_ALREADY_ASSIGNED" "Ce vehicule est deja assigne a un chauffeur actif."
      (Json.ofMembers [("driver_id", .str (UUID.str current.driverId))])
  | none =>
    let found ← setVehiclePartnerOwner vehicleId call.partnerId driverId
    apiErrorIf (found = false) 404 "VEHICLE_NOT_FOUND" "Vehicule introuvable."
    saveVehicleAssignment (call.assignment vehicleId driverId)

/-- The link that the request makes. -/
def link (driverId : UUID) : PartnerDriverLink :=
  { id := call.linkId, partnerId := call.partnerId, driverId := driverId }

/-- `_ensure_driver_affiliated_to_partner`. -/
def ensureDriverAffiliated (driverId : UUID) : Action Unit := do
  match ← findActiveDriverLink driverId with
  | some (existing, _) =>
    apiErrorIf (existing.id ≠ call.partnerId) 409 "DRIVER_ALREADY_AFFILIATED"
      "Ce chauffeur est deja affilie a un autre partenaire actif."
      (Json.ofMembers [("partner_id", .str (UUID.str existing.id))])
  | none => saveDriverLink (call.link driverId)

/-- The vehicle that the request makes. -/
def vehicle (driverId : UUID) (plateNumber : String) (description : VehicleDescription) (category : VehicleCategory)
    (comfortLevel : ComfortLevel) (fields : KyvFields) : Dossiers.VehicleDossier :=
  { id := call.vehicleId, driverId := driverId, plateNumber := plateNumber.toUpper
    make := blankToNone description.make, model := blankToNone description.model
    color := blankToNone description.color
    documents := fun d => { fields.documents d with url := blankToNone (fields.documents d).url }
    vehiclePhoto := { fields.vehiclePhoto with url := blankToNone fields.vehiclePhoto.url }
    verificationStatus := .pendingVerification, ownerType := "partner", partnerId := some call.partnerId
    category := category, comfortLevel := comfortLevel, active := true }

/-- A plate that is taken. -/
def plateAlreadyRegistered : Err :=
  .api { statusCode := 409, code := "PLATE_ALREADY_REGISTERED", message := "Cette plaque est deja enregistree." }

/-- `create_vehicle`. -/
def createVehicle (driverId : UUID) (description : VehicleDescription) (comfortLevel : String) (fields : KyvFields) :
    Action Unit := do
  let _ ← requireActivePartner call.partnerId
  match ← (Dossiers.findProfileById driverId).embed onDossiers with
  | none => apiError 404 "DRIVER_PROFILE_NOT_FOUND" "Profil chauffeur introuvable."
  | some _ =>
    call.ensureDriverAffiliated driverId
    let plateNumber ← requiredText description.plateNumber "plate_number"
    let category ← vehicleCategory description.category
    let comfortLevel ← Partners.comfortLevel comfortLevel
    (Dossiers.saveVehicle (call.vehicle driverId plateNumber description category comfortLevel fields)
      plateAlreadyRegistered).embed onDossiers
    saveVehicleAssignment (call.assignment call.vehicleId driverId)

/-- `unassign_vehicle`. -/
def unassignVehicle (vehicleId : UUID) : Action Unit := do
  let _ ← requirePartner call.partnerId
  let removed ← endVehicleAssignment vehicleId call.now
  apiErrorIf (removed = false) 404 "VEHICLE_ASSIGNMENT_NOT_FOUND" "Assignation vehicule introuvable."

/-- The program of a request. -/
def action : Action Unit :=
  match call.op with
  | .addMember userId role => call.addMember userId role
  | .deactivateMember memberId => call.deactivateMember memberId
  | .affiliateDriver driverId => call.affiliateDriver driverId
  | .unaffiliateDriver driverId => call.unaffiliateDriver driverId
  | .assignVehicle vehicleId driverId => call.assignVehicle vehicleId driverId
  | .createVehicle driverId description comfortLevel fields =>
    call.createVehicle driverId description comfortLevel fields
  | .unassignVehicle vehicleId => call.unassignVehicle vehicleId

end PartnerCall

end DiddiGo.Partners
