import DiddiGo.Dossiers.Repository
import DiddiGo.Rides.Quotes

/-!
# Onboarding of drivers

Profiles and vehicles are created, handed in again, approved and rejected. A program reads a dossier, changes
it and saves it; what it changes is a function of its own.
-/

namespace DiddiGo.Dossiers

open Data (Json Keyed Table)
open Rides (DriverStatus VehicleVerificationStatus VehicleCategory ComfortLevel)
open Transactions

/-! ## KYC -/

/-- What a driver hands in with his profile. -/
structure KycFields where
  legalName : Option String := none
  birthDate : Option DateTime := none
  residenceAddress : Option String := none
  documents : KycDocument → DocumentRef := fun _ => {}
  profilePhotoFileId : Option UUID := none
  licenseExpiresAt : Option DateTime := none
  nationalIdExpiresAt : Option DateTime := none

/-- `value if value is not None else current`, where a blank value is stored as `None`. -/
def updatedText (current given : Option String) : Option String :=
  if given.isSome then blankToNone given else current

namespace DriverDossier

/-- `_update_optional_kyc_fields`. -/
def updateOptionalKycFields (profile : DriverDossier) (fields : KycFields) : DriverDossier :=
  { profile with
    legalName := updatedText profile.legalName fields.legalName
    birthDate := fields.birthDate.or profile.birthDate
    residenceAddress := updatedText profile.residenceAddress fields.residenceAddress
    documents := fun d => (profile.documents d).updated (fields.documents d)
    profilePhotoFileId := fields.profilePhotoFileId.or profile.profilePhotoFileId
    licenseExpiresAt := fields.licenseExpiresAt.or profile.licenseExpiresAt
    nationalIdExpiresAt := fields.nationalIdExpiresAt.or profile.nationalIdExpiresAt }

/-- `resubmit_kyc`, between the read and the write. -/
def resubmit (profile : DriverDossier) (licenseNumber : Option String) (fields : KycFields)
    (order : SetOrder KycDocument) (now : DateTime) : Except ApiError DriverDossier :=
  if licenseNumber.map Data.strip = some "" then .error
    { statusCode := 422, code := "INVALID_LICENSE_NUMBER", message := "Le numero de permis est obligatoire."
      details := Json.ofMembers [("field", .str "license_number")] }
  else .ok
    { profile.updateOptionalKycFields fields with
      licenseNumber := (licenseNumber.map Data.strip).getD profile.licenseNumber
      status := .pendingVerification
      kycStatus := .pendingVerification
      reviews := markResubmittedDocumentsPending profile.reviews fields.documents order now
      licenseVerifiedAt := none
      kycSubmittedAt := some now
      kycReviewedAt := none
      kycReviewNotes := none }

/-- `approve_kyc`, between the read and the write. -/
def approve (profile : DriverDossier) (reviewedByUserId : UUID) (notes : Option String)
    (documents : List DocumentDecision) (order : SetOrder KycDocument) (now : DateTime) :
    Except ApiError DriverDossier := do
  ensureDocumentsComplete profile.documents "INVALID_KYC_DOCUMENTS" "Le dossier KYC chauffeur est incomplet."
  let decisions := if documents = [] then approvals order else documents
  let reviews ← applyDocumentDecisions profile.reviews decisions reviewedByUserId now
  ensureAllDocumentsApproved reviews
  return { profile with
    reviews := reviews
    status := .active
    kycStatus := .approved
    licenseVerifiedAt := some now
    kycReviewedAt := some now
    kycReviewNotes := some (reviewNote notes reviewedByUserId) }

/-- `reject_kyc`, between the read and the write. -/
def reject (profile : DriverDossier) (reviewedByUserId : UUID) (notes : Option String)
    (documents : List DocumentDecision) (now : DateTime) : Except ApiError DriverDossier := do
  let reviews ← applyRejectionDecisions profile.reviews documents reviewedByUserId now
  return { profile with
    reviews := reviews
    status := .pendingVerification
    kycStatus := .rejected
    licenseVerifiedAt := none
    kycReviewedAt := some now
    kycReviewNotes := some (reviewNote notes reviewedByUserId) }

end DriverDossier

/-- `_require_profile`. -/
def requireProfile (userId : UUID) : Action DriverDossier := do
  match ← findProfileByUserId userId with
  | some profile => return profile
  | none => apiError 404 "DRIVER_PROFILE_NOT_FOUND" "Aucun profil chauffeur pour ce compte."

/-- The profile that a reviewer names. -/
def reviewedProfile (driverId : UUID) : Action DriverDossier := do
  match ← findProfileById driverId with
  | some profile => return profile
  | none => apiError 404 "DRIVER_PROFILE_NOT_FOUND" "Aucun profil chauffeur pour cet identifiant."

/-- `create_profile`. -/
def createProfile (id userId : UUID) (licenseNumber : String) (fields : KycFields) (now : DateTime) :
    Action Unit := do
  apiErrorIf (Data.strip licenseNumber = "") 422 "INVALID_LICENSE_NUMBER" "Le numéro de permis est obligatoire."
    (Json.ofMembers [("field", .str "license_number")])
  let existing ← findProfileByUserId userId
  apiErrorIf (existing.isSome = true) 409 "DRIVER_PROFILE_ALREADY_EXISTS" "Ce compte a déjà un profil chauffeur."
  saveProfile
    { id := id, userId := userId, licenseNumber := Data.strip licenseNumber
      legalName := blankToNone fields.legalName
      birthDate := fields.birthDate
      residenceAddress := blankToNone fields.residenceAddress
      documents := fun d => { fields.documents d with url := blankToNone (fields.documents d).url }
      profilePhotoFileId := fields.profilePhotoFileId
      licenseExpiresAt := fields.licenseExpiresAt
      nationalIdExpiresAt := fields.nationalIdExpiresAt
      kycSubmittedAt := some now }

/-- `resubmit_kyc`. -/
def resubmitKyc (userId : UUID) (licenseNumber : Option String) (fields : KycFields)
    (order : SetOrder KycDocument) (now : DateTime) : Action Unit := do
  let profile ← requireProfile userId
  let profile ← ofExcept (profile.resubmit licenseNumber fields order now)
  saveProfile profile

/-- `approve_kyc`. -/
def approveKyc (driverId reviewedByUserId : UUID) (notes : Option String) (documents : List DocumentDecision)
    (order : SetOrder KycDocument) (now : DateTime) : Action Unit := do
  let profile ← reviewedProfile driverId
  let profile ← ofExcept (profile.approve reviewedByUserId notes documents order now)
  saveProfile profile

/-- `reject_kyc`. -/
def rejectKyc (driverId reviewedByUserId : UUID) (notes : Option String) (documents : List DocumentDecision)
    (now : DateTime) : Action Unit := do
  let profile ← reviewedProfile driverId
  let profile ← ofExcept (profile.reject reviewedByUserId notes documents now)
  saveProfile profile

/-- `update_my_profile_photo`. -/
def updateMyProfilePhoto (userId profilePhotoFileId : UUID) : Action Unit := do
  let profile ← requireProfile userId
  saveProfile { profile with profilePhotoFileId := some profilePhotoFileId }

/-- `update_profile_photo`. -/
def updateProfilePhoto (driverId profilePhotoFileId : UUID) : Action Unit := do
  let profile ← reviewedProfile driverId
  saveProfile { profile with profilePhotoFileId := some profilePhotoFileId }

/-! ## Vehicles -/

/-- What a driver hands in with his vehicle. -/
structure KyvFields where
  documents : VehicleDocument → DocumentRef := fun _ => {}
  vehiclePhoto : DocumentRef := {}

namespace VehicleDossier

/-- `resubmit_vehicle_kyv`, between the read and the write. -/
def resubmit (vehicle : VehicleDossier) (fields : KyvFields) (order : SetOrder VehicleDocument) (now : DateTime) :
    VehicleDossier :=
  { vehicle with
    -- `_update_vehicle_kyv_fields`
    documents := fun d => (vehicle.documents d).updated (fields.documents d)
    vehiclePhoto := vehicle.vehiclePhoto.updated fields.vehiclePhoto
    verificationStatus := .pendingVerification
    reviews := markResubmittedDocumentsPending vehicle.reviews fields.documents order now
    verifiedAt := none
    reviewedAt := none
    reviewNotes := none }

/-- `approve_vehicle_kyv`, between the read and the write. -/
def approve (vehicle : VehicleDossier) (reviewedByUserId : UUID) (notes : Option String)
    (documents : List DocumentDecision) (order : SetOrder VehicleDocument) (now : DateTime) :
    Except ApiError VehicleDossier := do
  ensureDocumentsComplete vehicle.documents "INVALID_VEHICLE_KYV_DOCUMENTS"
    "Le dossier KYV vehicule est incomplet."
  let decisions := if documents = [] then approvals order else documents
  let reviews ← applyDocumentDecisions vehicle.reviews decisions reviewedByUserId now
  ensureAllDocumentsApproved reviews
  return { vehicle with
    reviews := reviews
    verificationStatus := .active
    verifiedAt := some now
    reviewedAt := some now
    reviewNotes := some (reviewNote notes reviewedByUserId)
    active := true }

/-- Some required document is rejected. -/
def rejectedRequired (reviews : Reviews VehicleDocument) : Bool :=
  (DocumentType.all (D := VehicleDocument)).any fun d =>
    DocumentType.required d && reviews.statusOf d = some .rejected

/-- `reject_vehicle_kyv`, between the read and the write. -/
def reject (vehicle : VehicleDossier) (reviewedByUserId : UUID) (notes : Option String)
    (documents : List DocumentDecision) (now : DateTime) : Except ApiError VehicleDossier := do
  let reviews ← applyRejectionDecisions vehicle.reviews documents reviewedByUserId now
  return { vehicle with
    reviews := reviews
    verificationStatus :=
      if rejectedRequired reviews then .rejected
      else if vehicle.verificationStatus = .active then .active
      else .pendingVerification
    verifiedAt := if rejectedRequired reviews then none else vehicle.verifiedAt
    reviewedAt := some now
    reviewNotes := some (reviewNote notes reviewedByUserId)
    active := true }

end VehicleDossier

/-- `_require_vehicle`. -/
def requireVehicle (vehicleId : UUID) : Action VehicleDossier := do
  match ← findVehicleById vehicleId with
  | some vehicle => return vehicle
  | none => apiError 404 "VEHICLE_NOT_FOUND" "Vehicule introuvable."

/-- `VehicleCategory(category)`. -/
def categoryOf (category : String) : Action VehicleCategory :=
  match [VehicleCategory.standard, .comfort, .van].find? fun c => c.value = category with
  | some category => return category
  | none => apiError 422 "INVALID_VEHICLE_CATEGORY" "Catégorie de véhicule invalide."
      (Json.ofMembers [("field", .str "category")])

/-- `ComfortLevel(comfort_level)`. -/
def comfortOf (comfortLevel : String) : Action ComfortLevel :=
  match [ComfortLevel.standard, .comfort, .premium].find? fun c => c.value = comfortLevel with
  | some level => return level
  | none => apiError 422 "INVALID_COMFORT_LEVEL" "Niveau de confort invalide."
      (Json.ofMembers [("field", .str "comfort_level")])

/-- What a vehicle looks like. -/
structure VehicleDescription where
  plateNumber : String
  make : Option String := none
  model : Option String := none
  color : Option String := none
  category : String
  deriving DecidableEq, Repr

/-- A plate that is taken. -/
def plateAlreadyRegistered : Err :=
  .api { statusCode := 409, code := "PLATE_ALREADY_REGISTERED", message := "Cette plaque est déjà enregistrée." }

/-- `register_vehicle`. -/
def registerVehicle (id userId : UUID) (description : VehicleDescription) (comfortLevel : String)
    (fields : KyvFields) : Action Unit := do
  let category ← categoryOf description.category
  let comfortLevel ← comfortOf comfortLevel
  let profile ← requireProfile userId
  saveVehicle
    { id := id, driverId := profile.id, plateNumber := (Data.strip description.plateNumber).toUpper
      make := description.make, model := description.model, color := description.color
      documents := fun d => { fields.documents d with url := blankToNone (fields.documents d).url }
      vehiclePhoto := { fields.vehiclePhoto with url := blankToNone fields.vehiclePhoto.url }
      verificationStatus := .pendingVerification, category := category, comfortLevel := comfortLevel
      active := true }
    plateAlreadyRegistered

/-- `update_vehicle`. -/
def updateVehicle (userId : UUID) (description : VehicleDescription) : Action Unit := do
  let category ← categoryOf description.category
  let profile ← requireProfile userId
  match ← findActiveVehicle profile.id with
  | none => apiError 404 "VEHICLE_NOT_FOUND" "Aucun véhicule actif à modifier."
  | some vehicle =>
    saveVehicle
      { vehicle with
        plateNumber := (Data.strip description.plateNumber).toUpper
        make := description.make
        model := description.model
        color := description.color
        category := category }
      plateAlreadyRegistered

/-- `resubmit_vehicle_kyv`. -/
def resubmitVehicleKyv (vehicleId userId : UUID) (fields : KyvFields) (order : SetOrder VehicleDocument)
    (now : DateTime) : Action Unit := do
  let profile ← requireProfile userId
  let vehicle ← requireVehicle vehicleId
  apiErrorIf (vehicle.driverId ≠ profile.id) 403 "RIDE_NOT_OWNED_BY_USER"
    "Ce vehicule n'appartient pas a ce chauffeur."
  saveVehicle (vehicle.resubmit fields order now)

/-- `approve_vehicle_kyv`. -/
def approveVehicleKyv (vehicleId reviewedByUserId : UUID) (notes : Option String)
    (documents : List DocumentDecision) (order : SetOrder VehicleDocument) (now : DateTime) : Action Unit := do
  let vehicle ← requireVehicle vehicleId
  let vehicle ← ofExcept (vehicle.approve reviewedByUserId notes documents order now)
  saveVehicle vehicle

/-- `reject_vehicle_kyv`. -/
def rejectVehicleKyv (vehicleId reviewedByUserId : UUID) (notes : Option String)
    (documents : List DocumentDecision) (now : DateTime) : Action Unit := do
  let vehicle ← requireVehicle vehicleId
  let vehicle ← ofExcept (vehicle.reject reviewedByUserId notes documents now)
  saveVehicle vehicle

/-- The vehicle after `set_vehicle_partner_owner`. -/
def VehicleDossier.assigned (vehicle : VehicleDossier) (partnerId driverId : UUID) : VehicleDossier :=
  { vehicle with
    ownerType := "partner"
    partnerId := some partnerId
    driverId := driverId
    verificationStatus := if vehicle.verificationStatus = .active then .active else .pendingVerification
    active := if vehicle.verificationStatus = .active then vehicle.active else false }

theorem VehicleDossier.key_flush_assigned (loaded : VehicleDossier) (partnerId driverId : UUID) (row : VehicleDossier) :
    Keyed.key (loaded.flush (loaded.assigned partnerId driverId) row) = Keyed.key row := rfl

/-- `set_vehicle_partner_owner`. -/
def setVehiclePartnerOwner (vehicleId partnerId driverId : UUID) : Action Bool := do
  match ← Prog.select fun db => db.vehicles.find? vehicleId with
  | none => return false
  | some loaded =>
    Prog.update [.vehicle vehicleId] fun db =>
      { db with
        vehicles := db.vehicles.update vehicleId fun row => loaded.flush (loaded.assigned partnerId driverId) row }
    return true

/-! ## Requests -/

/-- What a request asks for; the identifiers of new rows are drawn. -/
inductive DossierOp
  | createProfile (id userId : UUID) (licenseNumber : String) (fields : KycFields)
  | resubmitKyc (userId : UUID) (licenseNumber : Option String) (fields : KycFields)
  | approveKyc (driverId reviewedByUserId : UUID) (notes : Option String) (documents : List DocumentDecision)
  | rejectKyc (driverId reviewedByUserId : UUID) (notes : Option String) (documents : List DocumentDecision)
  | updateMyProfilePhoto (userId profilePhotoFileId : UUID)
  | updateProfilePhoto (driverId profilePhotoFileId : UUID)
  | registerVehicle (id userId : UUID) (description : VehicleDescription) (comfortLevel : String)
      (fields : KyvFields)
  | updateVehicle (userId : UUID) (description : VehicleDescription)
  | resubmitVehicleKyv (vehicleId userId : UUID) (fields : KyvFields)
  | approveVehicleKyv (vehicleId reviewedByUserId : UUID) (notes : Option String)
      (documents : List DocumentDecision)
  | rejectVehicleKyv (vehicleId reviewedByUserId : UUID) (notes : Option String)
      (documents : List DocumentDecision)
  | setVehiclePartnerOwner (vehicleId partnerId driverId : UUID)

/-- A request, with the time and the order in which it goes through sets of types. -/
structure DossierCall where
  op : DossierOp
  now : DateTime
  kycOrder : SetOrder KycDocument
  kyvOrder : SetOrder VehicleDocument

/-- The program of a request. -/
def DossierCall.action (c : DossierCall) : Action Unit :=
  match c.op with
  | .createProfile id userId licenseNumber fields => createProfile id userId licenseNumber fields c.now
  | .resubmitKyc userId licenseNumber fields => resubmitKyc userId licenseNumber fields c.kycOrder c.now
  | .approveKyc driverId reviewer notes documents => approveKyc driverId reviewer notes documents c.kycOrder c.now
  | .rejectKyc driverId reviewer notes documents => rejectKyc driverId reviewer notes documents c.now
  | .updateMyProfilePhoto userId fileId => updateMyProfilePhoto userId fileId
  | .updateProfilePhoto driverId fileId => updateProfilePhoto driverId fileId
  | .registerVehicle id userId description comfortLevel fields =>
    registerVehicle id userId description comfortLevel fields
  | .updateVehicle userId description => updateVehicle userId description
  | .resubmitVehicleKyv vehicleId userId fields => resubmitVehicleKyv vehicleId userId fields c.kyvOrder c.now
  | .approveVehicleKyv vehicleId reviewer notes documents =>
    approveVehicleKyv vehicleId reviewer notes documents c.kyvOrder c.now
  | .rejectVehicleKyv vehicleId reviewer notes documents =>
    rejectVehicleKyv vehicleId reviewer notes documents c.now
  | .setVehiclePartnerOwner vehicleId partnerId driverId =>
    Prog.ignore (setVehiclePartnerOwner vehicleId partnerId driverId)

end DiddiGo.Dossiers
