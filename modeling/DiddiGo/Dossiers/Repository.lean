import DiddiGo.Data.Numeric
import DiddiGo.Dossiers.Entities
import DiddiGo.Rides.Repository

/-!
# Repositories of dossiers

Reads and writes of profiles and vehicles. A write reloads the row and sends the columns that differ from it.
-/

namespace DiddiGo.Dossiers

open Data (Keyed Table)
open Rides (column)
open Transactions

/-! ## Columns -/

/-- The columns of a document. -/
def DocumentRef.flush (loaded new current : DocumentRef) : DocumentRef where
  fileId := column loaded.fileId new.fileId current.fileId
  url := column loaded.url new.url current.url

/-- The columns of the reviews. -/
def Reviews.flush {D : Type} [DocumentType D] [DecidableEq D] (loaded new current : Reviews D) : Reviews D where
  current := column loaded.current new.current current.current
  history := column loaded.history new.history current.history

/-- The row `current` after the profile `new`, whose row was loaded as `loaded`, is flushed. -/
def DriverDossier.flush (loaded new current : DriverDossier) : DriverDossier where
  id := current.id
  userId := column loaded.userId new.userId current.userId
  status := column loaded.status new.status current.status
  isReviewAccount := column loaded.isReviewAccount new.isReviewAccount current.isReviewAccount
  licenseNumber := column loaded.licenseNumber new.licenseNumber current.licenseNumber
  kycStatus := column loaded.kycStatus new.kycStatus current.kycStatus
  reviews := loaded.reviews.flush new.reviews current.reviews
  documents d := (loaded.documents d).flush (new.documents d) (current.documents d)
  -- `NUMERIC(3, 2)`
  ratingAvg := if new.ratingAvg = loaded.ratingAvg then current.ratingAvg else Data.rescale 2 new.ratingAvg
  ratingCount := column loaded.ratingCount new.ratingCount current.ratingCount
  licenseVerifiedAt := column loaded.licenseVerifiedAt new.licenseVerifiedAt current.licenseVerifiedAt
  legalName := column loaded.legalName new.legalName current.legalName
  birthDate := column loaded.birthDate new.birthDate current.birthDate
  residenceAddress := column loaded.residenceAddress new.residenceAddress current.residenceAddress
  profilePhotoFileId := column loaded.profilePhotoFileId new.profilePhotoFileId current.profilePhotoFileId
  licenseExpiresAt := column loaded.licenseExpiresAt new.licenseExpiresAt current.licenseExpiresAt
  nationalIdExpiresAt := column loaded.nationalIdExpiresAt new.nationalIdExpiresAt current.nationalIdExpiresAt
  kycSubmittedAt := column loaded.kycSubmittedAt new.kycSubmittedAt current.kycSubmittedAt
  kycReviewedAt := column loaded.kycReviewedAt new.kycReviewedAt current.kycReviewedAt
  kycReviewNotes := column loaded.kycReviewNotes new.kycReviewNotes current.kycReviewNotes

/-- The row `current` after the vehicle `new`, whose row was loaded as `loaded`, is flushed. -/
def VehicleDossier.flush (loaded new current : VehicleDossier) : VehicleDossier where
  id := current.id
  driverId := column loaded.driverId new.driverId current.driverId
  category := column loaded.category new.category current.category
  comfortLevel := column loaded.comfortLevel new.comfortLevel current.comfortLevel
  verificationStatus := column loaded.verificationStatus new.verificationStatus current.verificationStatus
  active := column loaded.active new.active current.active
  plateNumber := column loaded.plateNumber new.plateNumber current.plateNumber
  make := column loaded.make new.make current.make
  model := column loaded.model new.model current.model
  color := column loaded.color new.color current.color
  documents d := (loaded.documents d).flush (new.documents d) (current.documents d)
  vehiclePhoto := loaded.vehiclePhoto.flush new.vehiclePhoto current.vehiclePhoto
  verifiedAt := column loaded.verifiedAt new.verifiedAt current.verifiedAt
  reviewedAt := column loaded.reviewedAt new.reviewedAt current.reviewedAt
  reviewNotes := column loaded.reviewNotes new.reviewNotes current.reviewNotes
  reviews := loaded.reviews.flush new.reviews current.reviews
  ownerType := column loaded.ownerType new.ownerType current.ownerType
  partnerId := column loaded.partnerId new.partnerId current.partnerId

/-! ## Profiles -/

namespace DossierDb

/-- The profile of a user. -/
def profileOf (db : DossierDb) (userId : UUID) : Option DriverDossier :=
  db.profiles.rows.find? fun profile => profile.userId = userId

/-- The first active vehicle of a driver. -/
def activeVehicleOf (db : DossierDb) (driverId : UUID) : Option VehicleDossier :=
  db.vehicles.rows.find? fun vehicle => decide (vehicle.driverId = driverId) && vehicle.active

/-- The user or the identifier of a new profile is taken. -/
def profileTaken (db : DossierDb) (profile : DriverDossier) : Bool :=
  db.profiles.rows.any fun other => decide (other.id = profile.id) || decide (other.userId = profile.userId)

/-- The plate or the identifier of a new vehicle is taken. -/
def vehicleTaken (db : DossierDb) (vehicle : VehicleDossier) : Bool :=
  db.vehicles.rows.any fun other =>
    decide (other.id = vehicle.id) || decide (other.plateNumber = vehicle.plateNumber)

/-- The plate of a vehicle is that of another one. -/
def plateTaken (db : DossierDb) (vehicle : VehicleDossier) : Bool :=
  db.vehicles.rows.any fun other =>
    decide (other.id ≠ vehicle.id) && decide (other.plateNumber = vehicle.plateNumber)

end DossierDb

/-- `driver_repo.find_by_user_id`. -/
def findProfileByUserId (userId : UUID) : Action (Option DriverDossier) := Prog.select fun db => db.profileOf userId

/-- `driver_repo.find_by_id`. -/
def findProfileById (id : UUID) : Action (Option DriverDossier) :=
  Prog.selectAs (.profile id) fun db => db.profiles.find? id

/-- `driver_repo.save`. -/
def saveProfile (profile : DriverDossier) : Action Unit := do
  match ← Prog.select fun db => db.profiles.find? profile.id with
  | some loaded =>
    Prog.update [.profile profile.id] fun db =>
      { db with profiles := db.profiles.update profile.id fun row => loaded.flush profile row }
  | none =>
    Prog.writeOrRaise [.profile profile.id, .profileUser profile.userId] (fun db => db.profileTaken profile)
      (fun db => { db with profiles := db.profiles.insert profile }) .integrity

/-! ## Vehicles -/

/-- `vehicle_repo.find_by_id`. -/
def findVehicleById (id : UUID) : Action (Option VehicleDossier) := Prog.select fun db => db.vehicles.find? id

/-- `vehicle_repo.find_active_for_driver`. -/
def findActiveVehicle (driverId : UUID) : Action (Option VehicleDossier) :=
  Prog.select fun db => db.activeVehicleOf driverId

/-- `vehicle_repo.save`; a plate that is taken raises `plateError`. -/
def saveVehicle (vehicle : VehicleDossier) (plateError : Err := .integrity) : Action Unit := do
  match ← Prog.select fun db => db.vehicles.find? vehicle.id with
  | some loaded =>
    Prog.writeOrRaise [.vehicle vehicle.id, .plate vehicle.plateNumber] (fun db => db.plateTaken vehicle)
      (fun db => { db with vehicles := db.vehicles.update vehicle.id fun row => loaded.flush vehicle row }) plateError
  | none =>
    Prog.writeOrRaise [.vehicle vehicle.id, .plate vehicle.plateNumber] (fun db => db.vehicleTaken vehicle)
      (fun db => { db with vehicles := db.vehicles.insert vehicle }) plateError

end DiddiGo.Dossiers
