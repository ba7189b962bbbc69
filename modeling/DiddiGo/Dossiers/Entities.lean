import DiddiGo.Dossiers.Documents
import DiddiGo.Rides.Scoring

/-!
# Dossiers

The profile of a driver and his vehicle with their papers, the ratings, and the vocabulary of the transactions
on them.
-/

namespace DiddiGo.Dossiers

open Data (Json Keyed Table)
open Rides (DriverProfile DriverStatus Vehicle VehicleVerificationStatus Ride RideRating)
open Transactions

/-- Where the KYC of a driver is. -/
inductive KycStatus
  | pendingVerification
  | approved
  | rejected
  deriving DecidableEq, Repr

/-- A driver profile with its papers. -/
structure DriverDossier extends DriverProfile where
  licenseNumber : String
  kycStatus : KycStatus := .pendingVerification
  /-- `kyc_document_reviews` and `kyc_review_history`. -/
  reviews : Reviews KycDocument := {}
  documents : KycDocument → DocumentRef := fun _ => {}
  ratingAvg : Decimal := 5
  ratingCount : Int := 0
  licenseVerifiedAt : Option DateTime := none
  legalName : Option String := none
  birthDate : Option DateTime := none
  residenceAddress : Option String := none
  profilePhotoFileId : Option UUID := none
  licenseExpiresAt : Option DateTime := none
  nationalIdExpiresAt : Option DateTime := none
  kycSubmittedAt : Option DateTime := none
  kycReviewedAt : Option DateTime := none
  kycReviewNotes : Option String := none

instance : Keyed DriverDossier UUID := ⟨fun profile => profile.id⟩

/-- A vehicle with its papers. -/
structure VehicleDossier extends Vehicle where
  plateNumber : String
  make : Option String := none
  model : Option String := none
  color : Option String := none
  documents : VehicleDocument → DocumentRef := fun _ => {}
  vehiclePhoto : DocumentRef := {}
  verifiedAt : Option DateTime := none
  reviewedAt : Option DateTime := none
  reviewNotes : Option String := none
  /-- `document_reviews` and `review_history`. -/
  reviews : Reviews VehicleDocument := {}
  ownerType : String := "driver"
  partnerId : Option UUID := none

instance : Keyed VehicleDossier UUID := ⟨fun vehicle => vehicle.id⟩

/-- The tables that these operations read or write. -/
structure DossierDb where
  profiles : Table DriverDossier := .empty
  vehicles : Table VehicleDossier := .empty
  rides : Table Ride := .empty
  /-- `ride_ratings`, oldest row first. -/
  ratings : List RideRating := []

/-- Rows and unique keys that a statement can lock. -/
inductive Row
  | profile (id : UUID)
  | profileUser (userId : UUID)
  | vehicle (id : UUID)
  | plate (plateNumber : String)
  /-- `ride_ratings_ride_rater_unique`. -/
  | rating (rideId : UUID) (raterRole : String)
  deriving DecidableEq, Repr

/-- Statements that properties of runs refer to. -/
inductive Label
  /-- A profile is read by code that will write it. -/
  | profile (id : UUID)
  /-- The ratings of a driver are counted. -/
  | ratings (driverId : UUID)
  deriving DecidableEq, Repr

/-- Transactions on dossiers; they ask nobody. -/
abbrev sig : Signature where
  State := DossierDb
  Row := Row
  Label := Label
  Query := Empty
  Answer := Empty
  Err := Err

/-- A program on dossiers. -/
abbrev Action (α : Type) := Prog sig α

/-- Raise an `ApiError`. -/
def apiError {α : Type} (statusCode : Nat) (code message : String) (details : Json := .null) : Action α :=
  throw (.api { statusCode := statusCode, code := code, message := message, details := details })

/-- Raise an `ApiError` if `c` holds. -/
def apiErrorIf (c : Prop) [Decidable c] (statusCode : Nat) (code message : String) (details : Json := .null) :
    Action Unit :=
  Prog.raiseIf c (.api { statusCode := statusCode, code := code, message := message, details := details })

/-- Go on with the result of a computation that may raise an `ApiError`. -/
def ofExcept {α : Type} : Except ApiError α → Action α
  | .ok a => return a
  | .error e => throw (.api e)

end DiddiGo.Dossiers
