import DiddiGo.Dossiers.Entities
import DiddiGo.Projections.Dispatcher
import DiddiGo.Transactions.Sequential

/-!
# What is published about a driver

A dossier operation publishes the status that it derives from the profile and an active vehicle of the driver.
The reconciliation derives one from the columns that a query has joined.
-/

namespace DiddiGo.Projections

open Dossiers (DriverDossier KycStatus)
open Rides (Vehicle)
open Transactions

/-- The stored text. -/
def kycStatusText : KycStatus → String
  | .pendingVerification => "pending_verification"
  | .approved => "approved"
  | .rejected => "rejected"

/-- A row of `vehicles` with its date. -/
structure RegisteredVehicle extends Vehicle where
  createdAt : DateTime
  deriving DecidableEq, Repr

variable (vehicles : List RegisteredVehicle) (profile : DriverDossier)

/-! ## Publication -/

/-- `find_active_for_driver`: any active vehicle, here the first row. -/
def findActiveForDriver (driverId : UUID) : Option RegisteredVehicle :=
  vehicles.find? fun v => v.driverId = driverId ∧ v.active

/-- `_operational_status`. -/
def operationalStatus (vehicle : Option Vehicle) : String × List String :=
  if profile.kycStatus = .rejected then ("kyc_rejected", ["resubmit_kyc"])
  else if profile.status = .pendingVerification then ("pending_verification", ["await_kyc_review"])
  else if profile.status = .suspended then ("suspended", ["contact_support"])
  else match vehicle with
    | none => ("vehicle_missing", ["add_vehicle"])
    | some vehicle =>
      if vehicle.verificationStatus = .pendingVerification then
        ("vehicle_pending_verification", ["await_vehicle_review"])
      else if vehicle.verificationStatus = .rejected then ("vehicle_rejected", ["resubmit_vehicle"])
      else if vehicle.verificationStatus ≠ .active ∨ vehicle.active = false then
        ("vehicle_unavailable", ["contact_support"])
      else ("offline", ["go_online"])

/-- What is published about the driver. -/
def publishedStatus : String × List String :=
  operationalStatus profile ((findActiveForDriver vehicles profile.id).map RegisteredVehicle.toVehicle)

/-- `_publish_profile_status`. -/
def publishProfileStatus (requestId : Option String) (id : UUID) (now : DateTime) :
    Action (Option ProjectionEvent) :=
  enqueue profile.userId (publishedStatus vehicles profile).1 (publishedStatus vehicles profile).2 requestId id now

/-! ## Reconciliation -/

/-- `ORDER BY active DESC, created_at DESC`. -/
def RegisteredVehicle.before (v w : RegisteredVehicle) : Bool :=
  if v.active = w.active then w.createdAt ≤ v.createdAt else v.active

/-- The vehicle that `list_candidates` joins to a profile. -/
def latestVehicle (driverId : UUID) : Option RegisteredVehicle :=
  ((vehicles.filter fun v => v.driverId = driverId).mergeSort RegisteredVehicle.before).head?

/-- A row of `list_candidates`. -/
def candidateOf : DriverProjectionCandidate where
  userId := profile.userId
  profileStatus := profile.status.value
  kycStatus := kycStatusText profile.kycStatus
  vehicleStatus := (latestVehicle vehicles profile.id).map fun v => v.verificationStatus.value
  vehicleActive := (latestVehicle vehicles profile.id).map fun v => v.active

/-- `list_candidates`. -/
def listCandidates (profiles : List DriverDossier) (limit offset : Nat) : List DriverProjectionCandidate :=
  (((profiles.mergeSort fun p q => p.userId ≤ q.userId).drop offset).take limit).map (candidateOf vehicles)

/-! ## Agreement -/

/-- For an offline driver, the reconciliation derives what is published. -/
def StatusAgrees : Prop := candidateStatus (candidateOf vehicles profile) = publishedStatus vehicles profile

/-- Right after a publication, a reconciliation that finds the driver offline enqueues nothing. -/
def ReconcilesSilently : Prop :=
  ∀ ask requestId id now online refreshBefore now' batchSize free id' at', online profile.userId = false →
    Prog.Ensures ask (fun _ => True) (publishProfileStatus vehicles profile requestId id now) fun _ db =>
      Prog.Ensures ask (· = db)
        (reconcile [(candidateOf vehicles profile, id', at')] online refreshBefore now' batchSize free)
        fun counts _ => counts.1 = 0

/-- The status follows from the profile alone. -/
def Decided : Prop :=
  profile.kycStatus = .rejected ∨ profile.status = .pendingVerification ∨ profile.status = .suspended

/-- The profile decides, or the driver has no vehicle, or he has an active one, and the active vehicle that is
found has the verification status of the one created last. -/
def SameView : Prop :=
  Decided profile ∨ (∀ v ∈ vehicles, v.driverId ≠ profile.id) ∨
    ∃ v w, findActiveForDriver vehicles profile.id = some v ∧ latestVehicle vehicles profile.id = some w ∧
      v.verificationStatus = w.verificationStatus

end DiddiGo.Projections
