import DiddiGo.Dossiers.DriverService
import DiddiGo.Transactions.Sequential

/-!
# Reviewed dossiers

What requests do to dossiers one after the other, and what then holds of documents and their reviews.
-/

namespace DiddiGo.Dossiers

open Data (Keyed Table)
open Transactions

/-! ## Papers -/

/-- The documents of a dossier and their reviews. -/
structure Papers (D : Type) where
  documents : D → DocumentRef
  reviews : Reviews D

/-- The papers of a profile. -/
def DriverDossier.papers (profile : DriverDossier) : Papers KycDocument := ⟨profile.documents, profile.reviews⟩

/-- The papers of a vehicle. -/
def VehicleDossier.papers (vehicle : VehicleDossier) : Papers VehicleDocument :=
  ⟨vehicle.documents, vehicle.reviews⟩

section

variable {D : Type} [DocumentType D] [DecidableEq D]

/-- Several entries are added to the reviews. -/
def Reviews.addAll (reviews : Reviews D) (entries : List (ReviewEntry D)) : Reviews D :=
  entries.foldl (fun reviews entry => reviews.add entry.review entry.stamp) reviews

/-- The current review of every type is the last one in the history. -/
def Reviews.Consistent (reviews : Reviews D) : Prop :=
  ∀ d, reviews.current d =
    (reviews.history.filter fun entry => entry.review.documentType = d).getLast?.map ReviewEntry.review

/-- The entries that the decisions of a reviewer make. -/
def Decides (decisions : List DocumentDecision) (reviewedByUserId : UUID) (reviewedAt : DateTime)
    (entries : List (ReviewEntry D)) : Prop :=
  List.Forall₂ (fun item entry => ∃ d, documentTypeOf D item.documentType = some d ∧
    entry = ⟨item.review d reviewedAt, .reviewedBy reviewedByUserId⟩) decisions entries

/-- What a request can do to papers. -/
inductive PapersChange (papers : Papers D) : Papers D → Prop
  | kept : PapersChange papers papers
  | resubmitted (given : D → DocumentRef) (order : SetOrder D) (now : DateTime) :
      PapersChange papers ⟨fun d => (papers.documents d).updated (given d),
        markResubmittedDocumentsPending papers.reviews given order now⟩
  | decided {decisions : List DocumentDecision} {reviewedByUserId : UUID} {reviewedAt : DateTime}
      {reviews : Reviews D}
      (h : applyDocumentDecisions papers.reviews decisions reviewedByUserId reviewedAt = .ok reviews) :
      PapersChange papers ⟨papers.documents, reviews⟩

/-- What a request can do to the papers of a dossier, which may not be there yet. -/
inductive PapersStep : Option (Papers D) → Option (Papers D) → Prop
  | absent : PapersStep none none
  | created {papers : Papers D} (h : papers.reviews = {}) : PapersStep none (some papers)
  | changed {papers papers' : Papers D} (h : PapersChange papers papers') : PapersStep (some papers) (some papers')

/-- The required documents are on file and approved. -/
def Papers.Verified (papers : Papers D) : Prop :=
  ∀ d, DocumentType.required d = true →
    (papers.documents d).onFile = true ∧ papers.reviews.statusOf d = some .approved

end

/-! ## Requests -/

/-- What a request makes of a profile. -/
inductive ProfileChange (c : DossierCall) (profile : DriverDossier) : DriverDossier → Prop
  | resubmitted {licenseNumber : Option String} {fields : KycFields} {profile' : DriverDossier}
      (hop : c.op = .resubmitKyc profile.userId licenseNumber fields)
      (h : profile.resubmit licenseNumber fields c.kycOrder c.now = .ok profile') : ProfileChange c profile profile'
  | approved {reviewer : UUID} {notes : Option String} {documents : List DocumentDecision}
      {profile' : DriverDossier} (hop : c.op = .approveKyc profile.id reviewer notes documents)
      (h : profile.approve reviewer notes documents c.kycOrder c.now = .ok profile') :
      ProfileChange c profile profile'
  | rejected {reviewer : UUID} {notes : Option String} {documents : List DocumentDecision}
      {profile' : DriverDossier} (hop : c.op = .rejectKyc profile.id reviewer notes documents)
      (h : profile.reject reviewer notes documents c.now = .ok profile') : ProfileChange c profile profile'
  | photographed {fileId : UUID}
      (hop : c.op = .updateMyProfilePhoto profile.userId fileId ∨ c.op = .updateProfilePhoto profile.id fileId) :
      ProfileChange c profile { profile with profilePhotoFileId := some fileId }

/-- What a request makes of a vehicle. -/
inductive VehicleChange (c : DossierCall) (vehicle : VehicleDossier) : VehicleDossier → Prop
  | described {userId : UUID} {description : VehicleDescription} {category : Rides.VehicleCategory}
      (hop : c.op = .updateVehicle userId description) :
      VehicleChange c vehicle
        { vehicle with
          plateNumber := (Data.strip description.plateNumber).toUpper
          make := description.make
          model := description.model
          color := description.color
          category := category }
  | resubmitted {userId : UUID} {fields : KyvFields} (hop : c.op = .resubmitVehicleKyv vehicle.id userId fields) :
      VehicleChange c vehicle (vehicle.resubmit fields c.kyvOrder c.now)
  | approved {reviewer : UUID} {notes : Option String} {documents : List DocumentDecision}
      {vehicle' : VehicleDossier} (hop : c.op = .approveVehicleKyv vehicle.id reviewer notes documents)
      (h : vehicle.approve reviewer notes documents c.kyvOrder c.now = .ok vehicle') :
      VehicleChange c vehicle vehicle'
  | rejected {reviewer : UUID} {notes : Option String} {documents : List DocumentDecision}
      {vehicle' : VehicleDossier} (hop : c.op = .rejectVehicleKyv vehicle.id reviewer notes documents)
      (h : vehicle.reject reviewer notes documents c.now = .ok vehicle') : VehicleChange c vehicle vehicle'
  | assigned {partnerId driverId : UUID} (hop : c.op = .setVehiclePartnerOwner vehicle.id partnerId driverId) :
      VehicleChange c vehicle (vehicle.assigned partnerId driverId)

/-- One row of a table is written. -/
def Written {ρ κ : Type} [Keyed ρ κ] [DecidableEq κ] (t : Table ρ) (r : ρ) (t' : Table ρ) : Prop :=
  ∀ k, t'.find? k = if k = Keyed.key r then some r else t.find? k

/-- What a request does to the dossiers. -/
inductive DossierEffect (c : DossierCall) (db db' : DossierDb) : Prop
  | unchanged (h : db' = db)
  | profileCreated (profile : DriverDossier) (hfresh : db.profiles.find? profile.id = none)
      (hreviews : profile.reviews = {}) (hstatus : profile.status = .pendingVerification)
      (hprofiles : Written db.profiles profile db'.profiles) (hvehicles : db'.vehicles = db.vehicles)
  | profileChanged (profile profile' : DriverDossier) (hprofile : db.profiles.find? profile.id = some profile)
      (hchange : ProfileChange c profile profile') (hprofiles : Written db.profiles profile' db'.profiles)
      (hvehicles : db'.vehicles = db.vehicles)
  | vehicleCreated (vehicle : VehicleDossier) (hfresh : db.vehicles.find? vehicle.id = none)
      (hreviews : vehicle.reviews = {}) (hstatus : vehicle.verificationStatus = .pendingVerification)
      (hvehicles : Written db.vehicles vehicle db'.vehicles) (hprofiles : db'.profiles = db.profiles)
  | vehicleChanged (vehicle vehicle' : VehicleDossier) (hvehicle : db.vehicles.find? vehicle.id = some vehicle)
      (hchange : VehicleChange c vehicle vehicle') (hvehicles : Written db.vehicles vehicle' db'.vehicles)
      (hprofiles : db'.profiles = db.profiles)

/-! ## Histories -/

namespace DossierCall

/-- The database after the request; nobody is asked. -/
def after (c : DossierCall) (db : DossierDb) : DossierDb := (c.action.run id db).2

/-- The request raises. -/
def Raises (c : DossierCall) (db : DossierDb) : Prop := ∃ e, (c.action.run id db).1 = .error e

instance (c : DossierCall) (db : DossierDb) : Decidable (c.Raises db) :=
  match h : (c.action.run id db).1 with
  | .error e => isTrue ⟨e, h⟩
  | .ok _ => isFalse fun ⟨_, he⟩ => nomatch h.symm.trans he

/-- The identifiers that the request draws for new rows are not in use (`uuid4`). -/
def Draws (c : DossierCall) (db : DossierDb) : Prop :=
  match c.op with
  | .createProfile id _ _ _ => db.profiles.find? id = none
  | .registerVehicle id _ _ _ _ => db.vehicles.find? id = none
  | _ => True

instance (c : DossierCall) (db : DossierDb) : Decidable (c.Draws db) := by
  unfold Draws
  cases c.op with
  | createProfile id => exact decidable_of_iff ((db.profiles.find? id).isNone = true) (by simp)
  | registerVehicle id => exact decidable_of_iff ((db.vehicles.find? id).isNone = true) (by simp)
  | _ => exact isTrue trivial

end DossierCall

/-- The database after a history. -/
def runDossiers (calls : List DossierCall) (db : DossierDb) : DossierDb := runSteps DossierCall.after calls db

/-- There are no dossiers yet. -/
structure NoDossiers (db : DossierDb) : Prop where
  profiles : db.profiles = .empty
  vehicles : db.vehicles = .empty

namespace DossierDb

/-- The papers of a driver. -/
def kyc (driverId : UUID) (db : DossierDb) : Option (Papers KycDocument) :=
  (db.profiles.find? driverId).map DriverDossier.papers

/-- The papers of a vehicle. -/
def kyv (vehicleId : UUID) (db : DossierDb) : Option (Papers VehicleDocument) :=
  (db.vehicles.find? vehicleId).map VehicleDossier.papers

end DossierDb

section

variable {D : Type} [DocumentType D] [DecidableEq D] (papersAt : DossierDb → Option (Papers D))

/-- The review records of a dossier after a history: the current reviews are the last ones, and no entry of an
earlier state is lost. -/
structure RecordsKept (calls : List DossierCall) (db : DossierDb) : Prop where
  current : ∀ papers, papersAt (runDossiers calls db) = some papers → papers.reviews.Consistent
  history : ∀ before later papers, calls = before ++ later → papersAt (runDossiers before db) = some papers →
    ∃ papers', papersAt (runDossiers calls db) = some papers' ∧
      papers.reviews.history <+: papers'.reviews.history

/-- The document `d` was approved by a request of the history. Since then, its review is that approval, and the
document is the one that was approved. -/
def ApprovedSince (calls : List DossierCall) (db : DossierDb) (d : D) : Prop :=
  ∃ before c later papers entries review reviewer, calls = before ++ c :: later ∧
    papersAt (runDossiers before db) = some papers ∧ ⟨review, .reviewedBy reviewer⟩ ∈ entries ∧
    review.documentType = d ∧ review.status = .approved ∧
    ∀ mid rest, later = mid ++ rest → ∃ papers', papersAt (runDossiers (before ++ c :: mid) db) = some papers' ∧
      papers.reviews.history ++ entries <+: papers'.reviews.history ∧
      papers'.reviews.current d = some review ∧ papers'.documents d = papers.documents d

end

/-- The review records of all dossiers, and what a request that raises leaves behind. -/
structure RecordsConsistent (calls : List DossierCall) (db : DossierDb) : Prop where
  kyc : ∀ driverId, RecordsKept (DossierDb.kyc driverId) calls db
  kyv : ∀ vehicleId, RecordsKept (DossierDb.kyv vehicleId) calls db
  raising : ∀ before c later, calls = before ++ c :: later → c.Raises (runDossiers before db) →
    runDossiers (before ++ [c]) db = runDossiers before db

/-- A verification implies that the documents were reviewed, and the optional document plays no part in it. -/
structure VerificationReviewed (calls : List DossierCall) (db : DossierDb) : Prop where
  profiles : ∀ profile, (runDossiers calls db).profiles.find? profile.id = some profile → profile.status = .active →
    ∀ d : KycDocument, (profile.documents d).onFile = true ∧ profile.reviews.statusOf d = some .approved ∧
      ApprovedSince (DossierDb.kyc profile.id) calls db d
  vehicles : ∀ vehicle, (runDossiers calls db).vehicles.find? vehicle.id = some vehicle →
    vehicle.verificationStatus = .active → ∀ d : VehicleDocument, DocumentType.required d = true →
      (vehicle.documents d).onFile = true ∧ vehicle.reviews.statusOf d = some .approved ∧
        ApprovedSince (DossierDb.kyv vehicle.id) calls db d
  optional : ∀ before c later vehicle reviewer notes documents, calls = before ++ c :: later →
    c.op = .rejectVehicleKyv vehicle.id reviewer notes documents →
    (∀ item ∈ documents, item.decision = .rejected → item.documentType = "transport_authorization") →
    (runDossiers before db).vehicles.find? vehicle.id = some vehicle →
    ∃ vehicle', (runDossiers (before ++ [c]) db).vehicles.find? vehicle.id = some vehicle' ∧
      (vehicle'.verificationStatus = .active ↔ vehicle.verificationStatus = .active)

end DiddiGo.Dossiers
