import DiddiGo.Basic
import DiddiGo.Data.Text
import Mathlib.Logic.Function.Basic

/-!
# Documents and their reviews

A dossier has documents of several types. For each type the dossier keeps the current review, and it keeps a
history of all reviews; both are written together.
-/

namespace DiddiGo.Dossiers

open Data (Json)

/-! ## Documents -/

/-- The types of the documents of a dossier, in the order of the source. -/
class DocumentType (D : Type) where
  all : List D
  /-- The text of the type in decisions and reviews. -/
  value : D → String
  /-- The name of the document in requests. -/
  field : D → String
  required : D → Bool
  /-- The name of the dossier. -/
  dossier : String
  mem_all (d : D) : d ∈ all
  value_injective : Function.Injective value

/-- Columns for all types can be compared. -/
instance DocumentType.decidableEq {D α : Type} [DocumentType D] [DecidableEq α] : DecidableEq (D → α) := fun f g =>
  decidable_of_iff (∀ d ∈ all (D := D), f d = g d)
    ⟨fun h => funext fun d => h d (mem_all d), fun h d _ => congrFun h d⟩

/-- `KYC_DOCUMENT_TYPES`. -/
inductive KycDocument
  | licenseFront
  | licenseBack
  | nationalIdFront
  | nationalIdBack
  | selfie
  deriving DecidableEq, Repr

instance : DocumentType KycDocument where
  all := [.licenseFront, .licenseBack, .nationalIdFront, .nationalIdBack, .selfie]
  value
    | .licenseFront => "license_front"
    | .licenseBack => "license_back"
    | .nationalIdFront => "national_id_front"
    | .nationalIdBack => "national_id_back"
    | .selfie => "selfie"
  field
    | .licenseFront => "license_document"
    | .licenseBack => "license_back_document"
    | .nationalIdFront => "national_id_document"
    | .nationalIdBack => "national_id_back_document"
    | .selfie => "selfie_document"
  required _ := true
  dossier := "KYC"
  mem_all d := by cases d <;> decide
  value_injective d d' := by cases d <;> cases d' <;> decide

/-- `VEHICLE_DOCUMENT_TYPES`. -/
inductive VehicleDocument
  | registration
  | insurance
  | technicalInspection
  | transportAuthorization
  | vehicleFront
  | vehicleBack
  | vehicleLeft
  | vehicleRight
  | vehicleInterior
  | vehiclePlate
  deriving DecidableEq, Repr

instance : DocumentType VehicleDocument where
  all := [.registration, .insurance, .technicalInspection, .transportAuthorization, .vehicleFront, .vehicleBack,
    .vehicleLeft, .vehicleRight, .vehicleInterior, .vehiclePlate]
  value
    | .registration => "registration"
    | .insurance => "insurance"
    | .technicalInspection => "technical_inspection"
    | .transportAuthorization => "transport_authorization"
    | .vehicleFront => "vehicle_front"
    | .vehicleBack => "vehicle_back"
    | .vehicleLeft => "vehicle_left"
    | .vehicleRight => "vehicle_right"
    | .vehicleInterior => "vehicle_interior"
    | .vehiclePlate => "vehicle_plate"
  field
    | .registration => "registration_document"
    | .insurance => "insurance_document"
    | .technicalInspection => "technical_inspection_document"
    | .transportAuthorization => "transport_authorization_document"
    | .vehicleFront => "vehicle_front_photo"
    | .vehicleBack => "vehicle_back_photo"
    | .vehicleLeft => "vehicle_left_photo"
    | .vehicleRight => "vehicle_right_photo"
    | .vehicleInterior => "vehicle_interior_photo"
    | .vehiclePlate => "vehicle_plate_photo"
  required d := d ≠ .transportAuthorization
  dossier := "KYV"
  mem_all d := by cases d <;> decide
  value_injective d d' := by cases d <;> cases d' <;> decide

/-- What a dossier knows about a document: an uploaded file, a link, or both. -/
structure DocumentRef where
  fileId : Option UUID := none
  url : Option String := none
  deriving DecidableEq, Repr

/-- `bool(file_id or url)`. -/
def DocumentRef.onFile (document : DocumentRef) : Bool := document.fileId.isSome || document.url.getD "" ≠ ""

/-- `_blank_to_none`. -/
def blankToNone (value : Option String) : Option String := (value.map Data.strip).filter (· ≠ "")

/-- The document after a request that may name a file, a link, or both. -/
def DocumentRef.updated (document given : DocumentRef) : DocumentRef where
  fileId := given.fileId.or document.fileId
  url := if given.url.isSome then blankToNone given.url else document.url

/-- The request names the document. -/
def DocumentRef.given (document : DocumentRef) : Bool := document.fileId.isSome || document.url.isSome

variable {D : Type} [DocumentType D] [DecidableEq D]

/-- The type with the text, if the dossier allows it. -/
def documentTypeOf (D : Type) [DocumentType D] (text : String) : Option D :=
  (DocumentType.all (D := D)).find? fun d => DocumentType.value d = text

/-- The order in which Python goes through a set of document types. -/
structure SetOrder (D : Type) where
  order : List D
  nodup : order.Nodup
  mem (d : D) : d ∈ order

/-! ## Reviews -/

/-- What a reviewer says about a document. -/
inductive Verdict
  | approved
  | rejected
  deriving DecidableEq, Repr

/-- The state of a document. -/
inductive ReviewStatus
  | pending
  | approved
  | rejected
  deriving DecidableEq, Repr

/-- The stored text. -/
def ReviewStatus.value : ReviewStatus → String
  | pending => "pending"
  | approved => "approved"
  | rejected => "rejected"

/-- `item["decision"]`. -/
def Verdict.status : Verdict → ReviewStatus
  | approved => .approved
  | rejected => .rejected

/-- One decision of a request. The text of the type may be that of another dossier. -/
structure DocumentDecision where
  documentType : String
  decision : Verdict
  reasonCode : Option String := none
  reason : Option String := none
  expectedCorrection : Option String := none
  deriving DecidableEq, Repr

/-- A review of a document. -/
structure DocumentReview (D : Type) where
  documentType : D
  status : ReviewStatus
  reasonCode : Option String := none
  reason : Option String := none
  expectedCorrection : Option String := none
  reviewedAt : Option DateTime := none
  deriving DecidableEq, Repr

/-- Who made an entry of the history, or when the document was handed in again. -/
inductive ReviewStamp
  | reviewedBy (userId : UUID)
  | resubmittedAt (time : DateTime)
  deriving DecidableEq, Repr

/-- One entry of the review history. -/
structure ReviewEntry (D : Type) where
  review : DocumentReview D
  stamp : ReviewStamp
  deriving DecidableEq, Repr

/-- The reviews of a dossier. -/
structure Reviews (D : Type) where
  /-- `document_reviews`, by type. -/
  current : D → Option (DocumentReview D) := fun _ => none
  /-- `review_history`, oldest first. -/
  history : List (ReviewEntry D) := []

namespace Reviews

/-- `current[document_type] = decision` and `history.append(...)`. -/
def add (reviews : Reviews D) (review : DocumentReview D) (stamp : ReviewStamp) : Reviews D where
  current := Function.update reviews.current review.documentType (some review)
  history := reviews.history ++ [⟨review, stamp⟩]

/-- `current.get(document_type, {}).get("status")`. -/
def statusOf (reviews : Reviews D) (d : D) : Option ReviewStatus := (reviews.current d).map DocumentReview.status

end Reviews

/-- The review that a decision makes. -/
def DocumentDecision.review (item : DocumentDecision) (d : D) (reviewedAt : DateTime) : DocumentReview D where
  documentType := d
  status := item.decision.status
  reasonCode := item.reasonCode
  reason := item.reason
  expectedCorrection := item.expectedCorrection
  reviewedAt := some reviewedAt

/-- A list of texts. -/
def jsonTexts (texts : List String) : Json := texts.foldr (fun t rest => .arrCons (.str t) rest) .arrNil

/-- The texts of the types, sorted. -/
def allowedTypes (D : Type) [DocumentType D] : List String :=
  ((DocumentType.all (D := D)).map DocumentType.value).mergeSort (· ≤ ·)

/-- The decisions that `_apply_document_decisions` has not looked at yet; `seen` are those it has. -/
def applyDecisionsFrom (reviewedByUserId : UUID) (reviewedAt : DateTime) :
    List String → List DocumentDecision → Reviews D → Except ApiError (Reviews D)
  | _, [], reviews => .ok reviews
  | seen, item :: rest, reviews =>
    match documentTypeOf D item.documentType with
    | none => .error
        { statusCode := 422, code := "INVALID_DOCUMENT_TYPE", message := "Type de piece inconnu pour ce dossier."
          details := Json.ofMembers [("document_type", .str item.documentType),
            ("allowed", jsonTexts (allowedTypes D))] }
    | some d =>
      if item.documentType ∈ seen then .error
        { statusCode := 422, code := "DUPLICATE_DOCUMENT_DECISION"
          message := "Une piece ne peut etre decidee qu'une fois." }
      else
        applyDecisionsFrom reviewedByUserId reviewedAt (item.documentType :: seen) rest
          (reviews.add (item.review d reviewedAt) (.reviewedBy reviewedByUserId))

/-- `_apply_document_decisions`. -/
def applyDocumentDecisions (reviews : Reviews D) (decisions : List DocumentDecision) (reviewedByUserId : UUID)
    (reviewedAt : DateTime) : Except ApiError (Reviews D) :=
  applyDecisionsFrom reviewedByUserId reviewedAt [] decisions reviews

/-- A text that Python takes for true. -/
def truthy (text : Option String) : Bool := text.getD "" ≠ ""

/-- `_apply_rejection_decisions`. -/
def applyRejectionDecisions (reviews : Reviews D) (decisions : List DocumentDecision) (reviewedByUserId : UUID)
    (reviewedAt : DateTime) : Except ApiError (Reviews D) :=
  if decisions.any (fun item => item.decision = .rejected) = false then .error
    { statusCode := 422, code := "DOCUMENT_REJECTION_DETAILS_REQUIRED"
      message := "Un rejet doit identifier au moins une piece rejetee et la correction attendue." }
  else
    match decisions.find? fun item => item.decision = .rejected ∧
        (truthy item.reasonCode && truthy item.reason && truthy item.expectedCorrection) = false with
    | some item => .error
        { statusCode := 422, code := "DOCUMENT_REJECTION_DETAILS_REQUIRED"
          message := "Chaque piece rejetee exige reason_code, reason et expected_correction."
          details := Json.ofMembers [("document_type", .str item.documentType)] }
    | none => applyDocumentDecisions reviews decisions reviewedByUserId reviewedAt

/-- `_ensure_all_documents_approved`. -/
def ensureAllDocumentsApproved (reviews : Reviews D) : Except ApiError Unit :=
  let missing := (((DocumentType.all (D := D)).filter fun d =>
    DocumentType.required d && reviews.statusOf d ≠ some .approved).map DocumentType.value).mergeSort (· ≤ ·)
  if missing ≠ [] then .error
    { statusCode := 422, code := "DOCUMENT_DECISIONS_INCOMPLETE"
      message := "Toutes les pieces obligatoires du dossier " ++ DocumentType.dossier D ++
        " doivent etre approuvees."
      details := Json.ofMembers [("missing_decisions", jsonTexts missing)] }
  else .ok ()

/-- `_ensure_kyc_documents_complete` and `_ensure_vehicle_kyv_documents_complete`, with their error. -/
def ensureDocumentsComplete (documents : D → DocumentRef) (code message : String) : Except ApiError Unit :=
  let missing := ((DocumentType.all (D := D)).filter fun d =>
    DocumentType.required d && !(documents d).onFile).map DocumentType.field
  if missing ≠ [] then .error
    { statusCode := 422, code := code, message := message
      details := Json.ofMembers [("missing_documents", jsonTexts missing)] }
  else .ok ()

/-- `_mark_resubmitted_documents_pending`, for the types that the request names. -/
def markResubmittedDocumentsPending (reviews : Reviews D) (documents : D → DocumentRef) (order : SetOrder D)
    (now : DateTime) : Reviews D :=
  (order.order.filter fun d => (documents d).given).foldl
    (fun reviews d => reviews.add { documentType := d, status := .pending } (.resubmittedAt now)) reviews

/-- The decisions of an approval that names none: every required document is approved. -/
def approvals (order : SetOrder D) : List DocumentDecision :=
  (order.order.filter fun d => DocumentType.required d).map fun d =>
    { documentType := DocumentType.value d, decision := .approved }

/-- `_review_note`. -/
def reviewNote (notes : Option String) (reviewedByUserId : UUID) : String :=
  let suffix := "reviewed_by=" ++ reviewedByUserId.str
  match blankToNone notes with
  | some cleaned => cleaned ++ " (" ++ suffix ++ ")"
  | none => suffix

end DiddiGo.Dossiers
