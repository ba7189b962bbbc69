import DiddiGo.Data.Numeric
import DiddiGo.Dossiers.DriverService
import DiddiGo.Partners.Entities
import DiddiGo.Transactions.Sequential

/-!
# Partner records

What is stored about a partner, with its commission and its KYC documents, and the calls that change it. The table
checks the commission of its rows.
-/

namespace DiddiGo.Partners

open Data (Json Keyed Table)
open Dossiers (DocumentRef DocumentType blankToNone ensureDocumentsComplete jsonTexts reviewNote updatedText)
open Transactions

/-! ## Records -/

/-- `PartnerType`. -/
inductive PartnerType
  | company
  | fleetOwner
  deriving DecidableEq, Repr

/-- The stored text. -/
def PartnerType.value : PartnerType → String
  | company => "company"
  | fleetOwner => "fleet_owner"

/-- `PartnerCommissionMode`. -/
inductive PartnerCommissionMode
  | percentage
  | fixed
  deriving DecidableEq, Repr

/-- The stored text. -/
def PartnerCommissionMode.value : PartnerCommissionMode → String
  | percentage => "percentage"
  | fixed => "fixed"

/-- The KYC documents of a partner. -/
inductive PartnerDocument
  | registration
  | tax
  | representativeId
  | fleetOwnership
  deriving DecidableEq, Repr

/-- The name of the document in requests. -/
def PartnerDocument.text : PartnerDocument → String
  | registration => "registration_document"
  | tax => "tax_document"
  | representativeId => "representative_id_document"
  | fleetOwnership => "fleet_ownership_document"

/-- Partner documents have no reviews of their own, so no other text than their names. -/
instance : DocumentType PartnerDocument where
  all := [.registration, .tax, .representativeId, .fleetOwnership]
  value := PartnerDocument.text
  field := PartnerDocument.text
  required d := d ≠ .fleetOwnership
  dossier := "KYC"
  mem_all d := by cases d <;> decide
  value_injective d d' := by cases d <;> cases d' <;> decide

/-- A row of `partners`, with all its columns. -/
structure PartnerRecord extends Partner where
  name : String
  partnerType : PartnerType
  legalName : Option String := none
  contactPhone : Option String := none
  contactEmail : Option String := none
  commissionEnabled : Bool := false
  commissionMode : PartnerCommissionMode := .percentage
  commissionRate : Decimal := 0
  documents : PartnerDocument → DocumentRef := fun _ => {}
  kycSubmittedAt : Option DateTime := none
  kycReviewedAt : Option DateTime := none
  kycReviewNotes : Option String := none
  deriving DecidableEq

instance : Keyed PartnerRecord UUID := ⟨fun partner => partner.id⟩

/-- `partners_commission_non_negative_check` and `partners_percentage_commission_max_check`. -/
def PartnerRecord.ChecksHold (partner : PartnerRecord) : Prop :=
  0 ≤ partner.commissionRate ∧ (partner.commissionMode = .percentage → partner.commissionRate ≤ 1)

instance : DecidablePred PartnerRecord.ChecksHold := fun _ => inferInstanceAs (Decidable (_ ∧ _))

/-- The table `partners`. -/
abbrev PartnerRecords := Table PartnerRecord

/-- The table with the row in place of the one with its key. -/
def PartnerRecords.put (partners : PartnerRecords) (row : PartnerRecord) : PartnerRecords :=
  if (partners.find? row.id).isSome then partners.update row.id fun old => { row with id := old.id }
  else partners.insert row

/-- `save`: the partner as the service keeps it, and the table. -/
def PartnerRecords.save (partners : PartnerRecords) (partner : PartnerRecord) :
    Except Err (PartnerRecord × PartnerRecords) :=
  match Data.numeric 6 4 partner.commissionRate with
  | none => .error (.other "DataError")
  | some rate =>
    let row := { partner with commissionRate := rate }
    if row.ChecksHold then .ok (partner, partners.put row) else .error (.other "IntegrityError")

/-! ## Arguments -/

/-- The arguments of `create_partner`. -/
structure PartnerCreate where
  name : String
  partnerType : String
  legalName : Option String := none
  contactPhone : Option String := none
  contactEmail : Option String := none
  commissionEnabled : Bool := false
  commissionMode : String := "percentage"
  commissionRate : Decimal := 0
  documents : PartnerDocument → DocumentRef := fun _ => {}

/-- The arguments of `update_partner`. -/
structure PartnerUpdate where
  name : Option String := none
  partnerType : Option String := none
  legalName : Option String := none
  contactPhone : Option String := none
  contactEmail : Option String := none
  commissionEnabled : Option Bool := none
  commissionMode : Option String := none
  commissionRate : Option Decimal := none
  documents : PartnerDocument → DocumentRef := fun _ => {}

namespace PartnerRecords

/-- `if value is not None: current = check(value)`. -/
def ifGiven {α β : Type} (value : Option α) (current : β) (check : α → Except Err β) : Except Err β :=
  match value with
  | some a => check a
  | none => .ok current

/-- `_required_text`. -/
def requiredText (value field : String) : Except Err String :=
  match blankToNone (some value) with
  | some cleaned => .ok cleaned
  | none => .error (.api ⟨422, "VALIDATION_ERROR", "Champ obligatoire.", .ofMembers [("field", .str field)]⟩)

/-- The value of a field that has only some texts, or an error that names them. -/
def oneOf {α : Type} (value : α → String) (all : List α) (code message field text : String) : Except Err α :=
  match all.find? fun a => value a = text with
  | some a => .ok a
  | none => .error (.api ⟨422, code, message,
      .ofMembers [("field", .str field), ("allowed", jsonTexts (all.map value))]⟩)

/-- `_partner_type`. -/
def partnerType (text : String) : Except Err PartnerType :=
  oneOf PartnerType.value [.company, .fleetOwner] "INVALID_PARTNER_TYPE" "Type partenaire invalide." "partner_type" text

/-- `_commission_mode`. -/
def commissionMode (text : String) : Except Err PartnerCommissionMode :=
  oneOf PartnerCommissionMode.value [.percentage, .fixed] "INVALID_PARTNER_COMMISSION"
    "Mode de commission partenaire invalide." "partner_commission_mode" text

/-- `_commission_rate`, of a finite decimal. -/
def commissionRate (rate : Decimal) (mode : String) : Except Err Decimal :=
  if rate < 0 then .error (.api ⟨422, "INVALID_PARTNER_COMMISSION", "Commission partenaire invalide.",
    .ofMembers [("field", .str "partner_commission_rate"), ("reason", .str "negative")]⟩)
  else if mode = PartnerCommissionMode.percentage.value ∧ 1 < rate then
    .error (.api ⟨422, "INVALID_PARTNER_COMMISSION", "Commission partenaire en pourcentage invalide.",
      .ofMembers [("field", .str "partner_commission_rate"), ("max", .str "1.00")]⟩)
  else .ok rate

/-- `_has_any_partner_kyc_document`. -/
def hasAnyPartnerKycDocument (documents : PartnerDocument → DocumentRef) : Bool :=
  (DocumentType.all (D := PartnerDocument)).any fun d =>
    (documents d).fileId.isSome || (blankToNone (documents d).url).isSome

/-- `_update_partner_kyc_fields`. -/
def updatePartnerKycFields (partner : PartnerRecord) (documents : PartnerDocument → DocumentRef) : PartnerRecord :=
  { partner with documents := fun d => (partner.documents d).updated (documents d) }

/-- `_ensure_partner_kyc_complete`. -/
def ensurePartnerKycComplete (partner : PartnerRecord) : Except Err Unit :=
  (ensureDocumentsComplete partner.documents "INVALID_PARTNER_KYC_DOCUMENTS"
    "Le dossier KYC partenaire est incomplet.").mapError .api

/-! ## Calls -/

section

variable (partners : PartnerRecords) (now : DateTime)

/-- `_require_partner`. -/
def requirePartner (partnerId : UUID) : Except Err PartnerRecord :=
  match partners.find? partnerId with
  | some partner => .ok partner
  | none => .error (.api ⟨404, "PARTNER_NOT_FOUND", "Partenaire introuvable.", .null⟩)

/-- `create_partner`; `id` is drawn. -/
def createPartner (id : UUID) (args : PartnerCreate) : Except Err (PartnerRecord × PartnerRecords) := do
  let name ← requiredText args.name "name"
  let type ← partnerType args.partnerType
  let mode ← commissionMode args.commissionMode
  let rate ← commissionRate args.commissionRate args.commissionMode
  partners.save {
    id := id
    name := name
    partnerType := type
    status := .pendingVerification
    legalName := blankToNone args.legalName
    contactPhone := blankToNone args.contactPhone
    contactEmail := blankToNone args.contactEmail
    commissionEnabled := args.commissionEnabled
    commissionMode := mode
    commissionRate := rate
    documents := fun d => { fileId := (args.documents d).fileId, url := blankToNone (args.documents d).url }
    kycSubmittedAt := if hasAnyPartnerKycDocument args.documents then some now else none }

/-- `update_partner`. -/
def updatePartner (partnerId : UUID) (args : PartnerUpdate) : Except Err (PartnerRecord × PartnerRecords) := do
  let partner ← partners.requirePartner partnerId
  let name ← ifGiven args.name partner.name fun name => requiredText name "name"
  let type ← ifGiven args.partnerType partner.partnerType partnerType
  let mode ← ifGiven args.commissionMode partner.commissionMode commissionMode
  -- The rate is checked against the new mode, but only if the request names a rate.
  let rate ← ifGiven args.commissionRate partner.commissionRate fun rate => commissionRate rate mode.value
  partners.save (updatePartnerKycFields
    { partner with
      name := name
      partnerType := type
      legalName := updatedText partner.legalName args.legalName
      contactPhone := updatedText partner.contactPhone args.contactPhone
      contactEmail := updatedText partner.contactEmail args.contactEmail
      commissionEnabled := args.commissionEnabled.getD partner.commissionEnabled
      commissionMode := mode
      commissionRate := rate }
    args.documents)

/-- `submit_kyc`. -/
def submitKyc (partnerId : UUID) (documents : PartnerDocument → DocumentRef) :
    Except Err (PartnerRecord × PartnerRecords) := do
  let partner ← partners.requirePartner partnerId
  partners.save
    { updatePartnerKycFields partner documents with
      status := .pendingVerification
      kycSubmittedAt := some now
      kycReviewedAt := none
      kycReviewNotes := none }

/-- `activate_partner`. -/
def activatePartner (partnerId : UUID) : Except Err (PartnerRecord × PartnerRecords) := do
  let partner ← partners.requirePartner partnerId
  ensurePartnerKycComplete partner
  partners.save { partner with status := .active, kycReviewedAt := some now }

/-- `approve_kyc`. -/
def approveKyc (partnerId reviewedByUserId : UUID) (notes : Option String) :
    Except Err (PartnerRecord × PartnerRecords) := do
  let partner ← partners.requirePartner partnerId
  ensurePartnerKycComplete partner
  partners.save
    { partner with
      status := .active
      kycReviewedAt := some now
      kycReviewNotes := some (reviewNote notes reviewedByUserId) }

/-- `suspend_partner`. -/
def suspendPartner (partnerId : UUID) : Except Err (PartnerRecord × PartnerRecords) := do
  let partner ← partners.requirePartner partnerId
  partners.save { partner with status := .suspended }

/-- `reject_partner`. -/
def rejectPartner (partnerId : UUID) : Except Err (PartnerRecord × PartnerRecords) := do
  let partner ← partners.requirePartner partnerId
  partners.save { partner with status := .rejected, kycReviewedAt := some now }

/-- `reject_kyc`. -/
def rejectKyc (partnerId reviewedByUserId : UUID) (notes : Option String) :
    Except Err (PartnerRecord × PartnerRecords) := do
  let partner ← partners.requirePartner partnerId
  partners.save
    { partner with
      status := .rejected
      kycReviewedAt := some now
      kycReviewNotes := some (reviewNote notes reviewedByUserId) }

end

end PartnerRecords

/-- A call that changes partner records. -/
inductive RecordCall
  | createPartner (id : UUID) (args : PartnerCreate)
  | updatePartner (partnerId : UUID) (args : PartnerUpdate)
  | submitKyc (partnerId : UUID) (documents : PartnerDocument → DocumentRef)
  | activatePartner (partnerId : UUID)
  | approveKyc (partnerId reviewedByUserId : UUID) (notes : Option String)
  | suspendPartner (partnerId : UUID)
  | rejectPartner (partnerId : UUID)
  | rejectKyc (partnerId reviewedByUserId : UUID) (notes : Option String)

/-- A call, and when it comes. -/
structure RecordStep where
  now : DateTime
  call : RecordCall

namespace RecordStep

/-- What the call answers, and the table behind it. -/
def run (step : RecordStep) (partners : PartnerRecords) : Except Err (PartnerRecord × PartnerRecords) :=
  match step.call with
  | .createPartner id args => partners.createPartner step.now id args
  | .updatePartner partnerId args => partners.updatePartner partnerId args
  | .submitKyc partnerId documents => partners.submitKyc step.now partnerId documents
  | .activatePartner partnerId => partners.activatePartner step.now partnerId
  | .approveKyc partnerId reviewedByUserId notes => partners.approveKyc step.now partnerId reviewedByUserId notes
  | .suspendPartner partnerId => partners.suspendPartner partnerId
  | .rejectPartner partnerId => partners.rejectPartner step.now partnerId
  | .rejectKyc partnerId reviewedByUserId notes => partners.rejectKyc step.now partnerId reviewedByUserId notes

/-- The table after the call; a call that fails is rolled back. -/
def after (step : RecordStep) (partners : PartnerRecords) : PartnerRecords :=
  match step.run partners with
  | .ok (_, kept) => kept
  | .error _ => partners

end RecordStep

/-- The table after the calls. -/
def runRecords (steps : List RecordStep) : PartnerRecords := runSteps RecordStep.after steps .empty

/-! ## What the records promise -/

/-- The required documents are on file. -/
def PartnerRecord.KycComplete (partner : PartnerRecord) : Prop :=
  ∀ d, DocumentType.required d = true → (partner.documents d).onFile = true

/-- The required documents are the same. -/
def PartnerRecord.SameKyc (partner partner' : PartnerRecord) : Prop :=
  ∀ d, DocumentType.required d = true → partner.documents d = partner'.documents d

/-- The call makes the partner active. -/
def RecordStep.Activates (step : RecordStep) (partnerId : UUID) : Prop :=
  step.call = .activatePartner partnerId ∨ ∃ reviewer notes, step.call = .approveKyc partnerId reviewer notes

/-- An active partner has its required documents on file, the same in all states since a call made it active. -/
def Vetted (steps : List RecordStep) : Prop :=
  ∀ partnerId partner, (runRecords steps).find? partnerId = some partner → partner.status = .active →
    partner.KycComplete ∧ ∃ before step later, steps = before ++ step :: later ∧ step.Activates partnerId ∧
      ∀ partners ∈ statesAlong RecordStep.after later (runRecords (before ++ [step])),
        ∃ partner', partners.find? partnerId = some partner' ∧ partner'.status = .active ∧ partner'.SameKyc partner

/-- The call is refused, or it leaves a row that passes the checks of the table. -/
def RecordStep.Answered (step : RecordStep) (partners : PartnerRecords) : Prop :=
  (∃ e, step.run partners = .error (.api e)) ∨
    ∃ partner kept row, step.run partners = .ok (partner, kept) ∧ kept.find? partner.id = some row ∧ row.ChecksHold

/-- Active partners are vetted in every state, and every call is answered. -/
structure RecordsSound (steps : List RecordStep) : Prop where
  vetted : ∀ before later, steps = before ++ later → Vetted before
  answered : EachStep RecordStep.after RecordStep.Answered steps .empty

/-! ## Careful calls -/

/-- The service accepts the rate in this mode. -/
def RateAccepted (rate : Decimal) (mode : PartnerCommissionMode) : Prop :=
  0 ≤ rate ∧ (mode = .percentage → rate ≤ 1)

/-- The column can store the rate. -/
def RateFits (rate : Decimal) : Prop := (Data.numeric 6 4 rate).isSome = true

/-- The service accepts the arguments. -/
structure PartnerCreate.Accepted (args : PartnerCreate) (mode : PartnerCommissionMode) : Prop where
  name_given : (blankToNone (some args.name)).isSome = true
  type_known : ∃ type : PartnerType, type.value = args.partnerType
  mode_known : mode.value = args.commissionMode
  rate_accepted : RateAccepted args.commissionRate mode

/-- The service accepts the arguments, and the mode is `mode` then. -/
structure PartnerUpdate.Accepted (args : PartnerUpdate) (partner : PartnerRecord) (mode : PartnerCommissionMode) :
    Prop where
  name_given : ∀ name, args.name = some name → (blankToNone (some name)).isSome = true
  type_known : ∀ text, args.partnerType = some text → ∃ type : PartnerType, type.value = text
  mode_known : mode.value = args.commissionMode.getD partner.commissionMode.value
  rate_accepted : ∀ rate, args.commissionRate = some rate → RateAccepted rate mode

/-- If the service accepts the arguments, the column can store a given rate, and a mode without a rate allows the rate
that is stored. -/
def RecordStep.KeepsTerms (step : RecordStep) (partners : PartnerRecords) : Prop :=
  match step.call with
  | .createPartner _ args => ∀ mode, args.Accepted mode → RateFits args.commissionRate
  | .updatePartner partnerId args => ∀ partner mode, partners.find? partnerId = some partner →
      args.Accepted partner mode →
      (∀ rate, args.commissionRate = some rate → RateFits rate) ∧
      (args.commissionRate = none → mode = .percentage → partner.commissionRate ≤ 1)
  | _ => True

/-- If the service accepts the arguments, the required documents of an active partner stay. -/
def RecordStep.KeepsDocuments (step : RecordStep) (partners : PartnerRecords) : Prop :=
  match step.call with
  | .updatePartner partnerId args => ∀ partner mode, partners.find? partnerId = some partner →
      args.Accepted partner mode → partner.status = .active →
      (PartnerRecords.updatePartnerKycFields partner args.documents).SameKyc partner
  | _ => True

/-- The call gives no cause for an error of the table or an unvetted partner. -/
def RecordStep.Careful (step : RecordStep) (partners : PartnerRecords) : Prop :=
  step.KeepsTerms partners ∧ step.KeepsDocuments partners

end DiddiGo.Partners
