import DiddiGo.Dossiers.Proofs.ReviewingProofs

/-!
# Verification

A driver or a vehicle is active only with all required documents on file and approved. The optional document
plays no part in it.
-/

namespace DiddiGo.Dossiers

open Data (Keyed Table)
open Transactions

variable {c : DossierCall} {calls : List DossierCall} {db db' : DossierDb}
  {profile profile' : DriverDossier} {vehicle vehicle' : VehicleDossier}

/-! ## Dossiers that change -/

/-- Active profiles and vehicles have their required documents on file and approved. -/
structure ActiveVerified (db : DossierDb) : Prop where
  profiles : ∀ profile, db.profiles.find? profile.id = some profile → profile.status = .active →
    profile.papers.Verified
  vehicles : ∀ vehicle, db.vehicles.find? vehicle.id = some vehicle → vehicle.verificationStatus = .active →
    vehicle.papers.Verified

theorem ProfileChange.verified (h : ProfileChange c profile profile')
    (hbefore : profile.status = .active → profile.papers.Verified) (hactive : profile'.status = .active) :
    profile'.papers.Verified := by
  cases h with
  | resubmitted _ h =>
    obtain ⟨-, -, hstatus, -⟩ := DriverDossier.resubmit_ok h
    rw [hstatus] at hactive
    cases hactive
  | approved _ h =>
    obtain ⟨-, -, hdocuments, hfile, happroved, -⟩ := DriverDossier.approve_ok h
    intro d _
    refine ⟨?_, happroved d⟩
    change (profile'.documents d).onFile = true
    rw [hdocuments]
    exact hfile d
  | rejected _ h =>
    obtain ⟨-, -, -, hstatus, -⟩ := DriverDossier.reject_ok h
    rw [hstatus] at hactive
    cases hactive
  | photographed => exact hbefore hactive

theorem rejectedRequired_eq_false {reviews : Reviews VehicleDocument}
    (h : VehicleDossier.rejectedRequired reviews = false) {d : VehicleDocument}
    (hrequired : DocumentType.required d = true) : reviews.statusOf d ≠ some .rejected := by
  intro hrejected
  have hd := List.any_eq_false.mp h d (DocumentType.mem_all d)
  rw [hrequired, hrejected] at hd
  exact hd rfl

/-- Decisions leave a review as it is, or they are the ones that say what it is now. -/
theorem applyDocumentDecisions_statusOf {D : Type} [DocumentType D] [DecidableEq D] {reviews reviews' : Reviews D}
    {decisions : List DocumentDecision} {reviewer : UUID} {now : DateTime}
    (h : applyDocumentDecisions reviews decisions reviewer now = .ok reviews') (d : D) :
    reviews'.statusOf d = reviews.statusOf d ∨
      ∃ item ∈ decisions, item.documentType = DocumentType.value d ∧
        reviews'.statusOf d = some item.decision.status := by
  obtain ⟨entries, hdecides, rfl⟩ := applyDocumentDecisions_ok h
  unfold Reviews.statusOf
  rcases Reviews.current_addAll_cases reviews entries d with ⟨entry, hentry, hd, hcurrent⟩ | ⟨-, hcurrent⟩
  · obtain ⟨item, hitem, htype, hstatus, -⟩ := hdecides.exists_decision hentry
    refine Or.inr ⟨item, hitem, ?_, ?_⟩
    · rw [← hd, value_of_documentTypeOf htype]
    · rw [hcurrent, ← hstatus]
      rfl
  · left
    rw [hcurrent]

/-- A rejection that leaves the vehicle active has rejected no required document. -/
theorem VehicleDossier.reject_verified {reviewer : UUID} {notes : Option String} {documents : List DocumentDecision}
    {now : DateTime} (h : vehicle.reject reviewer notes documents now = .ok vehicle')
    (hbefore : vehicle.verificationStatus = .active → vehicle.papers.Verified)
    (hactive : vehicle'.verificationStatus = .active) : vehicle'.papers.Verified := by
  obtain ⟨-, hdocuments, hstatus, hreviews⟩ := VehicleDossier.reject_ok h
  obtain ⟨hrejected, hactive⟩ := hstatus.mp hactive
  intro d hrequired
  obtain ⟨hfile, happroved⟩ := hbefore hactive d hrequired
  constructor
  · change (vehicle'.documents d).onFile = true
    rw [hdocuments]
    exact hfile
  · change vehicle'.reviews.statusOf d = some .approved
    rcases applyDocumentDecisions_statusOf hreviews d with hsame | ⟨item, -, -, hitem⟩
    · rw [hsame]
      exact happroved
    · cases hdecision : item.decision with
      | approved =>
        rw [hitem, hdecision]
        rfl
      | rejected =>
        rw [hdecision] at hitem
        exact absurd hitem (rejectedRequired_eq_false hrejected hrequired)

theorem VehicleChange.verified (h : VehicleChange c vehicle vehicle')
    (hbefore : vehicle.verificationStatus = .active → vehicle.papers.Verified)
    (hactive : vehicle'.verificationStatus = .active) : vehicle'.papers.Verified := by
  cases h with
  | described => exact hbefore hactive
  | resubmitted => cases hactive
  | approved _ h =>
    obtain ⟨-, hdocuments, hfile, happroved, -⟩ := VehicleDossier.approve_ok h
    intro d hrequired
    refine ⟨?_, happroved d hrequired⟩
    change (vehicle'.documents d).onFile = true
    rw [hdocuments]
    exact hfile d hrequired
  | rejected _ h => exact VehicleDossier.reject_verified h hbefore hactive
  | assigned =>
    refine hbefore ?_
    unfold VehicleDossier.assigned at hactive
    by_contra hinactive
    rw [if_neg hinactive] at hactive
    cases hactive

/-! ## Runs -/

/-- A row of a table that was written is the one that was written or was there before. -/
theorem Written.cases {ρ κ : Type} [Keyed ρ κ] [DecidableEq κ] {t t' : Table ρ} {r row : ρ} {k : κ}
    (h : Written t r t') (hrow : t'.find? k = some row) : row = r ∨ t.find? k = some row := by
  by_cases hk : k = Keyed.key r
  · rw [h k, if_pos hk] at hrow
    exact Or.inl (Option.some.inj hrow).symm
  · rw [h.other hk] at hrow
    exact Or.inr hrow

/-- Every request keeps active dossiers verified. -/
theorem activeVerified_step (hdraws : c.Draws db) (h : ActiveVerified db) : ActiveVerified (c.after db) := by
  generalize hafter : c.after db = db'
  have heffect := effect_call hdraws
  rw [hafter] at heffect
  cases heffect with
  | unchanged h' =>
    rw [h']
    exact h
  | profileCreated created _ _ hstatus hprofiles hvehicles =>
    refine ⟨fun profile hprofile hactive => ?_, fun vehicle hvehicle => h.vehicles vehicle (hvehicles ▸ hvehicle)⟩
    rcases hprofiles.cases hprofile with rfl | hold
    · rw [hstatus] at hactive
      cases hactive
    · exact h.profiles profile hold hactive
  | profileChanged before after hbefore hchange hprofiles hvehicles =>
    refine ⟨fun profile hprofile hactive => ?_, fun vehicle hvehicle => h.vehicles vehicle (hvehicles ▸ hvehicle)⟩
    rcases hprofiles.cases hprofile with rfl | hold
    · exact hchange.verified (h.profiles before hbefore) hactive
    · exact h.profiles profile hold hactive
  | vehicleCreated created _ _ hstatus hvehicles hprofiles =>
    refine ⟨fun profile hprofile => h.profiles profile (hprofiles ▸ hprofile), fun vehicle hvehicle hactive => ?_⟩
    rcases hvehicles.cases hvehicle with rfl | hold
    · rw [hstatus] at hactive
      cases hactive
    · exact h.vehicles vehicle hold hactive
  | vehicleChanged before after hbefore hchange hvehicles hprofiles =>
    refine ⟨fun profile hprofile => h.profiles profile (hprofiles ▸ hprofile), fun vehicle hvehicle hactive => ?_⟩
    rcases hvehicles.cases hvehicle with rfl | hold
    · exact hchange.verified (h.vehicles before hbefore) hactive
    · exact h.vehicles vehicle hold hactive

theorem NoDossiers.activeVerified (h : NoDossiers db) : ActiveVerified db where
  profiles profile hprofile := by
    rw [h.profiles] at hprofile
    cases hprofile
  vehicles vehicle hvehicle := by
    rw [h.vehicles] at hvehicle
    cases hvehicle

theorem activeVerified_run (hnew : NoDossiers db)
    (hdraws : EachStep DossierCall.after DossierCall.Draws calls db) : ActiveVerified (runDossiers calls db) :=
  inv_runSteps hdraws hnew.activeVerified fun _ _ => activeVerified_step

/-! ## The optional document -/

/-- A rejection of the optional document alone does not touch the required ones. -/
theorem VehicleDossier.reject_optional {reviewer : UUID} {notes : Option String} {documents : List DocumentDecision}
    {now : DateTime} (h : vehicle.reject reviewer notes documents now = .ok vehicle')
    (hverified : vehicle.verificationStatus = .active → vehicle.papers.Verified)
    (hoptional : ∀ item ∈ documents, item.decision = .rejected → item.documentType = "transport_authorization") :
    vehicle'.verificationStatus = .active ↔ vehicle.verificationStatus = .active := by
  obtain ⟨-, -, hstatus, hreviews⟩ := VehicleDossier.reject_ok h
  rw [hstatus, and_iff_right_iff_imp]
  intro hactive
  refine List.any_eq_false.mpr fun d _ => ?_
  rw [Bool.and_eq_true, decide_eq_true_eq]
  rintro ⟨hrequired, hrejected⟩
  rcases applyDocumentDecisions_statusOf hreviews d with hsame | ⟨item, hitem, htype, hdecided⟩
  · have happroved : vehicle.reviews.statusOf d = some .approved := (hverified hactive d hrequired).2
    rw [hsame, happroved] at hrejected
    cases hrejected
  · have hdecision : item.decision = .rejected := by
      rw [hrejected] at hdecided
      cases hitem : item.decision with
      | approved =>
        rw [hitem] at hdecided
        cases hdecided
      | rejected => rfl
    rw [hoptional item hitem hdecision] at htype
    have hd : d = .transportAuthorization := DocumentType.value_injective htype.symm
    rw [hd] at hrequired
    cases hrequired

/-- What a rejection of the optional document does to a vehicle. -/
theorem rejectOptional_step {reviewer : UUID} {notes : Option String} {documents : List DocumentDecision}
    (hdraws : c.Draws db) (h : ActiveVerified db)
    (hop : c.op = .rejectVehicleKyv vehicle.id reviewer notes documents)
    (hoptional : ∀ item ∈ documents, item.decision = .rejected → item.documentType = "transport_authorization")
    (hvehicle : db.vehicles.find? vehicle.id = some vehicle) :
    ∃ vehicle', (c.after db).vehicles.find? vehicle.id = some vehicle' ∧
      (vehicle'.verificationStatus = .active ↔ vehicle.verificationStatus = .active) := by
  generalize hafter : c.after db = db'
  have heffect := effect_call hdraws
  rw [hafter] at heffect
  cases heffect with
  | unchanged h' => exact ⟨vehicle, h' ▸ hvehicle, Iff.rfl⟩
  | profileCreated _ _ _ _ _ hvehicles => exact ⟨vehicle, hvehicles ▸ hvehicle, Iff.rfl⟩
  | profileChanged _ _ _ _ _ hvehicles => exact ⟨vehicle, hvehicles ▸ hvehicle, Iff.rfl⟩
  | vehicleCreated created hfresh _ _ hvehicles =>
    refine ⟨vehicle, (hvehicles.other fun hid => ?_).trans hvehicle, Iff.rfl⟩
    have hid : vehicle.id = created.id := hid
    rw [hid, hfresh] at hvehicle
    cases hvehicle
  | vehicleChanged before after hbefore hchange hvehicles =>
    by_cases hid : vehicle.id = after.id
    · have hself : db'.vehicles.find? after.id = some after := hvehicles.self
      refine ⟨after, hid ▸ hself, ?_⟩
      rw [hid, hchange.id, hbefore] at hvehicle
      obtain rfl := Option.some.inj hvehicle
      cases hchange with
      | rejected hop' hreject =>
        rw [hop] at hop'
        obtain ⟨-, -, -, rfl⟩ := DossierOp.rejectVehicleKyv.inj hop'
        exact VehicleDossier.reject_optional hreject (h.vehicles before hbefore) hoptional
      | described hop' => exact nomatch hop.symm.trans hop'
      | resubmitted hop' => exact nomatch hop.symm.trans hop'
      | approved hop' => exact nomatch hop.symm.trans hop'
      | assigned hop' => exact nomatch hop.symm.trans hop'
    · exact ⟨vehicle, (hvehicles.other hid).trans hvehicle, Iff.rfl⟩

/-! ## Verification -/

/-- Whatever requests came, active drivers and vehicles have reviewed documents. -/
theorem verificationReviewed_run (calls : List DossierCall) (hnew : NoDossiers db)
    (hdraws : EachStep DossierCall.after DossierCall.Draws calls db) : VerificationReviewed calls db where
  profiles profile hprofile hactive d := by
    obtain ⟨hfile, happroved⟩ := (activeVerified_run hnew hdraws).profiles profile hprofile hactive d rfl
    refine ⟨hfile, happroved, ?_⟩
    have hpapers : DossierDb.kyc profile.id (runDossiers calls db) = some profile.papers := by
      unfold DossierDb.kyc
      rw [hprofile]
      rfl
    exact approvedSince_run (fun _ _ hdraws => papersStep_kyc hdraws profile.id) (hnew.kyc profile.id) hdraws hpapers
      happroved
  vehicles vehicle hvehicle hactive d hrequired := by
    obtain ⟨hfile, happroved⟩ := (activeVerified_run hnew hdraws).vehicles vehicle hvehicle hactive d hrequired
    refine ⟨hfile, happroved, ?_⟩
    have hpapers : DossierDb.kyv vehicle.id (runDossiers calls db) = some vehicle.papers := by
      unfold DossierDb.kyv
      rw [hvehicle]
      rfl
    exact approvedSince_run (fun _ _ hdraws => papersStep_kyv hdraws vehicle.id) (hnew.kyv vehicle.id) hdraws hpapers
      happroved
  optional before c later vehicle reviewer notes documents hcalls hop hoptional hvehicle := by
    rw [hcalls, eachStep_append] at hdraws
    rw [runDossiers_snoc]
    exact rejectOptional_step hdraws.2.1 (activeVerified_run hnew hdraws.1) hop hoptional hvehicle

namespace Sample

/-- A driver and his vehicle are approved, and the transport authorisation is rejected. -/
def verifications : List DossierCall :=
  [dossierCall 1 (.createProfile 20 10 "L-1" { documents := uploaded }),
   dossierCall 2 (.approveKyc 20 90 none []),
   dossierCall 3 (.registerVehicle 40 10 { plateNumber := "aa-1", category := "comfort" } "premium"
    { documents := uploaded }),
   dossierCall 4 (.approveVehicleKyv 40 90 none []),
   dossierCall 5 (.rejectVehicleKyv 40 90 none [rejection "transport_authorization"])]

end Sample

theorem verificationReviewed_run_active :
    (((runDossiers Sample.verifications {}).profiles.find? 20).map fun profile => profile.status) = some .active ∧
      (((runDossiers Sample.verifications {}).vehicles.find? 40).map fun vehicle => vehicle.verificationStatus) =
        some .active ∧
      VerificationReviewed Sample.verifications {} :=
  ⟨by decide +kernel, by decide +kernel,
    verificationReviewed_run Sample.verifications ⟨rfl, rfl⟩ (by decide +kernel)⟩

end DiddiGo.Dossiers
