import DiddiGo.Dossiers.Proofs.DossierEffectProofs

/-!
# Review records and verification

The records of every dossier only grow, and the current reviews are the last entries. A review is an approval
only as long as the document is the one that was approved.
-/

namespace DiddiGo.Dossiers

open Data (Keyed Table)
open Transactions

variable {c : DossierCall} {calls : List DossierCall} {db db' : DossierDb}

/-! ## One step -/

section

variable {D : Type} [DocumentType D] [DecidableEq D] {papers papers' : Papers D} {d : D}

/-- Whatever a request writes to reviews are entries. -/
theorem PapersChange.addAll (h : PapersChange papers papers') :
    ∃ entries, papers'.reviews = papers.reviews.addAll entries := by
  cases h with
  | kept => exact ⟨[], rfl⟩
  | resubmitted given order now => exact ⟨_, markResubmittedDocumentsPending_eq _ given order now⟩
  | decided h =>
    obtain ⟨entries, -, hreviews⟩ := applyDocumentDecisions_ok h
    exact ⟨entries, hreviews⟩

theorem PapersChange.history (h : PapersChange papers papers') :
    papers.reviews.history <+: papers'.reviews.history := by
  obtain ⟨entries, hentries⟩ := h.addAll
  rw [hentries, Reviews.history_addAll]
  exact List.prefix_append _ _

/-- An approval is new, or neither the document nor its review has changed. -/
theorem PapersChange.approved_cases (h : PapersChange papers papers')
    (happroved : papers'.reviews.statusOf d = some .approved) :
    papers'.reviews.current d = papers.reviews.current d ∧ papers'.documents d = papers.documents d ∨
      ∃ entries review reviewer, papers'.reviews.history = papers.reviews.history ++ entries ∧
        ⟨review, .reviewedBy reviewer⟩ ∈ entries ∧ review.documentType = d ∧ review.status = .approved ∧
        papers'.reviews.current d = some review ∧ papers'.documents d = papers.documents d := by
  cases h with
  | kept => exact Or.inl ⟨rfl, rfl⟩
  | resubmitted given order now =>
    left
    dsimp only at happroved ⊢
    rw [markResubmittedDocumentsPending_eq] at happroved ⊢
    rcases Reviews.current_addAll_cases papers.reviews _ d with ⟨entry, hentry, -, hcurrent⟩ | ⟨hnone, hcurrent⟩
    · unfold Reviews.statusOf at happroved
      rw [hcurrent] at happroved
      obtain ⟨d', -, rfl⟩ := List.mem_map.mp hentry
      cases happroved
    · refine ⟨hcurrent, DocumentRef.updated_of_not_given _ (Bool.not_eq_true _ ▸ fun hgiven => ?_)⟩
      refine hnone _ (List.mem_map_of_mem (a := d) (List.mem_filter.mpr ⟨order.mem d, hgiven⟩)) rfl
  | decided h =>
    obtain ⟨entries, hdecides, rfl⟩ := applyDocumentDecisions_ok h
    rcases Reviews.current_addAll_cases papers.reviews entries d with ⟨entry, hentry, hd, hcurrent⟩ | ⟨-, hcurrent⟩
    · right
      obtain ⟨item, -, -, -, hstamp⟩ := hdecides.exists_decision hentry
      obtain ⟨review, stamp⟩ := entry
      obtain rfl : stamp = _ := hstamp
      have hstatus : review.status = .approved := by
        unfold Reviews.statusOf at happroved
        rw [hcurrent] at happroved
        exact Option.some.inj happroved
      exact ⟨entries, review, _, Reviews.history_addAll _ _, hentry, hd, hstatus, hcurrent, rfl⟩
    · exact Or.inl ⟨hcurrent, rfl⟩

end

theorem ProfileChange.papersChange {profile profile' : DriverDossier} (h : ProfileChange c profile profile') :
    PapersChange profile.papers profile'.papers := by
  cases h with
  | resubmitted _ h =>
    obtain ⟨-, -, -, hpapers⟩ := DriverDossier.resubmit_ok h
    rw [hpapers]
    exact .resubmitted _ _ _
  | approved _ h =>
    obtain ⟨-, -, hdocuments, -, -, decisions, hreviews⟩ := DriverDossier.approve_ok h
    unfold DriverDossier.papers
    rw [hdocuments]
    exact .decided hreviews
  | rejected _ h =>
    obtain ⟨-, -, hdocuments, -, hreviews⟩ := DriverDossier.reject_ok h
    unfold DriverDossier.papers
    rw [hdocuments]
    exact .decided hreviews
  | photographed => exact .kept

theorem ProfileChange.id {profile profile' : DriverDossier} (h : ProfileChange c profile profile') :
    profile'.id = profile.id := by
  cases h with
  | resubmitted _ h => exact (DriverDossier.resubmit_ok h).1
  | approved _ h => exact (DriverDossier.approve_ok h).1
  | rejected _ h => exact (DriverDossier.reject_ok h).1
  | photographed => rfl

theorem VehicleChange.papersChange {vehicle vehicle' : VehicleDossier} (h : VehicleChange c vehicle vehicle') :
    PapersChange vehicle.papers vehicle'.papers := by
  cases h with
  | described => exact .kept
  | resubmitted => exact .resubmitted _ _ _
  | approved _ h =>
    obtain ⟨-, hdocuments, -, -, decisions, hreviews⟩ := VehicleDossier.approve_ok h
    unfold VehicleDossier.papers
    rw [hdocuments]
    exact .decided hreviews
  | rejected _ h =>
    obtain ⟨-, hdocuments, -, hreviews⟩ := VehicleDossier.reject_ok h
    unfold VehicleDossier.papers
    rw [hdocuments]
    exact .decided hreviews
  | assigned => exact .kept

theorem VehicleChange.id {vehicle vehicle' : VehicleDossier} (h : VehicleChange c vehicle vehicle') :
    vehicle'.id = vehicle.id := by
  cases h with
  | approved _ h => exact (VehicleDossier.approve_ok h).1
  | rejected _ h => exact (VehicleDossier.reject_ok h).1
  | _ => rfl

theorem papersStep_refl {D : Type} [DocumentType D] [DecidableEq D] (papers : Option (Papers D)) :
    PapersStep papers papers := by
  cases papers with
  | none => exact .absent
  | some papers => exact .changed .kept

/-- What a request does to the papers of a driver. -/
theorem papersStep_kyc (hdraws : c.Draws db) (driverId : UUID) :
    PapersStep (DossierDb.kyc driverId db) (DossierDb.kyc driverId (c.after db)) := by
  generalize hafter : c.after db = db'
  have h := effect_call hdraws
  rw [hafter] at h
  unfold DossierDb.kyc
  cases h with
  | unchanged h =>
    rw [h]
    exact papersStep_refl _
  | profileCreated profile hfresh hreviews _ hprofiles =>
    by_cases hid : driverId = profile.id
    · have hself : db'.profiles.find? profile.id = some profile := hprofiles.self
      rw [hid, hself, hfresh]
      exact .created hreviews
    · rw [hprofiles.other hid]
      exact papersStep_refl _
  | profileChanged profile profile' hprofile hchange hprofiles =>
    by_cases hid : driverId = profile'.id
    · have hself : db'.profiles.find? profile'.id = some profile' := hprofiles.self
      rw [hid, hself, hchange.id, hprofile]
      exact .changed hchange.papersChange
    · rw [hprofiles.other hid]
      exact papersStep_refl _
  | vehicleCreated _ _ _ _ _ hprofiles =>
    rw [hprofiles]
    exact papersStep_refl _
  | vehicleChanged _ _ _ _ _ hprofiles =>
    rw [hprofiles]
    exact papersStep_refl _

/-- What a request does to the papers of a vehicle. -/
theorem papersStep_kyv (hdraws : c.Draws db) (vehicleId : UUID) :
    PapersStep (DossierDb.kyv vehicleId db) (DossierDb.kyv vehicleId (c.after db)) := by
  generalize hafter : c.after db = db'
  have h := effect_call hdraws
  rw [hafter] at h
  unfold DossierDb.kyv
  cases h with
  | unchanged h =>
    rw [h]
    exact papersStep_refl _
  | vehicleCreated vehicle hfresh hreviews _ hvehicles =>
    by_cases hid : vehicleId = vehicle.id
    · have hself : db'.vehicles.find? vehicle.id = some vehicle := hvehicles.self
      rw [hid, hself, hfresh]
      exact .created hreviews
    · rw [hvehicles.other hid]
      exact papersStep_refl _
  | vehicleChanged vehicle vehicle' hvehicle hchange hvehicles =>
    by_cases hid : vehicleId = vehicle'.id
    · have hself : db'.vehicles.find? vehicle'.id = some vehicle' := hvehicles.self
      rw [hid, hself, hchange.id, hvehicle]
      exact .changed hchange.papersChange
    · rw [hvehicles.other hid]
      exact papersStep_refl _
  | profileCreated _ _ _ _ _ hvehicles =>
    rw [hvehicles]
    exact papersStep_refl _
  | profileChanged _ _ _ _ _ hvehicles =>
    rw [hvehicles]
    exact papersStep_refl _

/-! ## Histories of one dossier -/

theorem runDossiers_snoc (calls : List DossierCall) (c : DossierCall) (db : DossierDb) :
    runDossiers (calls ++ [c]) db = c.after (runDossiers calls db) := runSteps_snoc calls c

section

variable {D : Type} [DocumentType D] [DecidableEq D] {papersAt : DossierDb → Option (Papers D)}
  {papers papers' : Papers D} {d : D}

/-- The records of a dossier whose papers requests change as they may. -/
theorem recordsKept_run (hstep : ∀ (c : DossierCall) db, c.Draws db → PapersStep (papersAt db) (papersAt (c.after db)))
    (hnew : papersAt db = none) (hdraws : EachStep DossierCall.after DossierCall.Draws calls db) :
    RecordsKept papersAt calls db := by
  induction calls using List.reverseRecOn with
  | nil =>
    refine ⟨fun papers hpapers => ?_, fun before later papers hsplit hpapers => ?_⟩
    · exact nomatch hnew.symm.trans hpapers
    obtain ⟨rfl, -⟩ := List.append_eq_nil_iff.mp hsplit.symm
    exact nomatch hnew.symm.trans hpapers
  | append_singleton calls c ih =>
    rw [eachStep_snoc] at hdraws
    have hkept := ih hdraws.1
    have hlast := hstep c (runDossiers calls db) hdraws.2
    rw [← runDossiers_snoc] at hlast
    constructor
    · intro papers hpapers
      rw [hpapers] at hlast
      generalize hbefore : papersAt (runDossiers calls db) = before at hlast
      cases hlast with
      | created h =>
        rw [h]
        exact Reviews.consistent_empty
      | changed h =>
        obtain ⟨entries, hentries⟩ := h.addAll
        rw [hentries]
        exact (hkept.current _ hbefore).addAll entries
    · intro before later papers hsplit hpapers
      rcases List.eq_nil_or_concat later with rfl | ⟨later, c', rfl⟩
      · rw [List.append_nil] at hsplit
        rw [hsplit]
        exact ⟨papers, hpapers, List.prefix_rfl⟩
      · rw [List.concat_eq_append, ← List.append_assoc] at hsplit
        obtain ⟨hcalls, -⟩ := List.append_inj' hsplit rfl
        obtain ⟨papers₁, hpapers₁, hprefix⟩ := hkept.history before later papers hcalls hpapers
        rw [hpapers₁] at hlast
        generalize hafter : papersAt (runDossiers (calls ++ [c]) db) = after at hlast
        cases hlast with
        | changed h => exact ⟨_, rfl, hprefix.trans h.history⟩

omit [DocumentType D] [DecidableEq D] in
theorem ApprovedSince.snoc (h : ApprovedSince papersAt calls db d) (hpapers : papersAt (runDossiers calls db) = some papers)
    (hpapers' : papersAt (runDossiers (calls ++ [c]) db) = some papers')
    (hhistory : papers.reviews.history <+: papers'.reviews.history)
    (hcurrent : papers'.reviews.current d = papers.reviews.current d)
    (hdocument : papers'.documents d = papers.documents d) : ApprovedSince papersAt (calls ++ [c]) db d := by
  obtain ⟨before, c₀, later, papers₀, entries, review, reviewer, hcalls, hpapers₀, hentry, hd, hstatus, hsince⟩ := h
  refine ⟨before, c₀, later ++ [c], papers₀, entries, review, reviewer, ?_, hpapers₀, hentry, hd, hstatus, ?_⟩
  · rw [hcalls, List.append_assoc]
    rfl
  · intro mid rest hsplit
    rcases List.eq_nil_or_concat rest with rfl | ⟨rest, c', rfl⟩
    · obtain ⟨papers₁, hpapers₁, hprefix, hcurrent₁, hdocument₁⟩ := hsince later [] (List.append_nil _).symm
      rw [← hcalls, hpapers] at hpapers₁
      obtain rfl := Option.some.inj hpapers₁
      rw [List.append_nil] at hsplit
      refine ⟨papers', ?_, hprefix.trans hhistory, hcurrent.trans hcurrent₁, hdocument.trans hdocument₁⟩
      rw [← hsplit, ← List.cons_append, ← List.append_assoc, ← hcalls]
      exact hpapers'
    · rw [List.concat_eq_append, ← List.append_assoc] at hsplit
      obtain ⟨hlater, -⟩ := List.append_inj' hsplit rfl
      exact hsince mid rest hlater

/-- An approved review belongs to the document as it is. -/
theorem approvedSince_run (hstep : ∀ (c : DossierCall) db, c.Draws db → PapersStep (papersAt db) (papersAt (c.after db)))
    (hnew : papersAt db = none) (hdraws : EachStep DossierCall.after DossierCall.Draws calls db)
    (hpapers : papersAt (runDossiers calls db) = some papers)
    (happroved : papers.reviews.statusOf d = some .approved) : ApprovedSince papersAt calls db d := by
  induction calls using List.reverseRecOn generalizing papers with
  | nil => exact nomatch hnew.symm.trans hpapers
  | append_singleton calls c ih =>
    rw [eachStep_snoc] at hdraws
    have hlast := hstep c (runDossiers calls db) hdraws.2
    rw [← runDossiers_snoc, hpapers] at hlast
    generalize hbefore : papersAt (runDossiers calls db) = before at hlast
    cases hlast with
    | created h =>
      rw [h] at happroved
      cases happroved
    | @changed papers₀ _ h =>
      rcases h.approved_cases happroved with ⟨hcurrent, hdocument⟩ |
        ⟨entries, review, reviewer, hhistory, hentry, hd, hstatus, hcurrent, hdocument⟩
      · have happroved₀ : papers₀.reviews.statusOf d = some .approved := by
          unfold Reviews.statusOf at happroved ⊢
          rw [← hcurrent]
          exact happroved
        exact (ih hdraws.1 hbefore happroved₀).snoc hbefore hpapers h.history hcurrent hdocument
      · refine ⟨calls, c, [], papers₀, entries, review, reviewer, rfl, hbefore, hentry, hd, hstatus, ?_⟩
        intro mid rest hsplit
        obtain ⟨rfl, rfl⟩ := List.append_eq_nil_iff.mp hsplit.symm
        exact ⟨papers, hpapers, hhistory ▸ List.prefix_rfl, hcurrent, hdocument⟩

end

/-! ## Review records -/

theorem NoDossiers.kyc (h : NoDossiers db) (driverId : UUID) : DossierDb.kyc driverId db = none := by
  unfold DossierDb.kyc
  rw [h.profiles]
  rfl

theorem NoDossiers.kyv (h : NoDossiers db) (vehicleId : UUID) : DossierDb.kyv vehicleId db = none := by
  unfold DossierDb.kyv
  rw [h.vehicles]
  rfl

/-- The review records of all dossiers are consistent, and a request that raises changes none of them. -/
theorem recordsConsistent_run (calls : List DossierCall) (hnew : NoDossiers db)
    (hdraws : EachStep DossierCall.after DossierCall.Draws calls db) : RecordsConsistent calls db where
  kyc driverId := recordsKept_run (fun _ _ hdraws => papersStep_kyc hdraws driverId) (hnew.kyc driverId) hdraws
  kyv vehicleId := recordsKept_run (fun _ _ hdraws => papersStep_kyv hdraws vehicleId) (hnew.kyv vehicleId) hdraws
  raising before c later hcalls hraises := by
    rw [hcalls, eachStep_append] at hdraws
    rw [runDossiers_snoc]
    exact eq_of_raises hdraws.2.1 hraises

namespace Sample

/-- Sets of types in the order of the source. -/
def kycOrder : SetOrder KycDocument where
  order := DocumentType.all
  nodup := by decide
  mem := DocumentType.mem_all

def kyvOrder : SetOrder VehicleDocument where
  order := DocumentType.all
  nodup := by decide
  mem := DocumentType.mem_all

/-- A request at a time. -/
def dossierCall (now : DateTime) (op : DossierOp) : DossierCall := ⟨op, now, kycOrder, kyvOrder⟩

/-- Every document is uploaded. -/
def uploaded {D : Type} (_ : D) : DocumentRef := { fileId := some 70 }

/-- A rejection of a document, with all details. -/
def rejection (documentType : String) : DocumentDecision where
  documentType := documentType
  decision := .rejected
  reasonCode := some "blurred"
  reason := some "unreadable"
  expectedCorrection := some "a sharper photo"

/-- A profile is approved, a reviewer names a document twice, and the selfie is rejected and handed in again. -/
def reviews : List DossierCall :=
  [dossierCall 1 (.createProfile 20 10 "L-1" { documents := uploaded }),
   dossierCall 2 (.approveKyc 20 90 none []),
   dossierCall 3 (.rejectKyc 20 90 none [rejection "selfie", rejection "selfie"]),
   dossierCall 4 (.rejectKyc 20 90 none [rejection "selfie"]),
   dossierCall 5 (.resubmitKyc 10 none { documents := fun d => if d = .selfie then uploaded d else {} })]

end Sample

theorem recordsConsistent_run_duplicate :
    (Sample.dossierCall 3 (.rejectKyc 20 90 none [Sample.rejection "selfie", Sample.rejection "selfie"])).Raises
        (runDossiers (Sample.reviews.take 2) {}) ∧
      RecordsConsistent Sample.reviews {} :=
  ⟨by decide +kernel,
    recordsConsistent_run Sample.reviews ⟨rfl, rfl⟩ (by decide +kernel)⟩

end DiddiGo.Dossiers
