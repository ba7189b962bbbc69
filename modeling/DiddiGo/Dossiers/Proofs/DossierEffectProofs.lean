import DiddiGo.Dossiers.Proofs.DocumentsProofs
import DiddiGo.Rides.Proofs.RideDbProofs
import DiddiGo.Transactions.Proofs.LeadsProofs

/-!
# The effects of requests on dossiers

A request that returns has written one dossier, or nothing; one that raises has written nothing.
-/

namespace DiddiGo.Dossiers

open Data (Keyed Table)
open Transactions Prog

variable {c : DossierCall} {db db' : DossierDb} {profile profile' : DriverDossier} {vehicle vehicle' : VehicleDossier}
  {α β : Type}

/-! ## Rows -/

theorem written_insert {ρ κ : Type} [Keyed ρ κ] [DecidableEq κ] {t : Table ρ} {r : ρ}
    (h : t.find? (Keyed.key r) = none) : Written t r (t.insert r) := by
  intro k
  by_cases hk : k = Keyed.key r
  · rw [if_pos hk, hk, Table.find?_insert_self h]
  · rw [if_neg hk, Table.find?_insert_of_ne t fun h => hk h.symm]

theorem written_update {ρ κ : Type} [Keyed ρ κ] [DecidableEq κ] {t : Table ρ} {r r' : ρ} {f : ρ → ρ}
    (hf : ∀ r, Keyed.key (f r) = Keyed.key r) {k : κ} (h : t.find? k = some r) (hr : f r = r') :
    Written t r' (t.update k f hf) := by
  have hkey : k = Keyed.key r' := by rw [← hr, hf, Table.key_of_find? h]
  intro k'
  by_cases hk : k' = Keyed.key r'
  · rw [if_pos hk, hk, ← hkey, Table.find?_update_self f hf h, hr]
  · rw [if_neg hk, Table.find?_update_of_ne t f hf fun h => hk (h.trans hkey)]

theorem Written.self {ρ κ : Type} [Keyed ρ κ] [DecidableEq κ] {t t' : Table ρ} {r : ρ} (h : Written t r t') :
    t'.find? (Keyed.key r) = some r := (h _).trans (if_pos rfl)

theorem Written.other {ρ κ : Type} [Keyed ρ κ] [DecidableEq κ] {t t' : Table ρ} {r : ρ} {k : κ}
    (h : Written t r t') (hk : k ≠ Keyed.key r) : t'.find? k = t.find? k := (h k).trans (if_neg hk)

@[simp] theorem DocumentRef.flush_self (loaded new : DocumentRef) : loaded.flush new loaded = new := by
  unfold DocumentRef.flush
  rw [Rides.column_self, Rides.column_self]

@[simp] theorem Reviews.flush_self {D : Type} [DocumentType D] [DecidableEq D] (loaded new : Reviews D) :
    loaded.flush new loaded = new := by
  unfold Reviews.flush
  rw [Rides.column_self, Rides.column_self]

theorem DriverDossier.key_flush (loaded new row : DriverDossier) :
    Keyed.key (loaded.flush new row) = Keyed.key row := rfl

theorem VehicleDossier.key_flush (loaded new row : VehicleDossier) :
    Keyed.key (loaded.flush new row) = Keyed.key row := rfl

/-- A profile that is flushed over the row that was loaded, with the same rating. -/
theorem DriverDossier.flush_self (hid : profile'.id = profile.id) (hrating : profile'.ratingAvg = profile.ratingAvg) :
    profile.flush profile' profile = profile' := by
  unfold flush
  rw [if_pos hrating, ← hrating, ← hid]
  simp only [Rides.column_self, DocumentRef.flush_self, Reviews.flush_self]

theorem VehicleDossier.flush_self (hid : vehicle'.id = vehicle.id) :
    vehicle.flush vehicle' vehicle = vehicle' := by
  unfold flush
  rw [← hid]
  simp only [Rides.column_self, DocumentRef.flush_self, Reviews.flush_self]

theorem DossierDb.id_of_profile {id : UUID} (h : db.profiles.find? id = some profile) : profile.id = id :=
  Table.key_of_find? h

theorem DossierDb.id_of_vehicle {id : UUID} (h : db.vehicles.find? id = some vehicle) : vehicle.id = id :=
  Table.key_of_find? h

theorem DossierDb.find?_of_profileOf {userId : UUID} (h : db.profileOf userId = some profile) :
    db.profiles.find? profile.id = some profile ∧ profile.userId = userId := by
  unfold profileOf at h
  have hmem := List.mem_of_find?_eq_some h
  have huser := List.find?_some h
  exact ⟨Table.find?_key_of_mem hmem, of_decide_eq_true huser⟩

/-! ## Statements -/

/-- The request registers the vehicle for the profile of its user. -/
def DossierCall.Registers (c : DossierCall) (db : DossierDb) (vehicle : VehicleDossier) : Prop :=
  ∃ userId description comfortLevel fields profile,
    c.op = .registerVehicle vehicle.id userId description comfortLevel fields ∧ db.profileOf userId = some profile ∧
      vehicle.driverId = profile.id

/-- A vehicle that is new is registered by the request. -/
def DossierCall.Makes (c : DossierCall) (db db' : DossierDb) : Prop :=
  ∀ vehicle, db.vehicles.find? vehicle.id = none → db'.vehicles.find? vehicle.id = some vehicle →
    c.Registers db vehicle

theorem makes_of_vehicles_eq (h : db'.vehicles = db.vehicles) : c.Makes db db' := by
  intro vehicle hfresh hfound
  rw [h, hfresh] at hfound
  cases hfound

theorem makes_of_written (hvehicle : db.vehicles.find? vehicle.id = some vehicle) (hid : vehicle'.id = vehicle.id)
    (hwritten : Written db.vehicles vehicle' db'.vehicles) : c.Makes db db' := by
  intro other hfresh hfound
  by_cases hother : other.id = vehicle.id
  · rw [hother, hvehicle] at hfresh
    cases hfresh
  · have hne : other.id ≠ Keyed.key vehicle' := fun h => hother (h.trans hid)
    rw [hwritten.other hne, hfresh] at hfound
    cases hfound

/-- Run alone, the program leaves an effect of the request behind, or it raises and leaves nothing behind. -/
def Does (c : DossierCall) (db : DossierDb) (p : Action α) : Prop :=
  Leads id (· = db) (fun _ base cur => base = db ∧ DossierEffect c db cur ∧ c.Makes db cur) p db db

theorem Does.bind_reads {p : Action β} {f : β → Action α} (hp : p.Reads) (h : ∀ b, Does c db (f b)) :
    Does c db (p >>= f) := Leads.bind_reads hp rfl h

theorem Does.raise (e : Err) : Does c db (.raise e : Action α) := rfl

theorem does_ofExcept {x : Except ApiError β} {f : β → Action α} (h : ∀ b, x = .ok b → Does c db (f b)) :
    Does c db (ofExcept x >>= f) := by
  cases x with
  | error e => exact Does.raise _
  | ok b => exact h b rfl

theorem does_requireProfile {userId : UUID} {f : DriverDossier → Action α}
    (h : ∀ profile, db.profiles.find? profile.id = some profile → profile.userId = userId →
      db.profileOf userId = some profile → Does c db (f profile)) : Does c db (requireProfile userId >>= f) := by
  unfold requireProfile findProfileByUserId
  refine Leads.bind_select_bind ?_
  cases hprofile : db.profileOf userId with
  | none => exact Does.raise _
  | some profile =>
    obtain ⟨hfound, huser⟩ := DossierDb.find?_of_profileOf hprofile
    exact h profile hfound huser hprofile

theorem does_reviewedProfile {driverId : UUID} {f : DriverDossier → Action α}
    (h : ∀ profile, db.profiles.find? profile.id = some profile → profile.id = driverId → Does c db (f profile)) :
    Does c db (reviewedProfile driverId >>= f) := by
  unfold reviewedProfile findProfileById
  refine Leads.bind_selectAs_bind ?_
  cases hprofile : db.profiles.find? driverId with
  | none => exact Does.raise _
  | some profile =>
    obtain rfl := DossierDb.id_of_profile hprofile
    exact h profile hprofile rfl

theorem does_requireVehicle {vehicleId : UUID} {f : VehicleDossier → Action α}
    (h : ∀ vehicle, db.vehicles.find? vehicle.id = some vehicle → vehicle.id = vehicleId → Does c db (f vehicle)) :
    Does c db (requireVehicle vehicleId >>= f) := by
  unfold requireVehicle findVehicleById
  refine Leads.bind_select_bind ?_
  cases hvehicle : db.vehicles.find? vehicleId with
  | none => exact Does.raise _
  | some vehicle =>
    obtain rfl := DossierDb.id_of_vehicle hvehicle
    exact h vehicle hvehicle rfl

theorem does_saveProfile (hprofile : db.profiles.find? profile.id = some profile)
    (hid : profile'.id = profile.id) (hrating : profile'.ratingAvg = profile.ratingAvg)
    (hchange : ProfileChange c profile profile') : Does c db (saveProfile profile') := by
  unfold saveProfile
  refine Leads.bind_select ?_
  rw [hid, hprofile]
  refine Leads.of_bind_ret (Leads.bind_update (Leads.ret ⟨rfl, ?_⟩))
  refine ⟨.profileChanged profile profile' hprofile hchange ?_ rfl, makes_of_vehicles_eq rfl⟩
  exact written_update (DriverDossier.key_flush profile profile') hprofile (DriverDossier.flush_self hid hrating)

theorem does_insertProfile (hfresh : db.profiles.find? profile.id = none) (hreviews : profile.reviews = {})
    (hstatus : profile.status = .pendingVerification) : Does c db (saveProfile profile) := by
  unfold saveProfile
  refine Leads.bind_select ?_
  rw [hfresh]
  refine Leads.of_bind_ret (Leads.bind_writeOrRaise rfl fun _ => Leads.ret ⟨rfl, ?_⟩)
  exact ⟨.profileCreated profile hfresh hreviews hstatus (written_insert hfresh) rfl, makes_of_vehicles_eq rfl⟩

theorem does_saveVehicle {e : Err} (hvehicle : db.vehicles.find? vehicle.id = some vehicle)
    (hid : vehicle'.id = vehicle.id) (hchange : VehicleChange c vehicle vehicle') :
    Does c db (saveVehicle vehicle' e) := by
  unfold saveVehicle
  refine Leads.bind_select ?_
  rw [hid, hvehicle]
  refine Leads.of_bind_ret (Leads.bind_writeOrRaise rfl fun _ => Leads.ret ⟨rfl, ?_⟩)
  have hwritten := written_update (VehicleDossier.key_flush vehicle vehicle') hvehicle (VehicleDossier.flush_self hid)
  exact ⟨.vehicleChanged vehicle vehicle' hvehicle hchange hwritten rfl, makes_of_written hvehicle hid hwritten⟩

theorem does_insertVehicle {e : Err} (hfresh : db.vehicles.find? vehicle.id = none) (hreviews : vehicle.reviews = {})
    (hstatus : vehicle.verificationStatus = .pendingVerification) (hregisters : c.Registers db vehicle) :
    Does c db (saveVehicle vehicle e) := by
  unfold saveVehicle
  refine Leads.bind_select ?_
  rw [hfresh]
  refine Leads.of_bind_ret (Leads.bind_writeOrRaise rfl fun _ => Leads.ret ⟨rfl, ?_⟩)
  refine ⟨.vehicleCreated vehicle hfresh hreviews hstatus (written_insert hfresh) rfl, ?_⟩
  intro other hother hfound
  by_cases hid : Keyed.key vehicle = other.id
  · rw [← hid, Table.find?_insert_self hfresh] at hfound
    obtain rfl := Option.some.inj hfound
    exact hregisters
  · rw [Table.find?_insert_of_ne _ hid, hother] at hfound
    cases hfound

/-! ## Requests -/

theorem reads_categoryOf (category : String) : (categoryOf category).Reads := by
  unfold categoryOf
  split
  · exact Reads.ret _
  · exact Reads.raise _

theorem reads_comfortOf (comfortLevel : String) : (comfortOf comfortLevel).Reads := by
  unfold comfortOf
  split
  · exact Reads.ret _
  · exact Reads.raise _

/-- What a computation that returns has gone through. -/
theorem bind_ok {ε : Type} {x : Except ε α} {f : α → Except ε β} {b : β} (h : (x >>= f) = .ok b) :
    ∃ a, x = .ok a ∧ f a = .ok b := by
  cases x with
  | error e => cases h
  | ok a => exact ⟨a, rfl, h⟩

theorem DriverDossier.resubmit_ok {licenseNumber : Option String} {fields : KycFields} {order : SetOrder KycDocument}
    {now : DateTime} (h : profile.resubmit licenseNumber fields order now = .ok profile') :
    profile'.id = profile.id ∧ profile'.ratingAvg = profile.ratingAvg ∧ profile'.status = .pendingVerification ∧
      profile'.papers = ⟨fun d => (profile.documents d).updated (fields.documents d),
        markResubmittedDocumentsPending profile.reviews fields.documents order now⟩ := by
  unfold resubmit at h
  split_ifs at h
  obtain rfl := Except.ok.inj h
  exact ⟨rfl, rfl, rfl, rfl⟩

theorem DriverDossier.approve_ok {reviewer : UUID} {notes : Option String} {documents : List DocumentDecision}
    {order : SetOrder KycDocument} {now : DateTime}
    (h : profile.approve reviewer notes documents order now = .ok profile') :
    profile'.id = profile.id ∧ profile'.ratingAvg = profile.ratingAvg ∧ profile'.documents = profile.documents ∧
      (∀ d : KycDocument, (profile.documents d).onFile = true) ∧
      (∀ d, profile'.reviews.statusOf d = some .approved) ∧
      ∃ decisions, applyDocumentDecisions profile.reviews decisions reviewer now = .ok profile'.reviews := by
  unfold approve at h
  obtain ⟨_, hcomplete, h⟩ := bind_ok h
  obtain ⟨reviews, hreviews, h⟩ := bind_ok h
  obtain ⟨_, happroved, h⟩ := bind_ok h
  obtain rfl := Except.ok.inj h
  exact ⟨rfl, rfl, rfl, fun d => ensureDocumentsComplete_ok hcomplete d rfl,
    fun d => ensureAllDocumentsApproved_ok happroved d rfl, _, hreviews⟩

theorem DriverDossier.reject_ok {reviewer : UUID} {notes : Option String} {documents : List DocumentDecision}
    {now : DateTime} (h : profile.reject reviewer notes documents now = .ok profile') :
    profile'.id = profile.id ∧ profile'.ratingAvg = profile.ratingAvg ∧ profile'.documents = profile.documents ∧
      profile'.status = .pendingVerification ∧
      applyDocumentDecisions profile.reviews documents reviewer now = .ok profile'.reviews := by
  unfold reject at h
  obtain ⟨reviews, hreviews, h⟩ := bind_ok h
  obtain rfl := Except.ok.inj h
  exact ⟨rfl, rfl, rfl, rfl, applyRejectionDecisions_ok hreviews⟩

theorem VehicleDossier.approve_ok {reviewer : UUID} {notes : Option String} {documents : List DocumentDecision}
    {order : SetOrder VehicleDocument} {now : DateTime}
    (h : vehicle.approve reviewer notes documents order now = .ok vehicle') :
    vehicle'.id = vehicle.id ∧ vehicle'.documents = vehicle.documents ∧
      (∀ d : VehicleDocument, DocumentType.required d = true → (vehicle.documents d).onFile = true) ∧
      (∀ d, DocumentType.required d = true → vehicle'.reviews.statusOf d = some .approved) ∧
      ∃ decisions, applyDocumentDecisions vehicle.reviews decisions reviewer now = .ok vehicle'.reviews := by
  unfold approve at h
  obtain ⟨_, hcomplete, h⟩ := bind_ok h
  obtain ⟨reviews, hreviews, h⟩ := bind_ok h
  obtain ⟨_, happroved, h⟩ := bind_ok h
  obtain rfl := Except.ok.inj h
  exact ⟨rfl, rfl, ensureDocumentsComplete_ok hcomplete, ensureAllDocumentsApproved_ok happroved, _, hreviews⟩

/-- A review does not change the driver. -/
theorem VehicleDossier.approve_driverId {reviewer : UUID} {notes : Option String} {documents : List DocumentDecision}
    {order : SetOrder VehicleDocument} {now : DateTime}
    (h : vehicle.approve reviewer notes documents order now = .ok vehicle') : vehicle'.driverId = vehicle.driverId := by
  unfold approve at h
  obtain ⟨_, -, h⟩ := bind_ok h
  obtain ⟨_, -, h⟩ := bind_ok h
  obtain ⟨_, -, h⟩ := bind_ok h
  obtain rfl := Except.ok.inj h
  rfl

theorem VehicleDossier.reject_driverId {reviewer : UUID} {notes : Option String} {documents : List DocumentDecision}
    {now : DateTime} (h : vehicle.reject reviewer notes documents now = .ok vehicle') :
    vehicle'.driverId = vehicle.driverId := by
  unfold reject at h
  obtain ⟨_, -, h⟩ := bind_ok h
  obtain rfl := Except.ok.inj h
  rfl

theorem VehicleDossier.reject_ok {reviewer : UUID} {notes : Option String} {documents : List DocumentDecision}
    {now : DateTime} (h : vehicle.reject reviewer notes documents now = .ok vehicle') :
    vehicle'.id = vehicle.id ∧ vehicle'.documents = vehicle.documents ∧
      (vehicle'.verificationStatus = .active ↔
        rejectedRequired vehicle'.reviews = false ∧ vehicle.verificationStatus = .active) ∧
      applyDocumentDecisions vehicle.reviews documents reviewer now = .ok vehicle'.reviews := by
  unfold reject at h
  obtain ⟨reviews, hreviews, h⟩ := bind_ok h
  obtain rfl := Except.ok.inj h
  refine ⟨rfl, rfl, ?_, applyRejectionDecisions_ok hreviews⟩
  dsimp only
  cases rejectedRequired reviews with
  | true => simp
  | false =>
    by_cases hactive : vehicle.verificationStatus = .active
    · simp [hactive]
    · simp [hactive]

theorem does_action (hdraws : c.Draws db) : Does c db c.action := by
  unfold DossierCall.action
  unfold DossierCall.Draws at hdraws
  cases hop : c.op with
  | createProfile id userId licenseNumber fields =>
    rw [hop] at hdraws
    refine Leads.bind_raiseIf rfl fun _ => Leads.bind_select (Leads.bind_raiseIf rfl fun _ => ?_)
    exact does_insertProfile hdraws rfl rfl
  | resubmitKyc userId licenseNumber fields =>
    refine does_requireProfile fun profile hprofile huser _ => does_ofExcept fun profile' h => ?_
    obtain ⟨hid, hrating, -⟩ := DriverDossier.resubmit_ok h
    exact does_saveProfile hprofile hid hrating (.resubmitted (by rw [hop, huser]) h)
  | approveKyc driverId reviewer notes documents =>
    refine does_reviewedProfile fun profile hprofile hdriver => does_ofExcept fun profile' h => ?_
    obtain ⟨hid, hrating, -⟩ := DriverDossier.approve_ok h
    exact does_saveProfile hprofile hid hrating (.approved (by rw [hop, hdriver]) h)
  | rejectKyc driverId reviewer notes documents =>
    refine does_reviewedProfile fun profile hprofile hdriver => does_ofExcept fun profile' h => ?_
    obtain ⟨hid, hrating, -⟩ := DriverDossier.reject_ok h
    exact does_saveProfile hprofile hid hrating (.rejected (by rw [hop, hdriver]) h)
  | updateMyProfilePhoto userId fileId =>
    refine does_requireProfile fun profile hprofile huser _ => ?_
    exact does_saveProfile hprofile rfl rfl (.photographed (.inl (by rw [hop, huser])))
  | updateProfilePhoto driverId fileId =>
    refine does_reviewedProfile fun profile hprofile hdriver => ?_
    exact does_saveProfile hprofile rfl rfl (.photographed (.inr (by rw [hop, hdriver])))
  | registerVehicle id userId description comfortLevel fields =>
    rw [hop] at hdraws
    refine Does.bind_reads (reads_categoryOf _) fun category => Does.bind_reads (reads_comfortOf _) fun level => ?_
    refine does_requireProfile fun profile _ _ hprofile => does_insertVehicle hdraws rfl rfl ?_
    exact ⟨userId, description, comfortLevel, fields, profile, hop, hprofile, rfl⟩
  | updateVehicle userId description =>
    refine Does.bind_reads (reads_categoryOf _) fun category => does_requireProfile fun profile _ _ _ => ?_
    refine Leads.bind_select ?_
    cases hvehicle : db.activeVehicleOf profile.id with
    | none => exact Does.raise _
    | some vehicle =>
      have hfound := Table.find?_key_of_mem (List.mem_of_find?_eq_some hvehicle)
      exact does_saveVehicle hfound rfl (.described hop)
  | resubmitVehicleKyv vehicleId userId fields =>
    refine does_requireProfile fun profile _ _ _ => does_requireVehicle fun vehicle hvehicle hid => ?_
    refine Leads.bind_raiseIf rfl fun _ => ?_
    exact does_saveVehicle hvehicle rfl (.resubmitted (by rw [hop, hid]))
  | approveVehicleKyv vehicleId reviewer notes documents =>
    refine does_requireVehicle fun vehicle hvehicle hvid => does_ofExcept fun vehicle' h => ?_
    obtain ⟨hid, -⟩ := VehicleDossier.approve_ok h
    exact does_saveVehicle hvehicle hid (.approved (by rw [hop, hvid]) h)
  | rejectVehicleKyv vehicleId reviewer notes documents =>
    refine does_requireVehicle fun vehicle hvehicle hvid => does_ofExcept fun vehicle' h => ?_
    obtain ⟨hid, -⟩ := VehicleDossier.reject_ok h
    exact does_saveVehicle hvehicle hid (.rejected (by rw [hop, hvid]) h)
  | setVehiclePartnerOwner vehicleId partnerId driverId =>
    refine Leads.ignore (Leads.bind_select ?_)
    cases hvehicle : db.vehicles.find? vehicleId with
    | none => exact Leads.ret ⟨rfl, .unchanged rfl, makes_of_vehicles_eq rfl⟩
    | some vehicle =>
      obtain rfl := DossierDb.id_of_vehicle hvehicle
      refine Leads.bind_update (Leads.ret ⟨rfl, ?_⟩)
      have hid : (vehicle.assigned partnerId driverId).id = vehicle.id := rfl
      have hwritten := written_update (VehicleDossier.key_flush vehicle (vehicle.assigned partnerId driverId)) hvehicle
        (VehicleDossier.flush_self hid)
      exact ⟨.vehicleChanged vehicle _ hvehicle (.assigned hop) hwritten rfl, makes_of_written hvehicle hid hwritten⟩

/-- What a request leaves behind is one of its effects. -/
theorem effect_call (hdraws : c.Draws db) : DossierEffect c db (c.after db) :=
  Leads.run (E := fun db' => DossierEffect c db db') ((does_action hdraws).mono (fun _ h => .unchanged h)
    fun _ _ _ h => h) fun _ _ _ h => h.2.1

/-- A vehicle that a request makes is one that it registers. -/
theorem makes_call (hdraws : c.Draws db) : c.Makes db (c.after db) :=
  Leads.run (E := fun db' => c.Makes db db') ((does_action hdraws).mono
    (fun _ h => makes_of_vehicles_eq (congrArg DossierDb.vehicles h)) fun _ _ _ h => h) fun _ _ _ h => h.2.2

/-- A request that raises leaves nothing behind. -/
theorem eq_of_raises (hdraws : c.Draws db) (hraises : c.Raises db) : c.after db = db := by
  have h := does_action hdraws
  obtain ⟨e, he⟩ := hraises
  unfold Does Leads at h
  unfold DossierCall.after
  rcases hexec : c.action.exec id db db with ⟨e' | a, base, cur⟩
  · rw [hexec] at h
    rw [run_of_error _ hexec]
    exact h
  · rw [run_of_ok _ hexec] at he
    cases he

end DiddiGo.Dossiers
