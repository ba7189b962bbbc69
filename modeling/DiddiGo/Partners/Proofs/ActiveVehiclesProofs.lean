import DiddiGo.Dossiers.Proofs.ReviewingProofs
import DiddiGo.Partners.Isolation
import DiddiGo.Partners.Proofs.IsolationProofs

/-!
# When a driver has one active vehicle

No request clears the flag on the other vehicles of a driver. The vehicle that a request can make active must be the
only one.
-/

namespace DiddiGo.Partners

open Data (Keyed Table)
open Dossiers (DossierCall DossierDb VehicleDossier VehicleChange Written written_insert written_update)
open Transactions Prog

variable {call : FleetCall} {db db' : FleetDb} {driverId vehicleId : UUID} {vehicle : VehicleDossier}

/-! ## What a query finds -/

/-- The query of `find_active_for_driver` finds one row at most. -/
theorem activeDenotes_of_oneActive (h : db.OneActive) : db.ActiveDenotes := by
  intro driverId rows hperm
  unfold DossierDb.activeVehicleOf
  have hunique : ∀ vehicle ∈ db.vehicles.rows, ∀ vehicle' ∈ db.vehicles.rows,
      (decide (vehicle.driverId = driverId) && vehicle.active) = true →
      (decide (vehicle'.driverId = driverId) && vehicle'.active) = true → vehicle = vehicle' := by
    intro vehicle hmem vehicle' hmem' hv hv'
    simp only [Bool.and_eq_true, decide_eq_true_eq] at hv hv'
    exact h vehicle hmem vehicle' hmem' hv.2 hv'.2 (hv.1.trans hv'.1.symm)
  cases hfound : db.vehicles.rows.find? (fun vehicle => decide (vehicle.driverId = driverId) && vehicle.active) with
  | none =>
    rw [List.find?_eq_none] at hfound ⊢
    exact fun vehicle hmem => hfound vehicle (hperm.mem_iff.mp hmem)
  | some vehicle =>
    have hmem := List.mem_of_find?_eq_some hfound
    have hactive := List.find?_some hfound
    have hsome : (rows.find? fun vehicle => decide (vehicle.driverId = driverId) && vehicle.active).isSome = true :=
      List.find?_isSome.mpr ⟨vehicle, hperm.mem_iff.mpr hmem, hactive⟩
    obtain ⟨vehicle', hfound'⟩ := Option.isSome_iff_exists.mp hsome
    have hmem' := hperm.mem_iff.mp (List.mem_of_find?_eq_some hfound')
    have hactive' := List.find?_some hfound'
    rw [hfound', hunique vehicle' hmem' vehicle hmem hactive' hactive]

/-! ## One step -/

/-- An active vehicle was active before and of the same driver, or the request can make it active. -/
def FleetCall.ActivatesOnly (call : FleetCall) (db db' : FleetDb) : Prop :=
  ∀ vehicle ∈ db'.vehicles.rows, vehicle.active = true →
    (∃ old ∈ db.vehicles.rows, old.id = vehicle.id ∧ old.driverId = vehicle.driverId ∧ old.active = true) ∨
      call.activates db = some (vehicle.id, vehicle.driverId)

theorem activatesOnly_of_eq (h : db'.vehicles = db.vehicles) : call.ActivatesOnly db db' := by
  intro vehicle hmem hactive
  rw [h] at hmem
  exact Or.inl ⟨vehicle, hmem, rfl, rfl, hactive⟩

/-- One vehicle is written. -/
theorem activatesOnly_of_written (hwritten : Written db.vehicles vehicle db'.vehicles)
    (h : vehicle.active = true →
      (∃ old ∈ db.vehicles.rows, old.id = vehicle.id ∧ old.driverId = vehicle.driverId ∧ old.active = true) ∨
        call.activates db = some (vehicle.id, vehicle.driverId)) : call.ActivatesOnly db db' := by
  intro other hmem hactive
  have hfound := Table.find?_key_of_mem hmem
  by_cases hother : Keyed.key other = Keyed.key vehicle
  · rw [hother, hwritten.self] at hfound
    obtain rfl := Option.some.inj hfound
    exact h hactive
  · rw [hwritten.other hother] at hfound
    exact Or.inl ⟨other, Table.mem_of_find? hfound, rfl, rfl, hactive⟩

/-- A step that activates at most a vehicle that is then the only one. -/
theorem oneActive_of_activatesOnly (h : call.ActivatesOnly db db') (halone : call.KeepsAlone db)
    (hone : db.OneActive) : db'.OneActive := by
  intro vehicle hmem vehicle' hmem' hactive hactive' hdriver
  have hid : vehicle.id = vehicle'.id := by
    rcases h vehicle hmem hactive with ⟨old, hold, hid, hsame, hon⟩ | hmakes <;>
      rcases h vehicle' hmem' hactive' with ⟨old', hold', hid', hsame', hon'⟩ | hmakes'
    · have heq := hone old hold old' hold' hon hon' (by rw [hsame, hsame', hdriver])
      rw [← hid, ← hid', heq]
    · have hsingle := halone _ hmakes' old hold (hsame.trans hdriver) hon
      exact hid.symm.trans hsingle
    · have hsingle := halone _ hmakes old' hold' (hsame'.trans hdriver.symm) hon'
      exact (hid'.symm.trans hsingle).symm
    · exact congrArg Prod.fst (Option.some.inj (hmakes.symm.trans hmakes'))
  have hfound := Table.find?_key_of_mem hmem
  have hfound' := Table.find?_key_of_mem hmem'
  exact Option.some.inj (hfound.symm.trans ((congrArg db'.vehicles.find? hid).trans hfound'))

/-! ## Requests of drivers and reviewers -/

theorem activatesOnly_of_change {c : DossierCall} {vehicle' : VehicleDossier}
    (hvehicle : db.vehicles.find? vehicle.id = some vehicle) (hchange : VehicleChange c vehicle vehicle')
    (hwritten : Written db.vehicles vehicle' db'.vehicles) : (FleetCall.dossier c).ActivatesOnly db db' := by
  have hmem : vehicle ∈ db.vehicles.rows := Table.mem_of_find? hvehicle
  refine activatesOnly_of_written hwritten fun hactive => ?_
  cases hchange with
  | described hop => exact Or.inl ⟨vehicle, hmem, rfl, rfl, hactive⟩
  | resubmitted hop => exact Or.inl ⟨vehicle, hmem, rfl, rfl, hactive⟩
  | approved hop h =>
    obtain ⟨hid, -⟩ := VehicleDossier.approve_ok h
    have hdriver := VehicleDossier.approve_driverId h
    refine Or.inr ?_
    unfold FleetCall.activates
    simp only [hop, hvehicle, Option.map_some, hid, hdriver]
  | rejected hop h =>
    obtain ⟨hid, -⟩ := VehicleDossier.reject_ok h
    have hdriver := VehicleDossier.reject_driverId h
    refine Or.inr ?_
    unfold FleetCall.activates
    simp only [hop, hvehicle, Option.map_some, hid, hdriver]
  | assigned hop =>
    have hon : vehicle.verificationStatus = .active ∧ vehicle.active = true := by
      unfold VehicleDossier.assigned at hactive
      split_ifs at hactive with hstatus
      exact ⟨hstatus, hactive⟩
    refine Or.inr ?_
    unfold FleetCall.activates
    simp only [hop, hvehicle, Option.bind_some, hon, and_self, if_true, VehicleDossier.assigned]

theorem activatesOnly_dossier {c : DossierCall} (hdraws : c.Draws db.toDossierDb) :
    (FleetCall.dossier c).ActivatesOnly db ((FleetCall.dossier c).after db) := by
  have hmakes := Dossiers.makes_call hdraws
  cases Dossiers.effect_call hdraws with
  | unchanged h => exact activatesOnly_of_eq (congrArg DossierDb.vehicles h)
  | profileCreated profile hfresh hreviews hstatus hprofiles hvehicles => exact activatesOnly_of_eq hvehicles
  | profileChanged profile profile' hprofile hchange hprofiles hvehicles => exact activatesOnly_of_eq hvehicles
  | vehicleCreated vehicle hfresh hreviews hstatus hvehicles hprofiles =>
    refine activatesOnly_of_written hvehicles fun _ => Or.inr ?_
    obtain ⟨userId, description, comfortLevel, fields, profile, hop, hprofile, hdriver⟩ :=
      hmakes vehicle hfresh hvehicles.self
    unfold FleetCall.activates
    simp only [hop, hprofile, Option.map_some, hdriver]
  | vehicleChanged vehicle vehicle' hvehicle hchange hvehicles hprofiles =>
    exact activatesOnly_of_change hvehicle hchange hvehicles

/-! ## Requests for a partner -/

/-- Run alone, the program activates only what the request can make active. -/
def Activates (c : PartnerCall) (db : FleetDb) (p : Action Unit) : Prop :=
  Leads id ((FleetCall.partner c).ActivatesOnly db) (fun _ _ cur => (FleetCall.partner c).ActivatesOnly db cur) p db db

variable {c : PartnerCall}

theorem activates_deactivateMember (memberId : UUID) : Activates c db (c.deactivateMember memberId) := by
  have hE : (FleetCall.partner c).ActivatesOnly db db := activatesOnly_of_eq rfl
  refine leads_requirePartner hE fun _ _ => Leads.bind
    (R := fun _ base' (cur' : FleetDb) => base' = db ∧ cur'.vehicles = db.vehicles) ?_ ?_
  · refine Leads.bind_select ?_
    cases hmember : db.members.find? memberId with
    | none => exact Leads.ret ⟨rfl, rfl⟩
    | some member => exact Leads.bind_update (Leads.ret ⟨rfl, rfl⟩)
  · rintro removed _ _ ⟨rfl, hvehicles⟩
    exact Leads.of_bind_ret (Leads.bind_raiseIf hE fun _ => Leads.ret (activatesOnly_of_eq hvehicles))

theorem activates_affiliateDriver (driverId : UUID) : Activates c db (c.affiliateDriver driverId) := by
  have hE : (FleetCall.partner c).ActivatesOnly db db := activatesOnly_of_eq rfl
  refine leads_requireActivePartner hE fun partner _ _ => Leads.bind_select ?_
  cases db.linkOf driverId with
  | some found => exact Leads.raise hE
  | none =>
    exact Leads.of_bind_ret (Leads.bind_writeOrRaise hE fun _ => Leads.ret (activatesOnly_of_eq rfl))

theorem activates_unaffiliateDriver (driverId : UUID) : Activates c db (c.unaffiliateDriver driverId) := by
  have hE : (FleetCall.partner c).ActivatesOnly db db := activatesOnly_of_eq rfl
  refine leads_requirePartner hE fun _ _ => Leads.bind
    (R := fun _ base' (cur' : FleetDb) => base' = db ∧ cur'.vehicles = db.vehicles)
    (leads_endDriverLink ⟨rfl, rfl⟩) ?_
  rintro removed _ _ ⟨rfl, hvehicles⟩
  exact Leads.of_bind_ret (Leads.bind_raiseIf hE fun _ => Leads.ret (activatesOnly_of_eq hvehicles))

theorem activates_unassignVehicle (vehicleId : UUID) : Activates c db (c.unassignVehicle vehicleId) := by
  have hE : (FleetCall.partner c).ActivatesOnly db db := activatesOnly_of_eq rfl
  refine leads_requirePartner hE fun _ _ => Leads.bind
    (R := fun _ base' (cur' : FleetDb) => base' = db ∧ cur'.vehicles = db.vehicles)
    (leads_endVehicleAssignment ⟨rfl, rfl⟩) ?_
  rintro removed _ _ ⟨rfl, hvehicles⟩
  exact Leads.of_bind_ret (Leads.bind_raiseIf hE fun _ => Leads.ret (activatesOnly_of_eq hvehicles))

theorem activates_assignVehicle (hop : c.op = .assignVehicle vehicleId driverId) :
    Activates c db (c.assignVehicle vehicleId driverId) := by
  have hE : (FleetCall.partner c).ActivatesOnly db db := activatesOnly_of_eq rfl
  refine leads_requireActivePartner hE fun _ _ _ => Leads.bind_select (Leads.bind_raiseIf hE fun _ =>
    Leads.bind_select ?_)
  cases db.assignmentOf vehicleId with
  | some current => exact Leads.raise hE
  | none =>
    refine leads_setVehiclePartnerOwner (fun _ => Leads.bind_raiseIf hE fun h => absurd rfl h)
      fun vehicle hvehicle hid => ?_
    refine Leads.bind_raiseIf hE fun _ => Leads.of_bind_ret (Leads.bind_writeOrRaise hE fun _ => Leads.ret ?_)
    subst hid
    have hkey : (vehicle.assigned c.partnerId driverId).id = vehicle.id := rfl
    refine activatesOnly_of_written (written_update (VehicleDossier.key_flush vehicle _) hvehicle
      (VehicleDossier.flush_self hkey)) fun hactive => Or.inr ?_
    have hon : vehicle.verificationStatus = .active ∧ vehicle.active = true := by
      unfold VehicleDossier.assigned at hactive
      split_ifs at hactive with hstatus
      exact ⟨hstatus, hactive⟩
    unfold FleetCall.activates
    simp only [hop, hvehicle, Option.bind_some, hon, and_self, if_true, VehicleDossier.assigned]

theorem activates_createVehicle {description : Dossiers.VehicleDescription} {comfortLevel : String}
    {fields : Dossiers.KyvFields} (hdraws : c.Draws db)
    (hop : c.op = .createVehicle driverId description comfortLevel fields) :
    Activates c db (c.createVehicle driverId description comfortLevel fields) := by
  have hE : (FleetCall.partner c).ActivatesOnly db db := activatesOnly_of_eq rfl
  refine leads_requireActivePartner hE fun _ _ _ => ?_
  unfold Dossiers.findProfileById
  rw [embed_selectAs rfl]
  refine Leads.bind_select ?_
  cases (onDossiers.get db).profiles.find? driverId with
  | none => exact Leads.raise hE
  | some profile =>
    refine leads_ensureDriverAffiliated hE fun db' haffiliates => ?_
    refine Leads.bind_reads (reads_requiredText _ _) hE fun plateNumber => ?_
    refine Leads.bind_reads (reads_allowed _ _ _ _ _ _) hE fun category => ?_
    refine Leads.bind_reads (reads_allowed _ _ _ _ _ _) hE fun comfortLevel => ?_
    have hvehicles : db'.vehicles = db.vehicles := congrArg DossierDb.vehicles haffiliates.part
    have hfresh : db'.vehicles.find? c.vehicleId = none := hvehicles ▸ hdraws.vehicle
    refine leads_insertVehicle hfresh hE (Leads.of_bind_ret (Leads.bind_writeOrRaise hE fun _ => Leads.ret ?_))
    have hwritten : Written db.vehicles (c.vehicle driverId plateNumber description category comfortLevel fields)
        (db'.vehicles.insert (c.vehicle driverId plateNumber description category comfortLevel fields)) := by
      rw [← hvehicles]
      exact written_insert hfresh
    refine activatesOnly_of_written hwritten fun _ => Or.inr ?_
    unfold FleetCall.activates
    simp only [hop, PartnerCall.vehicle]

theorem activatesOnly_partner (hdraws : c.Draws db) :
    (FleetCall.partner c).ActivatesOnly db ((FleetCall.partner c).after db) := by
  have hE : (FleetCall.partner c).ActivatesOnly db db := activatesOnly_of_eq rfl
  suffices h : Activates c db c.action from Leads.run h fun _ _ _ h => h
  unfold PartnerCall.action
  cases hop : c.op with
  | addMember userId role =>
    refine leads_requirePartner hE fun _ _ => Leads.bind_reads (reads_allowed _ _ _ _ _ _) hE fun role => ?_
    exact leads_saveMember hE (activatesOnly_of_eq rfl)
  | deactivateMember memberId => exact activates_deactivateMember memberId
  | affiliateDriver driverId => exact activates_affiliateDriver driverId
  | unaffiliateDriver driverId => exact activates_unaffiliateDriver driverId
  | assignVehicle vehicleId driverId => exact activates_assignVehicle hop
  | createVehicle driverId description comfortLevel fields => exact activates_createVehicle hdraws hop
  | unassignVehicle vehicleId => exact activates_unassignVehicle vehicleId

/-! ## Histories -/

/-- If every vehicle that is made active is then the only one of its driver, a driver has one active vehicle, and a
query for it denotes it whatever the order of the rows. -/
theorem oneActive_run (calls : List FleetCall) (hone : db.OneActive)
    (hdraws : EachStep FleetCall.after FleetCall.Draws calls db)
    (halone : EachStep FleetCall.after FleetCall.KeepsAlone calls db) :
    (runFleet calls db).OneActive ∧ (runFleet calls db).ActiveDenotes := by
  have h : (runFleet calls db).OneActive := by
    refine inv_runSteps (P := fun call db => FleetCall.Draws call db ∧ FleetCall.KeepsAlone call db)
      (eachStep_and hdraws halone) hone fun call db hcall hone => ?_
    refine oneActive_of_activatesOnly ?_ hcall.2 hone
    cases call with
    | dossier c => exact activatesOnly_dossier hcall.1
    | partner c => exact activatesOnly_partner hcall.1
  exact ⟨h, activeDenotes_of_oneActive h⟩

namespace Sample

/-- User 10 drives as 20 and user 11 as 21; partner 1 is active. -/
def garage : FleetDb where
  profiles := (Table.empty.insert { id := 20, userId := 10, licenseNumber := "L-1" }).insert
    { id := 21, userId := 11, licenseNumber := "L-2" }
  partners := Table.empty.insert { id := 1, status := .active }

/-- User 10 registers a vehicle. -/
def registration (vehicleId : UUID) (plateNumber : String) : FleetCall :=
  .dossier (Dossiers.Sample.dossierCall 1 (.registerVehicle vehicleId 10
    { plateNumber := plateNumber, category := "standard" } "standard" {}))

/-- Partner 1 makes a vehicle for driver 21. -/
def creation : PartnerCall :=
  partnerCall 1 (.createVehicle 21 { plateNumber := "aa-2", category := "standard" } "standard" {})

theorem draws_creation : creation.Draws (runFleet [registration 40 "aa-1"] garage) where
  member := by decide +kernel
  link := by decide +kernel
  vehicle := by decide +kernel
  assignment := by decide +kernel

theorem draws_registration (vehicleId : UUID) (plateNumber : String) :
    (registration vehicleId plateNumber).Draws garage := rfl

theorem oneActive_garage : garage.OneActive := by
  intro vehicle hmem
  cases hmem

end Sample

/-- Two drivers get a vehicle each. -/
theorem oneActive_run_two : (runFleet [Sample.registration 40 "aa-1", .partner Sample.creation] Sample.garage).OneActive ∧
    (runFleet [Sample.registration 40 "aa-1", .partner Sample.creation] Sample.garage).ActiveDenotes :=
  oneActive_run _ Sample.oneActive_garage ⟨Sample.draws_registration 40 "aa-1", Sample.draws_creation, trivial⟩
    (by decide +kernel)

/-- A driver who registers two vehicles has two active ones, and the order of the rows decides which one is found. -/
theorem not_oneActive_registered :
    ¬ (runFleet [Sample.registration 40 "aa-1", Sample.registration 41 "aa-3"] Sample.garage).OneActive ∧
      ¬ (runFleet [Sample.registration 40 "aa-1", Sample.registration 41 "aa-3"] Sample.garage).ActiveDenotes := by
  have hdenotes : ¬ (runFleet [Sample.registration 40 "aa-1", Sample.registration 41 "aa-3"]
      Sample.garage).ActiveDenotes := by
    intro h
    have hreverse := congrArg (Option.map fun vehicle => vehicle.id) (h 20 _ (List.reverse_perm _))
    exact absurd hreverse (by decide +kernel)
  exact ⟨fun h => hdenotes (activeDenotes_of_oneActive h), hdenotes⟩

end DiddiGo.Partners
