import DiddiGo.Partners.Fleet
import DiddiGo.Partners.Proofs.IsolationProofs
import DiddiGo.Transactions.Proofs.TimelinessProofs
import DiddiGo.Transactions.Proofs.UniqueKeysProofs

/-!
# Links and assignments in force

A driver has one link in force and a vehicle has one assignment in force, in every run of requests for partners.
-/

namespace DiddiGo.Partners

open Data (Keyed Table)
open Dossiers (VehicleDossier DossierDb)
open Transactions Prog RelyGuarantee

variable {call : PartnerCall} {db db' : FleetDb} {partnerId driverId vehicleId : UUID}

/-! ## Programs that claim nothing -/

section

variable {Proc : Type} {i : Proc} {T : ActiveKey → Prop} {α : Type}

/-- The program claims no key. -/
abbrev Claimless (i : Proc) (T : ActiveKey → Prop) (p : Action α) : Prop :=
  (activeIndex.discipline (machine Proc)).Stays i (activeIndex.Safe T) p

/-- What is known of the keys at the request's statements. -/
theorem stage_active : (activeIndex.discipline (machine Proc)).Stage i activeIndex.Harmless (activeIndex.Safe T) :=
  Index.stage_safe

/-- A change that leaves links and assignments alone. -/
theorem harmless_of_eq {f : FleetDb → FleetDb} (hlinks : ∀ db, (f db).links = db.links)
    (hassignments : ∀ db, (f db).assignments = db.assignments) : activeIndex.Harmless f := by
  intro k db
  cases k with
  | driver driverId =>
    unfold activeIndex
    dsimp only
    rw [hlinks]
  | vehicle vehicleId =>
    unfold activeIndex
    dsimp only
    rw [hassignments]

theorem claimless_requirePartner (partnerId : UUID) : Claimless i T (requirePartner partnerId) := by
  refine Stays.bind (.select stage_active _) fun found => ?_
  cases found with
  | some partner => exact .ret partner
  | none => exact .raise _

theorem claimless_requireActivePartner (partnerId : UUID) : Claimless i T (requireActivePartner partnerId) :=
  .bind (claimless_requirePartner partnerId) fun partner => .bind (.raiseIf _ _) fun _ => .ret partner

theorem claimless_allowed {β : Type} (value : β → String) (all : List β) (code message field text : String) :
    Claimless i T (allowed value all code message field text) := by
  unfold allowed
  cases all.find? fun a => value a = text with
  | some a => exact .ret a
  | none => exact .raise _

theorem claimless_requiredText (text field : String) : Claimless i T (requiredText text field) := by
  unfold requiredText
  cases Dossiers.blankToNone (some text) with
  | some text => exact .ret text
  | none => exact .raise _

theorem claimless_saveMember (member : PartnerMember) : Claimless i T (saveMember member) := by
  refine .stmt stage_active (fun v => ?_) fun v => ?_
  · by_cases hviolation : (v.memberViolation member).isSome = true
    · simp only [hviolation, if_true]
      exact fun _ _ => rfl
    · simp only [hviolation]
      exact harmless_of_eq (fun _ => rfl) fun _ => rfl
  · cases v.memberViolation member with
    | some e => exact Stays.raise (S := sig) e
    | none => exact Stays.ret ()

theorem claimless_deactivateMember (memberId : UUID) : Claimless i T (deactivateMember memberId) := by
  refine .bind (.select stage_active _) fun found => ?_
  cases found with
  | none => exact .ret false
  | some member =>
    exact .bind (.update stage_active (harmless_of_eq (fun _ => rfl) fun _ => rfl)) fun _ => .ret true

theorem claimless_setVehiclePartnerOwner (vehicleId partnerId driverId : UUID) :
    Claimless i T (setVehiclePartnerOwner vehicleId partnerId driverId) := by
  refine .bind (.select stage_active _) fun found => ?_
  cases found with
  | none => exact .ret false
  | some vehicle =>
    exact .bind (.update stage_active (harmless_of_eq (fun _ => rfl) fun _ => rfl)) fun _ => .ret true

theorem claimless_onDossiers {p : Dossiers.Action α} (hp : p.Silent) : Claimless i T (p.embed onDossiers) :=
  stays_embed stage_active (fun _ => rfl) (fun _ => harmless_of_eq (fun _ => rfl) fun _ => rfl) hp

end

/-! ## Statements that claim or free keys -/

section

variable {Proc : Type} {i : Proc} {T : ActiveKey → Prop} {P : Point (machine Proc)}

theorem activeDriver_of_free {link : PartnerDriverLink} (h : db.linkViolated link = false) :
    activeIndex.entries (.driver link.driverId) db = [] := by
  have hfree : db.hasLink link.driverId = false := by
    simp only [FleetDb.linkViolated, Bool.or_eq_false_iff] at h
    exact h.1.1.2
  change ((db.links.rows.filter fun other => decide (other.driverId = link.driverId) && other.active).map _) = []
  rw [List.map_eq_nil_iff, List.filter_eq_nil_iff]
  exact fun other hother hactive => (List.any_eq_false.mp hfree other hother) hactive

theorem activeVehicle_of_free {assignment : VehicleAssignment} (h : db.assignmentViolated assignment = false) :
    activeIndex.entries (.vehicle assignment.vehicleId) db = [] := by
  have hfree : db.hasAssignment assignment.vehicleId = false := by
    simp only [FleetDb.assignmentViolated, Bool.or_eq_false_iff] at h
    exact h.1.1.1.2
  change ((db.assignments.rows.filter (VehicleAssignment.ending assignment.vehicleId)).map _) = []
  rw [List.map_eq_nil_iff, List.filter_eq_nil_iff]
  exact fun other hother hactive => (List.any_eq_false.mp hfree other hother) hactive

/-- One more row is at most one more entry. -/
theorem length_filter_insert_le {ρ : Type} [Keyed ρ UUID] (t : Table ρ) (r : ρ) (q : ρ → Bool) (f : ρ → UUID) :
    (((t.insert r).rows.filter q).map f).length ≤ ((t.rows.filter q).map f).length + 1 := by
  simp only [List.length_map]
  cases hr : t.find? (Keyed.key r) with
  | some x =>
    rw [Table.insert_of_some hr]
    omega
  | none =>
    rw [Table.rows_insert hr, List.filter_append, List.length_append]
    have hone : ([r].filter q).length ≤ 1 := List.length_filter_le q [r]
    omega

/-- Rows that were not entries do not become entries. -/
theorem length_filter_updateWhere_le {ρ : Type} [Keyed ρ UUID] (t : Table ρ) (p q : ρ → Bool) (g : ρ → ρ)
    (hg : ∀ r, Keyed.key (g r) = Keyed.key r) (f : ρ → UUID) (h : ∀ r, q (g r) = true → q r = true) :
    (((t.updateWhere p g hg).rows.filter q).map f).length ≤ ((t.rows.filter q).map f).length := by
  simp only [List.length_map, ← List.countP_eq_length_filter]
  unfold Table.updateWhere
  rw [List.countP_map]
  refine List.countP_mono_left fun r _ hr => ?_
  by_cases hp : p r = true
  · simp only [Function.comp_apply, hp, if_true] at hr
    exact h r hr
  · simpa [hp] using hr

/-- Ending links of other drivers keeps the entries of a driver. -/
theorem activeDriver_end {p : PartnerDriverLink → Bool} (now : DateTime)
    (h : ∀ link ∈ db.links.rows, p link = true → link.driverId ≠ driverId) :
    (db.links.updateWhere p (fun link => { link with active := false, endedAt := some now })
        (PartnerDriverLink.key_ended now)).rows.filter
      (fun link => decide (link.driverId = driverId) && link.active) =
      db.links.rows.filter fun link => decide (link.driverId = driverId) && link.active :=
  Table.filter_updateWhere fun link hmem hp => by simp [h link hmem hp]

/-- Ending assignments of other vehicles keeps the entries of a vehicle. -/
theorem activeVehicle_end {p : VehicleAssignment → Bool} (now : DateTime)
    (h : ∀ assignment ∈ db.assignments.rows, p assignment = true → assignment.vehicleId ≠ vehicleId) :
    (db.assignments.updateWhere p (fun assignment => { assignment with active := false, endedAt := some now })
        (VehicleAssignment.key_ended now)).rows.filter (VehicleAssignment.ending vehicleId) =
      db.assignments.rows.filter (VehicleAssignment.ending vehicleId) :=
  Table.filter_updateWhere fun assignment hmem hp => by
    simp [VehicleAssignment.ending, h assignment hmem hp]

theorem safe_saveDriverLink {link : PartnerDriverLink} (h : activeIndex.Safe T P) (hT : T (.driver link.driverId)) :
    (activeIndex.discipline (machine Proc)).wpOk i (saveDriverLink link)
      (fun _ => activeIndex.Safe fun k => T k ∧ k ≠ .driver link.driverId) P := by
  refine wpOk_writeOrRaise fun s hs hfree => ?_
  refine h.claim hs hT (List.mem_cons_of_mem _ (List.mem_singleton.mpr rfl)) (activeDriver_of_free hfree) ?_ ?_
  · exact fun db => length_filter_insert_le db.links link _ _
  · intro k db hk
    cases k with
    | vehicle vehicleId => rfl
    | driver driverId =>
      have hne : link.driverId ≠ driverId := fun heq => hk (congrArg ActiveKey.driver heq.symm)
      exact congrArg (List.map PartnerDriverLink.id) (Table.filter_insert db.links
        (q := fun other => decide (other.driverId = driverId) && other.active) (by simp [hne]))

theorem safe_saveVehicleAssignment {assignment : VehicleAssignment} (h : activeIndex.Safe T P)
    (hT : T (.vehicle assignment.vehicleId)) :
    (activeIndex.discipline (machine Proc)).wpOk i (saveVehicleAssignment assignment)
      (fun _ => activeIndex.Safe fun k => T k ∧ k ≠ .vehicle assignment.vehicleId) P := by
  refine wpOk_writeOrRaise fun s hs hfree => ?_
  refine h.claim hs hT (List.mem_cons_of_mem _ (List.mem_singleton.mpr rfl)) (activeVehicle_of_free hfree) ?_ ?_
  · exact fun db => length_filter_insert_le db.assignments assignment _ _
  · intro k db hk
    cases k with
    | driver driverId => rfl
    | vehicle vehicleId =>
      have hne : assignment.vehicleId ≠ vehicleId := fun heq => hk (congrArg ActiveKey.vehicle heq.symm)
      exact congrArg (List.map VehicleAssignment.id) (Table.filter_insert db.assignments
        (q := VehicleAssignment.ending vehicleId) (by simp [VehicleAssignment.ending, hne]))

theorem safe_endDriverLink {now : DateTime} (h : activeIndex.Safe T P) :
    (activeIndex.discipline (machine Proc)).wpOk i (endDriverLink partnerId driverId now)
      (fun _ => activeIndex.Safe fun _ => False) P := by
  refine wpOk_iff.mpr fun s hs => ⟨fun l hl => (Option.some_ne_none l hl.symm).elim, fun a ha => ?_⟩
  refine (h.shrink hs ?_ ?_).mono fun k hk => hk.elim
  · intro k db
    cases k with
    | vehicle vehicleId => exact Nat.le_refl _
    | driver driverId' => exact length_filter_updateWhere_le db.links _ _ _ (PartnerDriverLink.key_ended now) _ (by simp)
  · intro k db hk
    cases k with
    | vehicle vehicleId => rfl
    | driver driverId' =>
      refine congrArg (List.map PartnerDriverLink.id) (activeDriver_end now fun link _ hending => ?_)
      have hne : driverId' ≠ driverId := by
        rintro rfl
        refine hk (List.mem_flatMap.mpr ?_)
        obtain ⟨hid, -⟩ := Bool.and_eq_true_iff.mp hending
        obtain ⟨old, hold, -⟩ := List.mem_map.mp (of_decide_eq_true hid)
        exact ⟨old, hold, List.mem_cons_of_mem _ (List.mem_singleton.mpr rfl)⟩
      have hdriver : link.driverId = driverId := (PartnerDriverLink.ending_iff.mp (Bool.and_eq_true_iff.mp hending).2).2.1
      exact fun heq => hne (heq.symm.trans hdriver)

theorem safe_endVehicleAssignment {now : DateTime} (h : activeIndex.Safe T P) :
    (activeIndex.discipline (machine Proc)).wpOk i (endVehicleAssignment vehicleId now)
      (fun _ => activeIndex.Safe fun _ => False) P := by
  refine wpOk_iff.mpr fun s hs => ⟨fun l hl => (Option.some_ne_none l hl.symm).elim, fun a ha => ?_⟩
  refine (h.shrink hs ?_ ?_).mono fun k hk => hk.elim
  · intro k db
    cases k with
    | driver driverId => exact Nat.le_refl _
    | vehicle vehicleId' =>
      exact length_filter_updateWhere_le db.assignments _ _ _ (VehicleAssignment.key_ended now) _ (by simp [VehicleAssignment.ending])
  · intro k db hk
    cases k with
    | driver driverId => rfl
    | vehicle vehicleId' =>
      refine congrArg (List.map VehicleAssignment.id) (activeVehicle_end now fun assignment _ hending => ?_)
      have hne : vehicleId' ≠ vehicleId := by
        rintro rfl
        refine hk (List.mem_flatMap.mpr ?_)
        obtain ⟨hid, -⟩ := Bool.and_eq_true_iff.mp hending
        obtain ⟨old, hold, -⟩ := List.mem_map.mp (of_decide_eq_true hid)
        exact ⟨old, hold, List.mem_cons_of_mem _ (List.mem_singleton.mpr rfl)⟩
      have hvehicle : assignment.vehicleId = vehicleId :=
        (VehicleAssignment.ending_iff.mp (Bool.and_eq_true_iff.mp hending).2).1
      exact fun heq => hne (heq.symm.trans hvehicle)

end

/-! ## Requests -/

section

variable {Proc : Type} {i : Proc} {P : Point (machine Proc)}

/-- What a request publishes in the end keeps the keys unique. -/
abbrev Ending (i : Proc) (p : Action Unit) (P : Point (machine Proc)) : Prop :=
  (activeIndex.discipline (machine Proc)).wpOk i p (fun _ => activeIndex.Safe fun _ => False) P

/-- A request that claims nothing. -/
theorem Claimless.ending {T : ActiveKey → Prop} {p : Action Unit} (hp : Claimless i T p) (h : activeIndex.Safe T P) :
    Ending i p P :=
  wpOk_mono (hp P h) fun _ _ hP => hP.mono fun _ hk => hk.elim

theorem ending_affiliateDriver (h : activeIndex.Safe (fun _ => True) P) : Ending i (call.affiliateDriver driverId) P := by
  refine wpOk_bind (claimless_requireActivePartner call.partnerId P h) fun partner P₁ h₁ => ?_
  refine wpOk_bind (Stays.select stage_active (fun db : FleetDb => db.linkOf driverId) P₁ h₁) fun found P₂ h₂ => ?_
  cases found with
  | some existing => exact wpOk_raise
  | none => exact wpOk_mono (safe_saveDriverLink h₂ trivial) fun _ _ hP => hP.mono fun _ hk => hk.elim

theorem ending_unaffiliateDriver (h : activeIndex.Safe (fun _ => True) P) :
    Ending i (call.unaffiliateDriver driverId) P := by
  refine wpOk_bind (claimless_requirePartner call.partnerId P h) fun _ P₁ h₁ => ?_
  exact wpOk_bind (safe_endDriverLink h₁) fun removed P₂ h₂ => wpOk_raiseIf fun _ => h₂

theorem ending_unassignVehicle (h : activeIndex.Safe (fun _ => True) P) :
    Ending i (call.unassignVehicle vehicleId) P := by
  refine wpOk_bind (claimless_requirePartner call.partnerId P h) fun _ P₁ h₁ => ?_
  exact wpOk_bind (safe_endVehicleAssignment h₁) fun removed P₂ h₂ => wpOk_raiseIf fun _ => h₂

theorem ending_assignVehicle (h : activeIndex.Safe (fun _ => True) P) :
    Ending i (call.assignVehicle vehicleId driverId) P := by
  refine wpOk_bind (claimless_requireActivePartner call.partnerId P h) fun _ P₁ h₁ => ?_
  refine wpOk_bind (Stays.select stage_active (fun db : FleetDb => db.linkOf driverId) P₁ h₁) fun link P₂ h₂ => ?_
  refine wpOk_raiseIf_bind fun _ => ?_
  refine wpOk_bind (Stays.select stage_active (fun db : FleetDb => db.assignmentOf vehicleId) P₂ h₂) fun found P₃ h₃ => ?_
  cases found with
  | some current => exact wpOk_raise
  | none =>
    refine wpOk_bind (claimless_setVehiclePartnerOwner vehicleId call.partnerId driverId P₃ h₃) fun _ P₄ h₄ => ?_
    refine wpOk_raiseIf_bind fun _ => ?_
    exact wpOk_mono (safe_saveVehicleAssignment h₄ trivial) fun _ _ hP => hP.mono fun _ hk => hk.elim

/-- The affiliation of the driver claims no vehicle. -/
theorem ending_ensureDriverAffiliated (h : activeIndex.Safe (fun _ => True) P) :
    (activeIndex.discipline (machine Proc)).wpOk i (call.ensureDriverAffiliated driverId)
      (fun _ => activeIndex.Safe fun k => k ≠ .driver driverId) P := by
  refine wpOk_bind (Stays.select stage_active (fun db : FleetDb => db.linkOf driverId) P h) fun found P₁ h₁ => ?_
  cases found with
  | some existing => exact wpOk_raiseIf fun _ => h₁.mono fun _ _ => trivial
  | none => exact wpOk_mono (safe_saveDriverLink h₁ trivial) fun _ _ hP => hP.mono fun _ hk => ⟨trivial, hk⟩

theorem silent_findProfileById (id : UUID) : (Dossiers.findProfileById id).Silent := Silent.selectAs _ _

theorem silent_saveVehicle (vehicle : VehicleDossier) (e : Err) : (Dossiers.saveVehicle vehicle e).Silent := by
  refine (Silent.select _).bind fun found => ?_
  cases found with
  | some loaded => exact Silent.writeOrRaise _ _ _ _
  | none => exact Silent.writeOrRaise _ _ _ _

theorem ending_createVehicle {description : Dossiers.VehicleDescription} {comfortLevel : String}
    {fields : Dossiers.KyvFields} (h : activeIndex.Safe (fun _ => True) P) :
    Ending i (call.createVehicle driverId description comfortLevel fields) P := by
  refine wpOk_bind (claimless_requireActivePartner call.partnerId P h) fun _ P₁ h₁ => ?_
  refine wpOk_bind (claimless_onDossiers (silent_findProfileById driverId) P₁ h₁) fun found P₂ h₂ => ?_
  cases found with
  | none => exact wpOk_raise
  | some profile =>
    refine wpOk_bind (ending_ensureDriverAffiliated h₂) fun _ P₃ h₃ => ?_
    refine wpOk_bind (claimless_requiredText _ _ P₃ h₃) fun plateNumber P₄ h₄ => ?_
    refine wpOk_bind (claimless_allowed _ _ _ _ _ _ P₄ h₄) fun category P₅ h₅ => ?_
    refine wpOk_bind (claimless_allowed _ _ _ _ _ _ P₅ h₅) fun level P₆ h₆ => ?_
    refine wpOk_bind (claimless_onDossiers (silent_saveVehicle _ _) P₆ h₆) fun _ P₇ h₇ => ?_
    refine wpOk_mono (safe_saveVehicleAssignment h₇ ?_) fun _ _ hP => hP.mono fun _ hk => hk.elim
    exact fun heq => ActiveKey.noConfusion heq

theorem ending_action (h : activeIndex.Safe (fun _ => True) P) : Ending i call.action P := by
  unfold PartnerCall.action
  cases call.op with
  | addMember userId role =>
    refine Claimless.ending ?_ h
    exact .bind (claimless_requirePartner _) fun _ =>
      .bind (claimless_allowed _ _ _ _ _ _) fun role => claimless_saveMember _
  | deactivateMember memberId =>
    refine Claimless.ending ?_ h
    exact .bind (claimless_requirePartner _) fun _ =>
      .bind (claimless_deactivateMember memberId) fun _ => .raiseIf _ _
  | affiliateDriver driverId => exact ending_affiliateDriver h
  | unaffiliateDriver driverId => exact ending_unaffiliateDriver h
  | assignVehicle vehicleId driverId => exact ending_assignVehicle h
  | createVehicle driverId description comfortLevel fields => exact ending_createVehicle h
  | unassignVehicle vehicleId => exact ending_unassignVehicle h

variable [DecidableEq Proc] {calls : Proc → PartnerCall} {ms : List (Move (machine Proc))} {c : Config (machine Proc)}

/-- In every run the keys stay unique. -/
theorem unique_run (hdb : activeIndex.Unique db) (hrun : (initial calls db).run ms = some c) :
    activeIndex.Unique c.shared.db := by
  have hsound : (activeIndex.discipline (machine Proc)).Sound (initial calls db) :=
    sound_initial hdb fun i => Index.verified_of_safe (ending_action (Index.safe_start hdb))
  exact (hsound.run hrun).inv

end

end DiddiGo.Partners
