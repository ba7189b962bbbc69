import DiddiGo.Partners.Proofs.ActiveKeysProofs

/-!
# When fleets fit together

Links, assignments and owners are written after reads without a lock. They fit each other as long as no request is
overtaken by one that it relies on, and no driver leaves with a vehicle.
-/

namespace DiddiGo.Partners

open Data (Keyed Table)
open Dossiers (VehicleDossier DossierDb)
open Transactions Prog RelyGuarantee

variable {call : PartnerCall} {db db' : FleetDb} {partnerId driverId vehicleId : UUID}

/-! ## What requests publish -/

theorem PartnerMember.key_deactivated (member : PartnerMember) :
    Keyed.key { member with active := false } = Keyed.key member := rfl

namespace PartnerCall

variable (call : PartnerCall)

/-- The request may publish the change `f` when `now` is committed and nothing that it relies on has changed since it
was read. -/
inductive Publishes (now : FleetDb) (f : FleetDb → FleetDb) : Prop
  | member (role : PartnerMemberRole) (userId : UUID) (hf : ∀ db, f db =
      { db with
        members := db.members.insert { id := call.memberId, partnerId := call.partnerId, userId := userId, role := role } })
  | deactivated (memberId : UUID) (hf : ∀ db, f db =
      { db with
        members := db.members.update memberId (fun member => { member with active := false })
          (PartnerMember.key_deactivated) })
  | linked (driverId : UUID) (hf : ∀ db, f db = { db with links := db.links.insert (call.link driverId) })
  | unlinked (driverId : UUID) (ids : List UUID)
      (hleaves : ∀ assignment ∈ now.assignments.rows, assignment.active = true →
        assignment.partnerId = call.partnerId → assignment.driverId ≠ driverId)
      (hf : ∀ db, f db =
        { db with
          links := db.links.updateWhere
            (fun link => decide (link.id ∈ ids) && link.ending call.partnerId driverId)
            (fun link => { link with active := false, endedAt := some call.now })
            (PartnerDriverLink.key_ended call.now) })
  | assigned (driverId : UUID) (found : FleetDb) (loaded : VehicleDossier)
      (hloaded : found.vehicles.find? loaded.id = some loaded)
      (haffiliated : now.affiliated call.partnerId driverId = true)
      (hkeeps : call.KeepsOwner loaded.id driverId found now)
      (hf : ∀ db, f db =
        { db with
          vehicles := db.vehicles.update loaded.id
            (fun row => loaded.flush (loaded.assigned call.partnerId driverId) row)
            (VehicleDossier.key_flush_assigned loaded call.partnerId driverId)
          assignments := db.assignments.insert (call.assignment loaded.id driverId) })
  | created (driverId : UUID) (vehicle : VehicleDossier) (links : Table PartnerDriverLink → Table PartnerDriverLink)
      (hvehicle : vehicle.id = call.vehicleId ∧ vehicle.driverId = driverId ∧ vehicle.ownerType = "partner" ∧
        vehicle.partnerId = some call.partnerId)
      (hlinks : (∀ t, links t = t.insert (call.link driverId)) ∨
        (∀ t, links t = t) ∧ now.affiliated call.partnerId driverId = true)
      (hf : ∀ db, f db =
        { db with
          links := links db.links
          vehicles := db.vehicles.insert vehicle
          assignments := db.assignments.insert (call.assignment call.vehicleId driverId) })
  | unassigned (vehicleId : UUID) (ids : List UUID) (hf : ∀ db, f db =
      { db with
        assignments := db.assignments.updateWhere
          (fun assignment => decide (assignment.id ∈ ids) && assignment.ending vehicleId)
          (fun assignment => { assignment with active := false, endedAt := some call.now })
          (VehicleAssignment.key_ended call.now) })

end PartnerCall

section

variable {now : FleetDb} {K : FleetDb → Prop} {α : Type} {C : Action α → (FleetDb → FleetDb) → Prop}
  {Q : α → (FleetDb → FleetDb) → Prop} {f : FleetDb → FleetDb}

theorem assuming_requirePartner {k : Partner → Action α}
    (h : ∀ partner, partner.id = partnerId → (k partner).Assuming K C Q f) :
    (requirePartner partnerId >>= k).Assuming K C Q f := by
  refine Assuming.bind (I := fun partner g => partner.id = partnerId ∧ g = f) ?_ ?_
  · refine Assuming.select_bind fun v found _ hfound => ?_
    cases found with
    | none => exact Assuming.raise
    | some partner => exact Assuming.ret ⟨Table.key_of_find? hfound, rfl⟩
  · rintro partner g ⟨hid, rfl⟩
    exact h partner hid

theorem assuming_requireActivePartner {k : Partner → Action α}
    (h : ∀ partner, partner.id = partnerId → (k partner).Assuming K C Q f) :
    (requireActivePartner partnerId >>= k).Assuming K C Q f := by
  refine Assuming.bind (I := fun partner g => partner.id = partnerId ∧ g = f) ?_ ?_
  · exact assuming_requirePartner fun partner hid => Assuming.raiseIf_bind fun _ => Assuming.ret ⟨hid, rfl⟩
  · rintro partner g ⟨hid, rfl⟩
    exact h partner hid

/-- A check at the end. -/
theorem assuming_raiseIf {c : Prop} [Decidable c] {e : Err} {C : Action Unit → (FleetDb → FleetDb) → Prop}
    {Q : Unit → (FleetDb → FleetDb) → Prop} (h : ¬ c → Q () f) : (Prog.raiseIf c e : Action Unit).Assuming K C Q f := by
  unfold Prog.raiseIf
  split_ifs with hc
  · exact Assuming.raise
  · exact h hc

/-- A program that only checks a text. -/
theorem assuming_allowed {β : Type} {value : β → String} {all : List β} {code message field text : String}
    {k : β → Action α} (h : ∀ b, (k b).Assuming K C Q f) :
    (allowed value all code message field text >>= k).Assuming K C Q f := by
  unfold allowed
  cases all.find? fun a => value a = text with
  | some a => exact h a
  | none => exact Assuming.raise

theorem assuming_requiredText {text field : String} {k : String → Action α} (h : ∀ text, (k text).Assuming K C Q f) :
    (requiredText text field >>= k).Assuming K C Q f := by
  unfold requiredText
  cases Dossiers.blankToNone (some text) with
  | some text => exact h text
  | none => exact Assuming.raise

/-- The driver of a link that is found is affiliated. -/
theorem affiliated_of_linkOf {partner : Partner} {link : PartnerDriverLink} (h : db.linkOf driverId = some (partner, link))
    (hid : partner.id = partnerId) : db.affiliated partnerId driverId = true := by
  obtain ⟨hmem, hdriver, hactive, hpartner⟩ := FleetDb.mem_of_linkOf h
  have hkey : partner.id = link.partnerId := Table.key_of_find? hpartner
  refine List.any_eq_true.mpr ⟨link, hmem, ?_⟩
  simp [hdriver, hactive, hkey.symm.trans hid]

/-! ### One lemma for each request -/

/-- As long as nothing changes that it relies on, the request publishes only what it may. -/
abbrev PublishesOnly (call : PartnerCall) (now : FleetDb) (p : Action Unit) : Prop :=
  p.Assuming (fun db => call.Undisturbed db now ∧ call.Draws db) (fun _ _ => False)
    (fun _ f => call.Publishes now f) id

theorem publishes_addMember (userId : UUID) (role : String) : PublishesOnly call now (call.addMember userId role) := by
  refine assuming_requirePartner fun _ _ => assuming_allowed fun role => ?_
  intro v _
  dsimp only [id_eq]
  cases hviolation : v.memberViolation
      { id := call.memberId, partnerId := call.partnerId, userId := userId, role := role } with
  | some e => exact Assuming.raise
  | none => exact .member role userId fun db => rfl

theorem publishes_deactivateMember (memberId : UUID) : PublishesOnly call now (call.deactivateMember memberId) := by
  refine assuming_requirePartner fun _ _ => ?_
  refine Assuming.bind (I := fun removed f => removed = true → call.Publishes now f) ?_ ?_
  · refine Assuming.select_bind fun v found _ _ => ?_
    cases found with
    | none => exact Assuming.ret fun h => absurd h Bool.false_ne_true
    | some member => exact fun _ _ _ => .deactivated memberId fun db => rfl
  · exact fun removed f hf => assuming_raiseIf fun hremoved => hf (Bool.eq_true_of_not_eq_false hremoved)

theorem publishes_affiliateDriver (driverId : UUID) : PublishesOnly call now (call.affiliateDriver driverId) := by
  refine assuming_requireActivePartner fun partner hpartner => Assuming.select_bind fun v found _ _ => ?_
  cases found with
  | some existing => exact Assuming.raise
  | none =>
    refine Assuming.writeOrRaise fun v _ _ => .linked driverId fun db => ?_
    rw [hpartner]
    rfl

theorem publishes_unaffiliateDriver (hop : call.op = .unaffiliateDriver driverId) :
    PublishesOnly call now (call.unaffiliateDriver driverId) := by
  refine assuming_requirePartner fun _ _ => ?_
  refine Assuming.bind (I := fun _ f => call.Publishes now f) ?_ fun removed f hf => assuming_raiseIf fun _ => hf
  rintro v ⟨hundisturbed, -⟩
  unfold PartnerCall.Undisturbed at hundisturbed
  rw [hop] at hundisturbed
  exact .unlinked driverId _ hundisturbed fun db => rfl

theorem publishes_unassignVehicle (vehicleId : UUID) : PublishesOnly call now (call.unassignVehicle vehicleId) := by
  refine assuming_requirePartner fun _ _ => ?_
  refine Assuming.bind (I := fun _ f => call.Publishes now f) ?_ fun removed f hf => assuming_raiseIf fun _ => hf
  exact fun v _ => .unassigned vehicleId _ fun db => rfl

theorem publishes_assignVehicle (hop : call.op = .assignVehicle vehicleId driverId) :
    PublishesOnly call now (call.assignVehicle vehicleId driverId) := by
  have hundisturbed {v : FleetDb} (hv : call.Undisturbed v now) :
      (v.affiliated call.partnerId driverId = true → now.affiliated call.partnerId driverId = true) ∧
        call.KeepsOwner vehicleId driverId v now := by
    unfold PartnerCall.Undisturbed at hv
    rw [hop] at hv
    exact hv
  refine assuming_requireActivePartner fun _ _ => Assuming.select_bind fun v link hv hlink => ?_
  refine Assuming.raiseIf_bind fun hpartner => Assuming.select_bind fun _ found _ _ => ?_
  have haffiliated : now.affiliated call.partnerId driverId = true := by
    obtain ⟨⟨partner, link⟩, rfl, hid⟩ := Option.map_eq_some_iff.mp (not_not.mp hpartner)
    exact (hundisturbed hv.1).1 (affiliated_of_linkOf hlink hid)
  cases found with
  | some current => exact Assuming.raise
  | none =>
    refine Assuming.bind (I := fun found f => found = true → ∃ v loaded, call.Undisturbed v now ∧
      loaded.id = vehicleId ∧ v.vehicles.find? vehicleId = some loaded ∧ ∀ db, f db =
        { db with
          vehicles := db.vehicles.update vehicleId
            (fun row => loaded.flush (loaded.assigned call.partnerId driverId) row)
            (VehicleDossier.key_flush_assigned loaded call.partnerId driverId) }) ?_ ?_
    · refine Assuming.select_bind fun v found hv hfound => ?_
      cases found with
      | none => exact Assuming.ret fun h => absurd h Bool.false_ne_true
      | some loaded => exact fun _ _ _ => ⟨v, loaded, hv.1, Table.key_of_find? hfound, hfound, fun db => rfl⟩
    · intro found f hf
      refine Assuming.raiseIf_bind fun hfound => Assuming.writeOrRaise fun _ _ _ => ?_
      obtain ⟨v, loaded, hv, rfl, hloaded, hf⟩ := hf (Bool.eq_true_of_not_eq_false hfound)
      refine .assigned driverId v loaded hloaded haffiliated (hundisturbed hv).2 fun db => ?_
      rw [Function.comp_apply, hf]

theorem publishes_createVehicle {description : Dossiers.VehicleDescription} {comfortLevel : String}
    {fields : Dossiers.KyvFields} (hop : call.op = .createVehicle driverId description comfortLevel fields) :
    PublishesOnly call now (call.createVehicle driverId description comfortLevel fields) := by
  have hundisturbed {v : FleetDb} (hv : call.Undisturbed v now) (h : v.affiliated call.partnerId driverId = true) :
      now.affiliated call.partnerId driverId = true := by
    unfold PartnerCall.Undisturbed at hv
    rw [hop] at hv
    exact hv h
  refine assuming_requireActivePartner fun _ _ => ?_
  unfold Dossiers.findProfileById
  rw [embed_selectAs rfl]
  refine Assuming.select_bind fun _ profile _ _ => ?_
  cases profile with
  | none => exact Assuming.raise
  | some profile =>
    refine Assuming.bind (I := fun _ f => ∃ links : Table PartnerDriverLink → Table PartnerDriverLink,
      ((∀ t, links t = t.insert (call.link driverId)) ∨
        (∀ t, links t = t) ∧ now.affiliated call.partnerId driverId = true) ∧
          ∀ db, f db = { db with links := links db.links }) ?_ ?_
    · refine Assuming.select_bind fun v found hv hfound => ?_
      cases found with
      | none => exact Assuming.writeOrRaise fun _ _ _ => ⟨_, Or.inl fun _ => rfl, fun db => rfl⟩
      | some existing =>
        refine assuming_raiseIf fun hid => ⟨id, Or.inr ⟨fun _ => rfl, hundisturbed hv.1 ?_⟩, fun db => rfl⟩
        exact affiliated_of_linkOf hfound (not_not.mp hid)
    · rintro _ f ⟨links, hlinks, hf⟩
      refine assuming_requiredText fun plateNumber => assuming_allowed fun category => assuming_allowed fun level => ?_
      refine Assuming.bind (I := fun _ g => ∀ db, g db = { f db with
        vehicles := (f db).vehicles.insert (call.vehicle driverId plateNumber description category level fields) }) ?_ ?_
      · unfold Dossiers.saveVehicle
        rw [embed_bind, embed_select]
        refine Assuming.select_bind fun v found hv hfound => ?_
        have hnone : found = none := by
          refine hfound.symm.trans ?_
          rw [hf]
          exact hv.2.vehicle
        subst hnone
        dsimp only
        rw [embed_writeOrRaise]
        exact Assuming.writeOrRaise fun _ _ _ db => rfl
      · intro _ g hg
        refine Assuming.writeOrRaise fun _ _ _ => ?_
        refine .created driverId (call.vehicle driverId plateNumber description category level fields) links
          ⟨rfl, rfl, rfl, rfl⟩ hlinks fun db => ?_
        rw [Function.comp_apply, hg, hf]

/-- Every request publishes only what it may. -/
theorem publishes_action : PublishesOnly call now call.action := by
  unfold PartnerCall.action
  cases hop : call.op with
  | addMember userId role => exact publishes_addMember userId role
  | deactivateMember memberId => exact publishes_deactivateMember memberId
  | affiliateDriver driverId => exact publishes_affiliateDriver driverId
  | unaffiliateDriver driverId => exact publishes_unaffiliateDriver hop
  | assignVehicle vehicleId driverId => exact publishes_assignVehicle hop
  | createVehicle driverId description comfortLevel fields => exact publishes_createVehicle hop
  | unassignVehicle vehicleId => exact publishes_unassignVehicle vehicleId

end

/-! ## What is published fits -/

section

variable {now : FleetDb} {f : FleetDb → FleetDb} {other : PartnerCall}

/-- Identifiers that another request has drawn stay unused. -/
theorem PartnerCall.Publishes.draws (h : call.Publishes now f) (hapart : call.Apart other) (hdb : other.Draws db) :
    other.Draws (f db) := by
  cases h with
  | member role userId hf =>
    rw [hf]
    exact { hdb with member := (Table.find?_insert_of_ne db.members hapart.member).trans hdb.member }
  | deactivated memberId hf =>
    rw [hf]
    refine { hdb with member := ?_ }
    simp [Table.find?_update, hdb.member]
  | linked driverId hf =>
    rw [hf]
    exact { hdb with link := (Table.find?_insert_of_ne db.links hapart.link).trans hdb.link }
  | unlinked driverId ids _ hf =>
    rw [hf]
    refine { hdb with link := ?_ }
    simp [Table.find?_updateWhere, hdb.link]
  | assigned driverId found loaded _ _ _ hf =>
    rw [hf]
    refine { hdb with
      vehicle := ?_
      assignment := (Table.find?_insert_of_ne db.assignments hapart.assignment).trans hdb.assignment }
    simp [Table.find?_update, hdb.vehicle]
  | created driverId vehicle links hvehicle hlinks hf =>
    rw [hf]
    refine { hdb with
      link := ?_
      vehicle := (Table.find?_insert_of_ne db.vehicles ?_).trans hdb.vehicle
      assignment := (Table.find?_insert_of_ne db.assignments hapart.assignment).trans hdb.assignment }
    · rcases hlinks with hinsert | ⟨hkeep, -⟩
      · rw [hinsert]
        exact (Table.find?_insert_of_ne db.links hapart.link).trans hdb.link
      · rw [hkeep]
        exact hdb.link
    · exact fun heq => hapart.vehicle (hvehicle.1.symm.trans heq)
  | unassigned vehicleId ids hf =>
    rw [hf]
    refine { hdb with assignment := ?_ }
    simp [Table.find?_updateWhere, hdb.assignment]

/-- A link that is added ends no affiliation. -/
theorem affiliated_mono (hrows : ∀ link ∈ db.links.rows, link ∈ db'.links.rows)
    (h : db.affiliated partnerId driverId = true) : db'.affiliated partnerId driverId = true := by
  obtain ⟨link, hmem, hlink⟩ := List.any_eq_true.mp h
  exact List.any_eq_true.mpr ⟨link, hrows link hmem, hlink⟩

/-- The driver of a link in force is affiliated. -/
theorem affiliated_of_mem {link : PartnerDriverLink} (hmem : link ∈ db.links.rows) (hactive : link.active = true) :
    db.affiliated link.partnerId link.driverId = true :=
  List.any_eq_true.mpr ⟨link, hmem, by simp [hactive]⟩

/-- A row that the condition excludes stays. -/
theorem mem_updateWhere_of_not {ρ : Type} [Keyed ρ UUID] {t : Table ρ} {p : ρ → Bool} {g : ρ → ρ}
    (hg : ∀ r, Keyed.key (g r) = Keyed.key r) {r : ρ} (h : r ∈ t.rows) (hp : ¬ p r = true) :
    r ∈ (t.updateWhere p g hg).rows :=
  List.mem_map.mpr ⟨r, h, if_neg hp⟩

/-- If the new assignment is the only one in force of its vehicle, there was none. -/
theorem vehicle_ne_of_unique {assignment other : VehicleAssignment}
    (hfresh : db.assignments.find? assignment.id = none) (hactive : assignment.active = true)
    (hrows : db'.assignments = db.assignments.insert assignment) (hunique : activeIndex.Unique db')
    (hother : other ∈ db.assignments.rows) (hothers : other.active = true) : other.vehicleId ≠ assignment.vehicleId := by
  intro heq
  have hlength : ((db'.assignments.rows.filter (VehicleAssignment.ending assignment.vehicleId)).map
      VehicleAssignment.id).length ≤ 1 := hunique (.vehicle assignment.vehicleId)
  have hnew : [assignment].filter (VehicleAssignment.ending assignment.vehicleId) = [assignment] :=
    List.filter_eq_self.mpr fun x hx => by
      obtain rfl := List.mem_singleton.mp hx
      exact VehicleAssignment.ending_iff.mpr ⟨rfl, hactive⟩
  have hmem : other ∈ db.assignments.rows.filter (VehicleAssignment.ending assignment.vehicleId) :=
    List.mem_filter.mpr ⟨hother, VehicleAssignment.ending_iff.mpr ⟨heq, hothers⟩⟩
  rw [hrows, Table.rows_insert hfresh, List.filter_append, hnew, List.length_map, List.length_append] at hlength
  have hpos := List.length_pos_of_mem hmem
  simp only [List.length_singleton] at hlength
  omega

/-- The owner that an assignment writes, into a row whose unwritten columns are right. -/
theorem drivesFor_setOwner {found : FleetDb} {loaded : VehicleDossier} {vehicles : Table VehicleDossier}
    {assignment : VehicleAssignment} (hloaded : found.vehicles.find? loaded.id = some loaded)
    (hkeeps : call.KeepsOwner loaded.id driverId found now)
    (hvehicles : vehicles = now.vehicles.update loaded.id
      (fun row => loaded.flush (loaded.assigned call.partnerId driverId) row)
      (VehicleDossier.key_flush_assigned loaded call.partnerId driverId))
    (hdb : db.vehicles = vehicles) (hassignment : assignment = call.assignment loaded.id driverId) :
    db.DrivesFor assignment := by
  subst hassignment
  obtain ⟨row, hrow, htype, hpartner, hdriver⟩ := hkeeps loaded hloaded
  refine ⟨loaded.flush (loaded.assigned call.partnerId driverId) row, ?_, ?_, ?_, ?_⟩
  · rw [hdb, hvehicles]
    exact Table.find?_update_self _ _ hrow
  · change Rides.column loaded.ownerType "partner" row.ownerType = "partner"
    unfold Rides.column
    split_ifs with h
    · exact htype h.symm
    · rfl
  · change Rides.column loaded.partnerId (some call.partnerId) row.partnerId = some call.partnerId
    unfold Rides.column
    split_ifs with h
    · exact hpartner h.symm
    · rfl
  · change Rides.column loaded.driverId driverId row.driverId = driverId
    unfold Rides.column
    split_ifs with h
    · exact hdriver h.symm
    · rfl

/-- What a request publishes keeps assignments in line with links and owners. -/
theorem PartnerCall.Publishes.fits (h : call.Publishes now f) (hnow : now.Linked) (hdraws : call.Draws now)
    (hunique : activeIndex.Unique (f now)) : (f now).Linked := by
  cases h with
  | member role userId hf =>
    rw [hf]
    exact ⟨hnow.affiliated, hnow.owned⟩
  | deactivated memberId hf =>
    rw [hf]
    exact ⟨hnow.affiliated, hnow.owned⟩
  | linked driverId hf =>
    rw [hf]
    refine ⟨fun assignment hmem hactive => ?_, hnow.owned⟩
    refine affiliated_mono (fun link hlink => ?_) (hnow.affiliated assignment hmem hactive)
    exact (Table.rows_prefix_insert now.links _).subset hlink
  | unlinked driverId ids hleaves hf =>
    rw [hf]
    refine ⟨fun assignment hmem hactive => ?_, hnow.owned⟩
    obtain ⟨link, hlink, hfits⟩ := List.any_eq_true.mp (hnow.affiliated assignment hmem hactive)
    refine List.any_eq_true.mpr ⟨link, mem_updateWhere_of_not (PartnerDriverLink.key_ended _) hlink fun hending => ?_,
      hfits⟩
    obtain ⟨hpartner, hdriver, -⟩ := PartnerDriverLink.ending_iff.mp (Bool.and_eq_true_iff.mp hending).2
    simp only [Bool.and_eq_true, decide_eq_true_eq] at hfits
    exact hleaves assignment hmem hactive (hfits.2.symm.trans hpartner) (hfits.1.1.symm.trans hdriver)
  | assigned driverId found loaded hloaded haffiliated hkeeps hf =>
    have hassignments : (f now).assignments = now.assignments.insert (call.assignment loaded.id driverId) := by rw [hf]
    have hne {other : VehicleAssignment} (hother : other ∈ now.assignments.rows) (hactive : other.active = true) :
        other.vehicleId ≠ loaded.id := vehicle_ne_of_unique hdraws.assignment rfl hassignments hunique hother hactive
    constructor
    · intro assignment hmem hactive
      rw [hassignments] at hmem
      rw [hf]
      rcases Table.mem_insert hmem with hold | rfl
      · exact hnow.affiliated assignment hold hactive
      · exact haffiliated
    · intro assignment hmem hactive
      rw [hassignments] at hmem
      rcases Table.mem_insert hmem with hold | hnew
      · obtain ⟨vehicle, hvehicle, howner⟩ := hnow.owned assignment hold hactive
        rw [hf]
        exact ⟨vehicle, (Table.find?_update_of_ne _ _ (VehicleDossier.key_flush_assigned _ _ _)
          (hne hold hactive)).trans hvehicle, howner⟩
      · rw [hf]
        exact drivesFor_setOwner hloaded hkeeps rfl rfl hnew
  | created driverId vehicle links hvehicle hlinks hf =>
    obtain ⟨hid, hdriver, htype, hpartner⟩ := hvehicle
    have hmono : ∀ link ∈ now.links.rows, link ∈ (links now.links).rows := by
      intro link hlink
      rcases hlinks with hinsert | ⟨hkeep, -⟩
      · rw [hinsert]
        exact (Table.rows_prefix_insert _ _).subset hlink
      · rw [hkeep]
        exact hlink
    constructor
    · intro assignment hmem hactive
      rw [hf] at hmem ⊢
      rcases Table.mem_insert hmem with hold | rfl
      · exact affiliated_mono hmono (hnow.affiliated assignment hold hactive)
      · rcases hlinks with hinsert | ⟨-, haffiliated⟩
        · refine affiliated_of_mem ?_ (show (call.link driverId).active = true from rfl)
          dsimp only
          rw [hinsert, Table.rows_insert hdraws.link]
          exact List.mem_append_right _ (List.mem_singleton.mpr rfl)
        · exact affiliated_mono hmono haffiliated
    · intro assignment hmem hactive
      rw [hf] at hmem ⊢
      rcases Table.mem_insert hmem with hold | rfl
      · obtain ⟨old, hold, howner⟩ := hnow.owned assignment hold hactive
        exact ⟨old, Table.find?_insert_of_some vehicle hold, howner⟩
      · refine ⟨vehicle, ?_, htype, hpartner, hdriver⟩
        change (now.vehicles.insert vehicle).find? call.vehicleId = some vehicle
        rw [← hid]
        refine Table.find?_insert_self ?_
        exact (congrArg now.vehicles.find? hid).trans hdraws.vehicle
  | unassigned vehicleId ids hf =>
    have hstays {assignment : VehicleAssignment} (hmem : assignment ∈ (f now).assignments.rows)
        (hactive : assignment.active = true) : assignment ∈ now.assignments.rows := by
      rw [hf] at hmem
      obtain ⟨row, hrow, heq⟩ := List.mem_map.mp hmem
      split_ifs at heq with hending
      · subst heq
        exact absurd hactive Bool.false_ne_true
      · exact heq ▸ hrow
    rw [hf] at hstays ⊢
    exact ⟨fun assignment hmem hactive => hnow.affiliated assignment (hstays hmem hactive) hactive,
      fun assignment hmem hactive => hnow.owned assignment (hstays hmem hactive) hactive⟩

end

/-! ## Runs -/

section

theorem silent_requirePartner (partnerId : UUID) : (requirePartner partnerId).Silent := by
  refine Silent.bind (Silent.select (S := sig) _) fun found => ?_
  cases found with
  | some partner => exact .ret partner
  | none => exact .raise _

theorem silent_requireActivePartner (partnerId : UUID) : (requireActivePartner partnerId).Silent :=
  .bind (silent_requirePartner partnerId) fun partner => .bind (.raiseIf _ _) fun _ => .ret partner

theorem silent_allowed {β : Type} (value : β → String) (all : List β) (code message field text : String) :
    (allowed value all code message field text).Silent := by
  unfold allowed
  cases all.find? fun a => value a = text with
  | some a => exact .ret a
  | none => exact .raise _

theorem silent_requiredText (text field : String) : (requiredText text field).Silent := by
  unfold requiredText
  cases Dossiers.blankToNone (some text) with
  | some text => exact .ret text
  | none => exact .raise _

theorem silent_saveMember (member : PartnerMember) : (saveMember member).Silent := by
  intro v
  dsimp only
  cases v.memberViolation member with
  | some e => exact Silent.raise (S := sig) e
  | none => exact Silent.ret ()

theorem silent_deactivateMember (memberId : UUID) : (deactivateMember memberId).Silent := by
  refine .bind (.select _) fun found => ?_
  cases found with
  | none => exact .ret false
  | some member => exact .bind (.update _ _) fun _ => .ret true

theorem silent_setVehiclePartnerOwner (vehicleId partnerId driverId : UUID) :
    (setVehiclePartnerOwner vehicleId partnerId driverId).Silent := by
  refine .bind (.select _) fun found => ?_
  cases found with
  | none => exact .ret false
  | some vehicle => exact .bind (.update _ _) fun _ => .ret true

theorem silent_ensureDriverAffiliated (driverId : UUID) : (call.ensureDriverAffiliated driverId).Silent := by
  refine .bind (.select _) fun found => ?_
  cases found with
  | none => exact .writeOrRaise _ _ _ _
  | some existing => exact .raiseIf _ _

/-- A request commits once, at its end. -/
theorem silent_action : call.action.Silent := by
  unfold PartnerCall.action
  cases call.op with
  | addMember userId role =>
    exact .bind (silent_requirePartner _) fun _ => .bind (silent_allowed _ _ _ _ _ _) fun role => silent_saveMember _
  | deactivateMember memberId =>
    exact .bind (silent_requirePartner _) fun _ => .bind (silent_deactivateMember memberId) fun _ => .raiseIf _ _
  | affiliateDriver driverId =>
    refine .bind (silent_requireActivePartner _) fun partner => .bind (.select _) fun found => ?_
    cases found with
    | some existing => exact .raise _
    | none => exact .writeOrRaise _ _ _ _
  | unaffiliateDriver driverId =>
    exact .bind (silent_requirePartner _) fun _ => .bind (fun v => .ret _) fun _ => .raiseIf _ _
  | assignVehicle vehicleId driverId =>
    refine .bind (silent_requireActivePartner _) fun _ => .bind (.select _) fun link => .bind (.raiseIf _ _) fun _ => ?_
    refine .bind (.select _) fun found => ?_
    cases found with
    | some current => exact .raise _
    | none =>
      exact .bind (silent_setVehiclePartnerOwner _ _ _) fun found => .bind (.raiseIf _ _) fun _ => .writeOrRaise _ _ _ _
  | createVehicle driverId description comfortLevel fields =>
    refine .bind (silent_requireActivePartner _) fun _ => .bind (silent_embed (silent_findProfileById _)) fun found => ?_
    cases found with
    | none => exact .raise _
    | some profile =>
      exact .bind (silent_ensureDriverAffiliated _) fun _ => .bind (silent_requiredText _ _) fun _ =>
        .bind (silent_allowed _ _ _ _ _ _) fun _ => .bind (silent_allowed _ _ _ _ _ _) fun _ =>
          .bind (silent_embed (silent_saveVehicle _ _)) fun _ => .writeOrRaise _ _ _ _
  | unassignVehicle vehicleId =>
    exact .bind (silent_requirePartner _) fun _ => .bind (fun v => .ret _) fun _ => .raiseIf _ _

variable {Proc : Type} [DecidableEq Proc] {calls : Proc → PartnerCall} {c c' : Config (machine Proc)}
  {found : Proc → List FleetDb}

/-- What holds between two moves: the fleets fit together, and the requests that are still running have drawn
identifiers that are not in use, now as at each of their statements. -/
structure Fitting (calls : Proc → PartnerCall) (found : Proc → List FleetDb) (c : Config (machine Proc)) : Prop where
  linked : c.shared.db.Linked
  sound : (activeIndex.discipline (machine Proc)).Sound c
  draws : ∀ i, c.task i ≠ .ended → (calls i).Draws c.shared.db
  found : ∀ i, ∀ db ∈ found i, (calls i).Draws db

omit [DecidableEq Proc] in
theorem running_ne_ended {i : Proc} {p : Action Unit} {f : FleetDb → FleetDb} (htask : c.task i = .running p f) :
    c.task i ≠ .ended := by
  intro hended
  rw [htask] at hended
  cases hended

/-- A move that publishes nothing. -/
theorem Fitting.quiet {m : Move (machine Proc)} (h : Fitting calls found c) (hstep : c.step m = some c')
    (hquiet : ¬ (c.task (mover m)).Publishes) : Fitting calls (c.foundAfter found m) c' := by
  have hsound := (h.sound.step hstep).1
  rcases step_cases hstep with ⟨i, l, locks, write, next, f, rfl, htask, -, rfl⟩ |
    ⟨i, next, f, rfl, htask, rfl⟩ | ⟨i, a, f, rfl, htask, rfl⟩ | ⟨i, e, f, rfl, htask, rfl⟩ |
    ⟨i, q, next, f, rfl, htask, rfl⟩ | ⟨i, a, q, next, f, w, rfl, htask, -, rfl⟩
  · have hl : l = none := by
      cases l with
      | none => rfl
      | some l => exact l.elim
    subst hl
    have hrunning := running_ne_ended htask
    refine ⟨h.linked, hsound, fun j hj => ?_, fun j db hdb => ?_⟩
    · by_cases hji : j = i
      · exact h.draws j (hji ▸ hrunning)
      · exact h.draws j fun hended => hj ((Function.update_of_ne hji _ _).trans hended)
    · unfold Config.foundAfter at hdb
      simp only [htask] at hdb
      by_cases hji : j = i
      · subst hji
        rw [Function.update_self] at hdb
        rcases List.mem_append.mp hdb with hold | hnew
        · exact h.found j db hold
        · obtain rfl := List.mem_singleton.mp hnew
          exact h.draws j hrunning
      · rw [Function.update_of_ne hji] at hdb
        exact h.found j db hdb
  · exact absurd (show (c.task i).Publishes by rw [htask]; trivial) hquiet
  · exact absurd (show (c.task i).Publishes by rw [htask]; trivial) hquiet
  · refine ⟨h.linked, hsound, fun j hj => h.draws j fun hended => hj ?_, fun j db hdb => ?_⟩
    · have hji : j ≠ i := fun hji => running_ne_ended htask (hji ▸ hended)
      exact (Function.update_of_ne hji _ _).trans hended
    · unfold Config.foundAfter at hdb
      simp only [htask] at hdb
      by_cases hji : j = i
      · subst hji
        rw [Function.update_self] at hdb
        cases hdb
      · rw [Function.update_of_ne hji] at hdb
        exact h.found j db hdb
  · exact q.elim
  · exact q.elim

/-- A request that returns. -/
theorem Fitting.publish {i : Proc} {p : Action Unit} {f : FleetDb → FleetDb} (h : Fitting calls found c)
    (hapart : ∀ i j, i ≠ j → (calls i).Apart (calls j)) (hstep : c.step (.go i) = some c')
    (htask : c.task i = .running p f) (hpublishes : (c.task i).Publishes)
    (htrail : Trail (calls i).action (found i) p f)
    (hfound : ∀ db ∈ found i, (calls i).Undisturbed db c.shared.db) :
    Fitting calls (c.foundAfter found (.go i)) c' := by
  have hsound := (h.sound.step hstep).1
  have hpublished := htrail.assuming (fun db hdb => ⟨hfound db hdb, h.found i db hdb⟩)
    (show PublishesOnly (calls i) c.shared.db (calls i).action from publishes_action)
  have hrunning := running_ne_ended htask
  rw [htask] at hpublishes
  cases p with
  | commit next => exact (htrail.silent silent_action).elim
  | raise e => exact hpublishes.elim
  | stmt l locks write next => exact hpublishes.elim
  | call q next => exact hpublishes.elim
  | ret a =>
    unfold Config.step at hstep
    simp only [htask, Option.some.injEq] at hstep
    subst hstep
    refine ⟨hpublished.fits h.linked (h.draws i hrunning) hsound.inv, hsound, fun j hj => ?_, fun j db hdb => ?_⟩
    · have hji : j ≠ i := by
        rintro rfl
        exact hj (Function.update_self _ _ _)
      refine hpublished.draws (hapart i j (Ne.symm hji)) (h.draws j fun hended => hj ?_)
      exact (Function.update_of_ne hji _ _).trans hended
    · unfold Config.foundAfter at hdb
      simp only [htask] at hdb
      by_cases hji : j = i
      · subst hji
        rw [Function.update_self] at hdb
        cases hdb
      · rw [Function.update_of_ne hji] at hdb
        exact h.found j db hdb

end

/-- In every run of requests for partners a driver has one link in force and a vehicle one assignment in force; and if
no request is overtaken by one that it relies on, and no driver leaves with a vehicle, assignments fit links and
owners. -/
theorem fleets_fit {Proc : Type} [DecidableEq Proc] (calls : Proc → PartnerCall) (db : FleetDb)
    (ms : List (Move (machine Proc))) (c : Config (machine Proc)) (hdb : db.Consistent)
    (hdraws : ∀ i, (calls i).Draws db) (hapart : ∀ i j, i ≠ j → (calls i).Apart (calls j))
    (hrun : (initial calls db).run ms = some c) :
    activeIndex.Unique c.shared.db ∧
      (Config.Timely (M := machine Proc) (fun i => (calls i).Undisturbed) (fun _ => []) (initial calls db) ms →
        c.shared.db.Consistent) := by
  have hunique := unique_run hdb.unique hrun
  refine ⟨hunique, fun htimely => ?_⟩
  have hstart : Fitting calls (fun _ => []) (initial calls db) :=
    { linked := hdb.toLinked
      sound := sound_initial hdb.unique fun i => Index.verified_of_safe (ending_action (Index.safe_start hdb.unique))
      draws := fun i _ => hdraws i
      found := fun i db' hdb' => absurd hdb' List.not_mem_nil }
  have hmoves := Config.Timely.everyMove_found (J := Fitting calls) (A := fun i p => p = (calls i).action)
    (P := fun _ _ (c' : Config (machine Proc)) => c'.shared.db.Linked)
    (fun i p₀ ds next f hp₀ htrail => by
      subst hp₀
      exact (htrail.silent silent_action).elim)
    (fun h _ hstep hquiet => ⟨h.quiet hstep hquiet, (h.quiet hstep hquiet).linked⟩)
    (fun h hstep htask hpublishes hp₀ htrail hds => by
      subst hp₀
      have hnext := h.publish hapart hstep htask hpublishes htrail hds
      exact ⟨hnext, hnext.linked⟩)
    htimely (Config.trails_initial fun i => rfl) hstart
  exact ⟨hmoves.last (J := fun c : Config (machine Proc) => c.shared.db.Linked) hdb.toLinked hrun, hunique⟩

namespace Sample

/-- Three requests that are under way at once. -/
inductive Request
  | creation | affiliation | recall
  deriving DecidableEq

/-- Partner 1 creates a vehicle for driver 21, while partner 2 affiliates him and partner 1 takes vehicle 40 back. -/
def fleetCalls : Request → PartnerCall
  | .creation => partnerCall 1 (.createVehicle 21 { plateNumber := "AA-3", category := "standard" } "standard" {})
  | .affiliation =>
    { partnerCall 2 (.affiliateDriver 21) with memberId := 52, linkId := 62, vehicleId := 43, assignmentId := 72 }
  | .recall =>
    { partnerCall 1 (.unassignVehicle 40) with memberId := 53, linkId := 63, vehicleId := 44, assignmentId := 73 }

/-- Partner 2 sees no link of the driver before partner 1 commits one. -/
def fleetMoves : List (Move (machine Request)) :=
  [.go .affiliation, .go .affiliation, .go .recall] ++ List.replicate 8 (.go .creation) ++
    [.go .recall, .go .affiliation, .go .affiliation, .go .recall]

theorem fleet_consistent : fleet.Consistent where
  affiliated := by decide +kernel
  owned := by decide +kernel
  unique k := by
    cases k with
    | driver driverId =>
      refine Nat.le_trans (Nat.le_of_eq (List.length_map _)) ?_
      exact Nat.le_trans (List.length_filter_le _ _) (show fleet.links.rows.length ≤ 1 by decide +kernel)
    | vehicle vehicleId =>
      refine Nat.le_trans (Nat.le_of_eq (List.length_map _)) ?_
      exact Nat.le_trans (List.length_filter_le _ _) (show fleet.assignments.rows.length ≤ 1 by decide +kernel)

theorem draws_fleetCalls (i : Request) : (fleetCalls i).Draws fleet where
  member := by cases i <;> decide +kernel
  link := by cases i <;> decide +kernel
  vehicle := by cases i <;> decide +kernel
  assignment := by cases i <;> decide +kernel

theorem apart_fleetCalls (i j : Request) (h : i ≠ j) : (fleetCalls i).Apart (fleetCalls j) where
  member := by cases i <;> cases j <;> first | exact absurd rfl h | decide +kernel
  link := by cases i <;> cases j <;> first | exact absurd rfl h | decide +kernel
  vehicle := by cases i <;> cases j <;> first | exact absurd rfl h | decide +kernel
  assignment := by cases i <;> cases j <;> first | exact absurd rfl h | decide +kernel

end Sample

theorem fleets_fit_sample :
    ∃ c, (initial Sample.fleetCalls Sample.fleet).run Sample.fleetMoves = some c ∧
      c.shared.log.map (·.1) = [.creation, .affiliation, .recall] ∧ activeIndex.Unique c.shared.db ∧ c.shared.db.Consistent := by
  have hlog : ((initial Sample.fleetCalls Sample.fleet).run Sample.fleetMoves).map
      (fun c => c.shared.log.map (·.1)) = some [.creation, .affiliation, .recall] := by decide +kernel
  have htimely : Config.Timely (M := machine Sample.Request) (fun i => (Sample.fleetCalls i).Undisturbed) (fun _ => [])
      (initial Sample.fleetCalls Sample.fleet) Sample.fleetMoves := by decide +kernel
  obtain ⟨c, hrun, hends⟩ := Option.map_eq_some_iff.mp hlog
  have hfit := fleets_fit Sample.fleetCalls Sample.fleet Sample.fleetMoves c Sample.fleet_consistent
    Sample.draws_fleetCalls Sample.apart_fleetCalls hrun
  exact ⟨c, hrun, hends, hfit.1, hfit.2 htimely⟩

end DiddiGo.Partners
