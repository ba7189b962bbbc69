import DiddiGo.Data.Proofs.TableProofs
import DiddiGo.Dossiers.Proofs.DossierEffectProofs
import DiddiGo.Partners.Isolation
import DiddiGo.Transactions.Proofs.EmbeddingProofs
import DiddiGo.Transactions.Proofs.SequentialProofs

/-!
# What requests for a partner leave alone

Members are deactivated and assignments are ended by an identifier that is not compared with the partner, and an
assignment takes over any vehicle. All other requests leave alone what does not belong to the partner.
-/

namespace DiddiGo.Partners

open Data (Keyed Table)
open Dossiers (VehicleDossier DossierDb)
open Transactions Prog

variable {call : PartnerCall} {db db' : FleetDb} {partnerId driverId vehicleId : UUID}

/-! ## What the tables hold -/

namespace FleetDb

theorem KeepsForeign.refl (partnerId : UUID) (db : FleetDb) : KeepsForeign partnerId db db := ⟨rfl, rfl, rfl, rfl⟩

/-- The link of a driver that is found is in force. -/
theorem mem_of_linkOf {partner : Partner} {link : PartnerDriverLink} (h : db.linkOf driverId = some (partner, link)) :
    link ∈ db.links.rows ∧ link.driverId = driverId ∧ link.active = true ∧
      db.partners.find? link.partnerId = some partner := by
  obtain ⟨link', hmem, hlink⟩ := List.exists_of_findSome?_eq_some h
  split_ifs at hlink with hcond
  obtain ⟨partner', hpartner, heq⟩ := Option.map_eq_some_iff.mp hlink
  obtain ⟨rfl, rfl⟩ := Prod.mk.inj heq
  exact ⟨hmem, hcond.1, hcond.2, hpartner⟩

theorem id_of_partner {id : UUID} {partner : Partner} (h : db.partners.find? id = some partner) : partner.id = id :=
  Table.key_of_find? h

theorem Valid.linkOf_isSome (h : db.Valid) {link : PartnerDriverLink} (hmem : link ∈ db.links.rows)
    (hactive : link.active = true) : (db.linkOf link.driverId).isSome = true := by
  unfold linkOf
  rw [List.findSome?_isSome_iff]
  refine ⟨link, hmem, ?_⟩
  rw [if_pos ⟨rfl, hactive⟩, Option.isSome_map]
  exact h.partners link hmem

/-- No link of the driver is in force. -/
theorem Valid.not_linkedElsewhere_of_none (h : db.Valid) (hnone : db.linkOf driverId = none) :
    ¬ db.LinkedElsewhere partnerId driverId := by
  rintro ⟨link, hmem, rfl, hactive, -⟩
  have hsome := h.linkOf_isSome hmem hactive
  rw [hnone] at hsome
  cases hsome

/-- A driver who has a link with the partner has none with another one. -/
theorem Valid.not_linkedElsewhere (h : db.Valid) {link : PartnerDriverLink} (hmem : link ∈ db.links.rows)
    (hactive : link.active = true) : ¬ db.LinkedElsewhere link.partnerId link.driverId := by
  rintro ⟨link', hmem', hdriver, hactive', hpartner⟩
  exact hpartner (congrArg PartnerDriverLink.partnerId (h.oneLink link' hmem' link hmem hactive' hactive hdriver))

theorem Valid.affiliated_iff (h : db.Valid) : db.affiliated partnerId driverId = true ↔
    (db.linkOf driverId).map (fun found => found.1.id) = some partnerId := by
  constructor
  · intro haffiliated
    obtain ⟨link, hmem, hlink⟩ := List.any_eq_true.mp haffiliated
    simp only [Bool.and_eq_true, decide_eq_true_eq] at hlink
    obtain ⟨⟨rfl, hactive⟩, rfl⟩ := hlink
    obtain ⟨⟨partner, link'⟩, hfound⟩ := Option.isSome_iff_exists.mp (h.linkOf_isSome hmem hactive)
    obtain ⟨hmem', hdriver, hactive', hpartner⟩ := mem_of_linkOf hfound
    obtain rfl := h.oneLink link' hmem' link hmem hactive' hactive hdriver
    rw [hfound, Option.map_some, id_of_partner hpartner]
  · intro hlink
    obtain ⟨⟨partner, link⟩, hfound, hid⟩ := Option.map_eq_some_iff.mp hlink
    obtain ⟨hmem, hdriver, hactive, hpartner⟩ := mem_of_linkOf hfound
    have hpartnerId : link.partnerId = partnerId := (id_of_partner hpartner).symm.trans hid
    unfold affiliated
    rw [List.any_eq_true]
    exact ⟨link, hmem, by simp [hdriver, hactive, hpartnerId]⟩

theorem assignmentOf_isSome (db : FleetDb) (vehicleId : UUID) :
    (db.assignmentOf vehicleId).isSome = db.hasAssignment vehicleId := by
  unfold assignmentOf hasAssignment
  rw [Bool.eq_iff_iff, List.find?_isSome, List.any_eq_true]

end FleetDb

/-! ## Statements -/

variable {α : Type} {ask : Empty → Empty} {E : FleetDb → Prop} {Q : α → FleetDb → FleetDb → Prop} {base : FleetDb}

theorem leads_requirePartner {f : Partner → Action α} (hE : E base)
    (h : ∀ partner, db.partners.find? partnerId = some partner → Leads ask E Q (f partner) base db) :
    Leads ask E Q (requirePartner partnerId >>= f) base db := by
  unfold requirePartner findPartnerById
  refine Leads.bind_select_bind ?_
  cases hpartner : db.partners.find? partnerId with
  | none => exact hE
  | some partner => exact h partner hpartner

theorem leads_requireActivePartner {f : Partner → Action α} (hE : E base)
    (h : ∀ partner, db.partners.find? partnerId = some partner → partner.status = .active →
      Leads ask E Q (f partner) base db) :
    Leads ask E Q (requireActivePartner partnerId >>= f) base db := by
  unfold requireActivePartner
  refine Leads.bind (R := fun partner base' cur' => base' = base ∧ cur' = db ∧
    db.partners.find? partnerId = some partner ∧ partner.status = .active) ?_ ?_
  · refine leads_requirePartner hE fun partner hpartner => Leads.bind_raiseIf hE fun hstatus => ?_
    exact Leads.ret ⟨rfl, rfl, hpartner, not_not.mp hstatus⟩
  · rintro partner _ _ ⟨rfl, rfl, hpartner, hstatus⟩
    exact h partner hpartner hstatus

theorem leads_saveMember {member : PartnerMember} {Q : Unit → FleetDb → FleetDb → Prop} (hE : E base)
    (h : Q () base { db with members := db.members.insert member }) :
    Leads ask E Q (saveMember member) base db := by
  unfold saveMember
  refine Leads.stmt ?_
  cases hviolation : db.memberViolation member with
  | some e => exact hE
  | none => exact h

/-- The vehicle after its new owner is set. -/
def FleetDb.setOwner (db : FleetDb) (vehicle : VehicleDossier) (partnerId driverId : UUID) : FleetDb :=
  { db with
    vehicles := db.vehicles.update vehicle.id fun row => vehicle.flush (vehicle.assigned partnerId driverId) row }

theorem leads_setVehiclePartnerOwner {f : Bool → Action α} (hnone : db.vehicles.find? vehicleId = none →
      Leads ask E Q (f false) base db)
    (hsome : ∀ vehicle, db.vehicles.find? vehicle.id = some vehicle → vehicle.id = vehicleId →
      Leads ask E Q (f true) base (db.setOwner vehicle partnerId driverId)) :
    Leads ask E Q (setVehiclePartnerOwner vehicleId partnerId driverId >>= f) base db := by
  unfold setVehiclePartnerOwner
  refine Leads.bind (R := fun b base' cur' => base' = base ∧
    (b = false ∧ cur' = db ∧ db.vehicles.find? vehicleId = none ∨
      ∃ vehicle : VehicleDossier, b = true ∧ cur' = db.setOwner vehicle partnerId driverId ∧ vehicle.id = vehicleId ∧
        db.vehicles.find? vehicleId = some vehicle)) ?_ ?_
  · refine Leads.bind_select ?_
    cases hvehicle : db.vehicles.find? vehicleId with
    | none => exact ⟨rfl, Or.inl ⟨rfl, rfl, rfl⟩⟩
    | some vehicle =>
      obtain rfl : vehicle.id = vehicleId := Table.key_of_find? hvehicle
      exact Leads.bind_update (Leads.ret ⟨rfl, Or.inr ⟨vehicle, rfl, rfl, rfl, rfl⟩⟩)
  · rintro b _ _ ⟨rfl, ⟨rfl, rfl, hfound⟩ | ⟨vehicle, rfl, rfl, rfl, hfound⟩⟩
    · exact hnone hfound
    · exact hsome vehicle hfound rfl

theorem leads_insertVehicle {vehicle : VehicleDossier} {e : Err} {f : Unit → Action α}
    (hfresh : db.vehicles.find? vehicle.id = none) (hE : E base)
    (h : Leads ask E Q (f ()) base { db with vehicles := db.vehicles.insert vehicle }) :
    Leads ask E Q ((Dossiers.saveVehicle vehicle e).embed onDossiers >>= f) base db := by
  unfold Dossiers.saveVehicle
  rw [embed_bind, embed_select]
  refine Leads.bind (R := fun _ base' cur' => base' = base ∧
    cur' = { db with vehicles := db.vehicles.insert vehicle }) ?_ ?_
  · refine Leads.bind_select ?_
    have hview : (onDossiers.get db).vehicles.find? vehicle.id = none := hfresh
    rw [hview]
    dsimp only
    rw [embed_writeOrRaise]
    exact Leads.of_bind_ret (Leads.bind_writeOrRaise hE fun _ => Leads.ret ⟨rfl, rfl⟩)
  · rintro _ _ _ ⟨rfl, rfl⟩
    exact h

theorem PartnerDriverLink.key_ended (now : DateTime) (link : PartnerDriverLink) :
    Keyed.key { link with active := false, endedAt := some now } = Keyed.key link := rfl

/-- The links of the driver with the partner, ended. -/
def FleetDb.endLinks (db : FleetDb) (partnerId driverId : UUID) (now : DateTime) : FleetDb :=
  { db with
    links := db.links.updateWhere
      (fun link => decide (link.id ∈ (db.links.rows.filter (PartnerDriverLink.ending partnerId driverId)).map (·.id)) &&
        link.ending partnerId driverId)
      (fun link => { link with active := false, endedAt := some now }) (PartnerDriverLink.key_ended now) }

theorem leads_endDriverLink {now : DateTime} {Q : Bool → FleetDb → FleetDb → Prop}
    (h : Q (!(db.links.rows.filter (PartnerDriverLink.ending partnerId driverId)).isEmpty) base
      (db.endLinks partnerId driverId now)) :
    Leads ask E Q (endDriverLink partnerId driverId now) base db := h

theorem VehicleAssignment.key_ended (now : DateTime) (assignment : VehicleAssignment) :
    Keyed.key { assignment with active := false, endedAt := some now } = Keyed.key assignment := rfl

/-- The assignments of the vehicle, ended. -/
def FleetDb.endAssignments (db : FleetDb) (vehicleId : UUID) (now : DateTime) : FleetDb :=
  { db with
    assignments := db.assignments.updateWhere
      (fun assignment =>
        decide (assignment.id ∈ (db.assignments.rows.filter (VehicleAssignment.ending vehicleId)).map (·.id)) &&
          assignment.ending vehicleId)
      (fun assignment => { assignment with active := false, endedAt := some now })
      (VehicleAssignment.key_ended now) }

theorem leads_endVehicleAssignment {now : DateTime} {Q : Bool → FleetDb → FleetDb → Prop}
    (h : Q (!(db.assignments.rows.filter (VehicleAssignment.ending vehicleId)).isEmpty) base
      (db.endAssignments vehicleId now)) :
    Leads ask E Q (endVehicleAssignment vehicleId now) base db := h

theorem reads_allowed {β : Type} (value : β → String) (all : List β) (code message field text : String) :
    (allowed value all code message field text).Reads := by
  unfold allowed
  cases all.find? fun a => value a = text with
  | some a => exact .ret a
  | none => exact .raise _

theorem reads_requiredText (text field : String) : (requiredText text field).Reads := by
  unfold requiredText
  cases Dossiers.blankToNone (some text) with
  | some text => exact .ret text
  | none => exact .raise _

/-! ## Requests that leave other partners alone -/

/-- Run alone, the program leaves alone what does not belong to the partner, and if it returns, the request names no
such thing. -/
def LeavesForeign (call : PartnerCall) (db : FleetDb) (p : Action Unit) : Prop :=
  Leads id (· = db) (fun _ base cur => base = db ∧ FleetDb.KeepsForeign call.partnerId db cur ∧ ¬ call.NamesForeign db)
    p db db

theorem leavesForeign_addMember {userId : UUID} {role : String} (hop : call.op = .addMember userId role) :
    LeavesForeign call db (call.addMember userId role) := by
  refine leads_requirePartner rfl fun _ _ => Leads.bind_reads (reads_allowed _ _ _ _ _ _) rfl fun role => ?_
  refine leads_saveMember rfl ⟨rfl, ⟨?_, rfl, rfl, rfl⟩, ?_⟩
  · exact Table.filter_insert db.members (by simp)
  · unfold PartnerCall.NamesForeign
    rw [hop]
    exact id

/-- A member of the partner is deactivated. -/
theorem keepsForeign_deactivate {member : PartnerMember} (hmember : db.members.find? member.id = some member)
    (hpartner : member.partnerId = partnerId) :
    FleetDb.KeepsForeign partnerId db
      { db with members := db.members.update member.id fun member => { member with active := false } } where
  members := by
    rw [Table.filter_update hmember]
    · simp [hpartner]
    · simp [hpartner]
  links := rfl
  assignments := rfl
  vehicles := rfl

theorem leavesForeign_deactivateMember {memberId : UUID} (hop : call.op = .deactivateMember memberId)
    (hown : call.NamesOwn db) : LeavesForeign call db (call.deactivateMember memberId) := by
  refine leads_requirePartner rfl fun partner hpartner => ?_
  unfold PartnerCall.NamesOwn at hown
  rw [hop] at hown
  refine Leads.bind (R := fun b base' cur' => base' = db ∧ (b = true → FleetDb.KeepsForeign call.partnerId db cur' ∧
    ¬ call.NamesForeign db)) ?_ ?_
  · refine Leads.bind_select ?_
    cases hmember : db.members.find? memberId with
    | none => exact ⟨rfl, fun h => Bool.noConfusion h⟩
    | some member =>
      have hpartnerId := hown (by rw [hpartner]; rfl) member hmember
      obtain rfl : member.id = memberId := Table.key_of_find? hmember
      refine Leads.bind_update (Leads.ret ⟨rfl, fun _ => ⟨keepsForeign_deactivate hmember hpartnerId, ?_⟩⟩)
      unfold PartnerCall.NamesForeign
      rw [hop]
      rintro ⟨member', hmember', hforeign⟩
      obtain rfl := Option.some.inj (hmember.symm.trans hmember')
      exact hforeign hpartnerId
  · rintro removed _ _ ⟨rfl, hremoved⟩
    refine Leads.of_bind_ret (Leads.bind_raiseIf rfl fun hfalse => Leads.ret ⟨rfl, hremoved ?_⟩)
    simpa using hfalse

/-- A new link of the partner. -/
theorem keepsForeign_insertLink {link : PartnerDriverLink} (hlink : link.partnerId = partnerId) :
    FleetDb.KeepsForeign partnerId db { db with links := db.links.insert link } :=
  ⟨rfl, Table.filter_insert db.links (by simp [hlink]), rfl, rfl⟩

theorem leavesForeign_affiliateDriver (hvalid : db.Valid) (hop : call.op = .affiliateDriver driverId) :
    LeavesForeign call db (call.affiliateDriver driverId) := by
  refine leads_requireActivePartner rfl fun partner hpartner _ => Leads.bind_select ?_
  have hid := FleetDb.id_of_partner hpartner
  cases hlink : db.linkOf driverId with
  | some found => exact Leads.raise rfl
  | none =>
    refine Leads.of_bind_ret (Leads.bind_writeOrRaise rfl fun _ => Leads.ret ⟨rfl, keepsForeign_insertLink hid, ?_⟩)
    unfold PartnerCall.NamesForeign
    rw [hop]
    exact hvalid.not_linkedElsewhere_of_none hlink

theorem PartnerDriverLink.ending_iff {link : PartnerDriverLink} : link.ending partnerId driverId = true ↔
    link.partnerId = partnerId ∧ link.driverId = driverId ∧ link.active = true := by
  simp [PartnerDriverLink.ending, and_assoc]

theorem VehicleAssignment.ending_iff {assignment : VehicleAssignment} : assignment.ending vehicleId = true ↔
    assignment.vehicleId = vehicleId ∧ assignment.active = true := by
  simp [VehicleAssignment.ending]

/-- The links of a driver with the partner are ended. -/
theorem keepsForeign_endLinks (db : FleetDb) (partnerId driverId : UUID) (now : DateTime) :
    FleetDb.KeepsForeign partnerId db (db.endLinks partnerId driverId now) where
  members := rfl
  links := by
    unfold FleetDb.endLinks
    rw [Table.filter_updateWhere]
    intro link _ hlink
    obtain ⟨hpartner, -, -⟩ := PartnerDriverLink.ending_iff.mp (Bool.and_eq_true_iff.mp hlink).2
    simp [hpartner]
  assignments := rfl
  vehicles := rfl

theorem leavesForeign_unaffiliateDriver (hvalid : db.Valid) (hop : call.op = .unaffiliateDriver driverId) :
    LeavesForeign call db (call.unaffiliateDriver driverId) := by
  refine leads_requirePartner rfl fun _ _ => Leads.bind (R := fun b base' cur' => base' = db ∧
    FleetDb.KeepsForeign call.partnerId db cur' ∧ (b = true → ¬ call.NamesForeign db)) ?_ ?_
  · refine leads_endDriverLink ⟨rfl, keepsForeign_endLinks db _ _ _, fun hany => ?_⟩
    have hne : db.links.rows.filter (PartnerDriverLink.ending call.partnerId driverId) ≠ [] := by simpa using hany
    obtain ⟨link, hlink⟩ := List.exists_mem_of_ne_nil _ hne
    obtain ⟨hmem, hending⟩ := List.mem_filter.mp hlink
    obtain ⟨hpartner, hdriver, hactive⟩ := PartnerDriverLink.ending_iff.mp hending
    unfold PartnerCall.NamesForeign
    rw [hop, ← hpartner, ← hdriver]
    exact hvalid.not_linkedElsewhere hmem hactive
  · rintro removed _ _ ⟨rfl, hkeeps, hremoved⟩
    refine Leads.of_bind_ret (Leads.bind_raiseIf rfl fun hfalse => Leads.ret ⟨rfl, hkeeps, hremoved ?_⟩)
    simpa using hfalse

/-- The assignments of a vehicle that are in force are the partner's. -/
theorem keepsForeign_endAssignments (now : DateTime)
    (hown : ∀ assignment ∈ db.assignments.rows, assignment.ending vehicleId = true → assignment.partnerId = partnerId) :
    FleetDb.KeepsForeign partnerId db (db.endAssignments vehicleId now) where
  members := rfl
  links := rfl
  assignments := by
    unfold FleetDb.endAssignments
    rw [Table.filter_updateWhere]
    intro assignment hmem hassignment
    have hpartner := hown assignment hmem (Bool.and_eq_true_iff.mp hassignment).2
    simp [hpartner]
  vehicles := rfl

theorem leavesForeign_unassignVehicle (hop : call.op = .unassignVehicle vehicleId) (hown : call.NamesOwn db) :
    LeavesForeign call db (call.unassignVehicle vehicleId) := by
  refine leads_requirePartner rfl fun partner hpartner => ?_
  unfold PartnerCall.NamesOwn at hown
  rw [hop] at hown
  have hpartner : (db.partners.find? call.partnerId).isSome = true := by rw [hpartner]; rfl
  refine Leads.bind (R := fun b base' cur' => base' = db ∧ (b = true →
    FleetDb.KeepsForeign call.partnerId db cur' ∧ ¬ call.NamesForeign db)) ?_ ?_
  · refine leads_endVehicleAssignment ⟨rfl, fun hany => ?_⟩
    have hhas : db.hasAssignment vehicleId = true := by
      have hne : db.assignments.rows.filter (VehicleAssignment.ending vehicleId) ≠ [] := by simpa using hany
      obtain ⟨assignment, hassignment⟩ := List.exists_mem_of_ne_nil _ hne
      exact List.any_eq_true.mpr ⟨assignment, List.mem_filter.mp hassignment⟩
    have hnot := hown hpartner hhas
    refine ⟨keepsForeign_endAssignments call.now fun assignment hmem hending => ?_, ?_⟩
    · by_contra hforeign
      exact hnot (Or.inr ⟨assignment, hmem, hending, hforeign⟩)
    · unfold PartnerCall.NamesForeign
      rw [hop]
      exact hnot
  · rintro removed _ _ ⟨rfl, hremoved⟩
    have hremoved := fun h => hremoved h
    refine Leads.of_bind_ret (Leads.bind_raiseIf rfl fun hfalse => Leads.ret ⟨rfl, hremoved ?_⟩)
    simpa using hfalse

/-- A vehicle of the partner, or of one of its drivers, changes its driver. -/
theorem keepsForeign_setOwner {vehicle : VehicleDossier} (hvehicle : db.vehicles.find? vehicle.id = some vehicle)
    (hown : db.foreignVehicle partnerId vehicle = false) (driverId : UUID) :
    FleetDb.KeepsForeign partnerId db (db.setOwner vehicle partnerId driverId) where
  members := rfl
  links := rfl
  assignments := rfl
  vehicles := by
    unfold FleetDb.setOwner
    rw [Table.filter_update hvehicle hown]
    have hid : (vehicle.assigned partnerId driverId).id = vehicle.id := rfl
    rw [VehicleDossier.flush_self hid]
    simp [FleetDb.foreignVehicle, VehicleDossier.assigned]

/-- A new assignment of the partner. -/
theorem FleetDb.KeepsForeign.insertAssignment {assignment : VehicleAssignment}
    (h : FleetDb.KeepsForeign partnerId db db') (hassignment : assignment.partnerId = partnerId) :
    FleetDb.KeepsForeign partnerId db { db' with assignments := db'.assignments.insert assignment } :=
  ⟨h.members, h.links, (Table.filter_insert db'.assignments (by simp [hassignment])).trans h.assignments, h.vehicles⟩

theorem leavesForeign_assignVehicle (hvalid : db.Valid) (hop : call.op = .assignVehicle vehicleId driverId)
    (hown : call.NamesOwn db) : LeavesForeign call db (call.assignVehicle vehicleId driverId) := by
  refine leads_requireActivePartner rfl fun partner hpartner hstatus => Leads.bind_select ?_
  unfold PartnerCall.NamesOwn at hown
  rw [hop] at hown
  refine Leads.bind_raiseIf rfl fun hlink => Leads.bind_select ?_
  have haffiliated := hvalid.affiliated_iff.mpr (not_not.mp hlink)
  cases hcurrent : db.assignmentOf vehicleId with
  | some current => exact Leads.raise rfl
  | none =>
    have hnone : db.hasAssignment vehicleId = false := by
      rw [← FleetDb.assignmentOf_isSome, hcurrent]
      rfl
    have hnot := hown partner hpartner hstatus haffiliated hnone
    refine leads_setVehiclePartnerOwner (fun _ => rfl) fun vehicle hvehicle hid => ?_
    refine Leads.bind_raiseIf rfl fun _ => Leads.of_bind_ret (Leads.bind_writeOrRaise rfl fun _ => Leads.ret ?_)
    have hvehicleOwn : db.foreignVehicle call.partnerId vehicle = false := by
      by_contra hforeign
      exact hnot (Or.inl ⟨vehicle, hid ▸ hvehicle, by simpa using hforeign⟩)
    refine ⟨rfl, (keepsForeign_setOwner hvehicle hvehicleOwn driverId).insertAssignment rfl, ?_⟩
    unfold PartnerCall.NamesForeign
    rw [hop]
    rintro (hvehicle | hlinked)
    · exact hnot hvehicle
    · obtain ⟨link, hmem, hlink⟩ := List.any_eq_true.mp haffiliated
      simp only [Bool.and_eq_true, decide_eq_true_eq] at hlink
      obtain ⟨⟨hdriver, hactive⟩, hpartner⟩ := hlink
      rw [← hdriver, ← hpartner] at hlinked
      exact hvalid.not_linkedElsewhere hmem hactive hlinked

/-- A new vehicle of the partner. -/
theorem FleetDb.KeepsForeign.insertVehicle {vehicle : VehicleDossier} (h : FleetDb.KeepsForeign partnerId db db')
    (hown : db.foreignVehicle partnerId vehicle = false) :
    FleetDb.KeepsForeign partnerId db { db' with vehicles := db'.vehicles.insert vehicle } :=
  ⟨h.members, h.links, h.assignments, (Table.filter_insert db'.vehicles hown).trans h.vehicles⟩

/-- The driver is affiliated to the partner already, or has a new link with it. -/
def PartnerCall.Affiliates (call : PartnerCall) (driverId : UUID) (db db' : FleetDb) : Prop :=
  db' = db ∧ (db.linkOf driverId).map (fun found => found.1.id) = some call.partnerId ∨
    db' = { db with links := db.links.insert (call.link driverId) } ∧ db.linkOf driverId = none

theorem leads_ensureDriverAffiliated {f : Unit → Action Unit} {Q : Unit → FleetDb → FleetDb → Prop} (hE : E base)
    (h : ∀ db', call.Affiliates driverId db db' → Leads ask E Q (f ()) base db') :
    Leads ask E Q (call.ensureDriverAffiliated driverId >>= f) base db := by
  refine Leads.bind (R := fun _ base' (cur' : FleetDb) => base' = base ∧ call.Affiliates driverId db cur') ?_ ?_
  · refine Leads.bind_select ?_
    cases hlink : db.linkOf driverId with
    | none => exact Leads.of_bind_ret (Leads.bind_writeOrRaise hE fun _ => Leads.ret ⟨rfl, Or.inr ⟨rfl, hlink⟩⟩)
    | some found =>
      obtain ⟨partner, link⟩ := found
      refine Leads.of_bind_ret (Leads.bind_raiseIf hE fun hid => Leads.ret ⟨rfl, Or.inl ⟨rfl, ?_⟩⟩)
      rw [hlink]
      exact congrArg some (not_not.mp hid)
  · rintro _ _ db' ⟨rfl, haffiliates⟩
    exact h db' haffiliates

theorem PartnerCall.Affiliates.keepsForeign (h : call.Affiliates driverId db db') (hvalid : db.Valid) :
    FleetDb.KeepsForeign call.partnerId db db' ∧ ¬ db.LinkedElsewhere call.partnerId driverId := by
  rcases h with ⟨rfl, hid⟩ | ⟨rfl, hnone⟩
  · refine ⟨FleetDb.KeepsForeign.refl _ db', ?_⟩
    obtain ⟨link, hmem, hlink⟩ := List.any_eq_true.mp (hvalid.affiliated_iff.mpr hid)
    simp only [Bool.and_eq_true, decide_eq_true_eq] at hlink
    rw [← hlink.1.1, ← hlink.2]
    exact hvalid.not_linkedElsewhere hmem hlink.1.2
  · exact ⟨keepsForeign_insertLink rfl, hvalid.not_linkedElsewhere_of_none hnone⟩

theorem PartnerCall.Affiliates.part (h : call.Affiliates driverId db db') : db'.toDossierDb = db.toDossierDb := by
  rcases h with ⟨rfl, -⟩ | ⟨rfl, -⟩
  · rfl
  · rfl

theorem leavesForeign_createVehicle {description : Dossiers.VehicleDescription} {comfortLevel : String}
    {fields : Dossiers.KyvFields} (hvalid : db.Valid) (hdraws : call.Draws db)
    (hop : call.op = .createVehicle driverId description comfortLevel fields) :
    LeavesForeign call db (call.createVehicle driverId description comfortLevel fields) := by
  refine leads_requireActivePartner rfl fun partner hpartner hstatus => ?_
  unfold Dossiers.findProfileById
  rw [embed_selectAs rfl]
  refine Leads.bind_select ?_
  cases hprofile : (onDossiers.get db).profiles.find? driverId with
  | none => exact Leads.raise rfl
  | some profile =>
    refine leads_ensureDriverAffiliated rfl fun db' haffiliates => ?_
    obtain ⟨hkeeps, hnot⟩ := haffiliates.keepsForeign hvalid
    refine Leads.bind_reads (reads_requiredText _ _) rfl fun plateNumber => ?_
    refine Leads.bind_reads (reads_allowed _ _ _ _ _ _) rfl fun category => ?_
    refine Leads.bind_reads (reads_allowed _ _ _ _ _ _) rfl fun comfortLevel => ?_
    have hvehicles : db'.vehicles = db.vehicles := congrArg DossierDb.vehicles haffiliates.part
    refine leads_insertVehicle (hvehicles ▸ hdraws.vehicle) rfl ?_
    refine Leads.of_bind_ret (Leads.bind_writeOrRaise rfl fun _ => Leads.ret ⟨rfl, ?_, ?_⟩)
    · refine FleetDb.KeepsForeign.insertAssignment (hkeeps.insertVehicle ?_) rfl
      simp [FleetDb.foreignVehicle, PartnerCall.vehicle]
    · unfold PartnerCall.NamesForeign
      rw [hop]
      exact hnot

/-- A request that names nothing foreign where it writes without a check. -/
theorem leavesForeign_action (hvalid : db.Valid) (hdraws : call.Draws db) (hown : call.NamesOwn db) :
    LeavesForeign call db call.action := by
  unfold PartnerCall.action
  cases hop : call.op with
  | addMember userId role => exact leavesForeign_addMember hop
  | deactivateMember memberId => exact leavesForeign_deactivateMember hop hown
  | affiliateDriver driverId => exact leavesForeign_affiliateDriver hvalid hop
  | unaffiliateDriver driverId => exact leavesForeign_unaffiliateDriver hvalid hop
  | assignVehicle vehicleId driverId => exact leavesForeign_assignVehicle hvalid hop hown
  | createVehicle driverId description comfortLevel fields => exact leavesForeign_createVehicle hvalid hdraws hop
  | unassignVehicle vehicleId => exact leavesForeign_unassignVehicle hop hown

/-! ## Requests that do not -/

theorem returns_requirePartner {partner : Partner} (h : db.partners.find? partnerId = some partner) :
    Prog.Returns id db (requirePartner partnerId) partner db := by
  refine (Prog.Returns.select (S := sig) _).bind ?_
  rw [h]
  exact .ret partner

theorem returns_requireActivePartner {partner : Partner} (h : db.partners.find? partnerId = some partner)
    (hstatus : partner.status = .active) : Prog.Returns id db (requireActivePartner partnerId) partner db :=
  (returns_requirePartner h).bind ((Prog.Returns.raiseIf (not_not.mpr hstatus)).bind (.ret partner))

/-- The member is deactivated, whoever's it is. -/
theorem returns_deactivateMember {partner : Partner} {member : PartnerMember}
    (hpartner : db.partners.find? call.partnerId = some partner)
    (hmember : db.members.find? member.id = some member) :
    ∃ db', Prog.Returns id db (call.deactivateMember member.id) () db' := by
  have hremoved : Prog.Returns id db (Partners.deactivateMember member.id) true
      { db with members := db.members.update member.id fun member => { member with active := false } } := by
    refine (Prog.Returns.select (S := sig) _).bind ?_
    rw [hmember]
    exact (Prog.Returns.update (S := sig) _ _).bind (.ret true)
  exact ⟨_, (returns_requirePartner hpartner).bind (hremoved.bind (.raiseIf (by simp)))⟩

/-- The assignment of the vehicle is ended, whoever's it is. -/
theorem returns_unassignVehicle {partner : Partner} (hpartner : db.partners.find? call.partnerId = some partner)
    (hhas : db.hasAssignment vehicleId = true) :
    ∃ db', Prog.Returns id db (call.unassignVehicle vehicleId) () db' := by
  obtain ⟨assignment, hassignment⟩ := List.any_eq_true.mp hhas
  have hne : db.assignments.rows.filter (VehicleAssignment.ending vehicleId) ≠ [] :=
    List.ne_nil_of_mem (List.mem_filter.mpr hassignment)
  have hended : Prog.Returns id db (endVehicleAssignment vehicleId call.now)
      (!(db.assignments.rows.filter (VehicleAssignment.ending vehicleId)).isEmpty)
      (db.endAssignments vehicleId call.now) := fun _ => rfl
  refine ⟨_, (returns_requirePartner hpartner).bind (hended.bind (.raiseIf ?_))⟩
  simpa using hne

/-- The vehicle is taken over, whoever's it is. -/
theorem returns_assignVehicle {partner : Partner} {vehicle : VehicleDossier} (hvalid : db.Valid)
    (hdraws : call.Draws db) (hpartner : db.partners.find? call.partnerId = some partner)
    (hstatus : partner.status = .active) (haffiliated : db.affiliated call.partnerId driverId = true)
    (hnone : db.hasAssignment vehicle.id = false) (hvehicle : db.vehicles.find? vehicle.id = some vehicle) :
    ∃ db', Prog.Returns id db (call.assignVehicle vehicle.id driverId) () db' := by
  have hlink := hvalid.affiliated_iff.mp haffiliated
  have hassignment : db.assignmentOf vehicle.id = none := by
    have hsome := db.assignmentOf_isSome vehicle.id
    rw [hnone] at hsome
    simpa using hsome
  have hprofile : (db.profiles.find? driverId).isSome = true := by
    obtain ⟨link, hmem, hlink⟩ := List.any_eq_true.mp haffiliated
    simp only [Bool.and_eq_true, decide_eq_true_eq] at hlink
    rw [← hlink.1.1]
    exact hvalid.profiles link hmem
  have hset : Prog.Returns id db (setVehiclePartnerOwner vehicle.id call.partnerId driverId) true
      (db.setOwner vehicle call.partnerId driverId) := by
    refine (Prog.Returns.select (S := sig) _).bind ?_
    rw [hvehicle]
    exact (Prog.Returns.update (S := sig) _ _).bind (.ret true)
  have hviolated : (db.setOwner vehicle call.partnerId driverId).assignmentViolated
      (call.assignment vehicle.id driverId) = false := by
    have hfound : ((db.setOwner vehicle call.partnerId driverId).vehicles.find? vehicle.id).isSome = true := by
      simp [FleetDb.setOwner, Table.find?_update, hvehicle]
    have hhas : (db.setOwner vehicle call.partnerId driverId).hasAssignment vehicle.id = false := hnone
    have hprofile' : ((db.setOwner vehicle call.partnerId driverId).profiles.find? driverId).isSome = true := hprofile
    have hpartner' : (db.setOwner vehicle call.partnerId driverId).partners.find? call.partnerId = some partner :=
      hpartner
    have hfresh : (db.setOwner vehicle call.partnerId driverId).assignments.find? call.assignmentId = none :=
      hdraws.assignment
    simp [FleetDb.assignmentViolated, PartnerCall.assignment, hfound, hhas, hprofile', hpartner', hfresh,
      ← Option.not_isSome]
  refine ⟨{ db.setOwner vehicle call.partnerId driverId with
    assignments := db.assignments.insert (call.assignment vehicle.id driverId) }, ?_⟩
  refine (returns_requireActivePartner hpartner hstatus).bind ((Prog.Returns.select (S := sig) _).bind
    ((Prog.Returns.raiseIf (not_not.mpr hlink)).bind ((Prog.Returns.select (S := sig) _).bind ?_)))
  rw [hassignment]
  exact hset.bind ((Prog.Returns.raiseIf (by simp)).bind (.writeOrRaise hviolated))

/-- A request that names something foreign where it writes without a check returns. -/
theorem returns_of_not_namesOwn (hvalid : db.Valid) (hdraws : call.Draws db) (hforeign : ¬ call.NamesOwn db) :
    call.NamesForeign db ∧ ∃ db', Prog.Returns id db call.action () db' := by
  unfold PartnerCall.NamesOwn at hforeign
  unfold PartnerCall.NamesForeign PartnerCall.action
  cases hop : call.op with
  | addMember userId role =>
    rw [hop] at hforeign
    exact absurd trivial hforeign
  | affiliateDriver driverId =>
    rw [hop] at hforeign
    exact absurd trivial hforeign
  | unaffiliateDriver driverId =>
    rw [hop] at hforeign
    exact absurd trivial hforeign
  | createVehicle driverId description comfortLevel fields =>
    rw [hop] at hforeign
    exact absurd trivial hforeign
  | deactivateMember memberId =>
    rw [hop] at hforeign
    push Not at hforeign
    obtain ⟨hpartner, member, hmember, hne⟩ := hforeign
    obtain ⟨partner, hpartner⟩ := Option.isSome_iff_exists.mp hpartner
    obtain rfl : member.id = memberId := Table.key_of_find? hmember
    exact ⟨⟨member, hmember, hne⟩, returns_deactivateMember hpartner hmember⟩
  | unassignVehicle vehicleId =>
    rw [hop] at hforeign
    push Not at hforeign
    obtain ⟨hpartner, hhas, hvehicle⟩ := hforeign
    obtain ⟨partner, hpartner⟩ := Option.isSome_iff_exists.mp hpartner
    exact ⟨hvehicle, returns_unassignVehicle hpartner hhas⟩
  | assignVehicle vehicleId driverId =>
    rw [hop] at hforeign
    push Not at hforeign
    obtain ⟨partner, hpartner, hstatus, haffiliated, hnone, hvehicle⟩ := hforeign
    refine ⟨Or.inl hvehicle, ?_⟩
    rcases hvehicle with ⟨vehicle, hvehicle, -⟩ | ⟨assignment, hmem, hending, -⟩
    · obtain rfl : vehicle.id = vehicleId := Table.key_of_find? hvehicle
      exact returns_assignVehicle hvalid hdraws hpartner hstatus haffiliated hnone hvehicle
    · have hhas : db.hasAssignment vehicleId = true := List.any_eq_true.mpr ⟨assignment, hmem, hending⟩
      rw [hnone] at hhas
      cases hhas

/-- A request is isolated exactly when what it writes without a check belongs to the partner. -/
theorem isolated_iff (hvalid : db.Valid) (hdraws : call.Draws db) : call.Isolated db ↔ call.NamesOwn db := by
  constructor
  · intro hisolated
    by_contra hforeign
    obtain ⟨hnames, db', hreturns⟩ := returns_of_not_namesOwn hvalid hdraws hforeign
    obtain ⟨⟨e, he⟩, -⟩ := hisolated.fails hnames
    rw [hreturns.run] at he
    cases he
  · intro hown
    have hleaves := leavesForeign_action hvalid hdraws hown
    refine ⟨?_, fun hnames => ?_⟩
    · have hE : ∀ db', db' = db → FleetDb.KeepsForeign call.partnerId db db' := by
        rintro _ rfl
        exact FleetDb.KeepsForeign.refl _ _
      exact Leads.run (Leads.mono hleaves hE fun _ _ _ h => h) fun _ _ _ h => h.2.1
    · cases hrun : (call.action.run id db).1 with
      | ok a =>
        obtain ⟨_, -, -, hnot⟩ := hleaves.run_ok hrun
        exact absurd hnames hnot
      | error e => exact ⟨⟨e, hrun⟩, hleaves.run_error hrun⟩

namespace Sample

/-- Driver 20 drives vehicle 40 for partner 1; vehicle 41 is of driver 21, who is affiliated to nobody. -/
def fleet : FleetDb where
  profiles := (Table.empty.insert { id := 20, userId := 10, licenseNumber := "L-1" }).insert
    { id := 21, userId := 11, licenseNumber := "L-2" }
  vehicles := (Table.empty.insert { id := 40, driverId := 20, plateNumber := "AA-1", ownerType := "partner"
                                    partnerId := some 1 }).insert { id := 41, driverId := 21, plateNumber := "AA-2" }
  partners := (Table.empty.insert { id := 1, status := .active }).insert { id := 2, status := .active }
  members := Table.empty.insert { id := 50, partnerId := 1, userId := 12, role := .manager }
  links := Table.empty.insert { id := 60, partnerId := 1, driverId := 20 }
  assignments := Table.empty.insert { id := 70, partnerId := 1, vehicleId := 40, driverId := 20 }

/-- A request at noon. -/
def partnerCall (partnerId : UUID) (op : PartnerOp) : PartnerCall :=
  { partnerId := partnerId, op := op, now := 43200, memberId := 51, linkId := 61, vehicleId := 42, assignmentId := 71 }

theorem fleet_valid : fleet.Valid where
  oneLink := by decide +kernel
  partners := by decide +kernel
  profiles := by decide +kernel

theorem draws_partnerCall (partnerId : UUID) (op : PartnerOp) : (partnerCall partnerId op).Draws fleet where
  member := show fleet.members.find? 51 = none by decide +kernel
  link := show fleet.links.find? 61 = none by decide +kernel
  vehicle := show fleet.vehicles.find? 42 = none by decide +kernel
  assignment := show fleet.assignments.find? 71 = none by decide +kernel

/-- The request returns. -/
theorem not_raises {call : PartnerCall} {db : FleetDb} (h : (call.action.run id db).1.toOption.isSome = true) :
    ¬ call.Raises db := by
  rintro ⟨e, he⟩
  rw [he] at h
  cases h

end Sample

/-- Partner 1 ends the assignment of its vehicle. -/
theorem isolated_unassign_own :
    (Sample.partnerCall 1 (.unassignVehicle 40)).Isolated Sample.fleet :=
  (isolated_iff Sample.fleet_valid (Sample.draws_partnerCall 1 _)).mpr fun _ _ h => by
    rcases h with ⟨vehicle, hvehicle, hforeign⟩ | ⟨assignment, hmem, -, hforeign⟩
    · have hall : ∀ vehicle ∈ Sample.fleet.vehicles.find? 40, Sample.fleet.foreignVehicle 1 vehicle = false := by
        decide +kernel
      exact Bool.noConfusion ((hall vehicle hvehicle).symm.trans hforeign)
    · have hall : ∀ assignment ∈ Sample.fleet.assignments.rows, assignment.partnerId = 1 := by decide +kernel
      exact hforeign (hall assignment hmem)

/-- Partner 2 deactivates a member of partner 1, ends the assignment of its vehicle, and takes the vehicle of a driver
who is not affiliated to it. -/
theorem not_isolated_unchecked :
    ¬ (Sample.partnerCall 2 (.deactivateMember 50)).Isolated Sample.fleet ∧
      ¬ (Sample.partnerCall 2 (.unassignVehicle 40)).Isolated Sample.fleet ∧
      ¬ (Sample.partnerCall 1 (.assignVehicle 41 20)).Isolated Sample.fleet := by
  refine ⟨fun h => Sample.not_raises (by decide +kernel) (h.fails ?_).1,
    fun h => Sample.not_raises (by decide +kernel) (h.fails ?_).1,
    fun h => Sample.not_raises (by decide +kernel) (h.fails ?_).1⟩
  · exact ⟨_, rfl, by decide⟩
  · exact Or.inr ⟨{ id := 70, partnerId := 1, vehicleId := 40, driverId := 20 }, by decide +kernel, rfl, by decide⟩
  · exact Or.inl (Or.inl ⟨_, rfl, by decide +kernel⟩)

end DiddiGo.Partners
