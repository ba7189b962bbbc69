import DiddiGo.Data.Proofs.NumericProofs
import DiddiGo.Data.Proofs.TableProofs
import DiddiGo.Dossiers.Proofs.DocumentsProofs
import DiddiGo.Partners.Records
import DiddiGo.Transactions.Proofs.LeadsProofs

/-!
# When partner records are sound

A call refuses its arguments, or it saves one record. What is saved decides whether the table takes it, and whether an
active partner stays vetted.
-/

namespace DiddiGo.Partners

open Data (Keyed Table numeric numeric_idem)
open Dossiers (DocumentRef DocumentType blankToNone ensureDocumentsComplete_ok)
open PartnerRecords Transactions

variable {step : RecordStep} {steps : List RecordStep} {partners kept : PartnerRecords} {partnerId : UUID}
  {partner old record : PartnerRecord} {mode mode' : PartnerCommissionMode} {rate : Decimal}

/-! ## Checks of arguments -/

theorem ok_bind {α β : Type} (a : α) (f : α → Except Err β) : (Except.ok a >>= f) = f a := rfl

/-- A check returns a value with `P`, or it is refused and there is none. -/
def Decides {α : Type} (x : Except Err α) (P : α → Prop) : Prop :=
  (∃ a, x = .ok a ∧ P a) ∨ ∃ e, x = .error (.api e) ∧ ∀ a, ¬ P a

theorem decides_requiredText (value field : String) :
    Decides (PartnerRecords.requiredText value field) fun cleaned => blankToNone (some value) = some cleaned := by
  unfold PartnerRecords.requiredText
  cases blankToNone (some value) with
  | some cleaned => exact Or.inl ⟨cleaned, rfl, rfl⟩
  | none => exact Or.inr ⟨_, rfl, fun _ h => absurd h.symm (Option.some_ne_none _)⟩

theorem decides_oneOf {α : Type} {value : α → String} {all : List α} (hall : ∀ a, a ∈ all)
    (code message field text : String) : Decides (oneOf value all code message field text) fun a => value a = text := by
  unfold oneOf
  cases hfind : all.find? (fun a => value a = text) with
  | some a =>
    have hvalue := List.find?_some hfind
    exact Or.inl ⟨a, rfl, of_decide_eq_true hvalue⟩
  | none =>
    refine Or.inr ⟨_, rfl, fun a ha => ?_⟩
    exact List.find?_eq_none.mp hfind a (hall a) (decide_eq_true ha)

theorem decides_partnerType (text : String) : Decides (partnerType text) fun type => type.value = text :=
  decides_oneOf (fun type => by cases type <;> decide) _ _ _ _

theorem decides_commissionMode (text : String) : Decides (commissionMode text) fun mode => mode.value = text :=
  decides_oneOf (fun mode => by cases mode <;> decide) _ _ _ _

theorem PartnerCommissionMode.value_injective (h : mode.value = mode'.value) : mode = mode' := by
  revert h
  cases mode <;> cases mode' <;> decide

theorem decides_commissionRate (rate : Decimal) (mode : PartnerCommissionMode) :
    Decides (commissionRate rate mode.value) fun rate' => rate' = rate ∧ RateAccepted rate mode := by
  have hpercentage : mode.value = PartnerCommissionMode.percentage.value ↔ mode = .percentage := by
    cases mode <;> decide
  unfold commissionRate
  split_ifs with hnegative hlarge
  · exact Or.inr ⟨_, rfl, fun _ h => absurd h.2.1 (not_le.mpr hnegative)⟩
  · exact Or.inr ⟨_, rfl, fun _ h => absurd (h.2.2 (hpercentage.mp hlarge.1)) (not_le.mpr hlarge.2)⟩
  · refine Or.inl ⟨rate, rfl, rfl, not_lt.mp hnegative, fun hmode => not_lt.mp fun h => ?_⟩
    exact hlarge ⟨hpercentage.mpr hmode, h⟩

/-- A check of an argument that may be missing. -/
theorem ifGiven_cases {α β : Type} (given : Option α) {check : α → Except Err β} (current : β) {P : α → β → Prop}
    (h : ∀ a, Decides (check a) (P a)) :
    (∃ b, ifGiven given current check = .ok b ∧ (∀ a, given = some a → P a b) ∧ (given = none → b = current)) ∨
      ∃ e a, ifGiven given current check = .error (.api e) ∧ given = some a ∧ ∀ b, ¬ P a b := by
  cases given with
  | none => exact Or.inl ⟨current, rfl, fun _ h => absurd h.symm (Option.some_ne_none _), fun _ => rfl⟩
  | some a =>
    rcases h a with ⟨b, hb, hP⟩ | ⟨e, he, hP⟩
    · refine Or.inl ⟨b, hb, fun a' ha' => ?_, fun hnone => absurd hnone (Option.some_ne_none a)⟩
      obtain rfl := Option.some.inj ha'
      exact hP
    · exact Or.inr ⟨e, a, he, rfl, hP⟩

/-! ## Saving -/

theorem find?_put (partners : PartnerRecords) (row : PartnerRecord) (partnerId : UUID) :
    (partners.put row).find? partnerId = if partnerId = row.id then some row else partners.find? partnerId := by
  unfold PartnerRecords.put
  cases hfind : partners.find? row.id with
  | none =>
    rw [if_neg (by decide)]
    by_cases hid : partnerId = row.id
    · rw [if_pos hid, hid]
      exact Table.find?_insert_self hfind
    · rw [if_neg hid]
      exact Table.find?_insert_of_ne partners fun h => hid h.symm
  | some old =>
    rw [if_pos (by rfl)]
    by_cases hid : partnerId = row.id
    · have hold : old.id = row.id := Table.key_of_find? hfind
      rw [if_pos hid, hid, Table.find?_update_self _ _ hfind, hold]
    · rw [if_neg hid, Table.find?_update_of_ne _ _ _ hid]

/-- The row that a record is stored as. -/
def PartnerRecord.stored (record : PartnerRecord) (rate : Decimal) : PartnerRecord :=
  { record with commissionRate := rate }

/-- The table takes the record, or it is not stored. -/
theorem save_cases (partners : PartnerRecords) (record : PartnerRecord) :
    (∃ rate, numeric 6 4 record.commissionRate = some rate ∧ (record.stored rate).ChecksHold ∧
      partners.save record = .ok (record, partners.put (record.stored rate))) ∨
    (∃ name, partners.save record = .error (.other name)) ∧
      ∀ rate, numeric 6 4 record.commissionRate = some rate → ¬ (record.stored rate).ChecksHold := by
  unfold PartnerRecords.save
  cases hrate : numeric 6 4 record.commissionRate with
  | none => exact Or.inr ⟨⟨_, rfl⟩, fun _ h => absurd h.symm (Option.some_ne_none _)⟩
  | some rate =>
    by_cases hchecks : (record.stored rate).ChecksHold
    · exact Or.inl ⟨rate, rfl, hchecks, if_pos hchecks⟩
    · refine Or.inr ⟨⟨_, if_neg hchecks⟩, fun rate' h => ?_⟩
      rw [← Option.some.inj h]
      exact hchecks

/-! ## What a call saves -/

/-- The call has a commission mode and a rate among its arguments. -/
def RecordStep.TakesTerms (step : RecordStep) : Prop :=
  match step.call with
  | .createPartner _ _ => True
  | .updatePartner _ _ => True
  | _ => False

/-- What the call does to the record of a partner, if its arguments are accepted. -/
inductive RecordStep.Proposes (step : RecordStep) (partners : PartnerRecords) (record : PartnerRecord) : Prop
  | created (id : UUID) (args : PartnerCreate) (hcall : step.call = .createPartner id args)
      (haccepted : args.Accepted record.commissionMode) (hrate : record.commissionRate = args.commissionRate)
      (hstatus : record.status ≠ .active)
  | updated (args : PartnerUpdate) (old : PartnerRecord) (hcall : step.call = .updatePartner record.id args)
      (hfind : partners.find? record.id = some old) (haccepted : args.Accepted old record.commissionMode)
      (hrate : record.commissionRate = args.commissionRate.getD old.commissionRate)
      (hstatus : record.status = old.status)
      (hdocuments : record.documents = (updatePartnerKycFields old args.documents).documents)
  | activated (old : PartnerRecord) (hactivates : step.Activates record.id)
      (hfind : partners.find? record.id = some old) (hmode : record.commissionMode = old.commissionMode)
      (hrate : record.commissionRate = old.commissionRate) (hcomplete : record.KycComplete)
  | closed (old : PartnerRecord) (hcall : ¬ step.TakesTerms) (hfind : partners.find? record.id = some old)
      (hmode : record.commissionMode = old.commissionMode) (hrate : record.commissionRate = old.commissionRate)
      (hstatus : record.status ≠ .active)

/-- The service accepts the arguments of a call that has some. -/
def RecordStep.Accepts (step : RecordStep) (partners : PartnerRecords) : Prop :=
  match step.call with
  | .createPartner _ args => ∃ mode, args.Accepted mode
  | .updatePartner partnerId args => ∃ old mode, partners.find? partnerId = some old ∧ args.Accepted old mode
  | _ => False

/-- A call that needs its partner. -/
theorem run_of_requirePartner {f : PartnerRecord → Except Err (PartnerRecord × PartnerRecords)} {P : Prop}
    (hnone : partners.find? partnerId = none → ¬ P)
    (hsome : ∀ old, partners.find? partnerId = some old →
      (∃ e, f old = .error (.api e)) ∧ ¬ P ∨ ∃ record, step.Proposes partners record ∧ f old = partners.save record) :
    (∃ e, (partners.requirePartner partnerId >>= f) = .error (.api e)) ∧ ¬ P ∨
      ∃ record, step.Proposes partners record ∧ (partners.requirePartner partnerId >>= f) = partners.save record := by
  unfold PartnerRecords.requirePartner
  cases hfind : partners.find? partnerId with
  | none => exact Or.inl ⟨⟨_, rfl⟩, hnone hfind⟩
  | some old => exact hsome old hfind

theorem run_createPartner (now : DateTime) {id : UUID} {args : PartnerCreate}
    (hcall : step.call = .createPartner id args) :
    (∃ e, partners.createPartner now id args = .error (.api e)) ∧ ¬ (∃ mode, args.Accepted mode) ∨
      ∃ record, step.Proposes partners record ∧ partners.createPartner now id args = partners.save record := by
  unfold PartnerRecords.createPartner
  rcases decides_requiredText args.name "name" with ⟨name, hname, hclean⟩ | ⟨e, hname, hnone⟩
  · rw [hname]
    rcases decides_partnerType args.partnerType with ⟨type, htype, hvalue⟩ | ⟨e, htype, hnone⟩
    · rw [htype]
      rcases decides_commissionMode args.commissionMode with ⟨mode, hmode, hvalue'⟩ | ⟨e, hmode, hnone⟩
      · rw [hmode, ← hvalue']
        rcases decides_commissionRate args.commissionRate mode with ⟨rate, hrate, rfl, haccepted⟩ | ⟨e, hrate, hnone⟩
        · rw [hrate]
          refine Or.inr ⟨_, .created id args hcall ⟨?_, ⟨type, hvalue⟩, hvalue', haccepted⟩ rfl ?_, rfl⟩
          · rw [hclean]
            rfl
          · exact fun h => by cases h
        · rw [hrate]
          refine Or.inl ⟨⟨e, rfl⟩, ?_⟩
          rintro ⟨mode', h⟩
          obtain rfl := PartnerCommissionMode.value_injective (h.mode_known.trans hvalue'.symm)
          exact hnone _ ⟨rfl, h.rate_accepted⟩
      · rw [hmode]
        exact Or.inl ⟨⟨e, rfl⟩, fun ⟨mode, h⟩ => hnone mode h.mode_known⟩
    · rw [htype]
      refine Or.inl ⟨⟨e, rfl⟩, fun ⟨_, h⟩ => ?_⟩
      obtain ⟨type, hvalue⟩ := h.type_known
      exact hnone type hvalue
  · rw [hname]
    refine Or.inl ⟨⟨e, rfl⟩, fun ⟨_, h⟩ => ?_⟩
    obtain ⟨name, hclean⟩ := Option.isSome_iff_exists.mp h.name_given
    exact hnone name hclean

theorem run_updatePartner {args : PartnerUpdate} (hcall : step.call = .updatePartner partnerId args) :
    (∃ e, partners.updatePartner partnerId args = .error (.api e)) ∧
        ¬ (∃ old mode, partners.find? partnerId = some old ∧ args.Accepted old mode) ∨
      ∃ record, step.Proposes partners record ∧ partners.updatePartner partnerId args = partners.save record := by
  unfold PartnerRecords.updatePartner
  refine run_of_requirePartner (fun hnone => ?_) fun old hfind => ?_
  · rintro ⟨old, mode, hfind, -⟩
    rw [hnone] at hfind
    cases hfind
  have hid : old.id = partnerId := Table.key_of_find? hfind
  have hrefused (h : ∀ mode, ¬ args.Accepted old mode) :
      ¬ ∃ old mode, partners.find? partnerId = some old ∧ args.Accepted old mode := by
    rintro ⟨old', mode, hfind', haccepted⟩
    obtain rfl := Option.some.inj (hfind.symm.trans hfind')
    exact h mode haccepted
  rcases ifGiven_cases args.name old.name
    fun name => decides_requiredText name "name" with ⟨name, hname, hclean, -⟩ | ⟨e, given, hname, hgiven, hnone⟩
  · rw [hname, ok_bind]
    rcases ifGiven_cases args.partnerType old.partnerType
      decides_partnerType with ⟨type, htype, hvalue, -⟩ | ⟨e, given, htype, hgiven, hnone⟩
    · rw [htype, ok_bind]
      rcases ifGiven_cases args.commissionMode old.commissionMode
        decides_commissionMode with ⟨mode, hmode, hvalue', hcurrent⟩ | ⟨e, given, hmode, hgiven, hnone⟩
      · have hknown : mode.value = args.commissionMode.getD old.commissionMode.value := by
          cases hgiven : args.commissionMode with
          | none => rw [hcurrent hgiven]; rfl
          | some text => exact hvalue' text hgiven
        rw [hmode, ok_bind]
        rcases ifGiven_cases args.commissionRate old.commissionRate
          fun rate => decides_commissionRate rate mode with ⟨rate, hrate, haccepted, hkept⟩ | ⟨e, given, hrate, hgiven, hnone⟩
        · have hnew : rate = args.commissionRate.getD old.commissionRate := by
            cases hgiven : args.commissionRate with
            | none => exact hkept hgiven
            | some rate' => exact (haccepted rate' hgiven).1
          rw [hrate, ok_bind]
          refine Or.inr ⟨_, ?_, rfl⟩
          refine .updated args old ?_ (hid.symm ▸ hfind) ⟨?_, ?_, hknown, ?_⟩ hnew rfl rfl
          · rw [hcall]
            exact congrArg (RecordCall.updatePartner · args) hid.symm
          · intro given hgiven
            rw [hclean given hgiven]
            rfl
          · exact fun text hgiven => ⟨type, hvalue text hgiven⟩
          · exact fun given hgiven => (haccepted given hgiven).2
        · rw [hrate]
          refine Or.inl ⟨⟨e, rfl⟩, hrefused fun mode' h => ?_⟩
          obtain rfl := PartnerCommissionMode.value_injective (h.mode_known.trans hknown.symm)
          exact hnone given ⟨rfl, h.rate_accepted given hgiven⟩
      · rw [hmode]
        refine Or.inl ⟨⟨e, rfl⟩, hrefused fun mode h => hnone mode ?_⟩
        rw [h.mode_known, hgiven]
        rfl
    · rw [htype]
      refine Or.inl ⟨⟨e, rfl⟩, hrefused fun _ h => ?_⟩
      obtain ⟨type, hvalue⟩ := h.type_known given hgiven
      exact hnone type hvalue
  · rw [hname]
    refine Or.inl ⟨⟨e, rfl⟩, hrefused fun _ h => ?_⟩
    obtain ⟨name, hclean⟩ := Option.isSome_iff_exists.mp (h.name_given given hgiven)
    exact hnone name hclean

/-- The terms of the partner stay, and it is not active. -/
theorem run_closing {change : PartnerRecord → PartnerRecord} (hid : ∀ old, (change old).id = old.id)
    (hmode : ∀ old, (change old).commissionMode = old.commissionMode)
    (hrate : ∀ old, (change old).commissionRate = old.commissionRate) (hstatus : ∀ old, (change old).status ≠ .active)
    (hcall : ¬ step.TakesTerms) :
    (∃ e, (partners.requirePartner partnerId >>= fun old => partners.save (change old)) = .error (.api e)) ∧ ¬ False ∨
      ∃ record, step.Proposes partners record ∧
        (partners.requirePartner partnerId >>= fun old => partners.save (change old)) = partners.save record := by
  refine run_of_requirePartner (fun _ => id) fun old hfind => Or.inr ⟨change old, ?_, rfl⟩
  have hkey : old.id = partnerId := Table.key_of_find? hfind
  exact .closed old hcall (by rw [hid, hkey, hfind]) (hmode old) (hrate old) (hstatus old)

theorem ensurePartnerKycComplete_cases (partner : PartnerRecord) :
    (ensurePartnerKycComplete partner = .ok () ∧ partner.KycComplete) ∨
      ∃ e, ensurePartnerKycComplete partner = .error (.api e) := by
  unfold ensurePartnerKycComplete
  generalize hcheck : Dossiers.ensureDocumentsComplete partner.documents "INVALID_PARTNER_KYC_DOCUMENTS"
    "Le dossier KYC partenaire est incomplet." = check
  cases check with
  | error e => exact Or.inr ⟨e, rfl⟩
  | ok => exact Or.inl ⟨rfl, ensureDocumentsComplete_ok hcheck⟩

/-- The documents are checked, and they stay. -/
theorem run_activating {change : PartnerRecord → PartnerRecord} (hid : ∀ old, (change old).id = old.id)
    (hmode : ∀ old, (change old).commissionMode = old.commissionMode)
    (hrate : ∀ old, (change old).commissionRate = old.commissionRate)
    (hdocuments : ∀ old, (change old).documents = old.documents) (hactivates : step.Activates partnerId) :
    (∃ e, (partners.requirePartner partnerId >>= fun old =>
        ensurePartnerKycComplete old >>= fun _ => partners.save (change old)) = .error (.api e)) ∧ ¬ False ∨
      ∃ record, step.Proposes partners record ∧
        (partners.requirePartner partnerId >>= fun old =>
          ensurePartnerKycComplete old >>= fun _ => partners.save (change old)) = partners.save record := by
  refine run_of_requirePartner (fun _ => id) fun old hfind => ?_
  rcases ensurePartnerKycComplete_cases old with ⟨hcheck, hcomplete⟩ | ⟨e, hcheck⟩
  · rw [hcheck, ok_bind]
    refine Or.inr ⟨change old, ?_, rfl⟩
    have hkey : (change old).id = partnerId := (hid old).trans (Table.key_of_find? hfind)
    refine .activated old (hkey ▸ hactivates) (hkey ▸ hfind) (hmode old) (hrate old) fun d hrequired => ?_
    rw [hdocuments]
    exact hcomplete d hrequired
  · rw [hcheck]
    exact Or.inl ⟨⟨e, rfl⟩, id⟩

/-- A call is refused, or it saves one record. -/
theorem run_cases (step : RecordStep) (partners : PartnerRecords) :
    (∃ e, step.run partners = .error (.api e)) ∧ ¬ step.Accepts partners ∨
      ∃ record, step.Proposes partners record ∧ step.run partners = partners.save record := by
  unfold RecordStep.run RecordStep.Accepts
  cases hcall : step.call with
  | createPartner id args => exact run_createPartner step.now hcall
  | updatePartner partnerId args => exact run_updatePartner hcall
  | submitKyc partnerId documents =>
    refine run_closing (fun _ => rfl) (fun _ => rfl) (fun _ => rfl) (fun _ h => by cases h) ?_
    unfold RecordStep.TakesTerms
    rw [hcall]
    exact id
  | activatePartner partnerId =>
    exact run_activating (fun _ => rfl) (fun _ => rfl) (fun _ => rfl) (fun _ => rfl) (Or.inl hcall)
  | approveKyc partnerId reviewer notes =>
    exact run_activating (fun _ => rfl) (fun _ => rfl) (fun _ => rfl) (fun _ => rfl) (Or.inr ⟨reviewer, notes, hcall⟩)
  | suspendPartner partnerId =>
    refine run_closing (fun _ => rfl) (fun _ => rfl) (fun _ => rfl) (fun _ h => by cases h) ?_
    unfold RecordStep.TakesTerms
    rw [hcall]
    exact id
  | rejectPartner partnerId =>
    refine run_closing (fun _ => rfl) (fun _ => rfl) (fun _ => rfl) (fun _ h => by cases h) ?_
    unfold RecordStep.TakesTerms
    rw [hcall]
    exact id
  | rejectKyc partnerId reviewer notes =>
    refine run_closing (fun _ => rfl) (fun _ => rfl) (fun _ => rfl) (fun _ h => by cases h) ?_
    unfold RecordStep.TakesTerms
    rw [hcall]
    exact id

/-! ## Stored rows -/

/-- What is stored can be stored again as it is. -/
def Stored (partners : PartnerRecords) : Prop :=
  ∀ partnerId partner, partners.find? partnerId = some partner →
    numeric 6 4 partner.commissionRate = some partner.commissionRate ∧ partner.ChecksHold

/-- What a call does to the table. -/
theorem after_cases (step : RecordStep) (partners : PartnerRecords) :
    step.after partners = partners ∨
      ∃ record rate, step.Proposes partners record ∧ numeric 6 4 record.commissionRate = some rate ∧
        (record.stored rate).ChecksHold ∧ step.run partners = .ok (record, step.after partners) ∧
        step.after partners = partners.put (record.stored rate) := by
  unfold RecordStep.after
  rcases run_cases step partners with ⟨⟨e, he⟩, -⟩ | ⟨record, hproposes, hsave⟩
  · rw [he]
    exact Or.inl rfl
  · rcases save_cases partners record with ⟨rate, hrate, hchecks, hok⟩ | ⟨⟨name, herror⟩, -⟩
    · rw [hsave, hok]
      exact Or.inr ⟨record, rate, hproposes, hrate, hchecks, rfl, rfl⟩
    · rw [hsave, herror]
      exact Or.inl rfl

theorem stored_after (h : Stored partners) (step : RecordStep) : Stored (step.after partners) := by
  rcases after_cases step partners with hsame | ⟨record, rate, -, hrate, hchecks, -, hput⟩
  · rw [hsame]
    exact h
  · intro partnerId partner hfind
    rw [hput, find?_put] at hfind
    by_cases hid : partnerId = (record.stored rate).id
    · rw [if_pos hid] at hfind
      obtain rfl := Option.some.inj hfind
      exact ⟨numeric_idem hrate, hchecks⟩
    · rw [if_neg hid] at hfind
      exact h partnerId partner hfind

theorem stored_runRecords (steps : List RecordStep) : Stored (runRecords steps) :=
  inv_runSteps (eachStep_true steps) (fun _ _ h => absurd h.symm (Option.some_ne_none _)) fun step _ _ h => stored_after h step

/-! ## Answers -/

/-- An accepted rate that fits passes the checks, rounded as it is stored. -/
theorem checksHold_of_accepted {rate' : Decimal} (haccepted : RateAccepted rate record.commissionMode)
    (hrate : numeric 6 4 rate = some rate') : (record.stored rate').ChecksHold := by
  obtain rfl := Data.numeric_eq_some hrate
  exact ⟨Data.rescale_nonneg 4 haccepted.1, fun hmode => Data.rescale_le_one 4 haccepted.1 (haccepted.2 hmode)⟩

/-- The table takes the record. -/
def Storable (record : PartnerRecord) : Prop :=
  ∃ rate, numeric 6 4 record.commissionRate = some rate ∧ (record.stored rate).ChecksHold

theorem answered_iff_of_save (hsave : step.run partners = partners.save record) :
    step.Answered partners ↔ Storable record := by
  unfold RecordStep.Answered
  rw [hsave]
  rcases save_cases partners record with ⟨rate, hrate, hchecks, hok⟩ | ⟨⟨name, herror⟩, hnone⟩
  · rw [hok]
    refine ⟨fun _ => ⟨rate, hrate, hchecks⟩, fun _ => Or.inr ⟨record, _, record.stored rate, rfl, ?_, hchecks⟩⟩
    exact (find?_put _ _ _).trans (if_pos rfl)
  · rw [herror]
    refine ⟨?_, fun ⟨rate, hrate, hchecks⟩ => absurd hchecks (hnone rate hrate)⟩
    rintro (⟨e, he⟩ | ⟨_, _, _, hok, -⟩)
    · cases he
    · cases hok

/-- An accepted rate is stored if it fits. -/
theorem storable_of_accepted (hrate : record.commissionRate = rate)
    (haccepted : RateAccepted rate record.commissionMode) : Storable record ↔ RateFits rate := by
  unfold Storable RateFits
  rw [hrate]
  constructor
  · rintro ⟨rate', hfits, -⟩
    rw [hfits]
    rfl
  · intro hfits
    obtain ⟨rate', hfits⟩ := Option.isSome_iff_exists.mp hfits
    exact ⟨rate', hfits, checksHold_of_accepted haccepted hfits⟩

/-- A rate that stays is stored if the mode allows it. -/
theorem storable_of_kept (hstored : Stored partners) (hfind : partners.find? partnerId = some old)
    (hrate : record.commissionRate = old.commissionRate) :
    Storable record ↔ (record.commissionMode = .percentage → old.commissionRate ≤ 1) := by
  obtain ⟨hfits, hchecks⟩ := hstored partnerId old hfind
  unfold Storable
  rw [hrate, hfits]
  constructor
  · rintro ⟨rate', hsame, hchecks'⟩ hmode
    rw [Option.some.inj hsame]
    exact hchecks'.2 hmode
  · exact fun hmode => ⟨old.commissionRate, rfl, hchecks.1, hmode⟩

theorem keepsTerms_of_not_takesTerms (h : ¬ step.TakesTerms) : step.KeepsTerms partners := by
  unfold RecordStep.TakesTerms at h
  unfold RecordStep.KeepsTerms
  cases hcall : step.call with
  | createPartner id args => exact absurd trivial (by rw [hcall] at h; exact h)
  | updatePartner partnerId args => exact absurd trivial (by rw [hcall] at h; exact h)
  | _ => trivial

theorem RecordStep.Activates.not_takesTerms (h : step.Activates partnerId) : ¬ step.TakesTerms := by
  unfold RecordStep.TakesTerms
  rcases h with h | ⟨reviewer, notes, h⟩ <;>
  · rw [h]
    exact id

/-- Exactly the calls that keep the terms are answered. -/
theorem answered_iff (hstored : Stored partners) (step : RecordStep) :
    step.Answered partners ↔ step.KeepsTerms partners := by
  rcases run_cases step partners with ⟨hrefused, haccepts⟩ | ⟨record, hproposes, hsave⟩
  · refine iff_of_true (Or.inl hrefused) ?_
    unfold RecordStep.Accepts at haccepts
    unfold RecordStep.KeepsTerms
    cases hcall : step.call with
    | createPartner id args =>
      rw [hcall] at haccepts
      exact fun mode h => absurd ⟨mode, h⟩ haccepts
    | updatePartner partnerId args =>
      rw [hcall] at haccepts
      exact fun partner mode hfind h => absurd ⟨partner, mode, hfind, h⟩ haccepts
    | _ => trivial
  · rw [answered_iff_of_save hsave]
    cases hproposes with
    | created id args hcall haccepted hrate hstatus =>
      rw [storable_of_accepted hrate haccepted.rate_accepted]
      unfold RecordStep.KeepsTerms
      rw [hcall]
      exact ⟨fun h _ _ => h, fun h => h record.commissionMode haccepted⟩
    | updated args old hcall hfind haccepted hrate hstatus hdocuments =>
      have hkeeps : step.KeepsTerms partners ↔ (∀ rate, args.commissionRate = some rate → RateFits rate) ∧
          (args.commissionRate = none → record.commissionMode = .percentage → old.commissionRate ≤ 1) := by
        unfold RecordStep.KeepsTerms
        rw [hcall]
        refine ⟨fun h => h old record.commissionMode hfind haccepted, fun h partner mode hfind' haccepted' => ?_⟩
        obtain rfl := Option.some.inj (hfind.symm.trans hfind')
        obtain rfl := PartnerCommissionMode.value_injective
          (haccepted.mode_known.trans haccepted'.mode_known.symm)
        exact h
      rw [hkeeps]
      cases hgiven : args.commissionRate with
      | none =>
        rw [hgiven] at hrate
        rw [storable_of_kept hstored hfind hrate]
        exact ⟨fun h => ⟨fun rate h => absurd h.symm (Option.some_ne_none rate), fun _ => h⟩, fun h => h.2 rfl⟩
      | some rate =>
        rw [hgiven] at hrate
        rw [storable_of_accepted hrate (haccepted.rate_accepted rate hgiven)]
        refine ⟨fun h => ⟨fun rate' h' => Option.some.inj h' ▸ h, fun h => absurd h (Option.some_ne_none rate)⟩,
          fun h => h.1 rate rfl⟩
    | activated old hactivates hfind hmode hrate hcomplete =>
      refine iff_of_true ((storable_of_kept hstored hfind hrate).mpr fun h => ?_)
        (keepsTerms_of_not_takesTerms hactivates.not_takesTerms)
      exact (hstored _ old hfind).2.2 (hmode ▸ h)
    | closed old hcall hfind hmode hrate hstatus =>
      refine iff_of_true ((storable_of_kept hstored hfind hrate).mpr fun h => ?_) (keepsTerms_of_not_takesTerms hcall)
      exact (hstored _ old hfind).2.2 (hmode ▸ h)

/-! ## Vetted partners -/

theorem statesAlong_snoc {σ γ : Type} {after : γ → σ → σ} {s t : σ} {cs : List γ} {c : γ}
    (h : t ∈ statesAlong after (cs ++ [c]) s) : t ∈ statesAlong after cs s ∨ t = after c (runSteps after cs s) := by
  induction cs generalizing s with
  | nil =>
    rcases List.mem_cons.mp h with rfl | h
    · exact Or.inl (List.mem_singleton.mpr rfl)
    · exact Or.inr (List.mem_singleton.mp h)
  | cons d cs ih =>
    rcases List.mem_cons.mp h with rfl | h
    · exact Or.inl List.mem_cons_self
    · exact (ih h).imp (List.mem_cons_of_mem _) id

theorem runRecords_snoc (steps : List RecordStep) (step : RecordStep) :
    runRecords (steps ++ [step]) = step.after (runRecords steps) := runSteps_snoc steps step

/-- The partner is active since a call made it so, and its required documents are those of `partner`. -/
def VettedSince (steps : List RecordStep) (partnerId : UUID) (partner : PartnerRecord) : Prop :=
  partner.KycComplete ∧ ∃ before step later, steps = before ++ step :: later ∧ step.Activates partnerId ∧
    ∀ partners ∈ statesAlong RecordStep.after later (runRecords (before ++ [step])),
      ∃ partner', partners.find? partnerId = some partner' ∧ partner'.status = .active ∧ partner'.SameKyc partner

/-- One more call after which the partner is still active, with the same documents. -/
theorem VettedSince.snoc {partner' : PartnerRecord} (h : VettedSince steps partnerId partner)
    (hfind : (step.after (runRecords steps)).find? partnerId = some partner') (hactive : partner'.status = .active)
    (hsame : partner'.SameKyc partner) : VettedSince (steps ++ [step]) partnerId partner' := by
  obtain ⟨hcomplete, before, first, later, hsplit, hactivates, hstates⟩ := h
  refine ⟨fun d hrequired => by rw [hsame d hrequired]; exact hcomplete d hrequired, before, first, later ++ [step], ?_,
    hactivates, fun partners hpartners => ?_⟩
  · rw [hsplit, List.append_assoc, List.cons_append]
  · rcases statesAlong_snoc hpartners with hpartners | rfl
    · obtain ⟨partner₀, hfind₀, hactive₀, hsame₀⟩ := hstates partners hpartners
      exact ⟨partner₀, hfind₀, hactive₀, fun d hrequired => (hsame₀ d hrequired).trans (hsame d hrequired).symm⟩
    · have hrun : runSteps RecordStep.after later (runRecords (before ++ [first])) = runRecords steps := by
        rw [hsplit]
        unfold runRecords
        rw [← runSteps_append, List.append_assoc, List.singleton_append]
      rw [hrun]
      exact ⟨partner', hfind, hactive, fun _ _ => rfl⟩

/-- A call that keeps the documents keeps active partners vetted. -/
theorem vetted_snoc (h : Vetted steps) (hkeeps : step.KeepsDocuments (runRecords steps)) : Vetted (steps ++ [step]) := by
  intro partnerId partner hfind hactive
  rw [runRecords_snoc] at hfind
  change VettedSince (steps ++ [step]) partnerId partner
  rcases after_cases step (runRecords steps) with hsame | ⟨record, rate, hproposes, -, -, -, hput⟩
  · have hold : (runRecords steps).find? partnerId = some partner := hsame ▸ hfind
    exact VettedSince.snoc (h partnerId partner hold hactive) hfind hactive fun _ _ => rfl
  · have hfind' := hfind
    rw [hput, find?_put] at hfind'
    by_cases hid : partnerId = (record.stored rate).id
    · rw [if_pos hid] at hfind'
      obtain rfl := Option.some.inj hfind'
      obtain rfl : partnerId = record.id := hid
      cases hproposes with
      | created id args hcall haccepted hrate hstatus => exact absurd hactive hstatus
      | closed old hcall hold hmode hrate hstatus => exact absurd hactive hstatus
      | activated old hactivates hold hmode hrate hcomplete =>
        refine ⟨hcomplete, steps, step, [], rfl, hactivates, fun partners hpartners => ?_⟩
        obtain rfl := List.mem_singleton.mp hpartners
        rw [runRecords_snoc]
        exact ⟨_, hfind, hactive, fun _ _ => rfl⟩
      | updated args old hcall hold haccepted hrate hstatus hdocuments =>
        have hactive' : old.status = .active := hstatus.symm.trans hactive
        unfold RecordStep.KeepsDocuments at hkeeps
        rw [hcall] at hkeeps
        have hsame := hkeeps old record.commissionMode hold haccepted hactive'
        refine VettedSince.snoc (h record.id old hold hactive') hfind hactive fun d hrequired => ?_
        exact (congrFun hdocuments d).trans (hsame d hrequired)
    · rw [if_neg hid] at hfind'
      exact VettedSince.snoc (h partnerId partner hfind' hactive) hfind hactive fun _ _ => rfl

theorem find?_after_of_save (hsave : step.run partners = partners.save record) (hstorable : Storable record) :
    ∃ rate, (step.after partners).find? record.id = some (record.stored rate) := by
  obtain ⟨rate, hrate, hchecks⟩ := hstorable
  unfold RecordStep.after
  rw [hsave]
  rcases save_cases partners record with ⟨rate, -, -, hok⟩ | ⟨-, hnone⟩
  · rw [hok]
    exact ⟨rate, (find?_put _ _ _).trans (if_pos rfl)⟩
  · exact absurd hchecks (hnone rate hrate)

/-- Unless a partner is made active by the last call, it was active before it, with the same documents. -/
theorem VettedSince.before_last (h : VettedSince (steps ++ [step]) partnerId partner)
    (hactivates : ¬ step.Activates partnerId) :
    ∃ partner', (runRecords steps).find? partnerId = some partner' ∧ partner'.SameKyc partner := by
  obtain ⟨-, before, first, later, hsplit, hfirst, hstates⟩ := h
  rcases List.eq_nil_or_concat later with rfl | ⟨later, last, rfl⟩
  · obtain ⟨-, hlast⟩ := List.append_inj' hsplit rfl
    obtain rfl := List.singleton_inj.mp hlast
    exact absurd hfirst hactivates
  · rw [List.concat_eq_append] at hsplit hstates
    rw [← List.cons_append, ← List.append_assoc] at hsplit
    obtain ⟨hsteps, -⟩ := List.append_inj' hsplit rfl
    have hrun : runRecords steps = runSteps RecordStep.after later (runRecords (before ++ [first])) := by
      rw [hsteps]
      unfold runRecords
      rw [← runSteps_append, List.append_assoc, List.singleton_append]
    obtain ⟨partner', hfind, -, hsame⟩ := hstates (runRecords steps) (mem_statesAlong.mpr ⟨later, [last], rfl, hrun⟩)
    exact ⟨partner', hfind, hsame⟩

/-- A call after which active partners are vetted has kept the documents. -/
theorem keepsDocuments_of_vetted (hterms : step.KeepsTerms (runRecords steps)) (h : Vetted (steps ++ [step])) :
    step.KeepsDocuments (runRecords steps) := by
  unfold RecordStep.KeepsDocuments
  cases hcall : step.call with
  | updatePartner partnerId args =>
    intro partner mode hfind haccepted hactive
    rcases run_cases step (runRecords steps) with ⟨-, haccepts⟩ | ⟨record, hproposes, hsave⟩
    · unfold RecordStep.Accepts at haccepts
      rw [hcall] at haccepts
      exact absurd ⟨partner, mode, hfind, haccepted⟩ haccepts
    have hstorable := (answered_iff_of_save hsave).mp ((answered_iff (stored_runRecords steps) step).mpr hterms)
    obtain ⟨rate, hafter⟩ := find?_after_of_save hsave hstorable
    have hactivates : ∀ partnerId', ¬ step.Activates partnerId' := by
      rintro partnerId' (h' | ⟨_, _, h'⟩) <;>
      · rw [hcall] at h'
        cases h'
    cases hproposes with
    | created id args' hcall' haccepted' hrate hstatus =>
      rw [hcall] at hcall'
      cases hcall'
    | activated old hactivates' hold hmode hrate hcomplete => exact absurd hactivates' (hactivates _)
    | closed old hcall' hold hmode hrate hstatus =>
      unfold RecordStep.TakesTerms at hcall'
      rw [hcall] at hcall'
      exact absurd trivial hcall'
    | updated args' old hcall' hold haccepted' hrate hstatus hdocuments =>
      rw [hcall] at hcall'
      obtain ⟨rfl, rfl⟩ := RecordCall.updatePartner.inj hcall'
      obtain rfl := Option.some.inj (hfind.symm.trans hold)
      rw [← runRecords_snoc] at hafter
      obtain ⟨partner', hfind', hsame⟩ :=
        VettedSince.before_last (h record.id _ hafter (hstatus.trans hactive)) (hactivates _)
      obtain rfl := Option.some.inj (hfind.symm.trans hfind')
      intro d hrequired
      rw [hsame d hrequired]
      exact (congrFun hdocuments d).symm
  | _ => trivial

/-- Whatever calls came, the records are sound exactly if every call was careful. -/
theorem recordsSound_iff (steps : List RecordStep) :
    RecordsSound steps ↔ EachStep RecordStep.after RecordStep.Careful steps .empty := by
  induction steps using List.reverseRecOn with
  | nil =>
    refine iff_of_true ⟨fun before later hsplit => ?_, trivial⟩ trivial
    obtain ⟨rfl, -⟩ := List.append_eq_nil_iff.mp hsplit.symm
    exact fun _ _ hfind => absurd hfind.symm (Option.some_ne_none _)
  | append_singleton steps step ih =>
    rw [eachStep_snoc, ← ih]
    have hanswered := answered_iff (stored_runRecords steps) step
    constructor
    · rintro ⟨hvetted, hsteps⟩
      rw [eachStep_snoc] at hsteps
      have hterms := hanswered.mp hsteps.2
      refine ⟨⟨fun before later hsplit => hvetted before (later ++ [step]) (by rw [hsplit, List.append_assoc]), hsteps.1⟩,
        hterms, keepsDocuments_of_vetted hterms (hvetted _ [] (List.append_nil _).symm)⟩
    · rintro ⟨⟨hvetted, hsteps⟩, hterms, hdocuments⟩
      refine ⟨fun before later hsplit => ?_, (eachStep_snoc _ _).mpr ⟨hsteps, hanswered.mpr hterms⟩⟩
      rcases List.eq_nil_or_concat later with rfl | ⟨later, last, rfl⟩
      · rw [List.append_nil] at hsplit
        rw [← hsplit]
        exact vetted_snoc (hvetted steps [] (List.append_nil _).symm) hdocuments
      · rw [List.concat_eq_append, ← List.append_assoc] at hsplit
        exact hvetted before later (List.append_inj' hsplit rfl).1

namespace Sample

def newPartner : PartnerCreate where
  name := "Transport"
  partnerType := "company"
  documents := fun _ => { url := some "https://files/1" }

def fixedPartner : RecordStep := ⟨0, .createPartner 1 { newPartner with commissionMode := "fixed", commissionRate := 5 }⟩

def toPercentage : RecordStep := ⟨1, .updatePartner 1 { commissionMode := some "percentage" }⟩

/-- A fixed commission becomes a percentage. -/
def modeSwitched : List RecordStep := [fixedPartner, toPercentage]

/-- An active partner loses a document. -/
def documentWithdrawn : List RecordStep :=
  [⟨0, .createPartner 1 newPartner⟩, ⟨1, .activatePartner 1⟩,
    ⟨2, .updatePartner 1 { documents := fun d => if d = .registration then { url := some "" } else {} }⟩]

end Sample

/-- The error of a call. -/
def failure {α : Type} : Except Err α → Option Err
  | .ok _ => none
  | .error e => some e

/-- The table refuses a call that the service accepts, and an active partner lacks a document. -/
theorem not_recordsSound : ¬ RecordsSound Sample.modeSwitched ∧ ¬ RecordsSound Sample.documentWithdrawn := by
  constructor
  · intro h
    have hfails : failure (Sample.toPercentage.run (runRecords [Sample.fixedPartner])) = some (.other "IntegrityError") := by
      decide +kernel
    rcases h.answered.2.1 with ⟨e, he⟩ | ⟨_, _, _, hok, -⟩
    · have hother : failure (Sample.toPercentage.run (runRecords [Sample.fixedPartner])) = some (.api e) := congrArg failure he
      rw [hfails] at hother
      cases hother
    · have hnone : failure (Sample.toPercentage.run (runRecords [Sample.fixedPartner])) = none := congrArg failure hok
      rw [hfails] at hnone
      cases hnone
  · intro h
    have hvetted := h.vetted Sample.documentWithdrawn [] (List.append_nil _).symm
    have hlacks : ((runRecords Sample.documentWithdrawn).find? 1).map
        (fun partner => (partner.status, (partner.documents .registration).onFile)) = some (.active, false) := by
      decide +kernel
    obtain ⟨partner, hfind, hpartner⟩ := Option.map_eq_some_iff.mp hlacks
    obtain ⟨hactive, hfile⟩ := Prod.mk.inj hpartner
    have hcomplete := (hvetted 1 partner hfind hactive).1 .registration (by decide)
    rw [hfile] at hcomplete
    cases hcomplete

end DiddiGo.Partners
