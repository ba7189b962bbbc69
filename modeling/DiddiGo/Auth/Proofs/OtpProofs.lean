import DiddiGo.Auth.SingleUse
import DiddiGo.Data.Proofs.TableProofs
import DiddiGo.Transactions.Proofs.AccumulationProofs
import DiddiGo.Transactions.Proofs.TimelinessProofs

/-!
# Codes are used once

A call of `verify_otp` publishes that it has consumed the latest open code it has found. If the codes of the phone
are still the same then, no other call has consumed it; and no later code has been issued, unless one had been
consumed before.
-/

namespace DiddiGo.Auth

open Data (Keyed Table)
open Transactions RelyGuarantee

variable {db db' : AuthDb} {phone : String} {otp : OtpCode} {f g : AuthDb → AuthDb} {K : AuthDb → Prop}

/-! ## Codes -/

theorem AuthDb.latestUnconsumed_congr (h : db.issuedTo phone = db'.issuedTo phone) :
    db.latestUnconsumed phone = db'.latestUnconsumed phone := by
  unfold AuthDb.latestUnconsumed
  rw [h]

theorem AuthDb.mem_of_latestUnconsumed (h : db.latestUnconsumed phone = some otp) :
    otp ∈ db.issuedTo phone ∧ otp.consumedAt = none := by
  obtain ⟨hissued, hopen⟩ := List.mem_filter.mp (List.argmax_mem h)
  exact ⟨hissued, Option.isNone_iff_eq_none.mp hopen⟩

/-- The latest open code is the latest code. -/
theorem AuthDb.isLatestIssued_of_latestUnconsumed (h : db.latestUnconsumed phone = some otp)
    (hlatest : db.LatestIsOpen phone) : db.IsLatestIssued otp := by
  have hphone : otp.phone = phone := of_decide_eq_true (List.mem_filter.mp (mem_of_latestUnconsumed h).1).2
  have hmax (other : OtpCode) (hother : other ∈ db.issuedTo phone) (hopen : other.consumedAt = none) :
      other.createdAt ≤ otp.createdAt :=
    List.le_of_mem_argmax (List.mem_filter.mpr ⟨hother, Option.isNone_iff_eq_none.mpr hopen⟩) h
  intro other hother
  rw [hphone] at hother
  cases hconsumed : other.consumedAt with
  | none => exact hmax other hother hconsumed
  | some t =>
    obtain ⟨next, hnext, hopen, hle⟩ := hlatest other hother (by rw [hconsumed]; rfl)
    exact hle.trans (hmax next hnext hopen)

theorem AuthDb.find?_of_issuedTo (h : otp ∈ db.issuedTo phone) : db.codes.find? otp.id = some otp :=
  Table.find?_key_of_mem (List.mem_of_mem_filter h)

/-- An open code is not spent. -/
theorem AuthDb.not_spent (h : otp ∈ db.issuedTo phone) (hopen : otp.consumedAt = none) : ¬ db.Spent otp.id := by
  rintro ⟨row, hrow, hconsumed⟩
  obtain rfl := Option.some.inj ((AuthDb.find?_of_issuedTo h).symm.trans hrow)
  rw [hopen] at hconsumed
  cases hconsumed

/-! ## What calls change -/

/-- The changes leave spent codes spent. -/
def Grows (f : AuthDb → AuthDb) : Prop := ∀ db otpId, db.Spent otpId → (f db).Spent otpId

/-- The changes do to the codes what `f` does. -/
def SameCodes (f g : AuthDb → AuthDb) : Prop := ∀ db, (g db).codes = (f db).codes

theorem Grows.of_same (h : ∀ db, (f db).codes = db.codes) : Grows f := by
  rintro db otpId ⟨otp, hotp, hspent⟩
  exact ⟨otp, (congrArg (Table.find? · otpId) (h db)).trans hotp, hspent⟩

theorem Grows.of_insert (otp : OtpCode) (h : ∀ db, (f db).codes = db.codes.insert otp) : Grows f := by
  rintro db otpId ⟨row, hrow, hspent⟩
  refine ⟨row, ?_, hspent⟩
  rw [h]
  exact Table.find?_insert_of_some otp hrow

theorem AuthDb.find?_consumed (otpId k : UUID) (now : DateTime) :
    (db.codes.update otpId (OtpCode.consumed now)).find? k =
      if k = otpId then (db.codes.find? k).map (OtpCode.consumed now) else db.codes.find? k :=
  Table.find?_update db.codes otpId (OtpCode.consumed now) _ k

theorem Grows.of_consumed (otpId : UUID) (now : DateTime)
    (h : ∀ db, (f db).codes = db.codes.update otpId (OtpCode.consumed now)) : Grows f := by
  rintro db k ⟨row, hrow, hspent⟩
  unfold AuthDb.Spent
  rw [h, AuthDb.find?_consumed, hrow]
  split_ifs
  · exact ⟨row.consumed now, rfl, rfl⟩
  · exact ⟨row, rfl, hspent⟩

/-- What `mark_consumed` has changed: it has consumed the code, or it has found it missing or consumed. -/
inductive Marks (K : AuthDb → Prop) (otpId : UUID) (f : AuthDb → AuthDb) : Prop
  | consumed (now : DateTime) (h : ∀ db, (f db).codes = db.codes.update otpId (OtpCode.consumed now))
  | skipped (db : AuthDb) (hdb : K db) (hnone : ∀ otp, db.codes.find? otpId = some otp → otp.consumedAt.isSome = true)
      (h : ∀ db, (f db).codes = db.codes)

theorem Marks.congr {otpId : UUID} (h : Marks K otpId f) (hg : SameCodes f g) : Marks K otpId g := by
  cases h with
  | consumed now hf => exact .consumed now fun db => (hg db).trans (hf db)
  | skipped db hdb hnone hf => exact .skipped db hdb hnone fun db => (hg db).trans (hf db)

theorem Marks.grows {otpId : UUID} (h : Marks K otpId f) : Grows f := by
  cases h with
  | consumed now hf => exact .of_consumed otpId now hf
  | skipped db hdb hnone hf => exact .of_same hf

theorem assuming_markConsumed (otpId : UUID) (now : DateTime) :
    (markConsumed otpId now).Assuming K (fun _ _ => False) (fun _ f => Marks K otpId f) id := by
  unfold markConsumed
  refine .select_bind fun db row hdb hrow => ?_
  cases row with
  | none => exact .ret (.skipped db hdb (fun otp hotp => nomatch hrow.symm.trans hotp) fun _ => rfl)
  | some row =>
    by_cases hconsumed : row.consumedAt.isSome = true
    · dsimp only
      rw [if_pos hconsumed]
      refine .ret (.skipped db hdb (fun otp hotp => ?_) fun _ => rfl)
      obtain rfl := Option.some.inj (hrow.symm.trans hotp)
      exact hconsumed
    · dsimp only
      rw [if_neg hconsumed]
      exact .update (.consumed now fun _ => rfl)

theorem assuming_saveUser (user : User) (now : DateTime) :
    (saveUser user now).Assuming K (fun _ _ => False) (fun _ g => SameCodes f g) f := by
  unfold saveUser
  refine .select_bind fun db loaded _ _ => ?_
  cases loaded with
  | some loaded => exact .update fun _ => rfl
  | none => exact .writeOrRaise fun _ _ _ _ => rfl

theorem assuming_activateUser (call : VerifyCall) (phone : String) :
    (activateUser call phone).Assuming K (fun _ _ => False) (fun _ g => SameCodes f g) f := by
  unfold activateUser
  refine .select_bind fun db user _ _ => ?_
  cases user with
  | none => exact .bind (assuming_saveUser _ _) fun _ g hg => .ret hg
  | some user =>
    dsimp only
    split_ifs
    · exact .bind (assuming_saveUser _ _) fun _ g hg => .ret hg
    · exact .ret fun _ => rfl

/-- What `verify_otp` is about to publish. -/
structure Redeems (K : AuthDb → Prop) (call : VerifyCall) (next : Action Response) (f : AuthDb → AuthDb) : Prop where
  found : ∃ phone db login, validatePhone call.phone = .ok phone ∧ K db ∧
    db.latestUnconsumed phone = some login.otp ∧ next = .ret (.verified login) ∧ Marks K login.otp.id f

theorem assuming_verifyOtp (settings : Settings) (call : VerifyCall) :
    (verifyOtp settings call).Assuming K (Redeems K call) (fun _ _ => False) id := by
  unfold verifyOtp validPhone
  cases hphone : validatePhone call.phone with
  | error e => exact .raise
  | ok phone =>
    change Prog.Assuming K _ _ (findLatestUnconsumed phone >>= _) id
    refine .select_bind fun db otp hdb hotp => ?_
    cases otp with
    | none => exact .raise
    | some otp =>
      refine .raiseIf_bind fun _ => .raiseIf_bind fun _ => ?_
      refine .bind (assuming_markConsumed otp.id call.consumedAt) fun _ f hf => ?_
      refine .bind (assuming_activateUser call phone) fun user g hg => .commitNow_bind ?_
      refine ⟨phone, db, _, hphone, hdb, ?_, rfl, hf.congr hg⟩
      exact hotp

theorem assuming_requestOtp (settings : Settings) (call : RequestCall) :
    (requestOtp settings call).Assuming K (fun next f => (∃ n k, next = .ret (.requested n k)) ∧ Grows f)
      (fun _ _ => False) id := by
  unfold requestOtp validPhone
  cases hphone : validatePhone call.phone with
  | error e => exact .raise
  | ok phone =>
    change Prog.Assuming K _ _ (findLatestUnconsumed phone >>= _) id
    refine .select_bind fun db otp hdb hotp => .raiseIf_bind fun _ => ?_
    have hsave : (saveOtp (call.otp settings phone)).Assuming K (fun _ _ => False) (fun _ g => Grows g) id :=
      .writeOrRaise fun _ _ _ => Grows.of_insert (call.otp settings phone) fun _ => rfl
    exact .bind hsave fun _ f hf => .commitNow_bind ⟨⟨_, _, rfl⟩, hf⟩

/-! ## Runs -/

variable {Proc : Type} {settings : Settings} {calls : Proc → AuthCall} {i : Proc} {login : Login} {ds : List AuthDb}
  {p₀ p : Action Response}

/-- A process has its call to run, or only its response to return. -/
def Runs (settings : Settings) (calls : Proc → AuthCall) (i : Proc) (p : Action Response) : Prop :=
  p = (calls i).action settings ∨ ∃ response, p = .ret response

/-- A call does not return before it has committed. -/
theorem Runs.of_ret (h : Runs settings calls i p₀) {response : Response} (htrail : Trail p₀ ds (.ret response) f) :
    p₀ = .ret response := by
  rcases h with rfl | ⟨other, rfl⟩
  · exfalso
    cases hcall : calls i with
    | request call =>
      rw [hcall] at htrail
      exact htrail.assuming (fun _ _ => trivial) (assuming_requestOtp (K := fun _ => True) settings call)
    | verify call =>
      rw [hcall] at htrail
      exact htrail.assuming (fun _ _ => trivial) (assuming_verifyOtp (K := fun _ => True) settings call)
  · exact htrail.of_ret.1.symm

/-- What a call commits, if everything that it has found satisfies `K`. -/
theorem Runs.of_commit (h : Runs settings calls i p₀) {next : Action Response}
    (htrail : Trail p₀ ds (.commit next) f) (hK : ∀ db ∈ ds, K db) :
    ((∃ n k, next = .ret (.requested n k)) ∧ Grows f) ∨
      ∃ call, calls i = .verify call ∧ Redeems K call next f := by
  rcases h with rfl | ⟨other, rfl⟩
  · cases hcall : calls i with
    | request call =>
      rw [hcall] at htrail
      exact Or.inl (htrail.assuming hK (assuming_requestOtp settings call))
    | verify call =>
      rw [hcall] at htrail
      exact Or.inr ⟨call, rfl, htrail.assuming hK (assuming_verifyOtp settings call)⟩
  · cases htrail.of_ret.1

theorem Runs.next (h : Runs settings calls i p₀) {next : Action Response} (htrail : Trail p₀ ds (.commit next) f) :
    Runs settings calls i next := by
  rcases h.of_commit htrail (K := fun _ => True) fun _ _ => trivial with ⟨⟨n, k, rfl⟩, -⟩ | ⟨call, -, hredeems⟩
  · exact Or.inr ⟨_, rfl⟩
  · obtain ⟨_, _, login, -, -, -, rfl, -⟩ := hredeems.found
    exact Or.inr ⟨_, rfl⟩

variable [DecidableEq Proc] {c c' : Config (machine Proc)} {m : Move (machine Proc)} {ms : List (Move (machine Proc))}

/-- The codes that have yielded tokens, or will in the next move of a process, are spent, each by one process. -/
structure Spends (c : Config (machine Proc)) : Prop where
  spent : ∀ otpId ∈ redeemed c, c.shared.db.Spent otpId
  nodup : (redeemed c).Nodup
  returning : ∀ i login f, c.task i = .running (.ret (.verified login)) f →
    c.shared.db.Spent login.otp.id ∧ login.otp.id ∉ redeemed c
  distinct : ∀ i j login login' f f', c.task i = .running (.ret (.verified login)) f →
    c.task j = .running (.ret (.verified login')) f' → login.otp.id = login'.otp.id → i = j

omit [DecidableEq Proc] in
/-- A move that does not let a process return tokens. -/
theorem Spends.of_same (h : Spends c) (hdb : ∀ otpId, c.shared.db.Spent otpId → c'.shared.db.Spent otpId)
    (hredeemed : redeemed c' = redeemed c)
    (htask : ∀ i login f, c'.task i = .running (.ret (.verified login)) f → c.task i = .running (.ret (.verified login)) f) :
    Spends c' where
  spent otpId hotp := hdb otpId (h.spent otpId (hredeemed ▸ hotp))
  nodup := hredeemed ▸ h.nodup
  returning i login f hi := by
    obtain ⟨hspent, hnew⟩ := h.returning i login f (htask i login f hi)
    exact ⟨hdb _ hspent, hredeemed ▸ hnew⟩
  distinct i j login login' f f' hi hj := h.distinct i j login login' f f' (htask _ _ _ hi) (htask _ _ _ hj)

omit [DecidableEq Proc] in
theorem redeeming_of_not_publishes {t : Task (machine Proc)} (h : ¬ t.Publishes) : redeeming t = none := by
  rcases t with p | _ | _
  · cases p with
    | commit next => exact absurd trivial h
    | _ => rfl
  · rfl
  · rfl

/-- A move that publishes nothing. -/
theorem Spends.quiet (h : Spends c) {found : Proc → List AuthDb} (htrails : c.Trails (Runs settings calls) found)
    (hstep : c.step m = some c') (hquiet : ¬ (c.task (mover m)).Publishes) : Spends c' := by
  rcases step_cases hstep with ⟨j, l, locks, write, next, f, rfl, ht, -, rfl⟩ |
    ⟨j, next, f, rfl, ht, rfl⟩ | ⟨j, a, f, rfl, ht, rfl⟩ | ⟨j, e, f, rfl, ht, rfl⟩ |
    ⟨j, q, next, f, rfl, ht, rfl⟩ | ⟨j, a, q, next, f, w, rfl, ht, -, rfl⟩
  · have hshared : c.shared.note j l (f c.shared.db) = c.shared := by
      cases l with
      | none => rfl
      | some l => cases l
    rw [hshared]
    refine h.of_same (fun _ => id) rfl fun i login g hi => ?_
    by_cases hij : i = j
    · subst hij
      obtain ⟨p₀, hp₀, htrail⟩ := Config.follows_running (htrails i) ht
      have hnext := htrail.stmt c.shared.db
      obtain ⟨hprog, -⟩ := Task.running.inj ((Function.update_self i _ c.task).symm.trans hi)
      rw [hprog] at hnext
      rw [hp₀.of_ret hnext] at htrail
      cases htrail.of_ret.1
    · exact (Function.update_of_ne hij ..).symm.trans hi
  · change ¬ (c.task j).Publishes at hquiet
    rw [ht] at hquiet
    exact absurd trivial hquiet
  · change ¬ (c.task j).Publishes at hquiet
    rw [ht] at hquiet
    exact absurd trivial hquiet
  · refine h.of_same (fun _ => id) ?_ fun i login g hi => ?_
    · exact (List.filterMap_append ..).trans (List.append_nil _)
    · by_cases hij : i = j
      · subst hij
        cases (Function.update_self ..).symm.trans hi
      · exact (Function.update_of_ne hij ..).symm.trans hi
  · cases q
  · cases q

/-- What process `i` will return after a commit, the others aside. -/
theorem task_of_update {t : Task (machine Proc)} {j : Proc} {response : Response} {g : AuthDb → AuthDb}
    (h : Function.update c.task i t j = .running (.ret response) g) :
    j = i ∧ t = .running (.ret response) g ∨ j ≠ i ∧ c.task j = .running (.ret response) g := by
  by_cases hij : j = i
  · subst hij
    exact Or.inl ⟨rfl, (Function.update_self j t c.task).symm.trans h⟩
  · exact Or.inr ⟨hij, (Function.update_of_ne hij t c.task).symm.trans h⟩

/-- A call returns what it has committed. -/
theorem Spends.returns (h : Spends c) {response : Response} (ht : c.task i = .running (.ret response) f)
    {owner : Row → Option Proc} : Spends
      { shared := c.shared.finish i (.ok response) c.shared.db, owner := owner
        task := Function.update c.task i .ended } := by
  have hother {j : Proc} {login : Login} {g : AuthDb → AuthDb}
      (hj : Function.update c.task i .ended j = .running (.ret (.verified login)) g) :
      j ≠ i ∧ c.task j = .running (.ret (.verified login)) g := by
    rcases task_of_update hj with ⟨-, hended⟩ | hj
    · cases hended
    · exact hj
  cases response with
  | requested n k =>
    exact h.of_same (fun _ => id) ((List.filterMap_append ..).trans (List.append_nil _)) fun _ _ _ hj => (hother hj).2
  | verified login =>
    obtain ⟨hspent, hnew⟩ := h.returning i login f ht
    have hredeemed (s : Config (machine Proc)) (hs : s.shared.log = c.shared.log ++ [(i, .ok (.verified login))]) :
        redeemed s = redeemed c ++ [login.otp.id] := by
      unfold redeemed
      rw [hs]
      exact List.filterMap_append ..
    refine ⟨fun otpId hotp => ?_, ?_, fun j login' g hj => ?_, fun j k login' login'' g g' hj hk hid => ?_⟩
    · rw [hredeemed _ rfl] at hotp
      rcases List.mem_append.mp hotp with hotp | hotp
      · exact h.spent otpId hotp
      · obtain rfl := List.mem_singleton.mp hotp
        exact hspent
    · rw [hredeemed _ rfl]
      exact h.nodup.append (List.nodup_singleton _) (List.disjoint_singleton.mpr hnew)
    · obtain ⟨hne, htask⟩ := hother hj
      obtain ⟨hspent', hnew'⟩ := h.returning j login' g htask
      refine ⟨hspent', fun hmem => ?_⟩
      rw [hredeemed _ rfl] at hmem
      rcases List.mem_append.mp hmem with hmem | hmem
      · exact hnew' hmem
      · exact hne (h.distinct j i login' login g f htask ht (List.mem_singleton.mp hmem))
    · exact h.distinct j k login' login'' g g' (hother hj).2 (hother hk).2 hid

/-- A call commits that it has consumed a code that was not. -/
theorem Spends.commits (h : Spends c) (hnot : ¬ c.shared.db.Spent login.otp.id) (hgrows : Grows f)
    (hspent : (f c.shared.db).Spent login.otp.id) {owner : Row → Option Proc} : Spends
      { shared := c.shared.store (f c.shared.db), owner := owner
        task := Function.update c.task i (.running (.ret (.verified login)) id) } where
  spent otpId hotp := hgrows _ _ (h.spent otpId hotp)
  nodup := h.nodup
  returning j login' g hj := by
    rcases task_of_update hj with ⟨rfl, hrunning⟩ | ⟨-, htask⟩
    · obtain ⟨hret, -⟩ := Task.running.inj hrunning
      obtain rfl := Response.verified.inj (Prog.ret.inj hret)
      exact ⟨hspent, fun hmem => hnot (h.spent _ hmem)⟩
    · obtain ⟨hspent', hnew⟩ := h.returning j login' g htask
      exact ⟨hgrows _ _ hspent', hnew⟩
  distinct j k login' login'' g g' hj hk hid := by
    rcases task_of_update hj with ⟨rfl, hrunning⟩ | ⟨-, htask⟩
    · obtain ⟨hret, -⟩ := Task.running.inj hrunning
      obtain rfl := Response.verified.inj (Prog.ret.inj hret)
      rcases task_of_update hk with ⟨rfl, -⟩ | ⟨-, htask'⟩
      · rfl
      · exact absurd (hid ▸ (h.returning k login'' g' htask').1) hnot
    · rcases task_of_update hk with ⟨rfl, hrunning⟩ | ⟨-, htask'⟩
      · obtain ⟨hret, -⟩ := Task.running.inj hrunning
        obtain rfl := Response.verified.inj (Prog.ret.inj hret)
        exact absurd (hid ▸ (h.returning j login' g htask).1) hnot
      · exact h.distinct j k login' login'' g g' htask htask' hid

/-- What `verify_otp` commits if the codes of the phone are still those that it has found. -/
theorem Redeems.spends {call : VerifyCall} {next : Action Response}
    (h : Redeems (fun db' => (AuthCall.verify call).Undisturbed db' db) call next f) :
    ∃ login, next = .ret (.verified login) ∧ db.IsLatestIssued login.otp ∧ ¬ db.Spent login.otp.id ∧ Grows f ∧
      (f db).Spent login.otp.id := by
  obtain ⟨phone, db₁, login, hphone, hdb₁, hlatest, rfl, hmarks⟩ := h.found
  have hwatched : phone ∈ (AuthCall.verify call).watched :=
    Option.mem_def.mpr (congrArg Except.toOption hphone)
  obtain ⟨hcodes, hopen⟩ := hdb₁ phone hwatched
  have hlatest : db.latestUnconsumed phone = some login.otp :=
    (AuthDb.latestUnconsumed_congr hcodes).symm.trans hlatest
  obtain ⟨hmem, hunconsumed⟩ := AuthDb.mem_of_latestUnconsumed hlatest
  refine ⟨login, rfl, AuthDb.isLatestIssued_of_latestUnconsumed hlatest hopen, AuthDb.not_spent hmem hunconsumed,
    hmarks.grows, ?_⟩
  cases hmarks with
  | consumed now hf =>
    refine ⟨login.otp.consumed now, ?_, rfl⟩
    rw [hf, AuthDb.find?_consumed, if_pos rfl, AuthDb.find?_of_issuedTo hmem]
    rfl
  | skipped db₂ hdb₂ hnone hf =>
    have hmem₂ : login.otp ∈ db₂.issuedTo phone := (hdb₂ phone hwatched).1 ▸ hmem
    have hconsumed := hnone login.otp (AuthDb.find?_of_issuedTo hmem₂)
    rw [hunconsumed] at hconsumed
    cases hconsumed

/-- A move that publishes what is still as its process has found it. -/
theorem Spends.publish (h : Spends c) (hstep : c.step (.go i) = some c') (htask : c.task i = .running p f)
    (hpublishes : (c.task i).Publishes) (hp₀ : Runs settings calls i p₀) (htrail : Trail p₀ ds p f)
    (hds : ∀ db ∈ ds, (calls i).Undisturbed db c.shared.db) :
    Spends c' ∧ ∀ login ∈ redeeming (c.task i), c.shared.db.IsLatestIssued login.otp := by
  rw [htask] at hpublishes ⊢
  cases p with
  | commit next =>
    unfold Config.step at hstep
    simp only [htask, Option.some.injEq] at hstep
    subst hstep
    rcases hp₀.of_commit htrail hds with ⟨⟨n, k, rfl⟩, hgrows⟩ | ⟨call, hcall, hredeems⟩
    · refine ⟨h.of_same (hgrows _) rfl fun j login g hj => ?_, fun login hlogin => nomatch hlogin⟩
      rcases task_of_update hj with ⟨-, hrunning⟩ | ⟨-, hother⟩
      · obtain ⟨hret, -⟩ := Task.running.inj hrunning
        cases hret
      · exact hother
    · rw [hcall] at hredeems
      obtain ⟨login, rfl, hlatest, hnot, hgrows, hspent⟩ := hredeems.spends
      refine ⟨h.commits hnot hgrows hspent, fun login' hlogin => ?_⟩
      obtain rfl : login = login' := Option.some.inj hlogin
      exact hlatest
  | ret response =>
    unfold Config.step at hstep
    simp only [htask, Option.some.injEq] at hstep
    subst hstep
    rw [hp₀.of_ret htrail] at htrail
    obtain ⟨-, rfl⟩ := htrail.of_ret
    exact ⟨h.returns htask, fun login hlogin => nomatch hlogin⟩
  | raise e => exact hpublishes.elim
  | stmt l locks write next => exact hpublishes.elim
  | call q next => exact hpublishes.elim

/-- A call does not only return. -/
theorem AuthCall.action_ne_ret (call : AuthCall) (response : Response) : call.action settings ≠ .ret response := by
  intro h
  cases call with
  | request call =>
    have hspec := assuming_requestOtp (K := fun _ => True) settings call
    rw [show requestOtp settings call = .ret response from h] at hspec
    exact hspec
  | verify call =>
    have hspec := assuming_verifyOtp (K := fun _ => True) settings call
    rw [show verifyOtp settings call = .ret response from h] at hspec
    exact hspec

omit [DecidableEq Proc] in
theorem spends_initial (settings : Settings) (calls : Proc → AuthCall) (db : AuthDb) :
    Spends (initial settings calls db) where
  spent _ hotp := nomatch hotp
  nodup := List.nodup_nil
  returning i login _ hi := absurd (Task.running.inj hi).1 (AuthCall.action_ne_ret (calls i) (.verified login))
  distinct i _ login _ _ _ hi := absurd (Task.running.inj hi).1 (AuthCall.action_ne_ret (calls i) (.verified login))

/-- If no call of `verify_otp` is overtaken by another call for its phone, and none redeems a code after a later one
was consumed, every code is used once and while it is the latest. -/
theorem codesHonoured_of_undisturbed (settings : Settings) (calls : Proc → AuthCall) (db : AuthDb)
    (ms : List (Move (machine Proc)))
    (htimely : Config.Timely (M := machine Proc) (fun i => (calls i).Undisturbed) (fun _ => [])
      (initial settings calls db) ms) : CodesHonoured (initial settings calls db) ms := by
  have hstart := spends_initial settings calls db
  have hmoves := Config.Timely.everyMove (J := Spends)
    (P := fun c m _ => ∀ login ∈ redeeming (c.task (mover m)), c.shared.db.IsLatestIssued login.otp)
    (fun i p₀ ds next f hp₀ htrail => hp₀.next htrail)
    (fun h htrails hstep hquiet => ⟨h.quiet htrails hstep hquiet, fun login hlogin => by
      rw [redeeming_of_not_publishes hquiet] at hlogin
      cases hlogin⟩)
    (fun h hstep htask hpublishes hp₀ htrail hds => h.publish hstep htask hpublishes hp₀ htrail hds)
    htimely (Config.trails_initial fun i => Or.inl rfl) hstart
  exact
    { once := fun c hrun => ((hmoves.mono fun _ _ _ h => h.1).last hstart hrun).nodup
      fresh := hmoves.mono fun _ _ _ h => h.2 }

/-! ## Examples -/

namespace Sample

/-- A passenger asks for a code. -/
def requestOf (otpId : UUID) (now : DateTime) (drawn : Fin 1000000) : AuthCall :=
  .request { phone := "+225 07 00 00 00 00", drawn := drawn, otpId := otpId, now := now }

/-- He logs in with it. -/
def verifyOf (code : String) (now : DateTime) : AuthCall :=
  .verify { phone := "+2250700000000", code := code, now := now, consumedAt := now, userId := 7, savedAt := now
            issuedAt := now }

/-- He asks for a code, asks again after two minutes, and logs in with the second code and then with the first. -/
def twoCodes : Fin 4 → AuthCall
  | 0 => requestOf 1 0 111111
  | 1 => requestOf 2 (seconds 120) 222222
  | 2 => verifyOf "222222" (seconds 130)
  | 3 => verifyOf "111111" (seconds 140)

/-- He asks for a code, and two devices log in with it. -/
def twoDevices : Option Bool → AuthCall
  | none => requestOf 1 0 111111
  | some _ => verifyOf "111111" (seconds 30)

/-- One call after the other, until the second login commits. -/
def twoCodesMoves : List (Move (machine (Fin 4))) :=
  List.replicate 4 (.go 0) ++ List.replicate 4 (.go 1) ++ List.replicate 8 (.go 2) ++ List.replicate 4 (.go 3)

/-- Both devices look for the code before one of them commits. -/
def twoDevicesMoves : List (Move (machine (Option Bool))) :=
  List.replicate 4 (.go none) ++ [.go (some false), .go (some true)] ++ List.replicate 7 (.go (some false)) ++
    List.replicate 4 (.go (some true))

/-- He logs in with the first of the two codes, and with the second. -/
def oneAfterTheOther : Fin 4 → AuthCall
  | 0 => requestOf 1 0 111111
  | 1 => verifyOf "111111" (seconds 30)
  | 2 => requestOf 2 (seconds 120) 222222
  | 3 => verifyOf "222222" (seconds 130)

/-- Every call has ended before the next one starts. -/
def oneAfterTheOtherMoves : List (Move (machine (Fin 4))) :=
  List.replicate 4 (.go 0) ++ List.replicate 8 (.go 1) ++ List.replicate 4 (.go 2) ++ List.replicate 6 (.go 3)

end Sample

theorem codesHonoured_of_undisturbed_sample :
    ∃ c, (initial {} Sample.oneAfterTheOther {}).run Sample.oneAfterTheOtherMoves = some c ∧ redeemed c = [1, 2] ∧
      CodesHonoured (initial {} Sample.oneAfterTheOther {}) Sample.oneAfterTheOtherMoves := by
  have hcodes : ((initial {} Sample.oneAfterTheOther {}).run Sample.oneAfterTheOtherMoves).map redeemed =
      some [1, 2] := by decide +kernel
  have htimely : Config.Timely (M := machine (Fin 4)) (fun i => (Sample.oneAfterTheOther i).Undisturbed) (fun _ => [])
      (initial {} Sample.oneAfterTheOther {}) Sample.oneAfterTheOtherMoves := by decide +kernel
  obtain ⟨c, hrun, hredeemed⟩ := Option.map_eq_some_iff.mp hcodes
  exact ⟨c, hrun, hredeemed, codesHonoured_of_undisturbed {} Sample.oneAfterTheOther {} _ htimely⟩

/-- Two devices get tokens for one code; and the first code is accepted again when the second one is consumed. -/
theorem codes_not_honoured :
    ¬ CodesHonoured (initial {} Sample.twoDevices {}) Sample.twoDevicesMoves ∧
      ¬ CodesHonoured (initial {} Sample.twoCodes {}) (Sample.twoCodesMoves ++ [.go 3]) := by
  constructor
  · intro h
    have hcodes : ((initial {} Sample.twoDevices {}).run Sample.twoDevicesMoves).map redeemed = some [1, 1] := by
      decide +kernel
    obtain ⟨c, hrun, hredeemed⟩ := Option.map_eq_some_iff.mp hcodes
    have honce := h.once c hrun
    rw [hredeemed] at honce
    exact absurd honce (by decide)
  · intro h
    have hmoves : ((initial {} Sample.twoCodes {}).run Sample.twoCodesMoves).bind (fun c =>
        (c.step (.go 3)).bind fun _ => (redeeming (c.task 3)).map fun login =>
          decide (c.shared.db.IsLatestIssued login.otp)) = some false := by decide +kernel
    obtain ⟨c, hrun, hc⟩ := Option.bind_eq_some_iff.mp hmoves
    obtain ⟨c', hstep, hc'⟩ := Option.bind_eq_some_iff.mp hc
    obtain ⟨login, hlogin, hlatest⟩ := Option.map_eq_some_iff.mp hc'
    have hfresh := ((everyMove_snoc hrun).mp h.fresh).2 c' hstep login hlogin
    exact absurd hfresh (of_decide_eq_false hlatest)

end DiddiGo.Auth
