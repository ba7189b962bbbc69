import DiddiGo.Payments.Proofs.ProtocolProofs

/-!
# Safe programs

A program is safe if it leads from any point where the process may commit to another one. Most programs
of the payment module are safe because every statement in them is.
-/

namespace DiddiGo.Payments

open Data (Json Keyed Table)
open Transactions Prog RelyGuarantee

variable {Proc World : Type} {σ : Scenario Proc World} {opening earnedBefore : UUID → Decimal}
  {i : Proc} {α β : Type}

/-- From the trace `t` process `i` has come to `t'` without asking for a payout. -/
structure Records (i : Proc) (t t' : List (Event σ.machine)) : Prop where
  grows : t <+: t'
  calls : ∀ e, PayoutCall i e → e ∈ t' → e ∈ t

theorem Records.refl (t : List (Event σ.machine)) : Records i t t :=
  ⟨List.prefix_rfl, fun _ _ h => h⟩

theorem Records.trans {t t' t'' : List (Event σ.machine)} (h : Records i t t')
    (h' : Records i t' t'') : Records i t t'' :=
  ⟨h.grows.trans h'.grows, fun e he hm => h.calls e he (h'.calls e he hm)⟩

theorem records_of_interferes {P : Point σ.machine} {s : Shared σ.machine}
    (h : (protocol σ opening earnedBefore).Interferes i P s) : Records i P.shared.trace s.trace :=
  ⟨h.rely.trace, h.rely.calls⟩

/-- From `P` the process has come to `P'`, where it may commit. -/
structure Reaches (opening earnedBefore : UUID → Decimal) (i : Proc) (P P' : Point σ.machine) :
    Prop where
  tx : Tx opening earnedBefore i P'
  records : Records i P.shared.trace P'.shared.trace

theorem Reaches.trans {P P' P'' : Point σ.machine} (h : Reaches opening earnedBefore i P P')
    (h' : Reaches opening earnedBefore i P' P'') : Reaches opening earnedBefore i P P'' :=
  ⟨h'.tx, h.records.trans h'.records⟩

theorem Tx.reaches {P : Point σ.machine} (h : Tx opening earnedBefore i P) :
    Reaches opening earnedBefore i P P := ⟨h, .refl _⟩

theorem Tx.interferes {P : Point σ.machine} {s : Shared σ.machine}
    (h : Tx opening earnedBefore i P)
    (hs : (protocol σ opening earnedBefore).Interferes i P s) :
    Reaches opening earnedBefore i P (P.withShared s) :=
  ⟨h.withShared hs, records_of_interferes hs⟩

variable (σ opening earnedBefore) in
/-- From every point where process `i` may commit, `p` leads to another one if it returns. -/
def Safe (i : Proc) (p : Action α) : Prop :=
  ∀ P : Point σ.machine, Tx opening earnedBefore i P →
    (protocol σ opening earnedBefore).wpOk i p (fun _ => Reaches opening earnedBefore i P) P

namespace Safe

/-! ## Rules -/

theorem ret (a : α) : Safe σ opening earnedBefore i (.ret a : Action α) :=
  fun _ hP => wpOk_ret hP.reaches

theorem raise (e : Err) : Safe σ opening earnedBefore i (.raise e : Action α) :=
  fun _ _ => wpOk_raise

theorem bind {p : Action α} {f : α → Action β} (hp : Safe σ opening earnedBefore i p)
    (hf : ∀ a, Safe σ opening earnedBefore i (f a)) : Safe σ opening earnedBefore i (p >>= f) :=
  fun P hP => wpOk_bind (hp P hP) fun a P' h => wpOk_mono (hf a P' h.tx) fun _ _ h' => h.trans h'

theorem select (f : PaymentDb → α) : Safe σ opening earnedBefore i (Prog.select f) :=
  fun _ hP => wpOk_select fun _ hs => hP.interferes hs

theorem selectForUpdate (r : Row) (f : PaymentDb → Option α) :
    Safe σ opening earnedBefore i (Prog.selectForUpdate r f) :=
  fun _ hP => wpOk_selectForUpdate fun _ hs =>
    ⟨hP.hold hs (fun _ h => Or.inr h) rfl, records_of_interferes hs⟩

theorem raiseIf (c : Prop) [Decidable c] (e : Err) :
    Safe σ opening earnedBefore i (Prog.raiseIf c e) :=
  fun _ hP => wpOk_raiseIf fun _ => hP.reaches

theorem apiErrorIf {c : Prop} [Decidable c] {status : Nat} {code message : String}
    {details : Json} :
    Safe σ opening earnedBefore i (Payments.apiErrorIf c status code message details) :=
  raiseIf _ _

theorem apiError {status : Nat} {code message : String} {details : Json} :
    Safe σ opening earnedBefore i
      (Payments.apiError status code message details : Action α) :=
  raise _

theorem getOrRaise (x : Option α) (e : Err) :
    Safe σ opening earnedBefore i (getOrRaise x e) := by
  cases x with
  | none => exact raise e
  | some a => exact ret a

theorem ask {q : Query} (hq : ∀ r, q ≠ .createPayout r) :
    Safe σ opening earnedBefore i (Prog.ask (S := sig) q) :=
  fun _ hP => wpOk_ask fun _ hs => by
    have hsend := Interferes.send hs hq
    refine ⟨permits_send hs.inv hq, fun s' hs' a w ha => ⟨permits_reply hs'.inv hq ha, ?_⟩⟩
    exact hP.interferes (hsend.trans (Interferes.reply hs' hq ha))

theorem update {rs : List Row} {g : PaymentDb → PaymentDb} (hg : Elsewhere g) :
    Safe σ opening earnedBefore i (Prog.update rs g) :=
  fun _ hP => wpOk_update fun _ hs =>
    ⟨hP.elsewhere hs (fun _ h => Or.inr h) rfl hg, records_of_interferes hs⟩

theorem writeOrRaise {rs : List Row} {taken : PaymentDb → Bool} {g : PaymentDb → PaymentDb} {e : Err}
    (hg : Elsewhere g) : Safe σ opening earnedBefore i (Prog.writeOrRaise rs taken g e) :=
  fun _ hP => wpOk_writeOrRaise fun _ hs _ =>
    ⟨hP.elsewhere hs (fun _ h => Or.inr h) rfl hg, records_of_interferes hs⟩

theorem insertOnce {r : Row} {taken : PaymentDb → Bool} {g : PaymentDb → PaymentDb}
    (hg : Elsewhere g) : Safe σ opening earnedBefore i (Prog.insertOnce r taken g) :=
  fun _ hP => wpOk_insertOnce (fun _ hs _ => hP.interferes hs) fun _ hs _ =>
    ⟨hP.elsewhere hs (fun _ h => Or.inr h) rfl hg, records_of_interferes hs⟩

theorem commitNow : Safe σ opening earnedBefore i (Prog.commitNow (S := sig)) :=
  fun _ hP => wpOk_commitNow fun s hs => ⟨hP.ready s hs, .of_id rfl, hs.rely.trace, hs.rely.calls⟩

theorem lookupAsApiError {p : Action α} (hp : Safe σ opening earnedBefore i p)
    (status : String → Nat) (message : String) :
    Safe σ opening earnedBefore i (lookupAsApiError p status message) :=
  fun P hP => wpOk_tryCatch (hp P hP) fun e _ => by cases e <;> exact wpOk_raise

theorem foldlM {l : List α} {f : β → α → Action β} (b : β)
    (h : ∀ b, ∀ a ∈ l, Safe σ opening earnedBefore i (f b a)) :
    Safe σ opening earnedBefore i (l.foldlM f b) := by
  induction l generalizing b with
  | nil => exact ret b
  | cons a l ih =>
    rw [List.foldlM_cons]
    exact bind (h b a (by simp)) fun b' => ih b' fun b'' a' ha' => h b'' a' (by simp [ha'])

end Safe

/-- A program that ends where the process may commit is verified. -/
theorem verified_of_ready {p : Action Unit} {s : Shared σ.machine}
    (h : (protocol σ opening earnedBefore).wpOk i p (fun _ => Ready opening earnedBefore i)
      (Point.start s)) :
    (protocol σ opening earnedBefore).Verified i p s := by
  refine wp_mono (wpOk_iff.mp h) fun r P' hr => ?_
  cases r with
  | error e => exact ends_error e
  | ok a => exact (hr a rfl).ends a

end DiddiGo.Payments
