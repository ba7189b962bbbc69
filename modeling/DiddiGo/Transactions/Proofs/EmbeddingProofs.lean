import DiddiGo.Transactions.Embedding
import DiddiGo.Transactions.Proofs.LeadsProofs
import DiddiGo.Transactions.Proofs.StagesProofs

/-!
# Running a program on a part of the database

The rest of the database is left alone.
-/

namespace DiddiGo.Transactions.Prog

variable {S T : Signature} {α β : Type} {E : Embedding S T}

@[simp] theorem embed_ret (a : α) : (Prog.ret a : Prog S α).embed E = .ret a := rfl

@[simp] theorem embed_raise (e : S.Err) : (Prog.raise e : Prog S α).embed E = .raise (E.err e) := rfl

theorem embed_bind (p : Prog S α) (f : α → Prog S β) : (p >>= f).embed E = p.embed E >>= fun a => (f a).embed E := by
  change (p.bind f).embed E = (p.embed E).bind fun a => (f a).embed E
  induction p with
  | ret a => rfl
  | raise e => rfl
  | stmt l locks write next ih => exact congrArg _ (funext fun v => ih (E.get v))
  | commit next ih => exact congrArg _ ih
  | call q next ih => exact congrArg _ (funext fun a => ih (E.answer a))

theorem embed_select (f : S.State → α) : (Prog.select f).embed E = Prog.select fun db => f (E.get db) := by
  change Prog.stmt none _ (fun _ db => E.put (E.get db) db) _ = _
  simp only [E.put_get]
  rfl

/-- A reading whose name is forgotten. -/
theorem embed_selectAs {l : S.Label} (hl : E.label l = none) (f : S.State → α) :
    (Prog.selectAs l f).embed E = Prog.select fun db => f (E.get db) := by
  change Prog.stmt (E.label l) _ (fun _ db => E.put (E.get db) db) _ = _
  rw [hl]
  simp only [E.put_get]
  rfl

theorem embed_writeOrRaise (rs : List S.Row) (taken : S.State → Bool) (patch : S.State → S.State) (e : S.Err) :
    (Prog.writeOrRaise rs taken patch e).embed E = Prog.writeOrRaise (rs.map E.row) (fun db => taken (E.get db))
      (fun db => E.put (patch (E.get db)) db) (E.err e) := by
  have hlocks : (fun v => (if taken (E.get v) then [] else rs).map E.row) =
      fun v => if taken (E.get v) then [] else rs.map E.row := by
    funext v
    split_ifs <;> rfl
  have hwrite : (fun v db => E.put (if taken (E.get v) then E.get db else patch (E.get db)) db) =
      fun v db => if taken (E.get v) then db else E.put (patch (E.get db)) db := by
    funext v db
    split_ifs
    · exact E.put_get db
    · rfl
  have hnext : (fun v => (if taken (E.get v) then Prog.raise e else Prog.ret () : Prog S Unit).embed E) =
      fun v => if taken (E.get v) then Prog.raise (E.err e) else Prog.ret () := by
    funext v
    split_ifs <;> rfl
  change Prog.stmt none (fun v => (if taken (E.get v) then [] else rs).map E.row)
    (fun v db => E.put (if taken (E.get v) then E.get db else patch (E.get db)) db)
    (fun v => (if taken (E.get v) then Prog.raise e else Prog.ret () : Prog S Unit).embed E) = _
  rw [hlocks, hwrite, hnext]
  rfl

/-- Run alone, the program does to its part what it does, and nothing to the rest. -/
theorem exec_embed (p : Prog S α) (ask : T.Query → T.Answer) (base cur : S.State) (db : T.State) :
    (p.embed E).exec ask (E.put base db) (E.put cur db) =
      match p.exec (fun q => E.answer (ask (E.query q))) base cur with
      | (r, base', cur') => (r.mapError E.err, E.put base' db, E.put cur' db) := by
  induction p generalizing base cur with
  | ret a => rfl
  | raise e => rfl
  | stmt l locks write next ih =>
    change ((next (E.get (E.put cur db))).embed E).exec ask (E.put base db)
      (E.put (write (E.get (E.put cur db)) (E.get (E.put cur db))) (E.put cur db)) = _
    rw [E.get_put, E.put_put]
    exact ih cur base (write cur cur)
  | commit next ih => exact ih cur cur
  | call q next ih => exact ih (E.answer (ask (E.query q))) base cur

theorem silent_embed {p : Prog S α} (hp : p.Silent) : (p.embed E).Silent := by
  induction p with
  | ret a => exact trivial
  | raise e => exact trivial
  | stmt l locks write next ih => exact fun v => ih (E.get v) (hp (E.get v))
  | commit next ih => exact hp.elim
  | call q next ih => exact hp.elim

/-- A program on a part of the database whose writes do no harm. -/
theorem stays_embed {M : Machine T} {R : RelyGuarantee M} {i : M.Proc} {harmless : (T.State → T.State) → Prop}
    {J : Point M → Prop} (hJ : R.Stage i harmless J) (hlabel : ∀ l, E.label l = none)
    (hput : ∀ part : T.State → S.State, harmless fun db => E.put (part db) db) {p : Prog S α} (hp : p.Silent) :
    R.Stays i J (p.embed E) := by
  induction p with
  | ret a => exact .ret a
  | raise e => exact .raise _
  | stmt l locks write next ih =>
    have hl : l.bind E.label = none := by
      cases l with
      | none => rfl
      | some l => exact hlabel l
    change R.Stays i J (.stmt (l.bind E.label) _ _ _)
    rw [hl]
    exact .stmt hJ (fun v => hput fun db => write (E.get v) (E.get db)) fun v => ih (E.get v) (hp _)
  | commit next ih => exact hp.elim
  | call q next ih => exact hp.elim

end DiddiGo.Transactions.Prog
