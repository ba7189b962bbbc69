import DiddiGo.Transactions.Prog

/-!
# Services with a memory

`exec` takes one answer for each request. `serve` runs a program alone against services that remember what
they were asked. A request that raises rolls the database back, but not the services.
-/

namespace DiddiGo.Transactions

variable {S : Signature} {W α : Type}

/-- What services that remember `w` answer to a request, and what they remember then. -/
abbrev Services (S : Signature) (W : Type) := W → S.Query → S.Answer × W

namespace Prog

/-- Run alone. `base` is what is committed, `cur` is `base` with the pending changes. -/
def serve (services : Services S W) :
    Prog S α → W → S.State → S.State → Except S.Err α × W × S.State × S.State
  | ret a, w, base, cur => (.ok a, w, base, cur)
  | raise e, w, base, cur => (.error e, w, base, cur)
  | stmt _ _ write k, w, base, cur => (k cur).serve services w base (write cur cur)
  | commit k, w, _, cur => k.serve services w cur cur
  | call q k, w, base, cur => (k (services w q).1).serve services (services w q).2 base cur

/-- The requests that the program run alone sends, in order. -/
def queries (services : Services S W) : Prog S α → W → S.State → List S.Query
  | ret _, _, _ => []
  | raise _, _, _ => []
  | stmt _ _ write k, w, cur => (k cur).queries services w (write cur cur)
  | commit k, w, cur => k.queries services w cur
  | call q k, w, cur => q :: (k (services w q).1).queries services (services w q).2 cur

/-- Whatever it is answered, the program sends only requests in `A`. -/
def Asks (A : S.Query → Prop) : Prog S α → Prop
  | ret _ => True
  | raise _ => True
  | stmt _ _ _ k => ∀ v, (k v).Asks A
  | commit k => k.Asks A
  | call q k => A q ∧ ∀ a, (k a).Asks A

/-- The program changes neither the services nor the database, and returns `a`. -/
def Finds (services : Services S W) (p : Prog S α) (w : W) (db : S.State) (a : α) : Prop :=
  ∀ base, p.serve services w base db = (.ok a, w, base, db)

/-- The program run alone from `w`, with `base` committed and `cur` pending, returns with `Q`, of its
result, what the services remember, what is committed and what is pending; or it raises and leaves `E`
behind. -/
def Serves (services : Services S W) (E : W → S.State → Prop)
    (Q : α → W → S.State → S.State → Prop) (p : Prog S α) (w : W) (base cur : S.State) : Prop :=
  match p.serve services w base cur with
  | (.ok a, w', base', cur') => Q a w' base' cur'
  | (.error _, w', base', _) => E w' base'

end Prog

/-- Services and database after a whole request: it commits if it returns and rolls back if it raises. -/
def serveRequest (services : Services S W) (p : Prog S α) (s : W × S.State) :
    Except S.Err α × W × S.State :=
  match p.serve services s.1 s.2 s.2 with
  | (.ok a, w, _, cur) => (.ok a, w, cur)
  | (.error e, w, base, _) => (.error e, w, base)

end DiddiGo.Transactions
