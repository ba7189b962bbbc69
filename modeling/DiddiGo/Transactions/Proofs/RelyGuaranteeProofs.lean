import DiddiGo.Transactions.RelyGuarantee
import Mathlib.Tactic.Common

/-!
# Soundness of rely-guarantee reasoning

`run_inv`: when every program of a system is verified, every schedule keeps the invariant, and every
single move is within the guarantee of the process that made it.
-/

namespace DiddiGo.Transactions.RelyGuarantee

variable {S : Signature} {M : Machine S} {α β : Type} (R : RelyGuarantee M) {i : M.Proc}

/-! ## Interference -/

variable {R} in
theorem Interferes.refl {P : Point M} (h : R.inv P.shared) : R.Interferes i P P.shared :=
  ⟨fun r _ => R.same_refl r _, R.rely_refl i _, h⟩

variable {R} in
theorem Interferes.trans {P : Point M} {s s' : Shared M} (h : R.Interferes i P s)
    (h' : R.Interferes i (P.withShared s) s') : R.Interferes i P s' where
  same := fun r hr => R.same_trans r _ _ _ (h.same r hr) (h'.same r hr)
  rely := R.rely_trans i _ _ _ h.rely h'.rely
  inv := h'.inv

variable {R} in
/-- A step of another process interferes with no more than the rely allows. -/
theorem Permits.interferes {j : M.Proc} {held : S.Row → Prop} {P : Point M} {s : Shared M}
    (h : R.Permits j held P.shared s) (hij : i ≠ j) (hd : ∀ r, P.held r → ¬ held r) :
    R.Interferes i P s where
  same := fun r hr => h.frame r (hd r hr)
  rely := R.rely_of_guar i j _ _ hij h.guar
  inv := h.inv

theorem Ends.stable {r : Except S.Err M.Out} {P : Point M} {s : Shared M} (h : R.Ends i r P)
    (hs : R.Interferes i P s) : R.Ends i r (P.withShared s) :=
  fun s' hs' => h s' (hs.trans hs')

/-! ## Rules for `wp` -/

@[simp] theorem wp_ret (a : α) (Q : Except S.Err α → Point M → Prop) (P : Point M) :
    R.wp i (.ret a) Q P ↔ Q (.ok a) P := Iff.rfl

@[simp] theorem wp_raise (e : S.Err) (Q : Except S.Err α → Point M → Prop) (P : Point M) :
    R.wp i (.raise e) Q P ↔ Q (.error e) P := Iff.rfl

variable {R}

theorem Awaits.mono {q : S.Query} {Q Q' : S.Answer → Point M → Prop} {P : Point M}
    (h : R.Awaits i q Q P) (hQ : ∀ a P', Q a P' → Q' a P') : R.Awaits i q Q' P :=
  fun s hs a w hw => ⟨(h s hs a w hw).1, hQ a _ (h s hs a w hw).2⟩

theorem Awaits.stable {q : S.Query} {Q : S.Answer → Point M → Prop} {P : Point M} {s : Shared M}
    (h : R.Awaits i q Q P) (hs : R.Interferes i P s) : R.Awaits i q Q (P.withShared s) :=
  fun s' hs' => h s' (hs.trans hs')

/-- The postcondition may be weakened. -/
theorem wp_mono {p : Prog S α} {Q Q' : Except S.Err α → Point M → Prop} {P : Point M}
    (h : R.wp i p Q P) (hQ : ∀ r P', Q r P' → Q' r P') : R.wp i p Q' P := by
  induction p generalizing P with
  | ret a => exact hQ _ _ h
  | raise e => exact hQ _ _ h
  | stmt l locks write next ih => exact fun s hs => ⟨(h s hs).1, ih _ (h s hs).2⟩
  | commit next ih => exact fun s hs => ⟨(h s hs).1, ih (h s hs).2⟩
  | call q next ih => exact fun s hs => ⟨(h s hs).1, (h s hs).2.mono fun a _ ha => ih a ha⟩

theorem wp_bind {p : Prog S α} {f : α → Prog S β} {Q : Except S.Err β → Point M → Prop}
    {P : Point M}
    (h : R.wp i p (fun r P' => match r with
      | .ok a => R.wp i (f a) Q P'
      | .error e => Q (.error e) P') P) :
    R.wp i (p >>= f) Q P := by
  change R.wp i (p.bind f) Q P
  induction p generalizing P with
  | ret a => exact h
  | raise e => exact h
  | stmt l locks write next ih => exact fun s hs => ⟨(h s hs).1, ih _ (h s hs).2⟩
  | commit next ih => exact fun s hs => ⟨(h s hs).1, ih (h s hs).2⟩
  | call q next ih => exact fun s hs => ⟨(h s hs).1, (h s hs).2.mono fun a _ ha => ih a ha⟩

theorem wp_tryCatch {p : Prog S α} {g : S.Err → Prog S α} {Q : Except S.Err α → Point M → Prop}
    {P : Point M}
    (h : R.wp i p (fun r P' => match r with
      | .ok a => Q (.ok a) P'
      | .error e => R.wp i (g e) Q P') P) :
    R.wp i (tryCatch p g) Q P := by
  change R.wp i (p.tryCatch g) Q P
  induction p generalizing P with
  | ret a => exact h
  | raise e => exact h
  | stmt l locks write next ih => exact fun s hs => ⟨(h s hs).1, ih _ (h s hs).2⟩
  | commit next ih => exact fun s hs => ⟨(h s hs).1, ih (h s hs).2⟩
  | call q next ih => exact fun s hs => ⟨(h s hs).1, (h s hs).2.mono fun a _ ha => ih a ha⟩

/-- Before a program starts a statement the rest of the system may act. -/
theorem wp_stable {p : Prog S α} {Q : Except S.Err α → Point M → Prop} {P : Point M}
    {s : Shared M} (h : R.wp i p Q P) (hs : R.Interferes i P s)
    (hQ : ∀ r P' s', Q r P' → R.Interferes i P' s' → Q r (P'.withShared s')) :
    R.wp i p Q (P.withShared s) := by
  cases p with
  | ret a => exact hQ _ _ _ h hs
  | raise e => exact hQ _ _ _ h hs
  | stmt l locks write next => exact fun s' hs' => h s' (hs.trans hs')
  | commit next => exact fun s' hs' => h s' (hs.trans hs')
  | call q next => exact fun s' hs' => h s' (hs.trans hs')

/-! ### Statements -/

theorem wp_select {f : S.State → α} {Q : Except S.Err α → Point M → Prop} {P : Point M}
    (h : ∀ s, R.Interferes i P s → Q (.ok (f (P.pending s.db))) (P.withShared s)) :
    R.wp i (.select f) Q P := by
  intro s hs
  refine ⟨by simp, ?_⟩
  simpa [Point.stmt, Point.withShared, Point.view, Shared.note, Function.comp_def] using h s hs

theorem wp_selectForUpdate {r : S.Row} {f : S.State → Option α}
    {Q : Except S.Err (Option α) → Point M → Prop} {P : Point M}
    (h : ∀ s, R.Interferes i P s → Q (.ok (f (P.pending s.db)))
      { shared := s
        held := fun r' => ((f (P.pending s.db)).isSome ∧ r' = r) ∨ P.held r'
        pending := P.pending }) :
    R.wp i (.selectForUpdate r f) Q P := by
  intro s hs
  refine ⟨by simp, ?_⟩
  have hheld : (fun r' => r' ∈ (if (f (P.pending s.db)).isSome then [r] else []) ∨ P.held r') =
      fun r' => ((f (P.pending s.db)).isSome ∧ r' = r) ∨ P.held r' := by
    funext r'
    split_ifs with hf <;> simp [hf]
  have hQ := h s hs
  rw [← hheld] at hQ
  exact hQ

theorem wp_selectAs {l : S.Label} {f : S.State → α} {Q : Except S.Err α → Point M → Prop}
    {P : Point M}
    (h : ∀ s, R.Interferes i P s → R.Permits i P.held s (s.note i (some l) (P.pending s.db)) ∧
      Q (.ok (f (P.pending s.db))) (P.withShared (s.note i (some l) (P.pending s.db)))) :
    R.wp i (.selectAs l f) Q P := by
  intro s hs
  obtain ⟨hn, hQ⟩ := h s hs
  refine ⟨fun _ _ => hn, ?_⟩
  simpa [Point.stmt, Point.withShared, Point.view, Function.comp_def] using hQ

theorem wp_insertOnce {r : S.Row} {taken : S.State → Bool} {ins : S.State → S.State}
    {Q : Except S.Err Bool → Point M → Prop} {P : Point M}
    (h : ∀ s, R.Interferes i P s →
      (taken (P.pending s.db) = true → Q (.ok false) (P.withShared s)) ∧
      (taken (P.pending s.db) = false → Q (.ok true)
        { shared := s, held := fun r' => r' = r ∨ P.held r', pending := ins ∘ P.pending })) :
    R.wp i (.insertOnce r taken ins) Q P := by
  intro s hs
  refine ⟨by simp, ?_⟩
  obtain ⟨ht, hf⟩ := h s hs
  by_cases hk : taken (P.pending s.db)
  · simpa [Point.stmt, Point.withShared, Point.view, Shared.note, hk, Function.comp_def] using ht hk
  · have hk' : taken (P.pending s.db) = false := by simpa using hk
    simpa [Point.stmt, Point.withShared, Point.view, Shared.note, hk', Function.comp_def]
      using hf hk'

theorem wp_writeOrRaise {rs : List S.Row} {taken : S.State → Bool} {ins : S.State → S.State}
    {e : S.Err} {Q : Except S.Err Unit → Point M → Prop} {P : Point M}
    (h : ∀ s, R.Interferes i P s →
      (taken (P.pending s.db) = true → Q (.error e) (P.withShared s)) ∧
      (taken (P.pending s.db) = false → Q (.ok ())
        { shared := s, held := fun r' => r' ∈ rs ∨ P.held r', pending := ins ∘ P.pending })) :
    R.wp i (.writeOrRaise rs taken ins e) Q P := by
  intro s hs
  refine ⟨by simp, ?_⟩
  obtain ⟨ht, hf⟩ := h s hs
  by_cases hk : taken (P.pending s.db)
  · simpa [Point.stmt, Point.withShared, Point.view, Shared.note, hk, Function.comp_def] using ht hk
  · have hk' : taken (P.pending s.db) = false := by simpa using hk
    simpa [Point.stmt, Point.withShared, Point.view, Shared.note, hk', Function.comp_def]
      using hf hk'

theorem wp_update {rs : List S.Row} {patch : S.State → S.State}
    {Q : Except S.Err Unit → Point M → Prop} {P : Point M}
    (h : ∀ s, R.Interferes i P s → Q (.ok ())
      { shared := s, held := fun r' => r' ∈ rs ∨ P.held r', pending := patch ∘ P.pending }) :
    R.wp i (.update rs patch) Q P :=
  fun s hs => ⟨by simp, h s hs⟩

theorem wp_updateAs {l : S.Label} {rs : List S.Row} {patch : S.State → S.State}
    {Q : Except S.Err Unit → Point M → Prop} {P : Point M}
    (h : ∀ s, R.Interferes i P s → R.Permits i P.held s (s.note i (some l) (P.pending s.db)) ∧
      Q (.ok ())
        { shared := s.note i (some l) (P.pending s.db), held := fun r' => r' ∈ rs ∨ P.held r'
          pending := patch ∘ P.pending }) :
    R.wp i (.updateAs l rs patch) Q P :=
  fun s hs => ⟨fun _ _ => (h s hs).1, (h s hs).2⟩

theorem wp_raiseIf {c : Prop} [Decidable c] {e : S.Err} {Q : Except S.Err Unit → Point M → Prop}
    {P : Point M} (ht : c → Q (.error e) P) (hf : ¬ c → Q (.ok ()) P) :
    R.wp i (.raiseIf c e) Q P := by
  unfold Prog.raiseIf
  split_ifs with h
  · exact ht h
  · exact hf h

theorem wp_commitNow {Q : Except S.Err Unit → Point M → Prop} {P : Point M}
    (h : ∀ s, R.Interferes i P s → R.Permits i P.held s (s.store (P.pending s.db)) ∧
      Q (.ok ()) (P.withShared s).commit) :
    R.wp i .commitNow Q P := h

theorem wp_ask {q : S.Query} {Q : Except S.Err S.Answer → Point M → Prop} {P : Point M}
    (h : ∀ s, R.Interferes i P s → R.Permits i P.held s (s.send i q) ∧
      R.Awaits i q (fun a => Q (.ok a)) (P.withShared (s.send i q))) :
    R.wp i (.ask q) Q P := h

/-! ### Programs that return -/

section

variable {Q : α → Point M → Prop} {P : Point M}

theorem wpOk_iff {p : Prog S α} :
    R.wpOk i p Q P ↔ R.wp i p (fun r P' => ∀ a, r = .ok a → Q a P') P := by
  unfold wpOk
  exact Iff.rfl

theorem wpOk_ret {a : α} (h : Q a P) : R.wpOk i (.ret a) Q P := by
  rw [wpOk_iff, wp_ret]
  rintro _ ⟨⟩
  exact h

theorem wpOk_raise {e : S.Err} : R.wpOk i (.raise e) Q P := by
  rw [wpOk_iff, wp_raise]
  exact fun _ h => nomatch h

theorem wpOk_mono {p : Prog S α} {Q' : α → Point M → Prop} (h : R.wpOk i p Q P)
    (hQ : ∀ a P', Q a P' → Q' a P') : R.wpOk i p Q' P :=
  wpOk_iff.mpr (wp_mono (wpOk_iff.mp h) fun _ P' hr a ha => hQ a P' (hr a ha))

theorem wpOk_bind {p : Prog S α} {f : α → Prog S β} {Q' : β → Point M → Prop}
    (h : R.wpOk i p Q P) (hf : ∀ a P', Q a P' → R.wpOk i (f a) Q' P') :
    R.wpOk i (p >>= f) Q' P := by
  rw [wpOk_iff] at h ⊢
  refine wp_bind (wp_mono h fun r P' hr => ?_)
  cases r with
  | ok a => exact wpOk_iff.mp (hf a P' (hr a rfl))
  | error e => exact fun _ h => nomatch h

/-- A handler that raises again. -/
theorem wpOk_tryCatch {p : Prog S α} {g : S.Err → Prog S α} (h : R.wpOk i p Q P)
    (hg : ∀ e P', R.wpOk i (g e) Q P') : R.wpOk i (tryCatch p g) Q P := by
  rw [wpOk_iff] at h ⊢
  refine wp_tryCatch (wp_mono h fun r P' hr => ?_)
  cases r with
  | ok a => exact hr
  | error e => exact wpOk_iff.mp (hg e P')

theorem wpOk_raiseIf {c : Prop} [Decidable c] {e : S.Err} {Q : Unit → Point M → Prop}
    (h : ¬ c → Q () P) : R.wpOk i (.raiseIf c e) Q P :=
  wpOk_iff.mpr (wp_raiseIf (fun _ _ hr => nomatch hr) fun hc _ _ => h hc)

/-- A check in front of the rest of the program. -/
theorem wpOk_raiseIf_bind {c : Prop} [Decidable c] {e : S.Err} {f : Unit → Prog S α}
    (h : ¬ c → R.wpOk i (f ()) Q P) : R.wpOk i (.raiseIf c e >>= f) Q P := by
  unfold Prog.raiseIf
  split_ifs with hc
  · exact wpOk_raise
  · exact h hc

theorem wpOk_select {f : S.State → α}
    (h : ∀ s, R.Interferes i P s → Q (f (P.pending s.db)) (P.withShared s)) :
    R.wpOk i (.select f) Q P := by
  refine wpOk_iff.mpr (wp_select fun s hs _ ha => ?_)
  obtain rfl := Except.ok.inj ha
  exact h s hs

theorem wpOk_selectAs {l : S.Label} {f : S.State → α}
    (h : ∀ s, R.Interferes i P s → R.Permits i P.held s (s.note i (some l) (P.pending s.db)) ∧
      Q (f (P.pending s.db)) (P.withShared (s.note i (some l) (P.pending s.db)))) :
    R.wpOk i (.selectAs l f) Q P := by
  refine wpOk_iff.mpr (wp_selectAs fun s hs => ⟨(h s hs).1, fun _ ha => ?_⟩)
  obtain rfl := Except.ok.inj ha
  exact (h s hs).2

theorem wpOk_selectForUpdate {r : S.Row} {f : S.State → Option α}
    {Q : Option α → Point M → Prop}
    (h : ∀ s, R.Interferes i P s → Q (f (P.pending s.db))
      { shared := s
        held := fun r' => ((f (P.pending s.db)).isSome ∧ r' = r) ∨ P.held r'
        pending := P.pending }) :
    R.wpOk i (.selectForUpdate r f) Q P := by
  refine wpOk_iff.mpr (wp_selectForUpdate fun s hs _ ha => ?_)
  obtain rfl := Except.ok.inj ha
  exact h s hs

theorem wpOk_selectAllForUpdate {rs : S.State → List S.Row} {f : S.State → α} {Q : α → Point M → Prop}
    (h : ∀ s, R.Interferes i P s → Q (f (P.pending s.db))
      { shared := s
        held := fun r => r ∈ rs (P.pending s.db) ∨ P.held r
        pending := P.pending }) :
    R.wpOk i (.selectAllForUpdate rs f) Q P := by
  refine wpOk_iff.mpr fun s hs => ⟨by simp, fun _ ha => ?_⟩
  obtain rfl := Except.ok.inj ha
  exact h s hs

theorem wpOk_insertOnce {r : S.Row} {taken : S.State → Bool} {ins : S.State → S.State}
    {Q : Bool → Point M → Prop}
    (ht : ∀ s, R.Interferes i P s → taken (P.pending s.db) = true → Q false (P.withShared s))
    (hf : ∀ s, R.Interferes i P s → taken (P.pending s.db) = false → Q true
      { shared := s, held := fun r' => r' = r ∨ P.held r', pending := ins ∘ P.pending }) :
    R.wpOk i (.insertOnce r taken ins) Q P := by
  refine wpOk_iff.mpr (wp_insertOnce fun s hs => ⟨fun hk _ ha => ?_, fun hk _ ha => ?_⟩) <;>
    obtain rfl := Except.ok.inj ha
  · exact ht s hs hk
  · exact hf s hs hk

theorem wpOk_writeOrRaise {rs : List S.Row} {taken : S.State → Bool} {ins : S.State → S.State}
    {e : S.Err} {Q : Unit → Point M → Prop}
    (h : ∀ s, R.Interferes i P s → taken (P.pending s.db) = false → Q ()
      { shared := s, held := fun r' => r' ∈ rs ∨ P.held r', pending := ins ∘ P.pending }) :
    R.wpOk i (.writeOrRaise rs taken ins e) Q P :=
  wpOk_iff.mpr (wp_writeOrRaise fun s hs => ⟨fun _ _ ha => (nomatch ha), fun hk _ _ => h s hs hk⟩)

theorem wpOk_update {rs : List S.Row} {patch : S.State → S.State} {Q : Unit → Point M → Prop}
    (h : ∀ s, R.Interferes i P s → Q ()
      { shared := s, held := fun r' => r' ∈ rs ∨ P.held r', pending := patch ∘ P.pending }) :
    R.wpOk i (.update rs patch) Q P :=
  wpOk_iff.mpr (wp_update fun s hs _ _ => h s hs)

theorem wpOk_updateAs {l : S.Label} {rs : List S.Row} {patch : S.State → S.State}
    {Q : Unit → Point M → Prop}
    (h : ∀ s, R.Interferes i P s → R.Permits i P.held s (s.note i (some l) (P.pending s.db)) ∧
      Q ()
        { shared := s.note i (some l) (P.pending s.db), held := fun r' => r' ∈ rs ∨ P.held r'
          pending := patch ∘ P.pending }) :
    R.wpOk i (.updateAs l rs patch) Q P :=
  wpOk_iff.mpr (wp_updateAs fun s hs => ⟨(h s hs).1, fun _ _ => (h s hs).2⟩)

theorem wpOk_commitNow {Q : Unit → Point M → Prop}
    (h : ∀ s, R.Interferes i P s → R.Permits i P.held s (s.store (P.pending s.db)) ∧
      Q () (P.withShared s).commit) :
    R.wpOk i .commitNow Q P :=
  wpOk_iff.mpr (wp_commitNow fun s hs => ⟨(h s hs).1, fun _ _ => (h s hs).2⟩)

theorem wpOk_ask {q : S.Query} {Q : S.Answer → Point M → Prop}
    (h : ∀ s, R.Interferes i P s → R.Permits i P.held s (s.send i q) ∧
      R.Awaits i q Q (P.withShared (s.send i q))) :
    R.wpOk i (.ask q) Q P := by
  refine wpOk_iff.mpr (wp_ask fun s hs => ⟨(h s hs).1, (h s hs).2.mono fun a P' ha _ hr => ?_⟩)
  obtain rfl := Except.ok.inj hr
  exact ha

end

/-! ## Soundness -/

variable (R) in
/-- What holds of every reachable state: the invariant, and for each process the precondition of the
rest of its program. -/
structure Sound (c : Config M) : Prop where
  inv : R.inv c.shared
  running : ∀ i p pending, c.task i = .running p pending →
    R.wp i p (R.Ends i) ⟨c.shared, fun r => c.owner r = some i, pending⟩
  waiting : ∀ i q next pending, c.task i = .waiting q next pending →
    R.Awaits i q (fun a => R.wp i (next a) (R.Ends i))
      ⟨c.shared, fun r => c.owner r = some i, pending⟩
  ended : ∀ i, c.task i = .ended → ∀ r, c.owner r ≠ some i

theorem sound_initial {s : Shared M} {prog : M.Proc → Prog S M.Out} (hinv : R.inv s)
    (h : ∀ i, R.Verified i (prog i) s) :
    R.Sound { shared := s, owner := fun _ => none, task := fun i => .running (prog i) id } where
  inv := hinv
  running := by
    intro i p pending hp
    obtain ⟨rfl, rfl⟩ : prog i = p ∧ id = pending := by simpa using hp
    have := h i
    simpa [Verified, Point.start] using this
  waiting := by simp
  ended := by simp

variable [DecidableEq M.Proc] [DecidableEq S.Row]

omit [DecidableEq S.Row] in
/-- One move of process `i` that gives it the locks `owner'` and leaves the others theirs. -/
theorem Sound.move {c : Config M} {s : Shared M} {owner : S.Row → Option M.Proc} {t : Task M}
    (hc : R.Sound c) (hs : s = c.shared ∨ R.Permits i (fun r => c.owner r = some i) c.shared s)
    (howner : ∀ r j, j ≠ i → (owner r = some j ↔ c.owner r = some j))
    (hrun : ∀ p pending, t = .running p pending →
      R.wp i p (R.Ends i) ⟨s, fun r => owner r = some i, pending⟩)
    (hwait : ∀ q next pending, t = .waiting q next pending →
      R.Awaits i q (fun a => R.wp i (next a) (R.Ends i)) ⟨s, fun r => owner r = some i, pending⟩)
    (hend : t = .ended → ∀ r, owner r ≠ some i) :
    R.Sound { shared := s, owner := owner, task := Function.update c.task i t } where
  inv := by
    rcases hs with rfl | hs
    · exact hc.inv
    · exact hs.inv
  running := by
    intro j p pending hp
    by_cases hj : j = i
    · subst hj
      exact hrun p pending (by simpa using hp)
    · have hp' : c.task j = .running p pending := by simpa [Function.update_of_ne hj] using hp
      have hw := hc.running j p pending hp'
      have hheld : (fun r => owner r = some j) = fun r => c.owner r = some j :=
        funext fun r => propext (howner r j hj)
      simp only [hheld]
      rcases hs with rfl | hs
      · exact hw
      · refine wp_stable hw (Permits.interferes hs hj fun r hr hr' => ?_)
          fun r P' s' hQ hi => Ends.stable R hQ hi
        exact hj (Option.some.inj (hr.symm.trans hr'))
  waiting := by
    intro j q next pending hp
    by_cases hj : j = i
    · subst hj
      exact hwait q next pending (by simpa using hp)
    · have hp' : c.task j = .waiting q next pending := by
        simpa [Function.update_of_ne hj] using hp
      have hw := hc.waiting j q next pending hp'
      have hheld : (fun r => owner r = some j) = fun r => c.owner r = some j :=
        funext fun r => propext (howner r j hj)
      simp only [hheld]
      rcases hs with rfl | hs
      · exact hw
      · refine hw.stable (Permits.interferes hs hj fun r hr hr' => ?_)
        exact hj (Option.some.inj (hr.symm.trans hr'))
  ended := by
    intro j hj r
    by_cases hji : j = i
    · subst hji
      exact hend (by simpa using hj) r
    · have := hc.ended j (by simpa [Function.update_of_ne hji] using hj) r
      rwa [Ne, howner r j hji]

omit [DecidableEq S.Row] in
theorem release_eq_some {owner : S.Row → Option M.Proc} {j : M.Proc} {r : S.Row} :
    Config.release owner i r = some j ↔ owner r = some j ∧ j ≠ i := by
  unfold Config.release
  split_ifs with h
  · constructor
    · simp
    · rintro ⟨hj, hne⟩
      exact absurd (Option.some.inj (hj.symm.trans h)) hne
  · constructor
    · exact fun hj => ⟨hj, fun hji => h (hji ▸ hj)⟩
    · exact And.left

omit [DecidableEq M.Proc] in
theorem lock_eq_some {owner : S.Row → Option M.Proc} {rs : List S.Row}
    (hfree : ∀ r ∈ rs, owner r = none ∨ owner r = some i) {j : M.Proc} {r : S.Row} (hj : j ≠ i) :
    Config.lock owner i rs r = some j ↔ owner r = some j := by
  unfold Config.lock
  split_ifs with h
  · constructor
    · exact fun hi => absurd (Option.some.inj hi).symm hj
    · intro hr
      rcases hfree r h with h' | h' <;> rw [h'] at hr
      · cases hr
      · exact absurd (Option.some.inj hr).symm hj
  · exact Iff.rfl

omit [DecidableEq M.Proc] in
theorem held_lock (owner : S.Row → Option M.Proc) (rs : List S.Row) :
    (fun r => Config.lock owner i rs r = some i) = fun r => r ∈ rs ∨ owner r = some i := by
  funext r
  unfold Config.lock
  split_ifs with h <;> simp [h]

omit [DecidableEq S.Row] in
theorem held_release (owner : S.Row → Option M.Proc) :
    (fun r => Config.release owner i r = some i) = fun _ => False := by
  funext r
  simp [release_eq_some]

/-- The six kinds of moves. -/
theorem step_cases {c c' : Config M} {m : Move M} (h : c.step m = some c') :
    (∃ i l locks write next pending, m = .go i ∧
      c.task i = .running (.stmt l locks write next) pending ∧
      (∀ r ∈ locks (pending c.shared.db), c.owner r = none ∨ c.owner r = some i) ∧
      c' = { shared := c.shared.note i l (pending c.shared.db)
             owner := Config.lock c.owner i (locks (pending c.shared.db))
             task := Function.update c.task i
               (.running (next (pending c.shared.db)) (write (pending c.shared.db) ∘ pending)) }) ∨
    (∃ i next pending, m = .go i ∧ c.task i = .running (.commit next) pending ∧
      c' = { shared := c.shared.store (pending c.shared.db), owner := Config.release c.owner i
             task := Function.update c.task i (.running next id) }) ∨
    (∃ i a pending, m = .go i ∧ c.task i = .running (.ret a) pending ∧
      c' = { shared := c.shared.finish i (.ok a) (pending c.shared.db)
             owner := Config.release c.owner i, task := Function.update c.task i .ended }) ∨
    (∃ i e pending, m = .go i ∧ c.task i = .running (.raise e) pending ∧
      c' = { shared := c.shared.finish i (.error e) c.shared.db
             owner := Config.release c.owner i, task := Function.update c.task i .ended }) ∨
    (∃ i q next pending, m = .go i ∧ c.task i = .running (.call q next) pending ∧
      c' = { shared := c.shared.send i q, owner := c.owner
             task := Function.update c.task i (.waiting q next pending) }) ∨
    (∃ i a q next pending w, m = .reply i a ∧ c.task i = .waiting q next pending ∧
      M.answers c.shared.world i q a = some w ∧
      c' = { shared := c.shared.reply i q a w, owner := c.owner
             task := Function.update c.task i (.running (next a) pending) }) := by
  cases m with
  | go i =>
    cases htask : c.task i with
    | ended => simp [Config.step, htask] at h
    | waiting q next pending => simp [Config.step, htask] at h
    | running p pending =>
      cases p with
      | stmt l locks write next =>
        simp only [Config.step, htask] at h
        split_ifs at h with hfree
        exact Or.inl ⟨i, l, locks, write, next, pending, rfl, htask, hfree,
          (Option.some.inj h).symm⟩
      | commit next =>
        simp only [Config.step, htask, Option.some.injEq] at h
        exact Or.inr (Or.inl ⟨i, next, pending, rfl, htask, h.symm⟩)
      | ret a =>
        simp only [Config.step, htask, Option.some.injEq] at h
        exact Or.inr (Or.inr (Or.inl ⟨i, a, pending, rfl, htask, h.symm⟩))
      | raise e =>
        simp only [Config.step, htask, Option.some.injEq] at h
        exact Or.inr (Or.inr (Or.inr (Or.inl ⟨i, e, pending, rfl, htask, h.symm⟩)))
      | call q next =>
        simp only [Config.step, htask, Option.some.injEq] at h
        exact Or.inr (Or.inr (Or.inr (Or.inr (Or.inl ⟨i, q, next, pending, rfl, htask, h.symm⟩))))
  | reply i a =>
    cases htask : c.task i with
    | ended => simp [Config.step, htask] at h
    | running p pending => simp [Config.step, htask] at h
    | waiting q next pending =>
      simp only [Config.step, htask] at h
      obtain ⟨w, hw, hc'⟩ := Option.map_eq_some_iff.mp h
      exact Or.inr (Or.inr (Or.inr (Or.inr (Or.inr
        ⟨i, a, q, next, pending, w, rfl, htask, hw, hc'.symm⟩))))

/-- One move keeps soundness and is within the guarantee. -/
theorem Sound.step {c c' : Config M} {m : Move M} (hc : R.Sound c) (h : c.step m = some c') :
    R.Sound c' ∧ (c'.shared = c.shared ∨ R.guar (mover m) c.shared c'.shared) := by
  have hrefl (i : M.Proc) (pending : S.State → S.State) :
      R.Interferes i ⟨c.shared, fun r => c.owner r = some i, pending⟩ c.shared :=
    Interferes.refl hc.inv
  rcases step_cases h with ⟨i, l, locks, write, next, pending, rfl, htask, hfree, rfl⟩ |
    ⟨i, next, pending, rfl, htask, rfl⟩ | ⟨i, a, pending, rfl, htask, rfl⟩ |
    ⟨i, e, pending, rfl, htask, rfl⟩ | ⟨i, q, next, pending, rfl, htask, rfl⟩ |
    ⟨i, a, q, next, pending, w, rfl, htask, hw, rfl⟩
  · obtain ⟨hnote, hwp⟩ := hc.running i _ _ htask c.shared (hrefl i pending)
    have hs : c.shared.note i l (pending c.shared.db) = c.shared ∨
        R.Permits i (fun r => c.owner r = some i) c.shared
          (c.shared.note i l (pending c.shared.db)) := by
      cases l with
      | none => exact Or.inl rfl
      | some l => exact Or.inr (hnote l rfl)
    refine ⟨hc.move hs (fun r j hj => lock_eq_some hfree hj) ?_ (by simp) (by simp),
      hs.imp id (·.guar)⟩
    rintro p pending' ⟨⟩
    simp only [held_lock]
    exact hwp
  · obtain ⟨hperm, hwp⟩ := hc.running i _ _ htask c.shared (hrefl i pending)
    refine ⟨hc.move (Or.inr hperm) (fun r j hj => by simp [release_eq_some, hj]) ?_ (by simp)
      (by simp), Or.inr hperm.guar⟩
    rintro p pending' ⟨⟩
    simp only [held_release]
    exact hwp
  · have hperm := hc.running i _ _ htask c.shared (hrefl i pending)
    exact ⟨hc.move (Or.inr hperm) (fun r j hj => by simp [release_eq_some, hj]) (by simp) (by simp)
      fun _ r => by simp [release_eq_some], Or.inr hperm.guar⟩
  · have hperm := hc.running i _ _ htask c.shared (hrefl i pending)
    exact ⟨hc.move (Or.inr hperm) (fun r j hj => by simp [release_eq_some, hj]) (by simp) (by simp)
      fun _ r => by simp [release_eq_some], Or.inr hperm.guar⟩
  · obtain ⟨hperm, hwait⟩ := hc.running i _ _ htask c.shared (hrefl i pending)
    refine ⟨hc.move (Or.inr hperm) (fun r j hj => Iff.rfl) (by simp) ?_ (by simp),
      Or.inr hperm.guar⟩
    rintro q' next' pending' ⟨⟩
    exact hwait
  · obtain ⟨hperm, hwp⟩ := hc.waiting i _ _ _ htask c.shared (hrefl i pending) a w hw
    refine ⟨hc.move (Or.inr hperm) (fun r j hj => Iff.rfl) ?_ (by simp) (by simp),
      Or.inr hperm.guar⟩
    rintro p pending' ⟨⟩
    exact hwp

/-- Two schedules after each other. -/
theorem run_append {c c' c'' : Config M} {ms ms' : List (Move M)} (h : c.run ms = some c')
    (h' : c'.run ms' = some c'') : c.run (ms ++ ms') = some c'' := by
  induction ms generalizing c with
  | nil => obtain rfl := Option.some.inj h; exact h'
  | cons m ms ih =>
    obtain ⟨c1, h1, h2⟩ := Option.bind_eq_some_iff.mp h
    exact Option.bind_eq_some_iff.mpr ⟨c1, h1, ih h2⟩

/-- Every schedule keeps soundness. -/
theorem Sound.run {c c' : Config M} {ms : List (Move M)} (hc : R.Sound c)
    (h : c.run ms = some c') : R.Sound c' := by
  induction ms generalizing c with
  | nil => obtain rfl := Option.some.inj h; exact hc
  | cons m ms ih =>
    obtain ⟨c1, h1, h2⟩ := Option.bind_eq_some_iff.mp h
    exact ih (hc.step h1).1 h2

/-- A relation between shared states that every move within a guarantee respects holds along every
schedule. -/
theorem Sound.run_rel {c c' : Config M} {ms : List (Move M)} {rel : Shared M → Shared M → Prop}
    (hc : R.Sound c) (h : c.run ms = some c') (refl : ∀ s, rel s s)
    (trans : ∀ s s' s'', rel s s' → rel s' s'' → rel s s'')
    (hguar : ∀ i s s', R.inv s → R.inv s' → R.guar i s s' → rel s s') : rel c.shared c'.shared := by
  induction ms generalizing c with
  | nil => obtain rfl := Option.some.inj h; exact refl _
  | cons m ms ih =>
    obtain ⟨c1, h1, h2⟩ := Option.bind_eq_some_iff.mp h
    obtain ⟨hc1, hg⟩ := hc.step h1
    refine trans _ c1.shared _ ?_ (ih hc1 h2)
    rcases hg with hg | hg
    · rw [hg]; exact refl _
    · exact hguar _ _ _ hc.inv hc1.inv hg

end DiddiGo.Transactions.RelyGuarantee
