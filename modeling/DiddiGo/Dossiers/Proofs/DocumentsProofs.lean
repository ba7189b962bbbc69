import DiddiGo.Dossiers.Reviewing
import Mathlib.Data.List.Induction

/-!
# Reviews and their history

Reviews grow by entries, each of which becomes the current review of its type; everything that is written to
reviews is a list of entries.
-/

namespace DiddiGo.Dossiers

variable {D : Type} {reviews reviews' : Reviews D} {entries : List (ReviewEntry D)}
  {decisions : List DocumentDecision} {reviewer : UUID} {now : DateTime} {d : D}

theorem value_of_documentTypeOf [DocumentType D] {text : String} (h : documentTypeOf D text = some d) :
    DocumentType.value d = text := by
  unfold documentTypeOf at h
  have hd := List.find?_some h
  exact of_decide_eq_true hd

theorem documentTypeOf_value [DocumentType D] (d : D) : documentTypeOf D (DocumentType.value d) = some d := by
  have hsome : (documentTypeOf D (DocumentType.value d)).isSome = true := by
    unfold documentTypeOf
    exact List.find?_isSome.mpr ⟨d, DocumentType.mem_all d, decide_eq_true rfl⟩
  obtain ⟨d', hd'⟩ := Option.isSome_iff_exists.mp hsome
  rw [hd', DocumentType.value_injective (value_of_documentTypeOf hd')]

/-! ## Entries -/

namespace Reviews

variable [DecidableEq D]

@[simp] theorem addAll_nil (reviews : Reviews D) : reviews.addAll [] = reviews := rfl

theorem addAll_snoc (reviews : Reviews D) (entries : List (ReviewEntry D)) (entry : ReviewEntry D) :
    reviews.addAll (entries ++ [entry]) = (reviews.addAll entries).add entry.review entry.stamp := by
  unfold addAll
  rw [List.foldl_append]
  rfl

theorem history_addAll (reviews : Reviews D) (entries : List (ReviewEntry D)) :
    (reviews.addAll entries).history = reviews.history ++ entries := by
  induction entries using List.reverseRecOn with
  | nil => exact (List.append_nil _).symm
  | append_singleton entries entry ih =>
    rw [addAll_snoc, ← List.append_assoc, ← ih]
    rfl

/-- The last entry of a type is its current review; a type without an entry keeps its review. -/
theorem current_addAll (reviews : Reviews D) (entries : List (ReviewEntry D)) (d : D) :
    (reviews.addAll entries).current d =
      (((entries.filter fun entry => entry.review.documentType = d).getLast?.map ReviewEntry.review).or
        (reviews.current d)) := by
  induction entries using List.reverseRecOn with
  | nil => rfl
  | append_singleton entries entry ih =>
    rw [addAll_snoc, List.filter_append]
    unfold add
    by_cases hd : entry.review.documentType = d
    · subst hd
      simp
    · have hother : Function.update (reviews.addAll entries).current entry.review.documentType
          (some entry.review) d = (reviews.addAll entries).current d :=
        Function.update_of_ne (fun h => hd h.symm) _ _
      simp [hd, hother, ih]

theorem consistent_empty : Consistent ({} : Reviews D) := fun _ => rfl

/-- Entries keep the current reviews the last ones. -/
theorem Consistent.addAll (h : reviews.Consistent) (entries : List (ReviewEntry D)) :
    (reviews.addAll entries).Consistent := by
  intro d
  rw [current_addAll, history_addAll, List.filter_append, List.getLast?_append, h d]
  cases (entries.filter fun entry => decide (entry.review.documentType = d)).getLast? <;> rfl

/-- Without an entry of its type a review stays. -/
theorem current_addAll_of_forall_ne (h : ∀ entry ∈ entries, entry.review.documentType ≠ d) :
    (reviews.addAll entries).current d = reviews.current d := by
  have hnone : entries.filter (fun entry => decide (entry.review.documentType = d)) = [] :=
    List.filter_eq_nil_iff.mpr fun entry hentry hd => h entry hentry (of_decide_eq_true hd)
  rw [current_addAll, hnone]
  rfl

/-- The current review is one of the new entries or the one before. -/
theorem current_addAll_cases (reviews : Reviews D) (entries : List (ReviewEntry D)) (d : D) :
    (∃ entry ∈ entries, entry.review.documentType = d ∧ (reviews.addAll entries).current d = some entry.review) ∨
      (∀ entry ∈ entries, entry.review.documentType ≠ d) ∧
        (reviews.addAll entries).current d = reviews.current d := by
  by_cases h : ∃ entry ∈ entries, entry.review.documentType = d
  · left
    have hne : entries.filter (fun entry => decide (entry.review.documentType = d)) ≠ [] := by
      obtain ⟨entry, hentry, hd⟩ := h
      exact List.ne_nil_of_mem (List.mem_filter.mpr ⟨hentry, decide_eq_true hd⟩)
    obtain ⟨hmem, hlast⟩ := List.mem_filter.mp (List.getLast_mem hne)
    refine ⟨_, hmem, of_decide_eq_true hlast, ?_⟩
    rw [current_addAll, List.getLast?_eq_some_getLast hne]
    rfl
  · have hnone : ∀ entry ∈ entries, entry.review.documentType ≠ d := fun entry hentry hd => h ⟨entry, hentry, hd⟩
    exact Or.inr ⟨hnone, current_addAll_of_forall_ne hnone⟩

end Reviews

/-! ## Decisions -/

variable [DocumentType D]

theorem applyDecisionsFrom_ok [DecidableEq D] {seen : List String}
    (h : applyDecisionsFrom reviewer now seen decisions reviews = .ok reviews') :
    ∃ entries, Decides decisions reviewer now entries ∧ reviews' = reviews.addAll entries := by
  induction decisions generalizing seen reviews with
  | nil =>
    obtain rfl := Except.ok.inj h
    exact ⟨[], .nil, rfl⟩
  | cons item rest ih =>
    unfold applyDecisionsFrom at h
    cases htype : documentTypeOf D item.documentType with
    | none =>
      rw [htype] at h
      cases h
    | some d =>
      rw [htype] at h
      dsimp only at h
      split_ifs at h with hseen
      obtain ⟨entries, hdecides, hreviews⟩ := ih h
      exact ⟨⟨item.review d now, .reviewedBy reviewer⟩ :: entries, .cons ⟨d, htype, rfl⟩ hdecides, hreviews⟩

/-- What decisions that are applied add. -/
theorem applyDocumentDecisions_ok [DecidableEq D] (h : applyDocumentDecisions reviews decisions reviewer now = .ok reviews') :
    ∃ entries, Decides decisions reviewer now entries ∧ reviews' = reviews.addAll entries :=
  applyDecisionsFrom_ok h

theorem applyRejectionDecisions_ok [DecidableEq D] (h : applyRejectionDecisions reviews decisions reviewer now = .ok reviews') :
    applyDocumentDecisions reviews decisions reviewer now = .ok reviews' := by
  unfold applyRejectionDecisions at h
  split_ifs at h
  split at h
  · cases h
  · exact h

/-- An entry of decisions comes from one of them. -/
theorem Decides.exists_decision (h : Decides decisions reviewer now entries) {entry : ReviewEntry D}
    (hentry : entry ∈ entries) : ∃ item ∈ decisions,
      documentTypeOf D item.documentType = some entry.review.documentType ∧
        entry.review.status = item.decision.status ∧ entry.stamp = .reviewedBy reviewer := by
  induction h with
  | nil => exact absurd hentry List.not_mem_nil
  | cons hitem _ ih =>
    rcases List.mem_cons.mp hentry with rfl | hrest
    · obtain ⟨d, htype, rfl⟩ := hitem
      exact ⟨_, List.mem_cons_self, htype, rfl, rfl⟩
    · obtain ⟨item, hmem, hfacts⟩ := ih hrest
      exact ⟨item, List.mem_cons_of_mem _ hmem, hfacts⟩

theorem ensureAllDocumentsApproved_ok (h : ensureAllDocumentsApproved reviews = .ok ()) (d : D)
    (hrequired : DocumentType.required d = true) : reviews.statusOf d = some .approved := by
  unfold ensureAllDocumentsApproved at h
  dsimp only at h
  split_ifs at h with hmissing
  by_contra hd
  have hmem : d ∈ (DocumentType.all (D := D)).filter fun d =>
      DocumentType.required d && decide (reviews.statusOf d ≠ some .approved) :=
    List.mem_filter.mpr ⟨DocumentType.mem_all d, by simp [hrequired, hd]⟩
  have hvalue := (List.mergeSort_perm _ (fun a b => decide (a ≤ b))).mem_iff.mpr
    (List.mem_map_of_mem (f := DocumentType.value) hmem)
  rw [not_not.mp hmissing] at hvalue
  exact List.not_mem_nil hvalue

theorem ensureDocumentsComplete_ok {documents : D → DocumentRef} {code message : String}
    (h : ensureDocumentsComplete documents code message = .ok ()) (d : D)
    (hrequired : DocumentType.required d = true) : (documents d).onFile = true := by
  unfold ensureDocumentsComplete at h
  dsimp only at h
  split_ifs at h with hmissing
  by_contra hd
  have hmem : d ∈ (DocumentType.all (D := D)).filter fun d =>
      DocumentType.required d && !(documents d).onFile :=
    List.mem_filter.mpr ⟨DocumentType.mem_all d, by simp [hrequired, hd]⟩
  have hfield := List.mem_map_of_mem (f := DocumentType.field) hmem
  rw [not_not.mp hmissing] at hfield
  exact List.not_mem_nil hfield

/-! ## Documents that are handed in again -/

omit [DocumentType D] in
/-- The entries that a request makes that hands documents in again. -/
theorem markResubmittedDocumentsPending_eq [DecidableEq D] (reviews : Reviews D) (given : D → DocumentRef) (order : SetOrder D)
    (now : DateTime) : markResubmittedDocumentsPending reviews given order now =
      reviews.addAll ((order.order.filter fun d => (given d).given).map fun d =>
        ⟨{ documentType := d, status := .pending }, .resubmittedAt now⟩) := by
  unfold markResubmittedDocumentsPending Reviews.addAll
  rw [List.foldl_map]

/-- A document that is not named stays as it is. -/
theorem DocumentRef.updated_of_not_given (document : DocumentRef) {given : DocumentRef} (h : given.given = false) :
    document.updated given = document := by
  unfold DocumentRef.given at h
  obtain ⟨hfile, hurl⟩ := Bool.or_eq_false_iff.mp h
  obtain ⟨fileId, url⟩ := given
  obtain rfl := Option.not_isSome_iff_eq_none.mp (by rw [hfile]; decide)
  obtain rfl := Option.not_isSome_iff_eq_none.mp (by rw [hurl]; decide)
  rfl

end DiddiGo.Dossiers
