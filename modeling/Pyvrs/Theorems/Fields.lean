import Pyvrs.Filter

/-!
# The set filters of `filtered_by_fields`

`_filter_set_on_condition(s, items, cond)` keeps an element `a` of `s` when its inner loop over
`items` meets a `b` with `cond(a, b)`. Over a re-iterable collection every inner loop sees all
of `items`, so the result is exactly `{a ∈ s | ∃ b ∈ items, cond(a, b)}`, as the docstring says
(`mem_filterSetOnCondition_collection`). A one-shot iterator is shared by all the inner loops:
each one continues where the previous stopped, so the call keeps at most as many elements as the
iterator yields (`length_filterSetOnCondition_iterator`), and an iterator over one pattern is used
up by the first element, whether it matches or not. `filtered_by_fields` passes its arguments on
as they come, so it inherits both (`filtered_by_fields_one_shot_keeps_first`).
-/

namespace Pyvrs

variable {α : Type}

/-! ## The inner loop -/

/-- The inner loop breaks exactly when some item satisfies the condition. -/
theorem scanItems_fst (condFunc : α → α → Bool) (a : α) (items : List α) :
    (scanItems condFunc a items).1 = true ↔ ∃ b ∈ items, condFunc a b = true := by
  induction items with
  | nil => simp [scanItems]
  | cons b rest ih =>
    by_cases h : condFunc a b = true
    · simp [scanItems, h]
    · simp [scanItems, h, ih]

/-- The inner loop leaves a suffix of what it was given. -/
theorem scanItems_snd_subset (condFunc : α → α → Bool) (a : α) (items : List α) :
    (scanItems condFunc a items).2 ⊆ items := by
  induction items with
  | nil => simp [scanItems]
  | cons b rest ih =>
    unfold scanItems
    split
    · exact List.subset_cons_of_subset _ (List.Subset.refl _)
    · exact List.subset_cons_of_subset _ ih

/-- The inner loop consumes an item for every element it keeps. -/
theorem scanItems_length (condFunc : α → α → Bool) (a : α) (items : List α) :
    (scanItems condFunc a items).2.length + (if (scanItems condFunc a items).1 then 1 else 0) ≤
      items.length := by
  induction items with
  | nil => simp [scanItems]
  | cons b rest ih =>
    by_cases h : condFunc a b = true
    · simp [scanItems, h]
    · simp only [scanItems, h, if_false, Bool.false_eq_true, List.length_cons] at ih ⊢
      omega

theorem pending_resume_subset (items : PyIterable α) {rest : List α} (h : rest ⊆ items.pending) :
    (items.resume rest).pending ⊆ items.pending := by
  cases items with
  | collection xs => exact List.Subset.refl _
  | iterator xs => exact h

/-! ## The outer loop -/

variable [DecidableEq α] (condFunc : α → α → Bool)

/-- Whatever the iterable, an element is kept only if it is in `s` and meets an item. -/
theorem mem_filterSetOnConditionLoop_of_mem (s : List α) (items : PyIterable α)
    (filtered : List α) {a : α} (h : a ∈ filterSetOnConditionLoop condFunc s items filtered) :
    a ∈ filtered ∨ a ∈ s ∧ ∃ b ∈ items.pending, condFunc a b = true := by
  induction s generalizing items filtered with
  | nil => exact .inl h
  | cons x s ih =>
    have hsub := pending_resume_subset items (scanItems_snd_subset condFunc x items.pending)
    rcases ih _ _ h with h | ⟨hs, b, hb, hab⟩
    · split at h
      · rename_i hscan
        rcases List.mem_insert_iff.mp h with rfl | h
        · exact .inr ⟨List.mem_cons_self _ _, (scanItems_fst condFunc a _).mp hscan⟩
        · exact .inl h
      · exact .inl h
    · exact .inr ⟨List.mem_cons_of_mem _ hs, b, hsub hb, hab⟩

/-- Over a collection, an element is kept exactly when it is in `s` and meets an item. -/
theorem mem_filterSetOnConditionLoop_collection (s items filtered : List α) (a : α) :
    a ∈ filterSetOnConditionLoop condFunc s (.collection items) filtered ↔
      a ∈ filtered ∨ a ∈ s ∧ ∃ b ∈ items, condFunc a b = true := by
  induction s generalizing filtered with
  | nil => simp [filterSetOnConditionLoop]
  | cons x s ih =>
    rw [filterSetOnConditionLoop]
    simp only [PyIterable.pending, PyIterable.resume]
    rw [ih]
    have hscan := scanItems_fst condFunc x items
    -- `x` is kept exactly when its inner loop meets an item; every other element as before
    by_cases hax : a = x
    · subst hax
      split_ifs with hx
      · simp [hscan.mp hx]
      · simp [mt hscan.mpr hx]
    · split_ifs <;> simp [hax]

theorem nodup_filterSetOnConditionLoop (s : List α) (items : PyIterable α) {filtered : List α}
    (h : filtered.Nodup) : (filterSetOnConditionLoop condFunc s items filtered).Nodup := by
  induction s generalizing items filtered with
  | nil => exact h
  | cons x s ih =>
    rw [filterSetOnConditionLoop]
    exact ih _ (by split <;> [exact h.insert; exact h])

/-- `_filter_set_on_condition(s, items, cond)` over a collection is `{a ∈ s | ∃ b ∈ items,
cond(a, b)}`, without repetitions. -/
theorem mem_filterSetOnCondition_collection (s items : List α) (a : α) :
    a ∈ filterSetOnCondition s (.collection items) condFunc ↔
      a ∈ s ∧ ∃ b ∈ items, condFunc a b = true := by
  simp [filterSetOnCondition, mem_filterSetOnConditionLoop_collection]

/-- Over any iterable, `_filter_set_on_condition` keeps only elements of `s` that meet an item. -/
theorem mem_filterSetOnCondition_of_mem (s : List α) (items : PyIterable α) {a : α}
    (h : a ∈ filterSetOnCondition s items condFunc) :
    a ∈ s ∧ ∃ b ∈ items.pending, condFunc a b = true :=
  (mem_filterSetOnConditionLoop_of_mem condFunc s items [] h).resolve_left (List.not_mem_nil a)

/-! ## One-shot iterators -/

theorem length_filterSetOnConditionLoop_iterator (s items filtered : List α) :
    (filterSetOnConditionLoop condFunc s (.iterator items) filtered).length ≤
      filtered.length + items.length := by
  induction s generalizing items filtered with
  | nil => exact Nat.le_add_right _ _
  | cons x s ih =>
    have hscan := scanItems_length condFunc x items
    refine (ih _ _).trans ?_
    simp only [PyIterable.pending, PyIterable.resume]
    split
    · rename_i h
      rw [if_pos h] at hscan
      have : (filtered.insert x).length ≤ filtered.length + 1 := by
        by_cases hm : x ∈ filtered <;> simp [hm]
      omega
    · rename_i h
      rw [if_neg h] at hscan
      omega

/-- Over a one-shot iterator, `_filter_set_on_condition` keeps at most as many elements as the
iterator yields. -/
theorem length_filterSetOnCondition_iterator (s items : List α) :
    (filterSetOnCondition s (.iterator items) condFunc).length ≤ items.length := by
  simpa using length_filterSetOnConditionLoop_iterator condFunc s items []

theorem filterSetOnConditionLoop_iterator_nil (s filtered : List α) :
    filterSetOnConditionLoop condFunc s (.iterator []) filtered = filtered := by
  induction s with
  | nil => rfl
  | cons x s ih => exact ih

/-- An iterator over one pattern is used up by the first element: only that one can be kept. -/
theorem filterSetOnCondition_iterator_singleton (x : α) (s : List α) (p : α) :
    filterSetOnCondition (x :: s) (.iterator [p]) condFunc = if condFunc x p then [x] else [] := by
  unfold filterSetOnCondition
  by_cases h : condFunc x p = true <;>
    simp [filterSetOnConditionLoop, scanItems, PyIterable.pending, PyIterable.resume, h,
      filterSetOnConditionLoop_iterator_nil]

/-! ## `filtered_by_fields` -/

variable {τ : Type} [LinearOrderedAddCommGroup τ]

/-- An omitted argument stands for the available set, a string for itself alone, and a
collection for its items. -/
theorem FieldArg.resolve_eq_collection {available requested : List String} {arg : Option FieldArg}
    (h : arg = none ∧ requested = available ∨ (∃ x, arg = some (.str x) ∧ requested = [x]) ∨
      arg = some (.iterable (.collection requested))) :
    FieldArg.resolve available arg = .collection requested := by
  rcases h with ⟨rfl, rfl⟩ | ⟨x, rfl, rfl⟩ | rfl <;> rfl

theorem SyncVRSReader.filteredByFields_eq (r : SyncVRSReader τ) (fnmatch : String → String → Bool)
    (streamIds recordTypes : Option FieldArg) (minTimestamp maxTimestamp : Option τ) :
    ∃ V, r.filteredByFields fnmatch streamIds recordTypes minTimestamp maxTimestamp = .ok V ∧
      V.recordFilter =
        r.recordFilterOfFields fnmatch streamIds recordTypes minTimestamp maxTimestamp := by
  obtain ⟨m, M, e⟩ := FilteredVRSReader.new_eq r.toVRSReader
    (r.recordFilterOfFields fnmatch streamIds recordTypes minTimestamp maxTimestamp)
  exact ⟨_, by rw [filteredByFields, SyncFilteredVRSReader.new, e]; rfl, rfl⟩

theorem AsyncVRSReader.filteredByFields_eq (r : AsyncVRSReader τ)
    (fnmatch : String → String → Bool) (streamIds recordTypes : Option FieldArg)
    (minTimestamp maxTimestamp : Option τ) :
    ∃ V, r.filteredByFields fnmatch streamIds recordTypes minTimestamp maxTimestamp = .ok V ∧
      V.recordFilter =
        r.recordFilterOfFields fnmatch streamIds recordTypes minTimestamp maxTimestamp := by
  obtain ⟨m, M, e⟩ := FilteredVRSReader.new_eq r.toVRSReader
    (r.recordFilterOfFields fnmatch streamIds recordTypes minTimestamp maxTimestamp)
  exact ⟨_, by rw [filteredByFields, AsyncFilteredVRSReader.new, e]; rfl, rfl⟩

/-- `filtered_by_fields`, sync and async alike, builds a filter whose record types are the
available ones equal to a requested one `T` and whose stream ids are the available ones matching
a requested pattern of `P`, each without repetitions, where a string argument stands for the
one-element set and an omitted one for the available set, and whose bounds default to the
file's. A one-shot iterator breaks this: all the inner loops of `_filter_set_on_condition` share
it, so the call keeps at most as many elements as the iterator yields, and given `iter([p])` as
`stream_ids` it keeps at most the first available stream id, whichever others match `p`. -/
theorem filtered_by_fields_one_shot_keeps_first :
    (∀ (r : VRSReader τ) (fnmatch : String → String → Bool)
      (streamIds recordTypes : Option FieldArg) (P T : List String)
      (minTimestamp maxTimestamp : Option τ),
      (streamIds = none ∧ P = r.streamIds ∨ (∃ p, streamIds = some (.str p) ∧ P = [p]) ∨
        streamIds = some (.iterable (.collection P))) →
      (recordTypes = none ∧ T = r.recordTypes ∨ (∃ t, recordTypes = some (.str t) ∧ T = [t]) ∨
        recordTypes = some (.iterable (.collection T))) →
      (r.recordFilterOfFields fnmatch streamIds recordTypes minTimestamp
          maxTimestamp).recordTypes.Nodup ∧
      (∀ a, a ∈ (r.recordFilterOfFields fnmatch streamIds recordTypes minTimestamp
          maxTimestamp).recordTypes ↔ a ∈ r.recordTypes ∧ a ∈ T) ∧
      (r.recordFilterOfFields fnmatch streamIds recordTypes minTimestamp
          maxTimestamp).streamIds.Nodup ∧
      (∀ a, a ∈ (r.recordFilterOfFields fnmatch streamIds recordTypes minTimestamp
          maxTimestamp).streamIds ↔ a ∈ r.streamIds ∧ ∃ p ∈ P, fnmatch a p = true) ∧
      (r.recordFilterOfFields fnmatch streamIds recordTypes minTimestamp maxTimestamp).minTimestamp =
        minTimestamp.getD r.minTimestamp ∧
      (r.recordFilterOfFields fnmatch streamIds recordTypes minTimestamp maxTimestamp).maxTimestamp =
        maxTimestamp.getD r.maxTimestamp) ∧
    (∀ (r : SyncVRSReader τ) (fnmatch : String → String → Bool)
      (streamIds recordTypes : Option FieldArg) (minTimestamp maxTimestamp : Option τ),
      ∃ V, r.filteredByFields fnmatch streamIds recordTypes minTimestamp maxTimestamp = .ok V ∧
        V.recordFilter =
          r.recordFilterOfFields fnmatch streamIds recordTypes minTimestamp maxTimestamp) ∧
    (∀ (r : AsyncVRSReader τ) (fnmatch : String → String → Bool)
      (streamIds recordTypes : Option FieldArg) (minTimestamp maxTimestamp : Option τ),
      ∃ V, r.filteredByFields fnmatch streamIds recordTypes minTimestamp maxTimestamp = .ok V ∧
        V.recordFilter =
          r.recordFilterOfFields fnmatch streamIds recordTypes minTimestamp maxTimestamp) ∧
    (∀ {α : Type} [DecidableEq α] (s items : List α) (cond : α → α → Bool),
      (filterSetOnCondition s (.iterator items) cond).length ≤ items.length) ∧
    ∀ (r : VRSReader τ) (fnmatch : String → String → Bool) (recordTypes : Option FieldArg)
      (minTimestamp maxTimestamp : Option τ) (p s : String) (rest : List String),
      r.streamIds = s :: rest →
      (r.recordFilterOfFields fnmatch (some (.iterable (.iterator [p]))) recordTypes minTimestamp
          maxTimestamp).streamIds = if fnmatch s p then [s] else [] := by
  refine ⟨fun r fnmatch streamIds recordTypes P T _ _ hs ht => ⟨?_, fun a => ?_, ?_, fun a => ?_,
      rfl, rfl⟩, SyncVRSReader.filteredByFields_eq, AsyncVRSReader.filteredByFields_eq,
    fun s items cond => length_filterSetOnCondition_iterator cond s items,
    fun r fnmatch _ _ _ p s rest hr => ?_⟩
  · exact nodup_filterSetOnConditionLoop _ _ _ List.nodup_nil
  · rw [VRSReader.recordFilterOfFields, filterByRecordType, FieldArg.resolve_eq_collection ht,
      mem_filterSetOnCondition_collection]
    simp
  · exact nodup_filterSetOnConditionLoop _ _ _ List.nodup_nil
  · rw [VRSReader.recordFilterOfFields, filterByStreamIds, FieldArg.resolve_eq_collection hs,
      mem_filterSetOnCondition_collection]
  · rw [VRSReader.recordFilterOfFields, filterByStreamIds, hr]
    exact filterSetOnCondition_iterator_singleton fnmatch s rest p

/-- A reader whose stream ids, in iteration order, are `100-1` then `100-2`. -/
def twoStreamReader : VRSReader ℤ :=
  ⟨⟨[⟨"100-1", .data, 0⟩, ⟨"100-2", .data, 1⟩], by decide⟩, "two.vrs", false⟩

/-- `filtered_by_fields(stream_ids=iter(["100-*"]))` on a file with streams `100-1` and `100-2`
keeps only `100-1`, although `fnmatch` accepts both for `100-*`, so the matcher is `true` on
every pair the loops ask about; the same pattern as a set keeps both. -/
theorem one_shot_pattern_keeps_one_stream :
    twoStreamReader.streamIds = ["100-1", "100-2"] ∧
      (twoStreamReader.recordFilterOfFields (fun _ _ => true)
        (some (.iterable (.iterator ["100-*"]))) none none none).streamIds = ["100-1"] ∧
      ∀ a, a ∈ (twoStreamReader.recordFilterOfFields (fun _ _ => true)
        (some (.iterable (.collection ["100-*"]))) none none none).streamIds ↔
          a ∈ twoStreamReader.streamIds ∧ ∃ p ∈ ["100-*"], (fun _ _ => true) a p = true :=
  have h := filtered_by_fields_one_shot_keeps_first (τ := ℤ)
  ⟨rfl, h.2.2.2.2 twoStreamReader (fun _ _ => true) none none none "100-*" "100-1" ["100-2"] rfl,
    (h.1 twoStreamReader (fun _ _ => true) (some (.iterable (.collection ["100-*"]))) none
      ["100-*"] twoStreamReader.recordTypes none none (.inr (.inr rfl)) (.inl ⟨rfl, rfl⟩)).2.2.2.1⟩

end Pyvrs
