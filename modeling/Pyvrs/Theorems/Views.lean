import Pyvrs.Iteration

/-!
# Views keep to their index list

Every synchronous view answers subscripts from an index list `L` through
`index_or_slice_records`. A slice subscript builds a `VRSReaderSlice` over `L[s]` and decodes
nothing, so a chain of slices gives a slice over `L[s1]…[sm]` on the same store
(`SyncView.sliceChain_result`), a subsequence of `L` or of its reverse.

`ViewKeeps v L P` collects what a view over such a list guarantees about the records it decodes:
each is one of `L`'s and satisfies `P`, and a complete `for` loop yields them in the order of
the file or in the reverse order. `SlicesKeep v L P` says this of every view sliced from `v`.
Both hold on a filtered reader with `P` the filter (`filtered_views_keep_filter`), and on the
whole file.
-/

namespace Pyvrs

open scoped List

variable {τ : Type} [LinearOrderedAddCommGroup τ]

namespace SyncView

/-- A chain of slices decodes nothing; when it succeeds the view it returns is over
`L[s1]…[sm]`, on the same store. -/
theorem sliceChain_result (v : SyncView τ) (ss : List PySlice) :
    (v.sliceChain ss).decodes = [] ∧ ∀ w, (v.sliceChain ss).result = .ok (.inr w) →
      w.store = v.store ∧ pySliceChain v.indices ss = .ok w.indices := by
  cases ss with
  | nil =>
    refine ⟨rfl, fun w h => ?_⟩
    cases h
    exact ⟨rfl, rfl⟩
  | cons s ss =>
    rw [sliceChain_cons]
    refine ⟨rfl, fun w h => ?_⟩
    cases hc : pySliceChain v.indices (s :: ss) with
    | error e => simp [hc] at h
    | ok l =>
      simp only [hc, Except.map_ok, Functor.map] at h
      cases h
      exact ⟨rfl, rfl⟩

/-- An integer subscript decodes at most once, at an index of the view's list. -/
theorem getitem_int_of_ok {v : SyncView τ} {k : Int} {rec : VRSRecord τ}
    (h : (v.getitem (.int k)).result = .ok (.inl rec)) :
    (v.getitem (.int k)).decodes = [rec.recordIndex] ∧ rec.recordIndex ∈ v.indices ∧
      v.store.readRecord rec.recordIndex = .ok rec := by
  rw [getitem_eq, indexOrSliceRecords, indexOrSlice_int] at h ⊢
  cases hi : pyIndex v.indices k with
  | error e => simp [hi] at h
  | ok a =>
    simp only [hi] at h ⊢
    cases hr : v.store.readRecord a with
    | error e => simp [hr] at h
    | ok r =>
      rw [hr] at h
      obtain rfl : r = rec := by cases h; rfl
      have ha : r.recordIndex = a := by
        unfold RecordStore.readRecord at hr
        split at hr <;> cases hr
        rfl
      exact ⟨by rw [ha], ha ▸ mem_of_pyIndex_eq_ok hi, ha ▸ hr⟩

end SyncView

/-- What a view whose index list keeps the order of `L` (or reverses it) guarantees about the
records it decodes, for a property `P` of `L`'s records. -/
structure ViewKeeps (v : SyncView τ) (L : List Nat) (P : VRSRecord τ → Prop) : Prop where
  /-- The view's list is a subsequence of `L` or of its reverse. -/
  subseq : SubseqOrReverse v.indices L
  /-- An integer subscript that returns a record decoded that record once, and it is one of
  `L`'s and satisfies `P`. -/
  getitem : ∀ (k : Int) (rec : VRSRecord τ), (v.getitem (.int k)).result = .ok (.inl rec) →
    (v.getitem (.int k)).decodes = [rec.recordIndex] ∧ rec.recordIndex ∈ L ∧ P rec
  /-- A complete `for` loop decodes the view's list in order and yields its records, which
  satisfy `P` and come in timestamp order when the list keeps `L`'s order, in reverse
  timestamp order when it reverses it. -/
  iterate : ∀ fuel, v.indices.length < fuel → ∃ recs : List (VRSRecord τ),
    v.forLoop syncPass fuel = some ⟨v.indices, .ok (recs.map .inl)⟩ ∧
    recs.map (·.recordIndex) = v.indices ∧ (∀ rec ∈ recs, P rec) ∧
    (v.indices <+ L → recs.Pairwise (fun a b => a.timestamp ≤ b.timestamp)) ∧
    (v.indices <+ L.reverse → recs.Pairwise (fun a b => b.timestamp ≤ a.timestamp))

/-- Every chain of slices from `v` decodes nothing, and the view it returns keeps to `L`
and `P`. The empty chain is `v` itself. -/
def SlicesKeep (v : SyncView τ) (L : List Nat) (P : VRSRecord τ → Prop) : Prop :=
  ∀ ss : List PySlice, (v.sliceChain ss).decodes = [] ∧
    ∀ w, (v.sliceChain ss).result = .ok (.inr w) → ViewKeeps w L P

section Keeps

variable {L : List Nat} {P : VRSRecord τ → Prop}

/-- Records decoded at increasing indices have non-decreasing timestamps. -/
theorem pairwise_timestamp_le {st : RecordStore τ} {l : List Nat} (hl : ∀ a ∈ l, a < st.size)
    (hp : l.Pairwise (· < ·)) :
    (l.map st.recordAt).Pairwise (fun a b => a.timestamp ≤ b.timestamp) :=
  List.pairwise_map.mpr (hp.imp_of_mem fun _ hb hab =>
    st.recordAt_timestamp_le (Nat.le_of_lt hab) (hl _ hb))

/-- A view over a subsequence of a strictly ascending `L` (or of its reverse), whose indices
are all in the file and decode to records satisfying `P`, keeps to `L` and `P`. -/
theorem viewKeeps_of_subseq (v : SyncView τ) (hL : L.Pairwise (· < ·))
    (hP : ∀ a ∈ L, a < v.store.size ∧ P (v.store.recordAt a))
    (hsub : SubseqOrReverse v.indices L) : ViewKeeps v L P := by
  have hmem : ∀ a ∈ v.indices, a ∈ L := fun a ha =>
    hsub.elim (fun h => h.subset ha) (fun h => List.mem_reverse.mp (h.subset ha))
  have hlt : ∀ a ∈ v.indices, a < v.store.size := fun a ha => (hP a (hmem a ha)).1
  refine ⟨hsub, fun k rec h => ?_, fun fuel hf => ⟨v.indices.map v.store.recordAt, ?_, ?_, ?_,
    fun hs => pairwise_timestamp_le hlt (hL.sublist hs), fun hs => ?_⟩⟩
  · obtain ⟨hd, ha, hr⟩ := SyncView.getitem_int_of_ok h
    have hL' := hmem _ ha
    rw [RecordStore.readRecord_eq_recordAt (hP _ hL').1] at hr
    exact ⟨hd, hL', Except.ok.inj hr ▸ (hP _ hL').2⟩
  · have hget : v.getitem = indexOrSlice v.store.readRecord (VRSReaderSlice.mk v.path v.store)
        v.indices := funext v.getitem_eq
    rw [SyncView.forLoop, hget, syncFor_indexOrSlice_pass (g := v.store.recordAt)
      (fun a ha => v.store.readRecord_eq_recordAt (hlt a ha)) fuel 0 (Nat.zero_le _)
      (by simpa using hf)]
    simp [List.map_map]
  · simp [List.map_map, Function.comp_def]
  · simp only [List.mem_map]
    rintro _ ⟨a, ha, rfl⟩
    exact (hP a (hmem a ha)).2
  · have hrev : L.reverse.Pairwise (fun a b => b < a) := List.pairwise_reverse.mpr hL
    exact List.pairwise_map.mpr ((hrev.sublist hs).imp_of_mem fun ha _ hab =>
      v.store.recordAt_timestamp_le (Nat.le_of_lt hab) (hlt _ ha))

/-- A view over a strictly ascending list of indices of the file whose records satisfy `P`
keeps to its own list and `P` through every chain of slices. -/
theorem slicesKeep_of (v : SyncView τ) (hL : v.indices.Pairwise (· < ·))
    (hP : ∀ a ∈ v.indices, a < v.store.size ∧ P (v.store.recordAt a)) :
    SlicesKeep v v.indices P := by
  intro ss
  obtain ⟨hd, hres⟩ := v.sliceChain_result ss
  refine ⟨hd, fun w hw => ?_⟩
  obtain ⟨hst, hc⟩ := hres w hw
  exact viewKeeps_of_subseq w hL (hst ▸ hP) (pySliceChain_subseq (.refl _) hc)

end Keeps

/-- A filtered reader holds the store's filtered indices, strictly ascending, and every view
sliced from it keeps to them and to the filter: records decoded by subscript or by iteration
pass the filter, and iteration yields them in timestamp order or its reverse. The whole file,
`range(n_records)`, behaves the same with no filter. -/
theorem filtered_views_keep_filter (r : VRSReader τ) (F : RecordFilter τ) :
    (∃ V0 : SyncFilteredVRSReader τ, SyncFilteredVRSReader.new r F = .ok V0 ∧
      V0.filteredIndices = r.reader.regenerateEnabledIndices F.recordTypes F.streamIds
        F.minTimestamp F.maxTimestamp ∧
      V0.filteredIndices.Pairwise (· < ·) ∧
      SlicesKeep (.filtered V0) V0.filteredIndices F.Admits) ∧
    SlicesKeep (.reader ⟨r⟩) (List.range r.nRecords) (fun _ => True) := by
  obtain ⟨m, M, e⟩ := FilteredVRSReader.new_eq r F
  have hsorted := r.reader.regenerateEnabledIndices_sorted F.recordTypes F.streamIds
    F.minTimestamp F.maxTimestamp
  refine ⟨⟨⟨⟨r, F, r.generateFilteredIndices F, m, M⟩⟩, by rw [SyncFilteredVRSReader.new, e]; rfl,
    rfl, hsorted, slicesKeep_of (.filtered _) hsorted fun a ha => ?_⟩,
    slicesKeep_of (.reader ⟨r⟩) (List.pairwise_lt_range _) fun a ha => ?_⟩
  · obtain ⟨h, ht, hs, hmin, hmax⟩ := RecordStore.mem_regenerateEnabledIndices.mp ha
    refine ⟨h, ?_⟩
    show F.Admits (r.reader.recordAt a)
    rw [RecordStore.recordAt_of_lt h]
    exact ⟨ht, hs, hmin, hmax⟩
  · exact ⟨List.mem_range.mp ha, trivial⟩

/-- Slicing a view commutes with slicing its index list and decodes nothing, for the three
synchronous classes (`SyncView.sliceChain` is `subscriptChain SyncView.subscript`) and for the
block views of a record. -/
theorem slicing_commutes_with_index_list :
    (∀ v : SyncView τ, SlicingLaws SyncView.subscript SyncView.indices v.store.readRecord v) ∧
    ∀ {β : Type} (b : VRSBlocks β), SlicingLaws VRSBlocks.getitem VRSBlocks.range b.getFunc b :=
  ⟨fun v => (SyncView.subscript_eq (τ := τ)) ▸ SyncView.family.slicingLaws v,
    fun b => VRSBlocks.family.slicingLaws b⟩

end Pyvrs
