import Pyvrs.Theorems.Views

/-!
# Timestamp queries against decoding

`get_timestamp_for_index` and `get_timestamp_list` answer from the store's index, with no decode
call. On the reader that `filtered_by_fields` builds and on the whole file they agree with the
path that decodes: `get_timestamp_for_index(k)` is the timestamp of the record `self[k]` decodes,
and raises `IndexError` exactly where `self[k]` does, negative `k` included on a filtered reader
(`timestamp_for_index_agrees_with_decode`); `get_timestamp_list()` lists the timestamps of the
records a complete `for` loop yields, and the `min_timestamp` and `max_timestamp` that
`FilteredVRSReader.__init__` computes are its ends (`timestamp_list_agrees_with_iteration`).
-/

namespace Pyvrs

variable {τ : Type} [LinearOrderedAddCommGroup τ]

namespace SyncView

variable {v : SyncView τ} (hL : ∀ a ∈ v.indices, a < v.store.size)
include hL

/-- Inside `[-len, len)` an integer subscript decodes `L[k]` once and returns its record. -/
theorem getitem_int_of_lt {k : Int} (lo : -(v.indices.length : Int) ≤ k)
    (hi : k < v.indices.length) :
    ∃ h : normIndex v.indices.length k < v.indices.length,
      v.getitem (.int k) = ⟨[v.indices[normIndex v.indices.length k]],
        .ok (.inl (v.store.recordAt v.indices[normIndex v.indices.length k]))⟩ := by
  obtain ⟨h, e⟩ :=
    indexOrSlice_of_lt v.store.readRecord (VRSReaderSlice.mk v.path v.store) v.indices lo hi
  refine ⟨h, ?_⟩
  rw [getitem_eq, indexOrSliceRecords, e,
    RecordStore.readRecord_eq_recordAt (hL _ (List.getElem_mem _))]
  rfl

/-- A complete `for` loop decodes the view's list in order and yields the records there. -/
theorem forLoop_syncPass (fuel : Nat) (hf : v.indices.length < fuel) :
    v.forLoop syncPass fuel = some ⟨v.indices, .ok ((v.indices.map v.store.recordAt).map .inl)⟩ := by
  have hget : v.getitem = indexOrSlice v.store.readRecord (VRSReaderSlice.mk v.path v.store)
      v.indices := funext v.getitem_eq
  rw [forLoop, hget, syncFor_indexOrSlice_pass (g := v.store.recordAt)
    (fun a ha => v.store.readRecord_eq_recordAt (hL a ha)) fuel 0 (Nat.zero_le _)
    (by simpa using hf)]
  simp [List.map_map]

end SyncView

namespace VRSReader

variable {r : VRSReader τ} {i : Nat}

/-- On the whole file, `self[i]` for an index `i ≥ 0` below `n_records` decodes record `i`. -/
theorem getitem_int_of_lt (hi : i < r.nRecords) :
    r.getitem (.int i) = ⟨[i], .ok (.inl (r.reader.recordAt i))⟩ := by
  have hlen : (i : Int) < (List.range r.nRecords).length := by simpa using hi
  obtain ⟨_, e⟩ := SyncView.getitem_int_of_lt (v := .reader ⟨r⟩)
    (fun a ha => List.mem_range.mp ha) (by omega) hlen
  have hnorm : normIndex (List.range r.nRecords).length i = i := by
    rw [normIndex, if_neg (by omega)]; simp
  simp only [SyncView.indices, List.getElem_range, hnorm] at e
  exact e

/-- Past the last record, `self[i]` raises `IndexError` and decodes nothing. -/
theorem getitem_int_of_le (hi : r.nRecords ≤ i) : r.getitem (.int i) = ⟨[], .error .indexError⟩ :=
  (SyncView.getitem_eq (.reader ⟨r⟩) _).trans (indexOrSlice_of_out _ _ _ (by simp [SyncView.indices]; omega))

end VRSReader

/-- Along a non-decreasing list, the last item is not below the first; `0 - 0` for none. -/
theorem getLast_sub_head_nonneg {ts : List τ} (h : ts.Pairwise (· ≤ ·)) :
    0 ≤ ts.getLast?.getD 0 - ts.head?.getD 0 := by
  cases ts with
  | nil => simp
  | cons a l =>
    rw [List.getLast?_eq_getLast (a :: l) (List.cons_ne_nil _ _), Option.getD_some,
      List.head?_cons, Option.getD_some, sub_nonneg]
    by_cases hl : l = []
    · subst hl; rfl
    · rw [List.getLast_cons hl]
      exact List.rel_of_pairwise_cons h (List.getLast_mem hl)

/-- The timestamps of the whole file, by index, are those of its headers. -/
theorem map_range_recordAt_timestamp (st : RecordStore τ) :
    (List.range st.size).map (fun i => (st.recordAt i).timestamp) = st.headers.map (·.timestamp) := by
  refine List.ext_getElem (by simp [RecordStore.size]) fun i h1 h2 => ?_
  have hi : i < st.size := by simpa using h1
  simp [RecordStore.recordAt_of_lt hi, RecordHeader.decode]

/-- `get_timestamp_for_index(k)` answers from the index what decoding `self[k]` would: on the
reader `filtered_by_fields` builds, whose list is the filter's selection, for every integer `k`
inside `[-len, len)` both read the record at absolute index `a = L[k]`, counting a negative `k`
from the end, `self[k]` decodes it once and `get_timestamp_for_index(k)` gives its timestamp;
outside both raise `IndexError`, with no decode. On the whole file likewise, with `a = k`, for
every index `k ≥ 0`. -/
theorem timestamp_for_index_agrees_with_decode (r : VRSReader τ) (F : RecordFilter τ) :
    (∃ V : SyncFilteredVRSReader τ, SyncFilteredVRSReader.new r F = .ok V ∧
      V.filteredIndices = r.generateFilteredIndices F ∧
      ∀ k : Int,
        ((-(V.nRecords : Int) ≤ k ∧ k < V.nRecords) →
          ∃ a, V.filteredIndices[(if k < 0 then k + V.nRecords else k).toNat]? = some a ∧
            V.getitem (.int k) = ⟨[a], .ok (.inl (r.reader.recordAt a))⟩ ∧
            V.getTimestampForIndex k = .ok (r.reader.recordAt a).timestamp) ∧
        (¬ (-(V.nRecords : Int) ≤ k ∧ k < V.nRecords) →
          V.getitem (.int k) = ⟨[], .error .indexError⟩ ∧
            V.getTimestampForIndex k = .error .indexError)) ∧
    ∀ i : Nat,
      (i < r.nRecords → r.getitem (.int i) = ⟨[i], .ok (.inl (r.reader.recordAt i))⟩ ∧
          r.getTimestampForIndex i = .ok (r.reader.recordAt i).timestamp) ∧
      (r.nRecords ≤ i → r.getitem (.int i) = ⟨[], .error .indexError⟩ ∧
          r.getTimestampForIndex i = .error .indexError) := by
  obtain ⟨m, M, e⟩ := FilteredVRSReader.new_eq r F
  set f : FilteredVRSReader τ := ⟨r, F, r.generateFilteredIndices F, m, M⟩
  have hL : ∀ a ∈ f.filteredIndices, a < r.reader.size := fun a ha =>
    RecordStore.lt_size_of_mem_indicesWhere ha
  refine ⟨⟨⟨f⟩, by rw [SyncFilteredVRSReader.new, e]; rfl, rfl,
      fun k => ⟨fun hk => ?_, fun hk => ?_⟩⟩,
    fun i => ⟨fun hi => ⟨VRSReader.getitem_int_of_lt hi, VRSReader.getTimestampForIndex_of_lt hi⟩,
      fun hi => ⟨VRSReader.getitem_int_of_le hi, VRSReader.getTimestampForIndex_of_le hi⟩⟩⟩
  · -- a filtered position: both paths meet at `filteredIndices[k]`
    obtain ⟨h, hget⟩ := SyncView.getitem_int_of_lt (v := .filtered ⟨f⟩) hL hk.1 hk.2
    obtain ⟨_, hts⟩ := FilteredVRSReader.getTimestampForIndex_of_lt (f := f) hL hk.1 hk.2
    exact ⟨_, List.getElem?_eq_getElem h, by simpa using hget, hts⟩
  · exact ⟨(SyncView.getitem_eq (.filtered ⟨f⟩) _).trans (indexOrSlice_of_out _ _ _ hk),
      FilteredVRSReader.getTimestampForIndex_of_out hk⟩

/-! ## The timestamps a filter selects -/

section FilteredTimestamps

variable (r : VRSReader τ) (F : RecordFilter τ)

/-- `FilteredVRSReader.__init__` keeps the first and the last of the selected records'
timestamps. -/
theorem SyncFilteredVRSReader.new_eq_filteredTimestamps :
    SyncFilteredVRSReader.new r F = .ok ⟨⟨r, F, r.generateFilteredIndices F,
      ((r.generateFilteredIndices F).map fun i => (r.reader.recordAt i).timestamp).head?.getD 0,
      ((r.generateFilteredIndices F).map fun i => (r.reader.recordAt i).timestamp).getLast?.getD 0⟩⟩ := by
  rw [SyncFilteredVRSReader.new, FilteredVRSReader.new_eq_timestamps, List.head?_map,
    List.getLast?_map]
  rfl

theorem filteredTimestamps_sorted :
    ((r.generateFilteredIndices F).map fun i => (r.reader.recordAt i).timestamp).Pairwise (· ≤ ·) := by
  have := pairwise_timestamp_le (fun a ha => RecordStore.lt_size_of_mem_indicesWhere ha)
    (r.reader.regenerateEnabledIndices_sorted F.recordTypes F.streamIds F.minTimestamp
      F.maxTimestamp)
  rwa [List.pairwise_map] at this ⊢

variable {r F}

/-- A selected record's timestamp lies inside the filter's bounds and the file's range. -/
theorem mem_filteredTimestamps {t : τ}
    (ht : t ∈ (r.generateFilteredIndices F).map fun i => (r.reader.recordAt i).timestamp) :
    F.minTimestamp ≤ t ∧ t ≤ F.maxTimestamp ∧ r.minTimestamp ≤ t ∧ t ≤ r.maxTimestamp := by
  obtain ⟨a, ha, rfl⟩ := List.mem_map.mp ht
  obtain ⟨h, -, -, hmin, hmax⟩ := RecordStore.mem_regenerateEnabledIndices.mp ha
  have hrec : (r.reader.recordAt a).timestamp = r.reader.headers[a].timestamp := by
    rw [RecordStore.recordAt_of_lt h]
    rfl
  exact ⟨hrec ▸ hmin, hrec ▸ hmax, RecordStore.getMinAvailableTimestamp_le h,
    RecordStore.le_getMaxAvailableTimestamp h⟩

end FilteredTimestamps

/-- On the reader `filtered_by_fields` builds, `get_timestamp_list()` lists the timestamps of
the records a complete `for` loop decodes, in the same order; they are non-decreasing and inside
the filter's bounds, `min_timestamp` and `max_timestamp` are the first and last of them (`0` when
there are none), so `time_range` is never negative. On the whole file, `get_timestamp_list()` lists
every record's timestamp, non-decreasing, from `min_timestamp` to `max_timestamp`. -/
theorem timestamp_list_agrees_with_iteration (r : VRSReader τ) (F : RecordFilter τ) :
    (∃ V : SyncFilteredVRSReader τ, SyncFilteredVRSReader.new r F = .ok V ∧
      ∃ ts : List τ, V.getTimestampList = .ok ts ∧
        (∀ fuel, V.nRecords < fuel → ∃ recs : List (VRSRecord τ),
          (SyncView.filtered V).forLoop syncPass fuel =
            some ⟨V.filteredIndices, .ok (recs.map .inl)⟩ ∧ recs.map (·.timestamp) = ts) ∧
        ts.Pairwise (· ≤ ·) ∧ (∀ t ∈ ts, F.minTimestamp ≤ t ∧ t ≤ F.maxTimestamp) ∧
        V.minTimestamp = ts.head?.getD 0 ∧ V.maxTimestamp = ts.getLast?.getD 0 ∧
        0 ≤ V.timeRange) ∧
    ∃ ts : List τ, r.getTimestampList none = .ok ts ∧
      (∀ fuel, r.nRecords < fuel → ∃ recs : List (VRSRecord τ),
        (SyncView.reader ⟨r⟩).forLoop syncPass fuel =
          some ⟨List.range r.nRecords, .ok (recs.map .inl)⟩ ∧ recs.map (·.timestamp) = ts) ∧
      ts.Pairwise (· ≤ ·) ∧ r.minTimestamp = ts.head?.getD 0 ∧
      r.maxTimestamp = ts.getLast?.getD 0 ∧ 0 ≤ r.timeRange := by
  set L := r.generateFilteredIndices F
  set ts := L.map fun i => (r.reader.recordAt i).timestamp
  set f : FilteredVRSReader τ := ⟨r, F, L, ts.head?.getD 0, ts.getLast?.getD 0⟩
  have hL : ∀ a ∈ L, a < r.reader.size := fun a ha => RecordStore.lt_size_of_mem_indicesWhere ha
  have hsorted : ts.Pairwise (· ≤ ·) := filteredTimestamps_sorted r F
  have hwhole : (r.reader.headers.map (·.timestamp)).Pairwise (· ≤ ·) :=
    List.pairwise_map.mpr r.reader.sorted
  have hrange : ∀ a ∈ List.range r.reader.size, a < r.reader.size := fun a ha => List.mem_range.mp ha
  refine ⟨⟨⟨f⟩, SyncFilteredVRSReader.new_eq_filteredTimestamps r F, ts,
    FilteredVRSReader.getTimestampList_eq hL,
    fun fuel hfuel => ⟨L.map r.reader.recordAt,
      SyncView.forLoop_syncPass (v := .filtered ⟨f⟩) hL fuel hfuel, List.map_map _ _ _⟩,
    hsorted, fun t ht => ⟨(mem_filteredTimestamps ht).1, (mem_filteredTimestamps ht).2.1⟩, rfl, rfl,
    getLast_sub_head_nonneg hsorted⟩,
    _, (RecordStore.getTimestampListForIndices_of_lt hrange).trans
      (congrArg Except.ok (map_range_recordAt_timestamp r.reader)),
    fun fuel hfuel => ⟨(List.range r.nRecords).map r.reader.recordAt,
      SyncView.forLoop_syncPass (v := .reader ⟨r⟩) hrange fuel (by simpa [SyncView.indices] using hfuel),
      (List.map_map _ _ _).trans (map_range_recordAt_timestamp r.reader)⟩,
    hwhole, by rw [List.head?_map]; rfl, by rw [List.getLast?_map]; rfl, ?_⟩
  have := getLast_sub_head_nonneg hwhole
  rwa [List.head?_map, List.getLast?_map] at this

/-- The enabled records' time range lies inside the filter's bounds and inside the file's
available range, which `__str__` prints next to it; with no record enabled,
`FilteredVRSReader.__init__` reports `0` for both ends, whatever the file's range. -/
theorem filtered_time_range_within_file (r : VRSReader τ) (F : RecordFilter τ) :
    ∃ V : SyncFilteredVRSReader τ, SyncFilteredVRSReader.new r F = .ok V ∧
      (V.nRecords = 0 → V.minTimestamp = 0 ∧ V.maxTimestamp = 0) ∧
      (0 < V.nRecords →
        F.minTimestamp ≤ V.minTimestamp ∧ r.minTimestamp ≤ V.minTimestamp ∧
        V.minTimestamp ≤ V.maxTimestamp ∧
        V.maxTimestamp ≤ F.maxTimestamp ∧ V.maxTimestamp ≤ r.maxTimestamp ∧
        V.timeRange ≤ r.timeRange) := by
  have hV := SyncFilteredVRSReader.new_eq_filteredTimestamps r F
  set ts := (r.generateFilteredIndices F).map fun i => (r.reader.recordAt i).timestamp
  refine ⟨_, hV, fun h0 => ?_, fun hpos => ?_⟩
  · -- no record enabled
    have hnil : ts = [] := List.map_eq_nil_iff.mpr (List.eq_nil_of_length_eq_zero h0)
    simp only [hnil, List.head?_nil, List.getLast?_nil, Option.getD_none, and_self]
  · -- the first and the last enabled records bound the range
    have hne : ts ≠ [] := List.map_eq_nil_iff.not.mpr (List.ne_nil_of_length_pos hpos)
    obtain ⟨t, hhead⟩ := Option.ne_none_iff_exists'.mp (mt List.head?_eq_none_iff.mp hne)
    obtain ⟨t', hlast⟩ := Option.ne_none_iff_exists'.mp (mt List.getLast?_eq_none_iff.mp hne)
    have ht := mem_filteredTimestamps (List.mem_of_mem_head? hhead)
    have ht' := mem_filteredTimestamps (List.mem_of_mem_getLast? hlast)
    have hle : t ≤ t' := by
      simpa [hhead, hlast] using getLast_sub_head_nonneg (filteredTimestamps_sorted r F)
    simp only [FilteredVRSReader.timeRange, VRSReader.timeRange, hhead, hlast, Option.getD_some]
    exact ⟨ht.1, ht.2.2.1, hle, ht'.2.1, ht'.2.2.2, sub_le_sub ht'.2.2.2 ht.2.2.1⟩

end Pyvrs
