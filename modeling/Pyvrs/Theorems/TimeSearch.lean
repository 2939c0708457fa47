import Pyvrs.Filter

/-!
# Time and neighbour lookups

A filtered reader answers a time lookup on the whole file and maps the absolute index `x` into
its list `L` as `max(bisect(L, x) - 1, 0)` (`remapIndex`). On a strictly ascending `L` that is
the last position holding an index `≤ x`, or `0`; it is monotone, inverts `L`, and a record of
the view found by the search is the view's record at the remapped position
(`filtered_time_lookup_remaps`).

The readers choose between the store's two searches with `if epsilon:`, so an `epsilon` of `0`
is taken for an omitted one and runs the lower-bound search, which the window search for `0`
never agrees with (`zero_epsilon_falls_back_to_lower_bound`).

`read_next_record` of a filtered reader catches the `IndexError` of its list subscript and
`read_prev_record` does not, so only the second raises past the ends of the list
(`filtered_read_prev_record_raises`); the whole-file readers never raise there
(`VRSReader.readPrevRecord_ok`).
-/

namespace Pyvrs

variable {τ : Type} [LinearOrderedAddCommGroup τ]

/-! ## Mapping an absolute index into the filtered list -/

section Remap

open FilteredVRSReader

variable {L : List Nat} (hL : L.Pairwise (· < ·))
include hL

/-- With an index of `L` at most `x`, the remapped position is the last such index. -/
theorem remapIndex_of_le (x : Nat) {j : Nat} (hj : j < L.length) (hjx : L[j] ≤ x) :
    ∃ hp : (remapIndex L x).toNat < L.length,
      L[(remapIndex L x).toNat] ≤ x ∧ j ≤ (remapIndex L x).toNat ∧
      remapIndex L x = ((remapIndex L x).toNat : Int) := by
  obtain ⟨hb, hl, hr⟩ := bisect_spec (hL.imp Nat.le_of_lt) x
  have hjb : j < bisect L x := by
    by_contra h
    exact absurd (hr j hj (by omega)) (by omega)
  have hp : (remapIndex L x).toNat = bisect L x - 1 := by unfold remapIndex; omega
  refine ⟨by omega, ?_, by omega, by unfold remapIndex; omega⟩
  simp only [hp]
  exact hl _ _ (by omega)

/-- With every index of `L` above `x`, the remapped position is `0`. -/
theorem remapIndex_of_lt (x : Nat) (hx : ∀ j (hj : j < L.length), x < L[j]) :
    remapIndex L x = 0 := by
  obtain ⟨hb, hl, -⟩ := bisect_spec (hL.imp Nat.le_of_lt) x
  have : bisect L x = 0 := by
    by_contra h
    have h0 : 0 < L.length := by omega
    exact absurd (hl 0 h0 (by omega)) (not_le.mpr (hx 0 h0))
  unfold remapIndex
  omega

theorem remapIndex_mono : Monotone (remapIndex L) := fun x y hxy => by
  have := bisect_mono (hL.imp Nat.le_of_lt) hxy
  unfold remapIndex
  omega

theorem remapIndex_getElem {q : Nat} (hq : q < L.length) : remapIndex L L[q] = q := by
  unfold remapIndex
  rw [bisect_getElem hL hq]
  omega

theorem remapIndex_bounds (hne : L ≠ []) (x : Nat) :
    0 ≤ remapIndex L x ∧ remapIndex L x < L.length := by
  have := (bisect_spec (hL.imp Nat.le_of_lt) x).1
  have := List.length_pos.mpr hne
  unfold remapIndex
  omega

end Remap

namespace VRSReader

variable {r : VRSReader τ} {streamId : String} {timestamp : τ} {epsilon : Option τ} {x : Nat}

theorem searchByTime_of_getRecordIndexByTime
    (h : r.getRecordIndexByTime streamId timestamp epsilon = .ok x) :
    r.searchByTime streamId timestamp epsilon = .ok x := by
  unfold getRecordIndexByTime at h
  split at h
  · exact h
  · cases h

/-- A time lookup that finds `x` decodes `x` once and returns its record. -/
theorem readRecordByTime_of_searchByTime (h : r.searchByTime streamId timestamp epsilon = .ok x) :
    r.readRecordByTime streamId timestamp epsilon = ⟨[x], r.reader.readRecord x⟩ := by
  simp [readRecordByTime, h, Outcome.call]

end VRSReader

/-- On a filtered reader with a strictly ascending list `L`, the time lookup returns the whole
file's answer `x` remapped to `p = max(bisect(L, x) - 1, 0)`: the last position holding an index
`≤ x`, or `0` when there is none; `0 ≤ p < len(L)` on a non-empty `L`; `p` is monotone in `x`
and inverts `L`; and when `x` is in `L`, the view's record at `p` and `read_record_by_time` both
decode `x` once and return its record. -/
theorem filtered_time_lookup_remaps (F : SyncFilteredVRSReader τ)
    (hL : F.filteredIndices.Pairwise (· < ·)) :
    (∀ s t e x, s ∈ F.streamIds → F.reader.getRecordIndexByTime s t e = .ok x →
      F.getRecordIndexByTime s t e = .ok (FilteredVRSReader.remapIndex F.filteredIndices x)) ∧
    (∀ x j (hj : j < F.filteredIndices.length), F.filteredIndices[j] ≤ x →
      ∃ hp : (FilteredVRSReader.remapIndex F.filteredIndices x).toNat < F.filteredIndices.length,
        F.filteredIndices[(FilteredVRSReader.remapIndex F.filteredIndices x).toNat] ≤ x ∧
        j ≤ (FilteredVRSReader.remapIndex F.filteredIndices x).toNat ∧
        FilteredVRSReader.remapIndex F.filteredIndices x =
          ((FilteredVRSReader.remapIndex F.filteredIndices x).toNat : Int)) ∧
    (∀ x, (∀ j (hj : j < F.filteredIndices.length), x < F.filteredIndices[j]) →
      FilteredVRSReader.remapIndex F.filteredIndices x = 0) ∧
    (F.filteredIndices ≠ [] → ∀ x, 0 ≤ FilteredVRSReader.remapIndex F.filteredIndices x ∧
      FilteredVRSReader.remapIndex F.filteredIndices x < F.filteredIndices.length) ∧
    Monotone (FilteredVRSReader.remapIndex F.filteredIndices) ∧
    (∀ q (hq : q < F.filteredIndices.length),
      FilteredVRSReader.remapIndex F.filteredIndices F.filteredIndices[q] = q) ∧
    (∀ s t e x, s ∈ F.streamIds → F.reader.getRecordIndexByTime s t e = .ok x →
      x ∈ F.filteredIndices →
      F.getitem (.int (FilteredVRSReader.remapIndex F.filteredIndices x)) =
          ⟨[x], Sum.inl <$> F.reader.reader.readRecord x⟩ ∧
        F.readRecordByTime s t e = ⟨[x], F.reader.reader.readRecord x⟩) := by
  refine ⟨fun s t e x hs hx => ?_, fun x j hj hjx => remapIndex_of_le hL x hj hjx,
    remapIndex_of_lt hL, remapIndex_bounds hL, remapIndex_mono hL,
    fun q hq => remapIndex_getElem hL hq, fun s t e x _ hx hmem => ⟨?_, ?_⟩⟩
  · simp [FilteredVRSReader.getRecordIndexByTime, hs, hx]
  · obtain ⟨q, hq, rfl⟩ := List.getElem_of_mem hmem
    rw [remapIndex_getElem hL hq, SyncFilteredVRSReader.getitem, VRSReader.readRecord,
      indexOrSliceRecords, indexOrSlice_int, pyIndex_natCast _ hq]
  · exact VRSReader.readRecordByTime_of_searchByTime
      (VRSReader.searchByTime_of_getRecordIndexByTime hx)

/-- A file of one data record of stream `100-1`, at timestamp `5`. -/
def oneRecordReader : VRSReader ℤ :=
  ⟨⟨[⟨"100-1", .data, 5⟩], by decide⟩, "one.vrs", false⟩

/-- A file of three data records of stream `100-1`, at timestamps `1`, `2` and `3`. -/
def threeRecordReader : VRSReader ℤ :=
  ⟨⟨[⟨"100-1", .data, 1⟩, ⟨"100-1", .data, 2⟩, ⟨"100-1", .data, 3⟩], by decide⟩, "three.vrs",
    false⟩

/-- `threeRecordReader` filtered to its records from timestamp `2` on: records `1` and `2`. -/
def fromTwoFiltered : SyncFilteredVRSReader ℤ :=
  ⟨⟨threeRecordReader, ⟨["data"], ["100-1"], 2, 3⟩, [1, 2], 2, 3⟩⟩

/-- At timestamp `2` the whole file's lookup returns record `1`, which the view holds at
position `0`: the view's lookup returns `0`, and its record `0` and `read_record_by_time` both
decode record `1`. -/
theorem filtered_time_lookup_remaps_later_records :
    FilteredVRSReader.remapIndex [1, 2] 1 = 0 ∧
      fromTwoFiltered.getRecordIndexByTime "100-1" 2 none =
        .ok (FilteredVRSReader.remapIndex [1, 2] 1) ∧
      fromTwoFiltered.getitem (.int (FilteredVRSReader.remapIndex [1, 2] 1)) =
        ⟨[1], Sum.inl <$> threeRecordReader.reader.readRecord 1⟩ ∧
      fromTwoFiltered.readRecordByTime "100-1" 2 none =
        ⟨[1], threeRecordReader.reader.readRecord 1⟩ :=
  have h := filtered_time_lookup_remaps fromTwoFiltered (by decide)
  have hx := h.2.2.2.2.2.2 "100-1" 2 none 1 (by decide) rfl (by decide)
  ⟨h.2.2.2.2.2.1 0 (by decide), h.1 "100-1" 2 none 1 (by decide) rfl, hx.1, hx.2⟩

/-! ## A zero `epsilon` -/

/-- The window search for `0` finds nothing: its window `|ts - t| < 0` is empty. -/
theorem getNearestRecordIndexByTime_zero (st : RecordStore τ) (t : τ) (streamId : String) :
    st.getNearestRecordIndexByTime t 0 streamId = .error .timestampNotFound := by
  have : st.indicesWhere (fun h => decide (h.streamId = streamId ∧ |h.timestamp - t| < 0)) = [] :=
    List.eq_nil_iff_forall_not_mem.mpr fun i hi => by
      obtain ⟨_, hp⟩ := RecordStore.mem_indicesWhere.mp hi
      simp only [decide_eq_true_eq] at hp
      exact absurd hp.2 (not_lt.mpr (abs_nonneg _))
  rw [RecordStore.getNearestRecordIndexByTime, this]

/-- `if epsilon:` is false for an `epsilon` of `0`, so both time lookups then run the lower-bound
search of an omitted `epsilon`, while the window search for `0` raises
`TimestampNotFoundError`; the filtered readers' `read_record_by_time` is this one. -/
theorem zero_epsilon_falls_back_to_lower_bound (r : VRSReader τ) (s : String) (t : τ)
    (hs : s ∈ r.streamIds) :
    r.getRecordIndexByTime s t (some 0) = r.reader.getRecordIndexByTime s t ∧
      r.readRecordByTime s t (some 0) = r.readRecordByTime s t none ∧
      r.reader.getNearestRecordIndexByTime t 0 s = .error .timestampNotFound := by
  have hsearch : r.searchByTime s t (some 0) = r.searchByTime s t none := by
    simp [VRSReader.searchByTime, VRSReader.truthyEpsilon]
  refine ⟨?_, by simp only [VRSReader.readRecordByTime, hsearch],
    getNearestRecordIndexByTime_zero _ _ _⟩
  rw [VRSReader.getRecordIndexByTime, if_pos hs, hsearch]
  rfl

/-- At `t = 1` with `epsilon = 0` the lookup returns record `0`, four seconds away, where the
window search raises. -/
theorem zero_epsilon_returns_record_outside_window :
    oneRecordReader.getRecordIndexByTime "100-1" 1 (some 0) = .ok 0 ∧
      oneRecordReader.reader.getNearestRecordIndexByTime 1 0 "100-1" = .error .timestampNotFound :=
  have h := zero_epsilon_falls_back_to_lower_bound oneRecordReader "100-1" 1 (by decide)
  ⟨h.1.trans rfl, h.2.2⟩

/-! ## Neighbour lookups -/

namespace RecordStore

variable (st : RecordStore τ) (streamId recordType : String) (index : Int)

/-- The store's neighbour lookups find a record of the file or raise `IndexError`. -/
theorem getPrevIndex_cases :
    st.getPrevIndex streamId recordType index = .error .indexError ∨
      ∃ j, st.getPrevIndex streamId recordType index = .ok j ∧ j < st.size := by
  unfold getPrevIndex
  split
  · rename_i j hj
    exact .inr ⟨j, rfl, lt_size_of_mem_indicesWhere
      (List.mem_filter.mp (List.mem_of_getLast?_eq_some hj)).1⟩
  · exact .inl rfl

theorem getNextIndex_cases :
    st.getNextIndex streamId recordType index = .error .indexError ∨
      ∃ j, st.getNextIndex streamId recordType index = .ok j ∧ j < st.size := by
  unfold getNextIndex
  split
  · rename_i j hj
    exact .inr ⟨j, rfl, lt_size_of_mem_indicesWhere
      (List.mem_filter.mp (List.mem_of_mem_head? hj)).1⟩
  · exact .inl rfl

end RecordStore

namespace VRSReader

variable (r : VRSReader τ) (streamId recordType : String) (index : Int)

theorem readNeighbour_ok {lookup : Except PyError Nat}
    (h : lookup = .error .indexError ∨ ∃ j, lookup = .ok j ∧ j < r.reader.size) :
    ∃ o, (r.readNeighbour lookup).result = .ok o := by
  rcases h with rfl | ⟨j, rfl, hj⟩
  · exact ⟨none, rfl⟩
  · exact ⟨some (r.reader.recordAt j), by
      simp [readNeighbour, Outcome.call, r.reader.readRecord_eq_recordAt hj]⟩

/-- The whole-file readers never raise from `read_prev_record`: they return a record or `None`. -/
theorem readPrevRecord_ok : ∃ o, (r.readPrevRecord streamId recordType index).result = .ok o :=
  r.readNeighbour_ok (r.reader.getPrevIndex_cases streamId recordType index)

theorem readNextRecord_ok : ∃ o, (r.readNextRecord streamId recordType index).result = .ok o :=
  r.readNeighbour_ok (r.reader.getNextIndex_cases streamId recordType index)

end VRSReader

/-- `read_prev_record` of a filtered reader subscripts its list outside any `try`: it raises
`IndexError` exactly for an index outside `[-len, len)`, then with no decode, where
`read_next_record` returns `None`. -/
theorem filtered_read_prev_record_raises (F : FilteredVRSReader τ) (s rt : String) (i : Int) :
    ((F.readPrevRecord s rt i).result = .error .indexError ↔
      ¬ (-(F.nRecords : Int) ≤ i ∧ i < F.nRecords)) ∧
    (¬ (-(F.nRecords : Int) ≤ i ∧ i < F.nRecords) →
      F.readPrevRecord s rt i = ⟨[], .error .indexError⟩ ∧ F.readNextRecord s rt i = pure none) := by
  by_cases hin : -(F.nRecords : Int) ≤ i ∧ i < F.nRecords
  · obtain ⟨_, e⟩ := pyIndex_of_lt F.filteredIndices hin.1 hin.2
    obtain ⟨o, ho⟩ :=
      F.reader.readPrevRecord_ok s rt F.filteredIndices[normIndex F.filteredIndices.length i]
    refine ⟨⟨fun h => ?_, fun h => absurd hin h⟩, fun h => absurd hin h⟩
    simp only [FilteredVRSReader.readPrevRecord, e, Outcome.lift_ok, Outcome.bind_ok, ho] at h
    cases h
  · have e := pyIndex_eq_error F.filteredIndices hin
    have hprev : F.readPrevRecord s rt i = ⟨[], .error .indexError⟩ := by
      simp [FilteredVRSReader.readPrevRecord, e]
    exact ⟨⟨fun _ => hin, fun _ => by rw [hprev]⟩, fun _ =>
      ⟨hprev, by simp [FilteredVRSReader.readNextRecord, e]⟩⟩

/-- A filtered reader over the record `0` of `oneRecordReader`, asked for position `1`. -/
theorem filtered_read_prev_record_raises_past_end :
    (FilteredVRSReader.readPrevRecord ⟨oneRecordReader, ⟨["data"], ["100-1"], 0, 5⟩, [0], 5, 5⟩
        "100-1" "data" 1 =
      ⟨[], .error .indexError⟩) ∧
    FilteredVRSReader.readNextRecord ⟨oneRecordReader, ⟨["data"], ["100-1"], 0, 5⟩, [0], 5, 5⟩
        "100-1" "data" 1 = pure none :=
  (filtered_read_prev_record_raises _ "100-1" "data" 1).2 (by decide)

end Pyvrs
