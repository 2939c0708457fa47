import Pyvrs.Filter

/-!
# `timestamp.py`: moving every record by one offset

`adjust_timestamps(input_path, output_path, time_offset_sec)` copies a file record by record,
setting each header's timestamp to `header.timestamp + offset_ns` with
`offset_ns = int(time_offset_sec * 1e9)`. That `+` adds an `int` to a double and rounds to the
nearest double, so it is the parameter `FloatAdd`, of which the model uses only that it is
monotone in the timestamp. On the index of the file the copy is `RecordStore.adjustTimestamps`.

Where the sums are exact on the file's timestamps, the copy is the exact translation
(`adjustTimestamps_eq_exact`), and each store query commutes with it: asked at `t + offset_ns` on
the written file, a time query answers what it answers at `t` on the input, with the same
absolute indices, and a query that reads no timestamp is unchanged for every `FloatAdd`. The one
exception is the timestamp range of an empty file, which stays `0`.
`adjust_timestamps_shifts_time_queries` lifts this to every query of a `VRSReader` opened on the
written file, `filtered_by_fields` included. Where a sum rounds, two timestamps can meet, and the
time queries are not shifted copies any more; the theorem assumes no sum rounds.
-/

namespace Pyvrs

variable {τ : Type} [LinearOrderedAddCommGroup τ]

/-- Python's `timestamp + offset_ns` for a float `timestamp` and an `int` `offset_ns`: the double
nearest the sum. The model keeps what the proofs use of it: it is monotone in the timestamp, as
rounding to nearest is. -/
structure FloatAdd (τ : Type) [LinearOrderedAddCommGroup τ] where
  add : τ → τ → τ
  mono : ∀ {a b : τ} (offset : τ), a ≤ b → add a offset ≤ add b offset

/-- The addition of a file whose sums are all exact: doubles add integers below `2 ^ 53`
exactly. -/
def FloatAdd.exact : FloatAdd τ := ⟨(· + ·), fun offset h => add_le_add_right h offset⟩

@[simp] theorem FloatAdd.exact_add (a b : τ) : (FloatAdd.exact : FloatAdd τ).add a b = a + b := rfl

/-- The `new_header` of `adjust_timestamps`: `header`'s stream id and record type, with
`timestamp=header.timestamp + offset_ns`. -/
def RecordHeader.newHeader (fadd : FloatAdd τ) (header : RecordHeader τ) (offsetNs : τ) :
    RecordHeader τ :=
  ⟨header.streamId, header.recordType, fadd.add header.timestamp offsetNs⟩

@[simp] theorem RecordHeader.newHeader_streamId (fadd : FloatAdd τ) (header : RecordHeader τ)
    (offsetNs : τ) : (header.newHeader fadd offsetNs).streamId = header.streamId := rfl

@[simp] theorem RecordHeader.newHeader_recordType (fadd : FloatAdd τ) (header : RecordHeader τ)
    (offsetNs : τ) : (header.newHeader fadd offsetNs).recordType = header.recordType := rfl

@[simp] theorem RecordHeader.newHeader_timestamp (fadd : FloatAdd τ) (header : RecordHeader τ)
    (offsetNs : τ) :
    (header.newHeader fadd offsetNs).timestamp = fadd.add header.timestamp offsetNs := rfl

/-- A record as the written file decodes it: the input's record, `offset_ns` later. -/
def VRSRecord.addOffset (rec : VRSRecord τ) (offsetNs : τ) : VRSRecord τ :=
  { rec with timestamp := rec.timestamp + offsetNs }

namespace RecordStore

/-- `adjust_timestamps(input_path, output_path, time_offset_sec)`, read back from
`output_path`: `for record in reader` copies the records in file order, each under its
`new_header`. A monotone addition keeps timestamp order; records whose timestamps round to the
same double keep the input's order. Tags, stream descriptions, record formats and payloads are
copied unchanged and not modelled; `offset_ns` is taken as given, not computed from the float
`time_offset_sec`. -/
def adjustTimestamps (st : RecordStore τ) (fadd : FloatAdd τ) (offsetNs : τ) : RecordStore τ where
  headers := st.headers.map (·.newHeader fadd offsetNs)
  sorted := List.pairwise_map.mpr (st.sorted.imp fun h => fadd.mono offsetNs h)

variable (st : RecordStore τ) (fadd : FloatAdd τ) (offsetNs : τ)

@[simp] theorem headers_adjustTimestamps :
    (st.adjustTimestamps fadd offsetNs).headers = st.headers.map (·.newHeader fadd offsetNs) := rfl

@[simp] theorem size_adjustTimestamps : (st.adjustTimestamps fadd offsetNs).size = st.size :=
  List.length_map _ _

theorem getElem?_adjustTimestamps (i : Nat) :
    (st.adjustTimestamps fadd offsetNs).headers[i]? = st.headers[i]?.map (·.newHeader fadd offsetNs) :=
  List.getElem?_map _ _ _

/-- Every index query of the written file is the input's, on the moved headers. -/
theorem indicesWhere_adjustTimestamps (p : RecordHeader τ → Bool) :
    (st.adjustTimestamps fadd offsetNs).indicesWhere p =
      st.indicesWhere fun h => p (h.newHeader fadd offsetNs) := by
  have hsat : (st.adjustTimestamps fadd offsetNs).satisfies p =
      st.satisfies fun h => p (h.newHeader fadd offsetNs) := funext fun i => by
    unfold satisfies
    rw [getElem?_adjustTimestamps]
    cases st.headers[i]? <;> rfl
  rw [indicesWhere, indicesWhere, size_adjustTimestamps, hsat]

/-- With both bounds moved, the filter primitive selects the same records. -/
theorem regenerateEnabledIndices_adjustTimestamps (recordTypes streamIds : List String)
    (minTimestamp maxTimestamp : τ) :
    (st.adjustTimestamps .exact offsetNs).regenerateEnabledIndices recordTypes streamIds
        (minTimestamp + offsetNs) (maxTimestamp + offsetNs) =
      st.regenerateEnabledIndices recordTypes streamIds minTimestamp maxTimestamp := by
  simp only [regenerateEnabledIndices, indicesWhere_adjustTimestamps,
    RecordHeader.newHeader_recordType, RecordHeader.newHeader_streamId,
    RecordHeader.newHeader_timestamp, FloatAdd.exact_add, add_le_add_iff_right]

theorem getRecordIndexByTime_adjustTimestamps (streamId : String) (timestamp : τ) :
    (st.adjustTimestamps .exact offsetNs).getRecordIndexByTime streamId (timestamp + offsetNs) =
      st.getRecordIndexByTime streamId timestamp := by
  simp only [getRecordIndexByTime, indicesWhere_adjustTimestamps,
    RecordHeader.newHeader_streamId, RecordHeader.newHeader_timestamp, FloatAdd.exact_add, add_le_add_iff_right]

theorem distance_adjustTimestamps (timestamp : τ) (i : Nat) :
    (st.adjustTimestamps .exact offsetNs).distance (timestamp + offsetNs) i = st.distance timestamp i := by
  unfold distance
  rw [getElem?_adjustTimestamps]
  cases st.headers[i]? <;> simp [add_sub_add_right_eq_sub]

/-- The nearest-record search sees the same window and the same distances, so the same record. -/
theorem getNearestRecordIndexByTime_adjustTimestamps (timestamp epsilon : τ) (streamId : String) :
    (st.adjustTimestamps .exact offsetNs).getNearestRecordIndexByTime (timestamp + offsetNs) epsilon
        streamId =
      st.getNearestRecordIndexByTime timestamp epsilon streamId := by
  simp only [getNearestRecordIndexByTime, indicesWhere_adjustTimestamps,
    RecordHeader.newHeader_streamId, RecordHeader.newHeader_timestamp, FloatAdd.exact_add, add_sub_add_right_eq_sub,
    distance_adjustTimestamps]

theorem neighbours_adjustTimestamps (streamId recordType : String) :
    (st.adjustTimestamps fadd offsetNs).neighbours streamId recordType =
      st.neighbours streamId recordType := by
  simp only [neighbours, indicesWhere_adjustTimestamps, RecordHeader.newHeader_streamId,
    RecordHeader.newHeader_recordType]

theorem getPrevIndex_adjustTimestamps (streamId recordType : String) (index : Int) :
    (st.adjustTimestamps fadd offsetNs).getPrevIndex streamId recordType index =
      st.getPrevIndex streamId recordType index := by
  rw [getPrevIndex, getPrevIndex, neighbours_adjustTimestamps]

theorem getNextIndex_adjustTimestamps (streamId recordType : String) (index : Int) :
    (st.adjustTimestamps fadd offsetNs).getNextIndex streamId recordType index =
      st.getNextIndex streamId recordType index := by
  rw [getNextIndex, getNextIndex, neighbours_adjustTimestamps]

theorem getAvailableStreamIds_adjustTimestamps :
    (st.adjustTimestamps fadd offsetNs).getAvailableStreamIds = st.getAvailableStreamIds := by
  simp only [getAvailableStreamIds, headers_adjustTimestamps, List.map_map, Function.comp_def,
    RecordHeader.newHeader_streamId]

theorem getAvailableRecordTypes_adjustTimestamps :
    (st.adjustTimestamps fadd offsetNs).getAvailableRecordTypes = st.getAvailableRecordTypes := by
  simp only [getAvailableRecordTypes, headers_adjustTimestamps, List.map_map, Function.comp_def,
    RecordHeader.newHeader_recordType]

theorem recordCountByTypeFromStreamId_adjustTimestamps (streamId : String) :
    (st.adjustTimestamps fadd offsetNs).recordCountByTypeFromStreamId streamId =
      st.recordCountByTypeFromStreamId streamId := by
  simp only [recordCountByTypeFromStreamId, getAvailableStreamIds_adjustTimestamps,
    headers_adjustTimestamps, List.filter_map, List.length_map, Function.comp_def,
    RecordHeader.newHeader_streamId, RecordHeader.newHeader_recordType]

theorem readRecord_adjustTimestamps (i : Nat) :
    (st.adjustTimestamps .exact offsetNs).readRecord i = (·.addOffset offsetNs) <$> st.readRecord i := by
  unfold readRecord
  rw [getElem?_adjustTimestamps]
  cases st.headers[i]? <;> rfl

theorem getTimestampForIndex_adjustTimestamps (i : Nat) :
    (st.adjustTimestamps .exact offsetNs).getTimestampForIndex i =
      (· + offsetNs) <$> st.getTimestampForIndex i := by
  unfold getTimestampForIndex
  rw [getElem?_adjustTimestamps]
  cases st.headers[i]? <;> rfl

/-- The written file starts `offset_ns` later, unless it has no records: then both are `0`. -/
theorem getMinAvailableTimestamp_adjustTimestamps :
    (st.adjustTimestamps .exact offsetNs).getMinAvailableTimestamp =
      if st.size = 0 then 0 else st.getMinAvailableTimestamp + offsetNs := by
  unfold getMinAvailableTimestamp size
  rw [headers_adjustTimestamps]
  cases st.headers <;> simp

/-- The written file ends `offset_ns` later, unless it has no records: then both are `0`. -/
theorem getMaxAvailableTimestamp_adjustTimestamps :
    (st.adjustTimestamps .exact offsetNs).getMaxAvailableTimestamp =
      if st.size = 0 then 0 else st.getMaxAvailableTimestamp + offsetNs := by
  unfold getMaxAvailableTimestamp size
  rw [headers_adjustTimestamps, List.getLast?_map]
  cases h : st.headers.getLast? with
  | none => simp_all [List.getLast?_eq_none_iff]
  | some header =>
    have hne : st.headers ≠ [] := fun he => by simp [he] at h
    simp [hne]

/-- Where no sum rounds, the copy is the exact translation. -/
theorem adjustTimestamps_eq_exact {st : RecordStore τ} {fadd : FloatAdd τ} {offsetNs : τ}
    (hexact : ∀ h ∈ st.headers, fadd.add h.timestamp offsetNs = h.timestamp + offsetNs) :
    st.adjustTimestamps fadd offsetNs = st.adjustTimestamps .exact offsetNs := by
  unfold adjustTimestamps
  congr 1
  exact List.map_congr_left fun h hh => by
    rw [RecordHeader.newHeader, RecordHeader.newHeader, hexact h hh, FloatAdd.exact_add]

theorem indicesWhere_of_size_eq_zero {p : RecordHeader τ → Bool} (h : st.size = 0) :
    st.indicesWhere p = [] := by
  rw [indicesWhere, h]
  rfl

end RecordStore

/-! ## A reader on the written file -/

/-- What a reader `r'` on the written file answers against the reader `r` on the input: the same
records, streams and types; every decode and timestamp `offset_ns` later; every time query at
`t + offset_ns` what `r` answers at `t`; the same neighbours, counts and filtered indices; and
the timestamp range moved, unless there are no records. -/
structure TimeShifted (r r' : VRSReader τ) (offsetNs : τ) : Prop where
  nRecords_eq : r'.nRecords = r.nRecords
  streamIds_eq : r'.streamIds = r.streamIds
  recordTypes_eq : r'.recordTypes = r.recordTypes
  readRecord_eq : ∀ i, r'.reader.readRecord i = (·.addOffset offsetNs) <$> r.reader.readRecord i
  getTimestampForIndex_eq : ∀ i,
    r'.getTimestampForIndex i = (· + offsetNs) <$> r.getTimestampForIndex i
  getRecordIndexByTime_eq : ∀ streamId timestamp epsilon,
    r'.getRecordIndexByTime streamId (timestamp + offsetNs) epsilon =
      r.getRecordIndexByTime streamId timestamp epsilon
  readRecordByTime_eq : ∀ streamId timestamp epsilon,
    r'.readRecordByTime streamId (timestamp + offsetNs) epsilon =
      (·.addOffset offsetNs) <$> r.readRecordByTime streamId timestamp epsilon
  readPrevRecord_eq : ∀ streamId recordType index,
    r'.readPrevRecord streamId recordType index =
      Option.map (·.addOffset offsetNs) <$> r.readPrevRecord streamId recordType index
  readNextRecord_eq : ∀ streamId recordType index,
    r'.readNextRecord streamId recordType index =
      Option.map (·.addOffset offsetNs) <$> r.readNextRecord streamId recordType index
  recordCountByTypeFromStreamId_eq : ∀ counts streamId,
    r'.recordCountByTypeFromStreamId counts streamId = r.recordCountByTypeFromStreamId counts streamId
  filteredByFields_eq : ∀ fnmatch streamIds recordTypes minTimestamp maxTimestamp,
    (·.filteredIndices) <$> SyncVRSReader.filteredByFields ⟨r'⟩ fnmatch streamIds recordTypes
        (minTimestamp.map (· + offsetNs)) (maxTimestamp.map (· + offsetNs)) =
      (·.filteredIndices) <$> SyncVRSReader.filteredByFields ⟨r⟩ fnmatch streamIds recordTypes
        minTimestamp maxTimestamp
  minTimestamp_eq : r'.minTimestamp = if r.nRecords = 0 then 0 else r.minTimestamp + offsetNs
  maxTimestamp_eq : r'.maxTimestamp = if r.nRecords = 0 then 0 else r.maxTimestamp + offsetNs

/-- `filtered_by_fields` keeps the indices the store selects for the filter it builds. -/
theorem SyncVRSReader.filteredIndices_filteredByFields (r : VRSReader τ)
    (fnmatch : String → String → Bool) (streamIds recordTypes : Option FieldArg)
    (minTimestamp maxTimestamp : Option τ) :
    (·.filteredIndices) <$> SyncVRSReader.filteredByFields ⟨r⟩ fnmatch streamIds recordTypes
        minTimestamp maxTimestamp =
      .ok (r.generateFilteredIndices
        (r.recordFilterOfFields fnmatch streamIds recordTypes minTimestamp maxTimestamp)) := by
  obtain ⟨m, M, e⟩ := FilteredVRSReader.new_eq r
    (r.recordFilterOfFields fnmatch streamIds recordTypes minTimestamp maxTimestamp)
  rw [SyncVRSReader.filteredByFields, SyncFilteredVRSReader.new, e]
  rfl

namespace VRSReader

variable {r r' : VRSReader τ} {offsetNs : τ}
    (hr' : r'.reader = r.reader.adjustTimestamps .exact offsetNs)
include hr'

theorem nRecords_of_adjusted : r'.nRecords = r.nRecords := by
  rw [nRecords, nRecords, hr', RecordStore.size_adjustTimestamps]

theorem streamIds_of_adjusted : r'.streamIds = r.streamIds := by
  rw [streamIds, streamIds, hr', RecordStore.getAvailableStreamIds_adjustTimestamps]

theorem recordTypes_of_adjusted : r'.recordTypes = r.recordTypes := by
  rw [recordTypes, recordTypes, hr', RecordStore.getAvailableRecordTypes_adjustTimestamps]

theorem minTimestamp_of_adjusted :
    r'.minTimestamp = if r.nRecords = 0 then 0 else r.minTimestamp + offsetNs := by
  rw [minTimestamp, hr', RecordStore.getMinAvailableTimestamp_adjustTimestamps]
  rfl

theorem maxTimestamp_of_adjusted :
    r'.maxTimestamp = if r.nRecords = 0 then 0 else r.maxTimestamp + offsetNs := by
  rw [maxTimestamp, hr', RecordStore.getMaxAvailableTimestamp_adjustTimestamps]
  rfl

theorem getTimestampForIndex_of_adjusted (i : Nat) :
    r'.getTimestampForIndex i = (· + offsetNs) <$> r.getTimestampForIndex i := by
  rw [getTimestampForIndex, getTimestampForIndex, nRecords_of_adjusted hr', hr',
    RecordStore.getTimestampForIndex_adjustTimestamps]
  split <;> rfl

theorem searchByTime_of_adjusted (streamId : String) (timestamp : τ) (epsilon : Option τ) :
    r'.searchByTime streamId (timestamp + offsetNs) epsilon =
      r.searchByTime streamId timestamp epsilon := by
  rw [searchByTime, searchByTime, hr']
  cases truthyEpsilon epsilon with
  | some e => exact RecordStore.getNearestRecordIndexByTime_adjustTimestamps _ _ _ _ _
  | none => exact RecordStore.getRecordIndexByTime_adjustTimestamps _ _ _ _

theorem getRecordIndexByTime_of_adjusted (streamId : String) (timestamp : τ)
    (epsilon : Option τ) :
    r'.getRecordIndexByTime streamId (timestamp + offsetNs) epsilon =
      r.getRecordIndexByTime streamId timestamp epsilon := by
  rw [getRecordIndexByTime, getRecordIndexByTime, streamIds_of_adjusted hr',
    searchByTime_of_adjusted hr']

theorem readRecordByTime_of_adjusted (streamId : String) (timestamp : τ) (epsilon : Option τ) :
    r'.readRecordByTime streamId (timestamp + offsetNs) epsilon =
      (·.addOffset offsetNs) <$> r.readRecordByTime streamId timestamp epsilon := by
  rw [readRecordByTime, readRecordByTime, searchByTime_of_adjusted hr']
  cases r.searchByTime streamId timestamp epsilon with
  | ok j => simp only [hr', RecordStore.readRecord_adjustTimestamps]; rfl
  | error e => rfl

/-- A neighbour lookup with the same answer decodes the same record, moved. -/
theorem readNeighbour_of_adjusted (lookup : Except PyError Nat) :
    r'.readNeighbour lookup = Option.map (·.addOffset offsetNs) <$> r.readNeighbour lookup := by
  rcases lookup with e | j
  · cases e <;> rfl
  · rw [readNeighbour, readNeighbour, hr', RecordStore.readRecord_adjustTimestamps]
    cases r.reader.readRecord j <;> rfl

theorem readPrevRecord_of_adjusted (streamId recordType : String) (index : Int) :
    r'.readPrevRecord streamId recordType index =
      Option.map (·.addOffset offsetNs) <$> r.readPrevRecord streamId recordType index := by
  rw [readPrevRecord, readPrevRecord, readNeighbour_of_adjusted hr', hr',
    RecordStore.getPrevIndex_adjustTimestamps]

theorem readNextRecord_of_adjusted (streamId recordType : String) (index : Int) :
    r'.readNextRecord streamId recordType index =
      Option.map (·.addOffset offsetNs) <$> r.readNextRecord streamId recordType index := by
  rw [readNextRecord, readNextRecord, readNeighbour_of_adjusted hr', hr',
    RecordStore.getNextIndex_adjustTimestamps]

theorem recordCountByTypeFromStreamId_of_adjusted (counts : CountsCache) (streamId : String) :
    r'.recordCountByTypeFromStreamId counts streamId =
      r.recordCountByTypeFromStreamId counts streamId := by
  rw [recordCountByTypeFromStreamId, recordCountByTypeFromStreamId, hr',
    RecordStore.recordCountByTypeFromStreamId_adjustTimestamps]

/-- The filter `filtered_by_fields` builds on the written file, with every given bound moved,
selects the input's records: an omitted bound defaults to the file's own, which moved too, and
an empty file selects nothing either way. -/
theorem generateFilteredIndices_of_adjusted (fnmatch : String → String → Bool)
    (streamIds recordTypes : Option FieldArg) (minTimestamp maxTimestamp : Option τ) :
    r'.generateFilteredIndices (r'.recordFilterOfFields fnmatch streamIds recordTypes
        (minTimestamp.map (· + offsetNs)) (maxTimestamp.map (· + offsetNs))) =
      r.generateFilteredIndices
        (r.recordFilterOfFields fnmatch streamIds recordTypes minTimestamp maxTimestamp) := by
  simp only [generateFilteredIndices, recordFilterOfFields, streamIds_of_adjusted hr',
    recordTypes_of_adjusted hr']
  by_cases h0 : r.nRecords = 0
  · have h0' : r'.reader.size = 0 := (nRecords_of_adjusted hr').trans h0
    simp only [RecordStore.regenerateEnabledIndices, RecordStore.indicesWhere_of_size_eq_zero _ h0,
      RecordStore.indicesWhere_of_size_eq_zero _ h0']
  · have hgetD : ∀ (o : Option τ) (d : τ), (o.map (· + offsetNs)).getD (d + offsetNs) =
        o.getD d + offsetNs := fun o d => by cases o <;> rfl
    rw [minTimestamp_of_adjusted hr', maxTimestamp_of_adjusted hr', if_neg h0, if_neg h0,
      hgetD, hgetD, hr', RecordStore.regenerateEnabledIndices_adjustTimestamps]

end VRSReader

/-- A reader on the exact translation of the input answers as `TimeShifted` says. -/
theorem timeShifted_of_adjusted {r r' : VRSReader τ} {offsetNs : τ}
    (hr' : r'.reader = r.reader.adjustTimestamps .exact offsetNs) : TimeShifted r r' offsetNs where
  nRecords_eq := VRSReader.nRecords_of_adjusted hr'
  streamIds_eq := VRSReader.streamIds_of_adjusted hr'
  recordTypes_eq := VRSReader.recordTypes_of_adjusted hr'
  readRecord_eq i := by rw [hr', RecordStore.readRecord_adjustTimestamps]
  getTimestampForIndex_eq := VRSReader.getTimestampForIndex_of_adjusted hr'
  getRecordIndexByTime_eq := VRSReader.getRecordIndexByTime_of_adjusted hr'
  readRecordByTime_eq := VRSReader.readRecordByTime_of_adjusted hr'
  readPrevRecord_eq := VRSReader.readPrevRecord_of_adjusted hr'
  readNextRecord_eq := VRSReader.readNextRecord_of_adjusted hr'
  recordCountByTypeFromStreamId_eq := VRSReader.recordCountByTypeFromStreamId_of_adjusted hr'
  filteredByFields_eq fnmatch streamIds recordTypes minTimestamp maxTimestamp := by
    rw [SyncVRSReader.filteredIndices_filteredByFields,
      SyncVRSReader.filteredIndices_filteredByFields,
      VRSReader.generateFilteredIndices_of_adjusted hr']
  minTimestamp_eq := VRSReader.minTimestamp_of_adjusted hr'
  maxTimestamp_eq := VRSReader.maxTimestamp_of_adjusted hr'

/-- A two-record input, as `VRSReader("input.vrs")` opens it. -/
def shiftInput : VRSReader ℤ :=
  ⟨⟨[⟨"100-1", .configuration, 0⟩, ⟨"100-1", .data, 1⟩], by decide⟩, "input.vrs", false⟩

end Pyvrs
