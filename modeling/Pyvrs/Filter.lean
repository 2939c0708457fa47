import Pyvrs.Reader
import Pyvrs.Utils
import Pyvrs.Python.Bisect

/-!
# `pyvrs.filter` and `filtered_by_fields`

A filtered reader is built once from a `RecordFilter`: its index list is what the store's
`regenerate_enabled_indices` returns, and every later operation works on that list. Time
lookups run on the whole file and are mapped back into the list with `bisect`; neighbour lookups
translate a position of the list into an absolute index first.

`filtered_by_fields` (the same body in `SyncVRSReader` and `AsyncVRSReader`) resolves its
arguments against the available record types and stream ids with the set filters of
`pyvrs.utils`.
-/

namespace Pyvrs

variable {τ : Type} [LinearOrderedAddCommGroup τ]

/-- `RecordFilter(record_types, stream_ids, min_timestamp, max_timestamp)`. -/
structure RecordFilter (τ : Type) where
  recordTypes : List String
  streamIds : List String
  minTimestamp : τ
  maxTimestamp : τ

/-- A decoded record inside the filter: its type and stream among the resolved ones, its
timestamp in `[min_timestamp, max_timestamp]`. -/
def RecordFilter.Admits (recordFilter : RecordFilter τ) (rec : VRSRecord τ) : Prop :=
  rec.recordType ∈ recordFilter.recordTypes ∧ rec.streamId ∈ recordFilter.streamIds ∧
    recordFilter.minTimestamp ≤ rec.timestamp ∧ rec.timestamp ≤ recordFilter.maxTimestamp

/-- `VRSReader._generate_filtered_indices(record_filter)`. -/
def VRSReader.generateFilteredIndices (r : VRSReader τ) (recordFilter : RecordFilter τ) :
    List Nat :=
  r.reader.regenerateEnabledIndices recordFilter.recordTypes recordFilter.streamIds
    recordFilter.minTimestamp recordFilter.maxTimestamp

/-- What `FilteredVRSReader.__init__` stores. -/
structure FilteredVRSReader (τ : Type) [LinearOrderedAddCommGroup τ] where
  reader : VRSReader τ
  recordFilter : RecordFilter τ
  filteredIndices : List Nat
  minTimestamp : τ
  maxTimestamp : τ

namespace FilteredVRSReader

/-- `FilteredVRSReader.__init__(reader, record_filter)`: the filtered indices, and the
timestamps of their first and last records (`0` when there are none). -/
def new (reader : VRSReader τ) (recordFilter : RecordFilter τ) :
    Except PyError (FilteredVRSReader τ) := do
  let filteredIndices := reader.generateFilteredIndices recordFilter
  let minTimestamp ← match filteredIndices.head? with
    | none => pure 0
    | some i => reader.getTimestampForIndex i
  let maxTimestamp ← match filteredIndices.getLast? with
    | none => pure 0
    | some i => reader.getTimestampForIndex i
  pure ⟨reader, recordFilter, filteredIndices, minTimestamp, maxTimestamp⟩

/-- Construction always succeeds, with the store's filtered indices and the timestamps of the
first and last of them, `0` for an empty list. -/
theorem new_eq_timestamps (reader : VRSReader τ) (recordFilter : RecordFilter τ) :
    new reader recordFilter = .ok ⟨reader, recordFilter, reader.generateFilteredIndices recordFilter,
      ((reader.generateFilteredIndices recordFilter).head?.map
        fun i => (reader.reader.recordAt i).timestamp).getD 0,
      ((reader.generateFilteredIndices recordFilter).getLast?.map
        fun i => (reader.reader.recordAt i).timestamp).getD 0⟩ := by
  have valid : ∀ i ∈ reader.generateFilteredIndices recordFilter,
      reader.getTimestampForIndex i = .ok (reader.reader.recordAt i).timestamp := fun i hi =>
    VRSReader.getTimestampForIndex_of_lt (RecordStore.lt_size_of_mem_indicesWhere hi)
  cases hh : (reader.generateFilteredIndices recordFilter).head? with
  | none =>
    cases hl : (reader.generateFilteredIndices recordFilter).getLast? with
    | none => simp only [new, hh, hl]; rfl
    | some j => simp only [new, hh, hl, valid j (List.mem_of_getLast?_eq_some hl)]; rfl
  | some i =>
    cases hl : (reader.generateFilteredIndices recordFilter).getLast? with
    | none => simp only [new, hh, hl, valid i (List.mem_of_mem_head? hh)]; rfl
    | some j =>
      simp only [new, hh, hl, valid i (List.mem_of_mem_head? hh),
        valid j (List.mem_of_getLast?_eq_some hl)]
      rfl

/-- Construction always succeeds, with the store's filtered indices. -/
theorem new_eq (reader : VRSReader τ) (recordFilter : RecordFilter τ) :
    ∃ minTimestamp maxTimestamp, new reader recordFilter =
      .ok ⟨reader, recordFilter, reader.generateFilteredIndices recordFilter, minTimestamp,
        maxTimestamp⟩ :=
  ⟨_, _, new_eq_timestamps reader recordFilter⟩

variable (f : FilteredVRSReader τ)

/-- `n_records`, also `len(self)`. -/
def nRecords : Nat := f.filteredIndices.length

/-- `stream_ids`, the filter's resolved stream ids. -/
def streamIds : List String := f.recordFilter.streamIds

/-- `record_types`, the filter's resolved record types. -/
def recordTypes : List String := f.recordFilter.recordTypes

/-- `max(bisect(filtered_indices, index) - 1, 0)`: an absolute index mapped into the filtered
list. -/
def remapIndex (filteredIndices : List Nat) (index : Nat) : Int :=
  max ((bisect filteredIndices index : Int) - 1) 0

/-- `get_record_index_by_time(stream_id, timestamp, epsilon)`: the whole file's answer `index`,
mapped to `max(bisect(self._filtered_indices, index) - 1, 0)`. -/
def getRecordIndexByTime (streamId : String) (timestamp : τ) (epsilon : Option τ) :
    Except PyError Int :=
  if streamId ∈ f.streamIds then do
    let index ← f.reader.getRecordIndexByTime streamId timestamp epsilon
    pure (remapIndex f.filteredIndices index)
  else .error .assertionError

/-- `read_record_by_time(stream_id, timestamp, epsilon)`: the whole file's lookup. -/
def readRecordByTime (streamId : String) (timestamp : τ) (epsilon : Option τ) :
    Outcome (VRSRecord τ) :=
  f.reader.readRecordByTime streamId timestamp epsilon

/-- `read_prev_record(stream_id, record_type, index)`: `self._filtered_indices[index]`, with no
`try`, then the whole file's lookup. -/
def readPrevRecord (streamId recordType : String) (index : Int) :
    Outcome (Option (VRSRecord τ)) := do
  let indexInAll ← Outcome.lift (pyIndex f.filteredIndices index)
  f.reader.readPrevRecord streamId recordType indexInAll

/-- `read_next_record(stream_id, record_type, index)`: `self._filtered_indices[index]` inside
`try ... except IndexError: print(e); return None`, then the whole file's lookup. -/
def readNextRecord (streamId recordType : String) (index : Int) :
    Outcome (Option (VRSRecord τ)) :=
  match pyIndex f.filteredIndices index with
  | .ok indexInAll => f.reader.readNextRecord streamId recordType indexInAll
  | .error .indexError => pure none
  | .error e => Outcome.raise e

/-- `_record_count_by_type_from_stream_id(stream_id)`: the base reader's, on the base reader's
cache `counts`. -/
def recordCountByTypeFromStreamId (counts : CountsCache) (streamId : String) :
    Except PyError (PyDict String Nat) × CountsCache × List String :=
  f.reader.recordCountByTypeFromStreamId counts streamId

/-- `get_timestamp_list()`: the base reader's timestamps of `self._filtered_indices`. -/
def getTimestampList : Except PyError (List τ) := f.reader.getTimestampList (some f.filteredIndices)

/-- `get_timestamp_for_index(index)`: `IndexError("Index {} is out of range.")` from
`len(self._filtered_indices)` on, then `self._filtered_indices[index]`, which counts a negative
`index` from the end and raises `IndexError` below `-len`, then the base reader's. -/
def getTimestampForIndex (index : Int) : Except PyError τ :=
  if (f.filteredIndices.length : Int) ≤ index then .error .indexError else do
    let indexInAll ← pyIndex f.filteredIndices index
    f.reader.getTimestampForIndex indexInAll

/-- `time_range`: `max_timestamp - min_timestamp`. -/
def timeRange : τ := f.maxTimestamp - f.minTimestamp

variable {f}

/-- On a list of indices of the file, `get_timestamp_for_index(k)` inside `[-len, len)` is the
timestamp of the record at `self._filtered_indices[k]`. -/
theorem getTimestampForIndex_of_lt (hL : ∀ a ∈ f.filteredIndices, a < f.reader.nRecords) {k : Int}
    (lo : -(f.filteredIndices.length : Int) ≤ k) (hi : k < f.filteredIndices.length) :
    ∃ h : normIndex f.filteredIndices.length k < f.filteredIndices.length,
      f.getTimestampForIndex k =
        .ok (f.reader.reader.recordAt f.filteredIndices[normIndex f.filteredIndices.length k]).timestamp := by
  obtain ⟨h, e⟩ := pyIndex_of_lt f.filteredIndices lo hi
  refine ⟨h, ?_⟩
  rw [getTimestampForIndex, if_neg (not_le.mpr hi), e, ok_bind,
    VRSReader.getTimestampForIndex_of_lt (hL _ (List.getElem_mem _))]

/-- Outside `[-len, len)`, `get_timestamp_for_index(k)` raises `IndexError`. -/
theorem getTimestampForIndex_of_out {k : Int}
    (out : ¬ (-(f.filteredIndices.length : Int) ≤ k ∧ k < f.filteredIndices.length)) :
    f.getTimestampForIndex k = .error .indexError := by
  rw [getTimestampForIndex]
  split
  · rfl
  · rw [pyIndex_eq_error _ out, error_bind]

theorem getTimestampList_eq (hL : ∀ a ∈ f.filteredIndices, a < f.reader.nRecords) :
    f.getTimestampList = .ok (f.filteredIndices.map fun i => (f.reader.reader.recordAt i).timestamp) :=
  RecordStore.getTimestampListForIndices_of_lt hL

end FilteredVRSReader

/-- `SyncFilteredVRSReader`. -/
structure SyncFilteredVRSReader (τ : Type) [LinearOrderedAddCommGroup τ]
    extends FilteredVRSReader τ

/-- `SyncFilteredVRSReader(reader, record_filter)`. -/
def SyncFilteredVRSReader.new (reader : VRSReader τ) (recordFilter : RecordFilter τ) :
    Except PyError (SyncFilteredVRSReader τ) :=
  SyncFilteredVRSReader.mk <$> FilteredVRSReader.new reader recordFilter

/-- `SyncFilteredVRSReader.__getitem__`: `self._read_record(self._filtered_indices, i)`, which
is the base reader's `_read_record`. -/
def SyncFilteredVRSReader.getitem (f : SyncFilteredVRSReader τ) (i : PyIndex) :
    Outcome (VRSRecord τ ⊕ VRSReaderSlice τ) :=
  f.reader.readRecord f.filteredIndices i

/-- `AsyncFilteredVRSReader`, with the `_index` attribute that `__aiter__` sets. -/
structure AsyncFilteredVRSReader (τ : Type) [LinearOrderedAddCommGroup τ]
    extends FilteredVRSReader τ where
  index : Option Nat := none

namespace AsyncFilteredVRSReader

/-- `AsyncFilteredVRSReader(reader, record_filter)`. Its check that the reader has a callable
`_async_read_record` always passes here, where the reader is an `AsyncVRSReader` by type. -/
def new (reader : AsyncVRSReader τ) (recordFilter : RecordFilter τ) :
    Except PyError (AsyncFilteredVRSReader τ) :=
  (fun f => { f with }) <$> FilteredVRSReader.new reader.toVRSReader recordFilter

variable (f : AsyncFilteredVRSReader τ)

/-- `__getitem__`, awaited: `self._reader._async_read_record(self._filtered_indices, i)`. -/
def getitem (i : PyIndex) : Outcome (VRSRecord τ ⊕ AsyncVRSReaderSlice τ) :=
  asyncIndexOrSliceRecords f.reader.path f.reader.reader f.filteredIndices i

/-- `__aiter__`: `self._index = 0; return self`. -/
def aiter : AsyncFilteredVRSReader τ := { f with index := some 0 }

/-- `__anext__`. -/
def anext : Outcome (Option (VRSRecord τ ⊕ AsyncVRSReaderSlice τ)) × AsyncFilteredVRSReader τ :=
  let step := asyncAnext "_index" f.nRecords f.getitem f.index
  (step.1, { f with index := step.2 })

end AsyncFilteredVRSReader

/-! ## `filtered_by_fields` -/

/-- A `stream_ids` or `record_types` argument: a single string or an iterable of strings. -/
inductive FieldArg where
  | str (s : String)
  | iterable (items : PyIterable String)

/-- What a `stream_ids`/`record_types` argument becomes before filtering: the available set
when omitted, `{s}` for a string, the iterable itself otherwise. -/
def FieldArg.resolve (available : List String) : Option FieldArg → PyIterable String
  | none => .collection available
  | some (.str s) => .collection [s]
  | some (.iterable items) => items

/-- The `RecordFilter` that `filtered_by_fields` builds, the same in `SyncVRSReader` and
`AsyncVRSReader`: omitted bounds default to the file's own timestamp range. -/
def VRSReader.recordFilterOfFields (r : VRSReader τ) (fnmatch : String → String → Bool)
    (streamIds recordTypes : Option FieldArg) (minTimestamp maxTimestamp : Option τ) :
    RecordFilter τ where
  recordTypes := filterByRecordType r.recordTypes (FieldArg.resolve r.recordTypes recordTypes)
  streamIds := filterByStreamIds fnmatch r.streamIds (FieldArg.resolve r.streamIds streamIds)
  minTimestamp := minTimestamp.getD r.minTimestamp
  maxTimestamp := maxTimestamp.getD r.maxTimestamp

/-- `SyncVRSReader.filtered_by_fields(stream_ids, record_types, min_timestamp, max_timestamp)`. -/
def SyncVRSReader.filteredByFields (r : SyncVRSReader τ) (fnmatch : String → String → Bool)
    (streamIds recordTypes : Option FieldArg) (minTimestamp maxTimestamp : Option τ) :
    Except PyError (SyncFilteredVRSReader τ) :=
  SyncFilteredVRSReader.new r.toVRSReader
    (r.recordFilterOfFields fnmatch streamIds recordTypes minTimestamp maxTimestamp)

/-- `AsyncVRSReader.filtered_by_fields(stream_ids, record_types, min_timestamp, max_timestamp)`. -/
def AsyncVRSReader.filteredByFields (r : AsyncVRSReader τ) (fnmatch : String → String → Bool)
    (streamIds recordTypes : Option FieldArg) (minTimestamp maxTimestamp : Option τ) :
    Except PyError (AsyncFilteredVRSReader τ) :=
  AsyncFilteredVRSReader.new r
    (r.recordFilterOfFields fnmatch streamIds recordTypes minTimestamp maxTimestamp)

end Pyvrs
