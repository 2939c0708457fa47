import Pyvrs.Slice

/-!
# `pyvrs.reader`

`VRSReader` over a whole file, in its synchronous and asynchronous classes. Its index list is
`range(n_records)`. Time lookups go to the store's two searches, chosen by Python's truth value
of `epsilon`; neighbour lookups turn the store's `IndexError` into `None`.
-/

namespace Pyvrs

variable {τ : Type} [LinearOrderedAddCommGroup τ]

/-- What a `VRSReader` keeps: the binding's reader over the open file, the path, and the
configuration-record mode fixed at construction. `__init__` caches the record count, record
types, stream ids and timestamp range from the binding; the file does not change while it is
open, so the cached values are the binding's (`nRecords` and the others below). -/
structure VRSReader (τ : Type) [LinearOrderedAddCommGroup τ] where
  reader : RecordStore τ
  path : String
  autoReadConfigurationRecords : Bool

namespace VRSReader

variable (r : VRSReader τ)

/-- `n_records`. -/
def nRecords : Nat := r.reader.size

/-- `record_types`, the available record types. -/
def recordTypes : List String := r.reader.getAvailableRecordTypes

/-- `stream_ids`, the available stream ids. -/
def streamIds : List String := r.reader.getAvailableStreamIds

/-- `min_timestamp`. -/
def minTimestamp : τ := r.reader.getMinAvailableTimestamp

/-- `max_timestamp`. -/
def maxTimestamp : τ := r.reader.getMaxAvailableTimestamp

/-- `_read_record(indices, i)`. -/
def readRecord (indices : List Nat) (i : PyIndex) : Outcome (VRSRecord τ ⊕ VRSReaderSlice τ) :=
  indexOrSliceRecords r.path r.reader indices i

/-- `__getitem__`: `self._read_record(range(self.n_records), i)`. -/
def getitem (i : PyIndex) : Outcome (VRSRecord τ ⊕ VRSReaderSlice τ) :=
  r.readRecord (List.range r.nRecords) i

/-- `get_timestamp_for_index(index)`: `IndexError` past the last record, else the store's. -/
def getTimestampForIndex (index : Nat) : Except PyError τ :=
  if r.nRecords ≤ index then .error .indexError else r.reader.getTimestampForIndex index

/-- `epsilon` when the test `if epsilon:` passes: given and non-zero (`0.0` is false). -/
def truthyEpsilon : Option τ → Option τ
  | some e => if e = 0 then none else some e
  | none => none

/-- The search both time lookups run: the nearest-record search when `if epsilon:` passes, the
lower-bound search otherwise. -/
def searchByTime (streamId : String) (timestamp : τ) (epsilon : Option τ) : Except PyError Nat :=
  match truthyEpsilon epsilon with
  | some e => r.reader.getNearestRecordIndexByTime timestamp e streamId
  | none => r.reader.getRecordIndexByTime streamId timestamp

/-- `get_record_index_by_time(stream_id, timestamp, epsilon)`: `assert stream_id in
self.stream_ids`, then the search. -/
def getRecordIndexByTime (streamId : String) (timestamp : τ) (epsilon : Option τ) :
    Except PyError Nat :=
  if streamId ∈ r.streamIds then r.searchByTime streamId timestamp epsilon
  else .error .assertionError

/-- `read_record_by_time(stream_id, timestamp, epsilon)`: the search (no `assert`), then one
decode. -/
def readRecordByTime (streamId : String) (timestamp : τ) (epsilon : Option τ) :
    Outcome (VRSRecord τ) := do
  let indexInAll ← Outcome.lift (r.searchByTime streamId timestamp epsilon)
  Outcome.call indexInAll (r.reader.readRecord indexInAll)

/-- The shared shape of `read_prev_record` and `read_next_record`: the store's lookup, with an
`IndexError` turned into `None` (`except IndexError: print(e); return None`), then one decode. -/
def readNeighbour (lookup : Except PyError Nat) : Outcome (Option (VRSRecord τ)) :=
  match lookup with
  | .ok j => some <$> Outcome.call j (r.reader.readRecord j)
  | .error .indexError => pure none
  | .error e => Outcome.raise e

/-- `read_prev_record(stream_id, record_type, index)`. -/
def readPrevRecord (streamId recordType : String) (index : Int) : Outcome (Option (VRSRecord τ)) :=
  r.readNeighbour (r.reader.getPrevIndex streamId recordType index)

/-- `read_next_record(stream_id, record_type, index)`. -/
def readNextRecord (streamId recordType : String) (index : Int) : Outcome (Option (VRSRecord τ)) :=
  r.readNeighbour (r.reader.getNextIndex streamId recordType index)

end VRSReader

/-! ## Per-stream record counts -/

/-- `_record_counts_by_type`: the counts by type of each stream asked for so far, keyed by
stream id. `__init__` sets it to `{}`. -/
abbrev CountsCache := PyDict String (PyDict String Nat)

namespace VRSReader

variable (r : VRSReader τ)

/-- `_record_count_by_type_from_stream_id(stream_id)`, on a reader whose `_record_counts_by_type`
is `counts`: a stream id in the cache is answered from it; otherwise the store is asked, its
answer stored and then read back, and an exception from the store leaves the cache as it was.
Returns the result, the cache after the call, and the stream ids the store was asked for. -/
def recordCountByTypeFromStreamId (counts : CountsCache) (streamId : String) :
    Except PyError (PyDict String Nat) × CountsCache × List String :=
  if streamId ∈ counts.keys then (counts.getItem streamId, counts, [])
  else
    match r.reader.recordCountByTypeFromStreamId streamId with
    | .ok byType =>
      let counts := counts.setItem streamId byType
      (counts.getItem streamId, counts, [streamId])
    | .error e => (.error e, counts, [streamId])

/-- `get_timestamp_list(indices)`: the store's timestamps of `indices`, of `range(n_records)`
when `indices` is `None`. -/
def getTimestampList (indices : Option (List Nat)) : Except PyError (List τ) :=
  r.reader.getTimestampListForIndices (indices.getD (List.range r.nRecords))

/-- `time_range`: `max_timestamp - min_timestamp`. -/
def timeRange : τ := r.maxTimestamp - r.minTimestamp

variable {r}

theorem getTimestampForIndex_of_lt {i : Nat} (h : i < r.nRecords) :
    r.getTimestampForIndex i = .ok (r.reader.recordAt i).timestamp := by
  rw [getTimestampForIndex, if_neg (Nat.not_le.mpr h), RecordStore.getTimestampForIndex_of_lt h]

theorem getTimestampForIndex_of_le {i : Nat} (h : r.nRecords ≤ i) :
    r.getTimestampForIndex i = .error .indexError := by
  rw [getTimestampForIndex, if_pos h]

end VRSReader

/-- `SyncVRSReader`: a `VRSReader` whose subscripts read synchronously. -/
structure SyncVRSReader (τ : Type) [LinearOrderedAddCommGroup τ] extends VRSReader τ

/-- `AsyncVRSReader`, with the `_index` attribute that `__aiter__` sets (absent until then). -/
structure AsyncVRSReader (τ : Type) [LinearOrderedAddCommGroup τ] extends VRSReader τ where
  index : Option Nat := none

namespace AsyncVRSReader

variable (r : AsyncVRSReader τ)

/-- `_async_read_record(indices, i)`, awaited. -/
def asyncReadRecord (indices : List Nat) (i : PyIndex) :
    Outcome (VRSRecord τ ⊕ AsyncVRSReaderSlice τ) :=
  asyncIndexOrSliceRecords r.path r.reader indices i

/-- `__getitem__`, awaited: `self._async_read_record(range(self.n_records), i)`. -/
def getitem (i : PyIndex) : Outcome (VRSRecord τ ⊕ AsyncVRSReaderSlice τ) :=
  r.asyncReadRecord (List.range r.nRecords) i

/-- `__aiter__`: `self._index = 0; return self`. -/
def aiter : AsyncVRSReader τ := { r with index := some 0 }

/-- `__anext__`. -/
def anext : Outcome (Option (VRSRecord τ ⊕ AsyncVRSReaderSlice τ)) × AsyncVRSReader τ :=
  let step := asyncAnext "_index" r.nRecords r.getitem r.index
  (step.1, { r with index := step.2 })

end AsyncVRSReader

end Pyvrs
