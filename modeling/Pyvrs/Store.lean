import Pyvrs.Python.Dict

/-!
# The record store and decode calls

`pyvrs` drives a native reader from `vrsbindings` (`Reader`, `AsyncReader`), which is not part
of the Python sources. This module models what the Python layer consumes from it, from the
spec's list of store operations (§6): the index of an open file, the decode call
`read_record(i)`, the filter primitive `regenerate_enabled_indices`, the two time searches and
the neighbour lookups.

Decode calls are the one effect of the Python layer. `Outcome` records them in order next to the
Python result, so "decodes nothing" and "decodes exactly `L[i]`" are statements about
`Outcome.decodes`.
-/

namespace Pyvrs

/-! ## Decode calls -/

/-- A call as its caller observes it: the indices handed to the store's decode call (or to a
block getter), in order, and the Python result, a value or a raised exception. -/
structure Outcome (α : Type) where
  decodes : List Nat
  result : Except PyError α

namespace Outcome

variable {α β : Type}

/-- Run `x`, then `f` on its value; an exception stops the run and keeps the decodes so far. -/
def bind (x : Outcome α) (f : α → Outcome β) : Outcome β :=
  match x.result with
  | .ok a => ⟨x.decodes ++ (f a).decodes, (f a).result⟩
  | .error e => ⟨x.decodes, .error e⟩

instance : Monad Outcome where
  pure a := ⟨[], .ok a⟩
  bind := bind
  map f x := ⟨x.decodes, f <$> x.result⟩

/-- A Python computation that calls nothing. -/
def lift (r : Except PyError α) : Outcome α := ⟨[], r⟩

/-- Raise `e` without a call. -/
def raise (e : PyError) : Outcome α := ⟨[], .error e⟩

/-- One call at index `i` returning `r`. -/
def call (i : Nat) (r : Except PyError α) : Outcome α := ⟨[i], r⟩

@[simp] theorem pure_decodes (a : α) : (pure a : Outcome α).decodes = [] := rfl

@[simp] theorem pure_result (a : α) : (pure a : Outcome α).result = .ok a := rfl

theorem bind_eq (x : Outcome α) (f : α → Outcome β) : x >>= f = bind x f := rfl

@[simp] theorem bind_ok {d : List Nat} {a : α} (f : α → Outcome β) :
    (⟨d, .ok a⟩ : Outcome α) >>= f = ⟨d ++ (f a).decodes, (f a).result⟩ := rfl

@[simp] theorem bind_error {d : List Nat} {e : PyError} (f : α → Outcome β) :
    (⟨d, .error e⟩ : Outcome α) >>= f = ⟨d, .error e⟩ := rfl

@[simp] theorem lift_ok (a : α) : lift (.ok a) = (⟨[], .ok a⟩ : Outcome α) := rfl

@[simp] theorem lift_error (e : PyError) : lift (.error e) = (⟨[], .error e⟩ : Outcome α) := rfl

@[simp] theorem map_mk (f : α → β) (d : List Nat) (r : Except PyError α) :
    f <$> (⟨d, r⟩ : Outcome α) = ⟨d, f <$> r⟩ := rfl

end Outcome

/-! ## The index of an open file -/

/-- The three record types of VRS. -/
inductive RecordType where
  | configuration
  | data
  | state
  deriving DecidableEq, Repr

/-- The string Python sees for a record type (`VRSRecord.record_type`, `RecordFilter`). -/
def RecordType.name : RecordType → String
  | .configuration => "configuration"
  | .data => "data"
  | .state => "state"

/-- What the file index holds for one record. -/
structure RecordHeader (τ : Type) where
  streamId : String
  recordType : RecordType
  timestamp : τ
  deriving DecidableEq, Repr

/-- A decoded record as `pyvrs.record.VRSRecord` exposes it; the blocks are not modelled. -/
structure VRSRecord (τ : Type) where
  recordIndex : Nat
  streamId : String
  recordType : String
  timestamp : τ
  deriving DecidableEq, Repr

/-- The record `read_record(i)` returns for the header `h` of record `i`. -/
def RecordHeader.decode {τ : Type} (h : RecordHeader τ) (i : Nat) : VRSRecord τ :=
  ⟨i, h.streamId, h.recordType.name, h.timestamp⟩

/-- Modelled from the spec: the native reader behind `self._reader`, reduced to the index of the
open file. Records are in file order, which is timestamp order (§3: timestamps are non-decreasing
across the global catalog); the file does not change while it is open. -/
structure RecordStore (τ : Type) [LinearOrderedAddCommGroup τ] where
  headers : List (RecordHeader τ)
  sorted : headers.Pairwise (fun a b => a.timestamp ≤ b.timestamp)

namespace RecordStore

variable {τ : Type} [LinearOrderedAddCommGroup τ] (st : RecordStore τ)

/-- Modelled from the spec: `get_available_records_size()`. -/
def size : Nat := st.headers.length

/-- Whether record `i` exists and satisfies `p`. -/
def satisfies (p : RecordHeader τ → Bool) (i : Nat) : Bool :=
  match st.headers[i]? with
  | some h => p h
  | none => false

/-- The records satisfying `p`, by ascending absolute index. -/
def indicesWhere (p : RecordHeader τ → Bool) : List Nat := (List.range st.size).filter (st.satisfies p)

/-- Modelled from the spec: `read_record(i)`, the decode call; the decoded record carries its
absolute index. -/
def readRecord (i : Nat) : Except PyError (VRSRecord τ) :=
  match st.headers[i]? with
  | some h => .ok (h.decode i)
  | none => .error .indexError

/-- The record `read_record(i)` returns for an index `i` of the file (`readRecord_of_lt`); a
placeholder past the end. -/
def recordAt (i : Nat) : VRSRecord τ := (st.headers.getD i ⟨"", .configuration, 0⟩).decode i

/-- Modelled from the spec: `get_timestamp_for_index(i)`. -/
def getTimestampForIndex (i : Nat) : Except PyError τ :=
  match st.headers[i]? with
  | some h => .ok h.timestamp
  | none => .error .indexError

/-- Modelled from the spec: `get_available_stream_ids()`, without repetitions. -/
def getAvailableStreamIds : List String := (st.headers.map (·.streamId)).dedup

/-- Modelled from the spec: `get_available_record_types()`, without repetitions. -/
def getAvailableRecordTypes : List String := (st.headers.map (·.recordType.name)).dedup

/-- Modelled from the spec: `get_min_available_timestamp()`, `0` for an empty file. -/
def getMinAvailableTimestamp : τ := (st.headers.head?.map (·.timestamp)).getD 0

/-- Modelled from the spec: `get_max_available_timestamp()`, `0` for an empty file. -/
def getMaxAvailableTimestamp : τ := (st.headers.getLast?.map (·.timestamp)).getD 0

/-- Modelled from the spec (§4.2, §6): `regenerate_enabled_indices(types, ids, min, max)`, the
records whose type is in `types` (exact match), whose stream is in `ids` and whose timestamp lies
in `[min, max]`, by ascending absolute index. -/
def regenerateEnabledIndices (recordTypes streamIds : List String) (minTimestamp maxTimestamp : τ) :
    List Nat :=
  st.indicesWhere fun h =>
    decide (h.recordType.name ∈ recordTypes ∧ h.streamId ∈ streamIds ∧
      minTimestamp ≤ h.timestamp ∧ h.timestamp ≤ maxTimestamp)

/-- Modelled from the spec (§4.3): `get_record_index_by_time(stream_id, t)`, the lower-bound
search: the first record of the stream with timestamp `≥ t`, else `ValueError`. -/
def getRecordIndexByTime (streamId : String) (timestamp : τ) : Except PyError Nat :=
  match (st.indicesWhere fun h => decide (h.streamId = streamId ∧ timestamp ≤ h.timestamp)).head? with
  | some i => .ok i
  | none => .error .notFound

/-- The distance of record `i` from a target time. -/
def distance (timestamp : τ) (i : Nat) : τ :=
  match st.headers[i]? with
  | some h => |h.timestamp - timestamp|
  | none => 0

/-- Modelled from the spec (§4.3): `get_nearest_record_index_by_time(t, epsilon, stream_id)`:
among the stream's records strictly within `epsilon` of `t` (the boundary is exclusive, §9), the
nearest, the smaller index on a tie; `TimestampNotFoundError` when there is none. -/
def getNearestRecordIndexByTime (timestamp epsilon : τ) (streamId : String) : Except PyError Nat :=
  match st.indicesWhere (fun h => decide (h.streamId = streamId ∧ |h.timestamp - timestamp| < epsilon)) with
  | [] => .error .timestampNotFound
  | i :: rest =>
    .ok (rest.foldl (fun best j => if st.distance timestamp j < st.distance timestamp best then j else best) i)

/-- The records of a stream and type. -/
def neighbours (streamId recordType : String) : List Nat :=
  st.indicesWhere fun h => decide (h.streamId = streamId ∧ h.recordType.name = recordType)

/-- Modelled from the spec (§4.5): `get_prev_index(stream_id, record_type, index)`, the last
matching record at or before `index`; `IndexError` when there is none. -/
def getPrevIndex (streamId recordType : String) (index : Int) : Except PyError Nat :=
  match ((st.neighbours streamId recordType).filter fun j : Nat => decide ((j : Int) ≤ index)).getLast? with
  | some j => .ok j
  | none => .error .indexError

/-- Modelled from the spec (§4.5): `get_next_index(stream_id, record_type, index)`, the first
matching record at or after `index`; `IndexError` when there is none. -/
def getNextIndex (streamId recordType : String) (index : Int) : Except PyError Nat :=
  match ((st.neighbours streamId recordType).filter fun j : Nat => decide (index ≤ (j : Int))).head? with
  | some j => .ok j
  | none => .error .indexError

/-- Modelled from the spec (§4.1, §7): `record_count_by_type_from_stream_id(stream_id)`, the
number of records of each type in the stream, keyed by the type's name;
`StreamNotFoundError` for a stream id that is not in the file. -/
def recordCountByTypeFromStreamId (streamId : String) : Except PyError (PyDict String Nat) :=
  if streamId ∈ st.getAvailableStreamIds then
    .ok ⟨[RecordType.configuration, .data, .state].map fun t =>
        (t.name, (st.headers.filter fun h => h.streamId = streamId ∧ h.recordType = t).length),
      by simp only [List.map_map, Function.comp_def]; decide⟩
  else .error .streamNotFound

/-- Modelled from the spec (§6): `get_timestamp_list_for_indices(indices)`, the timestamp of each
index in turn; `IndexError` for an index past the last record. -/
def getTimestampListForIndices (indices : List Nat) : Except PyError (List τ) :=
  indices.mapM st.getTimestampForIndex

/-! ### Lemmas -/

variable {st}

theorem readRecord_of_lt {i : Nat} (h : i < st.size) :
    st.readRecord i = .ok (st.headers[i].decode i) := by
  simp [readRecord, List.getElem?_eq_getElem h]

theorem recordAt_of_lt {i : Nat} (h : i < st.size) : st.recordAt i = st.headers[i].decode i := by
  simp [recordAt, List.getD_eq_getElem?_getD, List.getElem?_eq_getElem h]

theorem readRecord_eq_recordAt {i : Nat} (h : i < st.size) :
    st.readRecord i = .ok (st.recordAt i) := by
  rw [readRecord_of_lt h, recordAt_of_lt h]

@[simp] theorem recordIndex_recordAt (i : Nat) : (st.recordAt i).recordIndex = i := rfl

theorem mem_indicesWhere {p : RecordHeader τ → Bool} {i : Nat} :
    i ∈ st.indicesWhere p ↔ ∃ h : i < st.size, p st.headers[i] = true := by
  simp only [indicesWhere, List.mem_filter, List.mem_range, satisfies]
  constructor
  · rintro ⟨h, hp⟩
    rw [List.getElem?_eq_getElem h] at hp
    exact ⟨h, hp⟩
  · rintro ⟨h, hp⟩
    rw [List.getElem?_eq_getElem h]
    exact ⟨h, hp⟩

theorem indicesWhere_sorted (p : RecordHeader τ → Bool) :
    (st.indicesWhere p).Pairwise (· < ·) :=
  (List.pairwise_lt_range _).filter _

theorem lt_size_of_mem_indicesWhere {p : RecordHeader τ → Bool} {i : Nat}
    (h : i ∈ st.indicesWhere p) : i < st.size :=
  (mem_indicesWhere.mp h).1

/-- Timestamps do not decrease along the file. -/
theorem timestamp_le {i j : Nat} (hij : i ≤ j) (hj : j < st.size) :
    (st.headers.get ⟨i, Nat.lt_of_le_of_lt hij hj⟩).timestamp ≤ st.headers[j].timestamp := by
  rcases Nat.lt_or_eq_of_le hij with h | rfl
  · exact List.pairwise_iff_getElem.mp st.sorted i j _ hj h
  · exact le_rfl

/-- Along the file, decoded records have non-decreasing timestamps. -/
theorem recordAt_timestamp_le {i j : Nat} (hij : i ≤ j) (hj : j < st.size) :
    (st.recordAt i).timestamp ≤ (st.recordAt j).timestamp := by
  rw [recordAt_of_lt (by omega), recordAt_of_lt hj]
  simpa using st.timestamp_le hij hj

theorem regenerateEnabledIndices_sorted (recordTypes streamIds : List String)
    (minTimestamp maxTimestamp : τ) :
    (st.regenerateEnabledIndices recordTypes streamIds minTimestamp maxTimestamp).Pairwise
      (· < ·) :=
  st.indicesWhere_sorted _

theorem mem_regenerateEnabledIndices {recordTypes streamIds : List String}
    {minTimestamp maxTimestamp : τ} {i : Nat} :
    i ∈ st.regenerateEnabledIndices recordTypes streamIds minTimestamp maxTimestamp ↔
      ∃ h : i < st.size, st.headers[i].recordType.name ∈ recordTypes ∧
        st.headers[i].streamId ∈ streamIds ∧ minTimestamp ≤ st.headers[i].timestamp ∧
        st.headers[i].timestamp ≤ maxTimestamp := by
  simp [regenerateEnabledIndices, mem_indicesWhere]

/-- The count query succeeds exactly on the stream ids of the file. -/
theorem recordCountByTypeFromStreamId_toOption_eq_none {streamId : String} :
    (st.recordCountByTypeFromStreamId streamId).toOption = none ↔
      streamId ∉ st.getAvailableStreamIds := by
  unfold recordCountByTypeFromStreamId
  split <;> simp [Except.toOption, *]

theorem getTimestampForIndex_of_lt {i : Nat} (h : i < st.size) :
    st.getTimestampForIndex i = .ok (st.recordAt i).timestamp := by
  simp [getTimestampForIndex, List.getElem?_eq_getElem h, recordAt_of_lt h, RecordHeader.decode]

theorem getTimestampForIndex_of_le {i : Nat} (h : st.size ≤ i) :
    st.getTimestampForIndex i = .error .indexError := by
  simp [getTimestampForIndex, List.getElem?_eq_none h]

/-- On indices of the file, the timestamp list is that of the records there. -/
theorem getTimestampListForIndices_of_lt {indices : List Nat} (h : ∀ i ∈ indices, i < st.size) :
    st.getTimestampListForIndices indices = .ok (indices.map fun i => (st.recordAt i).timestamp) := by
  induction indices with
  | nil => rfl
  | cons i rest ih =>
    simp only [getTimestampListForIndices, List.mapM_cons, List.map_cons,
      getTimestampForIndex_of_lt (h i (List.mem_cons_self _ _))] at ih ⊢
    rw [ih fun j hj => h j (List.mem_cons_of_mem _ hj)]
    rfl

/-- The file's first timestamp is at or before every record's. -/
theorem getMinAvailableTimestamp_le {i : Nat} (hi : i < st.size) :
    st.getMinAvailableTimestamp ≤ (st.recordAt i).timestamp := by
  have h0 : 0 < st.headers.length := by unfold size at hi; omega
  simpa [getMinAvailableTimestamp, List.head?_eq_getElem?, List.getElem?_eq_getElem h0,
    recordAt_of_lt hi, RecordHeader.decode] using st.timestamp_le (Nat.zero_le i) hi

/-- The file's last timestamp is at or after every record's. -/
theorem le_getMaxAvailableTimestamp {i : Nat} (hi : i < st.size) :
    (st.recordAt i).timestamp ≤ st.getMaxAvailableTimestamp := by
  have hl : st.headers.length - 1 < st.headers.length := by unfold size at hi; omega
  have hle := st.timestamp_le (i := i) (j := st.headers.length - 1) (by unfold size at hi; omega) hl
  rw [recordAt_of_lt hi, getMaxAvailableTimestamp, List.getLast?_eq_getElem?,
    List.getElem?_eq_getElem hl]
  simpa [RecordHeader.decode] using hle

end RecordStore

end Pyvrs
