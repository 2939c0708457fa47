import Pyvrs.Filter

/-!
# The per-stream record counts cache

`VRSReader._record_count_by_type_from_stream_id` memoizes the store's
`record_count_by_type_from_stream_id` in `_record_counts_by_type`, and every filtered view of the
reader forwards the call to the reader, so the reader and all its views share one cache. A run is
any interleaving of calls from the reader and from its views.

Each call keeps one fact of the cache: every entry is the store's answer for its stream id
(`recordCountByTypeFromStreamId_spec`). So over every run from the empty cache of `__init__`,
every call returns exactly what the uncached store call returns, the store is asked once for a
stream id of the file however often it is requested, and asked again on every request for a stream
id it does not have, whose exception is never cached (`counts_cache_refines_store`).
-/

namespace Pyvrs

variable {τ : Type} [LinearOrderedAddCommGroup τ]

/-- A call of `_record_count_by_type_from_stream_id(stream_id)` on the reader or on a filtered
view of it. -/
inductive CountsRequest (τ : Type) [LinearOrderedAddCommGroup τ] where
  | reader (streamId : String)
  | filtered (f : FilteredVRSReader τ) (streamId : String)

/-- The stream id a request asks for. -/
def CountsRequest.streamId : CountsRequest τ → String
  | .reader s => s
  | .filtered _ s => s

/-- A request against the reader `r` whose cache is `counts`: the reader's own method, or the
view's, which forwards to the view's base reader. -/
def countsStep (r : VRSReader τ) (counts : CountsCache) :
    CountsRequest τ → Except PyError (PyDict String Nat) × CountsCache × List String
  | .reader s => r.recordCountByTypeFromStreamId counts s
  | .filtered f s => f.recordCountByTypeFromStreamId counts s

/-- What a run of requests leaves: each call's result in order, the cache at the end, and the
stream ids the store was asked for, in order. -/
structure CountsTrace where
  results : List (Except PyError (PyDict String Nat))
  cache : CountsCache
  asked : List String

/-- A run of requests on `r`, from the cache `counts`. -/
def countsRun (r : VRSReader τ) : CountsCache → List (CountsRequest τ) → CountsTrace
  | counts, [] => ⟨[], counts, []⟩
  | counts, q :: qs =>
    let step := countsStep r counts q
    let rest := countsRun r step.2.1 qs
    ⟨step.1 :: rest.results, rest.cache, step.2.2 ++ rest.asked⟩

/-- The one fact the cache keeps: every entry is the store's answer for its stream id. -/
def CountsInv (r : VRSReader τ) (counts : CountsCache) : Prop :=
  ∀ s c, counts.get? s = some c → r.reader.recordCountByTypeFromStreamId s = .ok c

namespace VRSReader

variable {r : VRSReader τ} {counts : CountsCache}

/-- One call returns the store's answer, asks the store only on a miss, and afterwards the
cache holds the store's answer for the stream id asked (nothing when the store raised) and is
unchanged elsewhere. -/
theorem recordCountByTypeFromStreamId_spec (inv : CountsInv r counts) (s : String) :
    (r.recordCountByTypeFromStreamId counts s).1 = r.reader.recordCountByTypeFromStreamId s ∧
      (r.recordCountByTypeFromStreamId counts s).2.2 = (if s ∈ counts.keys then [] else [s]) ∧
      ∀ s', (r.recordCountByTypeFromStreamId counts s).2.1.get? s' =
        if s' = s then (r.reader.recordCountByTypeFromStreamId s).toOption else counts.get? s' := by
  unfold recordCountByTypeFromStreamId
  by_cases hs : s ∈ counts.keys
  · -- a hit: the cached entry is the store's answer
    obtain ⟨c, hc⟩ := (PyDict.mem_keys_iff counts).mp hs
    refine ⟨by rw [if_pos hs, PyDict.getItem_of_get? hc, inv s c hc], by simp [hs], fun s' => ?_⟩
    rw [if_pos hs]
    by_cases h : s' = s
    · subst h; simp [hc, inv _ c hc, Except.toOption]
    · simp [h]
  · rw [if_neg hs, if_neg hs]
    cases hstore : r.reader.recordCountByTypeFromStreamId s with
    | ok c =>
      have hset := PyDict.get?_setItem_of_not_mem counts c hs
      refine ⟨PyDict.getItem_of_get? (by rw [hset, if_pos rfl]), rfl, fun s' => ?_⟩
      show (counts.setItem s c).get? s' = _
      rw [hset]
      rfl
    | error e =>
      refine ⟨rfl, rfl, fun s' => ?_⟩
      by_cases h : s' = s
      · subst h; simpa [Except.toOption] using (PyDict.get?_eq_none_iff counts).mpr hs
      · simp [h]

end VRSReader

section Run

variable {r : VRSReader τ}

/-- A request from the reader or from one of its views is a call of the reader's method. -/
theorem countsStep_eq {q : CountsRequest τ}
    (hview : ∀ f s, q = .filtered f s → f.reader = r) (counts : CountsCache) :
    countsStep r counts q = r.recordCountByTypeFromStreamId counts q.streamId := by
  cases q with
  | reader s => rfl
  | filtered f s => rw [countsStep, FilteredVRSReader.recordCountByTypeFromStreamId,
      hview f s rfl]; rfl

theorem countsInv_of_get? {counts counts' : CountsCache} (inv : CountsInv r counts) {s : String}
    (h : ∀ s', counts'.get? s' =
      if s' = s then (r.reader.recordCountByTypeFromStreamId s).toOption else counts.get? s') :
    CountsInv r counts' := fun s' c hc => by
  rw [h] at hc
  split at hc
  · subst s'
    cases hs : r.reader.recordCountByTypeFromStreamId s <;> simp_all [Except.toOption]
  · exact inv s' c hc

/-- A stream id is cached only when the store has it. -/
theorem CountsInv.mem_streamIds (inv : CountsInv r counts) {s : String} (hs : s ∈ counts.keys) :
    s ∈ r.streamIds := by
  obtain ⟨c, hc⟩ := (PyDict.mem_keys_iff counts).mp hs
  by_contra h
  have := RecordStore.recordCountByTypeFromStreamId_toOption_eq_none.mpr h
  simp [inv s c hc, Except.toOption] at this

theorem mem_keys_iff_get? {counts : CountsCache} {s : String} :
    s ∈ counts.keys ↔ counts.get? s ≠ none := by
  rw [Ne, PyDict.get?_eq_none_iff, not_not]

/-- After a call for `s`, a stream id is cached when it is `s` and the file has it, or when it is
another one that was cached before. -/
theorem mem_keys_of_get? {counts counts' : CountsCache} {s : String}
    (h : ∀ s', counts'.get? s' =
      if s' = s then (r.reader.recordCountByTypeFromStreamId s).toOption else counts.get? s')
    (s' : String) :
    s' ∈ counts'.keys ↔ (s' = s ∧ s' ∈ r.streamIds) ∨ (s' ≠ s ∧ s' ∈ counts.keys) := by
  rw [mem_keys_iff_get?, h, mem_keys_iff_get?]
  by_cases hs : s' = s
  · subst hs
    simp [RecordStore.recordCountByTypeFromStreamId_toOption_eq_none, VRSReader.streamIds]
  · simp [hs]

/-- Over a run of requests on `r` and its views, from a cache with the invariant: every call
returns the store's answer; the cache ends with the store's answer for every stream id
requested and is unchanged elsewhere; and the store is asked once for a requested stream id of
the file not cached at the start, never for one that was, and once per request for a stream id
it does not have. -/
theorem countsRun_spec (qs : List (CountsRequest τ))
    (hviews : ∀ f s, CountsRequest.filtered f s ∈ qs → f.reader = r) :
    ∀ counts : CountsCache, CountsInv r counts →
      (countsRun r counts qs).results =
        qs.map (fun q => r.reader.recordCountByTypeFromStreamId q.streamId) ∧
      (∀ s, (countsRun r counts qs).cache.get? s =
        if s ∈ qs.map CountsRequest.streamId then (r.reader.recordCountByTypeFromStreamId s).toOption
        else counts.get? s) ∧
      ∀ s, (countsRun r counts qs).asked.count s =
        if s ∈ r.streamIds then (if s ∉ counts.keys ∧ s ∈ qs.map CountsRequest.streamId then 1 else 0)
        else (qs.map CountsRequest.streamId).count s := by
  induction qs with
  | nil => intro counts _; simp [countsRun]
  | cons q qs ih =>
    intro counts inv
    have hq : ∀ f s, q = .filtered f s → f.reader = r := fun f s h =>
      hviews f s (h ▸ List.mem_cons_self _ _)
    obtain ⟨hres, hasked, hget⟩ :=
      VRSReader.recordCountByTypeFromStreamId_spec inv q.streamId
    set step := r.recordCountByTypeFromStreamId counts q.streamId with hstep
    have inv1 : CountsInv r step.2.1 := countsInv_of_get? inv hget
    obtain ⟨ihres, ihget, ihasked⟩ :=
      ih (fun f s h => hviews f s (List.mem_cons_of_mem _ h)) step.2.1 inv1
    simp only [countsRun, countsStep_eq hq, ← hstep]
    refine ⟨by rw [ihres, hres, List.map_cons], fun s => ?_, fun s => ?_⟩
    · -- the cache: the later requests, then this one, then the cache at the start
      rw [ihget, hget]
      by_cases h : s = q.streamId
      · subst h; simp
      · simp [h]
    · -- the store's queries: this call's, then the later ones
      rw [List.count_append, ihasked, hasked]
      have hkeys := mem_keys_of_get? hget s
      by_cases h : s = q.streamId
      · subst h
        by_cases hin : q.streamId ∈ r.streamIds
        · -- asked on this call exactly when not cached, and cached afterwards
          have hk1 : q.streamId ∈ step.2.1.keys := hkeys.mpr (.inl ⟨rfl, hin⟩)
          by_cases hk : q.streamId ∈ counts.keys <;> simp [hin, hk, hk1]
        · -- not in the file: never cached, asked on every request
          have hk : q.streamId ∉ counts.keys := fun hk => hin (inv.mem_streamIds hk)
          simp [hin, hk, List.count_cons]
          omega
      · have hk1 : s ∈ step.2.1.keys ↔ s ∈ counts.keys := by simp [hkeys, h]
        by_cases hk : q.streamId ∈ counts.keys <;>
          simp [hk, hk1, h, List.count_cons, List.count_singleton', Ne.symm h]

end Run

/-- Over every interleaving of calls of `_record_count_by_type_from_stream_id` on a reader and on
its filtered views, from the empty cache that `__init__` creates: every call returns exactly what
the uncached store call returns; the store is asked once for each stream id of the file that is
requested, however often, and once per request for a stream id it does not have, whose
`StreamNotFoundError` is never cached; and the cache ends holding the store's counts for exactly
the requested stream ids of the file. -/
theorem counts_cache_refines_store (r : VRSReader τ) (qs : List (CountsRequest τ))
    (hviews : ∀ f s, CountsRequest.filtered f s ∈ qs → f.reader = r) :
    (countsRun r .empty qs).results =
        qs.map (fun q => r.reader.recordCountByTypeFromStreamId q.streamId) ∧
      (∀ s, (countsRun r .empty qs).asked.count s =
        if s ∈ r.streamIds then (if s ∈ qs.map CountsRequest.streamId then 1 else 0)
        else (qs.map CountsRequest.streamId).count s) ∧
      ∀ s, (countsRun r .empty qs).cache.get? s =
        if s ∈ qs.map CountsRequest.streamId then (r.reader.recordCountByTypeFromStreamId s).toOption
        else none := by
  obtain ⟨hres, hget, hasked⟩ := countsRun_spec qs hviews .empty (fun s c h => by simp at h)
  exact ⟨hres, fun s => by simpa using hasked s, fun s => by simpa using hget s⟩

/-- A file with a configuration and a data record of stream `100-1`. -/
def countsReader : VRSReader ℤ :=
  ⟨⟨[⟨"100-1", .configuration, 0⟩, ⟨"100-1", .data, 1⟩], by decide⟩, "two.vrs", false⟩

/-- Its data records, the view `filtered_by_fields(record_types="data")` builds. -/
def countsView : FilteredVRSReader ℤ := ⟨countsReader, ⟨["data"], ["100-1"], 0, 1⟩, [1], 1, 1⟩

/-- The reader and its view each ask for `100-1` and for `7-1`, which the file does not have. -/
def countsRequests : List (CountsRequest ℤ) :=
  [.reader "100-1", .filtered countsView "100-1", .reader "7-1", .filtered countsView "7-1"]

theorem counts_cache_refines_store_interleaved :
    (countsRun countsReader .empty countsRequests).results =
        countsRequests.map (fun q => countsReader.reader.recordCountByTypeFromStreamId q.streamId) ∧
      (∀ s, (countsRun countsReader .empty countsRequests).asked.count s =
        if s ∈ countsReader.streamIds then
          (if s ∈ countsRequests.map CountsRequest.streamId then 1 else 0)
        else (countsRequests.map CountsRequest.streamId).count s) ∧
      ∀ s, (countsRun countsReader .empty countsRequests).cache.get? s =
        if s ∈ countsRequests.map CountsRequest.streamId then
          (countsReader.reader.recordCountByTypeFromStreamId s).toOption
        else none :=
  counts_cache_refines_store countsReader countsRequests fun f s h => by
    simp only [countsRequests, List.mem_cons, CountsRequest.filtered.injEq, List.mem_nil_iff,
      reduceCtorEq, false_or, or_false] at h
    rcases h with ⟨rfl, -⟩ | ⟨rfl, -⟩ <;> rfl

end Pyvrs
