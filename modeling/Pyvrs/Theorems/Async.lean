import Pyvrs.Iteration

/-!
# The asynchronous classes against the synchronous ones

`async_index_or_slice_records` is `index_or_slice_records` with the slice it builds made
asynchronous (`asyncIndexOrSliceRecords_eq`), and one complete `async for` over an asynchronous
view decodes its index list in order, as a `for` loop over the synchronous view of the same
class does (`async_iteration_refines_sync`).

The two part once loops nest. A synchronous `for` keeps its position in the loop, so nested
loops over one view each see the whole list; the asynchronous classes keep the position on the
object (`__aiter__` returns `self`), so an inner `async for` over the same object moves the outer
loop's position to the end, and the outer loop stops after its first element
(`nested_async_for_stops_after_first`).
-/

namespace Pyvrs

variable {τ : Type} [LinearOrderedAddCommGroup τ]

namespace AsyncView

section Complete

variable {v : AsyncView τ} (hvalid : ∀ a ∈ v.indices, a < v.store.size)
include hvalid

/-- A complete `async for` with body `pass` decodes the view's list in order and leaves the
cursor at the end. -/
theorem asyncFor_pass (fuel : Nat) (hf : v.indices.length < fuel) :
    v.asyncFor pass fuel = some (⟨v.indices, .ok (v.indices.map (Sum.inl ∘ v.store.recordAt))⟩,
      v.setCursor (some v.indices.length)) := by
  have run := asyncForLoop_pass fuel (v.setCursor (some 0)) 0
    (by simpa using fun a ha => v.store.readRecord_eq_recordAt (hvalid a ha)) (by simp) (by simp)
    (by simpa using hf)
  simpa [asyncFor, aiter_eq] using run

/-- A complete `for` loop over the synchronous view of the same class, with a body that
succeeds and decodes `ds x`, decodes the same list, each element followed by its body's decodes. -/
theorem toSync_forLoop (body : VRSRecord τ ⊕ VRSReaderSlice τ → Option (Outcome Unit))
    (ds : VRSRecord τ ⊕ VRSReaderSlice τ → List Nat) (hbody : ∀ x, body x = some ⟨ds x, .ok ()⟩)
    (fuel : Nat) (hf : v.indices.length < fuel) :
    v.toSync.forLoop body fuel =
      some ⟨v.indices.flatMap (fun a => a :: ds (.inl (v.store.recordAt a))),
        .ok (v.indices.map (Sum.inl ∘ v.store.recordAt))⟩ := by
  have hget : v.toSync.getitem =
      indexOrSlice v.store.readRecord (VRSReaderSlice.mk v.path v.store) v.indices :=
    funext fun i => by rw [SyncView.getitem_eq, indexOrSliceRecords]; simp
  rw [SyncView.forLoop, hget, syncFor_indexOrSlice
    (fun a ha => v.store.readRecord_eq_recordAt (hvalid a ha)) body ds hbody fuel 0
    (Nat.zero_le _) (by simpa using hf)]
  rfl

theorem toSync_forLoop_pass (fuel : Nat) (hf : v.indices.length < fuel) :
    v.toSync.forLoop syncPass fuel =
      some ⟨v.indices, .ok (v.indices.map (Sum.inl ∘ v.store.recordAt))⟩ := by
  rw [toSync_forLoop hvalid syncPass (fun _ => []) (fun _ => rfl) fuel hf]
  simp

end Complete

end AsyncView

/-- The asynchronous facade refines the synchronous one: an asynchronous subscript makes the
decode call the synchronous one makes, at the same absolute index, and returns the same record,
error or slice; and over every asynchronous view whose indices are records of the file, a
complete `async for` decodes `L[0]`, …, `L[len(L) - 1]` once each, in order, then stops, as the
`for` loop over the synchronous view of the same class does. -/
theorem async_iteration_refines_sync :
    (∀ (path : String) (reader : RecordStore τ) (L : List Nat) (i : PyIndex),
      asyncIndexOrSliceRecords path reader L i =
        Sum.map id VRSReaderSlice.toAsync <$> indexOrSliceRecords path reader L i) ∧
    ∀ v : AsyncView τ, (∀ a ∈ v.indices, a < v.store.size) → ∀ fuel, v.indices.length < fuel →
      v.asyncFor pass fuel =
        some (⟨v.indices, .ok (v.indices.map (Sum.inl ∘ v.store.recordAt))⟩,
          v.setCursor (some v.indices.length)) ∧
      v.toSync.indices = v.indices ∧
      v.toSync.forLoop syncPass fuel =
        some ⟨v.indices, .ok (v.indices.map (Sum.inl ∘ v.store.recordAt))⟩ :=
  ⟨asyncIndexOrSliceRecords_eq, fun _ hvalid fuel hf =>
    ⟨AsyncView.asyncFor_pass hvalid fuel hf, AsyncView.indices_toSync _,
      AsyncView.toSync_forLoop_pass hvalid fuel hf⟩⟩

/-- A file of two data records of stream `100-1`, at timestamps `0` and `1`. -/
def twoRecords : RecordStore ℤ := ⟨[⟨"100-1", .data, 0⟩, ⟨"100-1", .data, 1⟩], by decide⟩

/-- An `AsyncVRSReader` over `twoRecords`, not yet iterated. -/
def twoRecordReader : AsyncView ℤ :=
  .reader { reader := twoRecords, path := "two.vrs", autoReadConfigurationRecords := false }

theorem async_iteration_refines_sync_two_records :
    twoRecordReader.asyncFor pass 3 =
        some (⟨[0, 1], .ok ([0, 1].map (Sum.inl ∘ twoRecords.recordAt))⟩,
          twoRecordReader.setCursor (some 2)) ∧
      twoRecordReader.toSync.indices = [0, 1] ∧
      twoRecordReader.toSync.forLoop syncPass 3 =
        some ⟨[0, 1], .ok ([0, 1].map (Sum.inl ∘ twoRecords.recordAt))⟩ :=
  async_iteration_refines_sync.2 twoRecordReader (by decide) 3 (by decide)

/-- Nested loops over one object: the outer `async for` yields only the first record, since the
inner one restarts and exhausts the cursor they share, while nested `for` loops over the
synchronous view yield both records in the outer loop. -/
theorem nested_async_for_counterexample :
    (twoRecordReader.asyncFor (AsyncView.innerFor 3) 3).map (·.1.result) =
        some (.ok [.inl (twoRecords.recordAt 0)]) ∧
      (twoRecordReader.toSync.forLoop (twoRecordReader.toSync.innerFor 3) 3).map (·.result) =
        some (.ok [.inl (twoRecords.recordAt 0), .inl (twoRecords.recordAt 1)]) :=
  ⟨rfl, rfl⟩

/-- Over an asynchronous view with a non-empty list `a :: rest` of records of the file, an
`async for` whose body runs a complete `async for` over the same object yields only the record at
`a`: the decode calls are `a`, then the inner loop's whole list, and the cursor ends at the end.
Nested `for` loops over the synchronous view yield every record of the list in the outer loop. -/
theorem nested_async_for_stops_after_first (v : AsyncView τ)
    (hvalid : ∀ a ∈ v.indices, a < v.store.size) (a : Nat) (rest : List Nat)
    (hL : v.indices = a :: rest) (fuel : Nat) (hf : v.indices.length < fuel) :
    v.asyncFor (AsyncView.innerFor fuel) fuel =
        some (⟨a :: v.indices, .ok [.inl (v.store.recordAt a)]⟩,
          v.setCursor (some v.indices.length)) ∧
      v.toSync.forLoop (v.toSync.innerFor fuel) fuel =
        some ⟨v.indices.flatMap (fun b => b :: v.indices),
          .ok (v.indices.map (Sum.inl ∘ v.store.recordAt))⟩ := by
  refine ⟨?_, AsyncView.toSync_forLoop hvalid _ (fun _ => v.indices)
    (fun _ => by
      simp only [SyncView.innerFor, AsyncView.toSync_forLoop_pass hvalid fuel hf,
        Option.map_some', Outcome.map_mk]
      rfl) fuel hf⟩
  have ha : a < v.store.size := hvalid a (by simp [hL])
  obtain ⟨f, rfl⟩ : ∃ f, fuel = f + 2 := ⟨fuel - 2, by rw [hL] at hf; simp at hf; omega⟩
  -- the outer loop's first `__anext__` decodes `a`
  have first : (v.setCursor (some 0)).anext =
      (⟨[a], .ok (some (.inl (v.store.recordAt a)))⟩, v.setCursor (some 1)) := by
    have := AsyncView.anext_of_lt (v := v.setCursor (some 0)) (c := 0) (g := v.store.recordAt)
      (by simp) (by simp [hL]) (by simpa [hL] using v.store.readRecord_eq_recordAt ha)
    simpa [hL] using this
  -- the body restarts the shared cursor and runs it to the end
  have inner : AsyncView.innerFor (f + 2) (.inl (v.store.recordAt a)) (v.setCursor (some 1)) =
      some (⟨v.indices, .ok ()⟩, v.setCursor (some v.indices.length)) := by
    have := AsyncView.asyncFor_pass (v := v.setCursor (some 1)) (by simpa using hvalid) (f + 2)
      (by simpa using hf)
    simp only [AsyncView.innerFor, this, Option.map_some', Outcome.map_mk,
      AsyncView.indices_setCursor, AsyncView.setCursor_setCursor]
    rfl
  -- so the outer loop's second `__anext__` is at the end
  have stop : (v.setCursor (some v.indices.length)).anext =
      (pure none, v.setCursor (some v.indices.length)) :=
    AsyncView.anext_of_eq_len (by simp)
  simp only [AsyncView.asyncFor, AsyncView.aiter_eq, asyncForLoop, first, inner, stop,
    Option.some_bind, Option.map_some', Outcome.pure_decodes, List.append_nil,
    List.singleton_append]
  rfl

theorem nested_async_for_stops_after_first_two_records :
    twoRecordReader.asyncFor (AsyncView.innerFor 3) 3 =
        some (⟨[0, 0, 1], .ok [.inl (twoRecords.recordAt 0)]⟩,
          twoRecordReader.setCursor (some 2)) ∧
      twoRecordReader.toSync.forLoop (twoRecordReader.toSync.innerFor 3) 3 =
        some ⟨[0, 1].flatMap (fun b => b :: [0, 1]),
          .ok ([0, 1].map (Sum.inl ∘ twoRecords.recordAt))⟩ :=
  nested_async_for_stops_after_first twoRecordReader (by decide) 0 [1] rfl 3 (by decide)

end Pyvrs
