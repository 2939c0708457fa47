import Pyvrs.Store

/-!
# `pyvrs.slice` and `VRSBlocks`

Every list-like class of `pyvrs` answers a subscript the same way: an integer reads one item
through a getter at `L[i]`, anything else is handed to Python's list slicing and wrapped in a new
view. `indexOrSlice` is that shared body; `index_or_slice_records`,
`async_index_or_slice_records` and `VRSBlocks.__getitem__` are it applied to their own getter
and view constructor.

The two facts everything else uses are `indexOrSlice_int` (one call, at `L[i]`, or an
`IndexError` and no call) and `indexOrSlice_slice` (no call, a view over `L[s]`).
-/

namespace Pyvrs

/-- A subscript: an `int` (or anything with `__index__`) or a `slice`. -/
inductive PyIndex where
  | int (i : Int)
  | slice (s : PySlice)
  deriving DecidableEq, Repr

/-- The shared body of the subscript functions: an integer subscript calls `get` once at
`L[i]`; a slice builds `mk L[s]` and calls nothing. -/
def indexOrSlice {β γ : Type} (get : Nat → Except PyError β) (mk : List Nat → γ) (L : List Nat) :
    PyIndex → Outcome (β ⊕ γ)
  | .int i => do
    let a ← Outcome.lift (pyIndex L i)
    let r ← Outcome.call a (get a)
    pure (.inl r)
  | .slice s => do
    let l ← Outcome.lift (pySlice L s)
    pure (.inr (mk l))

section

variable {β γ : Type} (get : Nat → Except PyError β) (mk : List Nat → γ) (L : List Nat)

theorem indexOrSlice_int (i : Int) :
    indexOrSlice get mk L (.int i) =
      match pyIndex L i with
      | .ok a => ⟨[a], Sum.inl <$> get a⟩
      | .error e => ⟨[], .error e⟩ := by
  cases h : pyIndex L i with
  | error e => simp [indexOrSlice, h]
  | ok a => cases hg : get a <;> simp [indexOrSlice, h, Outcome.call, hg]

theorem indexOrSlice_slice (s : PySlice) :
    indexOrSlice get mk L (.slice s) = ⟨[], (fun l => .inr (mk l)) <$> pySlice L s⟩ := by
  cases h : pySlice L s <;> simp [indexOrSlice, h]

/-- An in-range integer subscript calls the getter exactly once, at `L[i]`. -/
theorem indexOrSlice_of_lt {i : Int} (lo : -(L.length : Int) ≤ i) (hi : i < L.length) :
    ∃ h : normIndex L.length i < L.length, indexOrSlice get mk L (.int i) =
      ⟨[L[normIndex L.length i]], Sum.inl <$> get L[normIndex L.length i]⟩ := by
  obtain ⟨h, e⟩ := pyIndex_of_lt L lo hi
  exact ⟨h, by rw [indexOrSlice_int, e]⟩

/-- An out-of-range integer subscript raises `IndexError` and calls nothing. -/
theorem indexOrSlice_of_out {i : Int} (out : ¬ (-(L.length : Int) ≤ i ∧ i < L.length)) :
    indexOrSlice get mk L (.int i) = ⟨[], .error .indexError⟩ := by
  rw [indexOrSlice_int, pyIndex_eq_error L out]

/-- Relabelling what a slice builds, after the call, is building the relabelled object. -/
theorem map_indexOrSlice {δ : Type} (f : γ → δ) (i : PyIndex) :
    Sum.map id f <$> indexOrSlice get mk L i = indexOrSlice get (f ∘ mk) L i := by
  cases i with
  | int i =>
    rw [indexOrSlice_int, indexOrSlice_int]
    cases pyIndex L i with
    | ok a => dsimp only; cases get a <;> rfl
    | error e => rfl
  | slice s => rw [indexOrSlice_slice, indexOrSlice_slice]; cases pySlice L s <;> rfl

end

/-! ## Chains of slices -/

/-- `V[s1][s2]…[sm]` for an object `v` with subscript `getitem`: subscript with each slice in
turn, stopping at a result that is not a list-like object. -/
def subscriptChain {β σ : Type} (getitem : σ → PyIndex → Outcome (β ⊕ σ)) (v : σ) :
    List PySlice → Outcome (β ⊕ σ)
  | [] => pure (.inr v)
  | s :: ss => do
    match ← getitem v (.slice s) with
    | .inl r => pure (.inl r)
    | .inr w => subscriptChain getitem w ss

/-- A family of list-like objects that subscript through `index_or_slice` on their own index
list `idx v`, decoding with `get v`; slicing `v` builds `build v l`, which keeps the decode
call and builds its own slices the same way. -/
structure SlicedFamily (β σ : Type) where
  idx : σ → List Nat
  get : σ → Nat → Except PyError β
  build : σ → List Nat → σ
  idx_build : ∀ v l, idx (build v l) = l
  get_build : ∀ v l, get (build v l) = get v
  build_build : ∀ v l, build (build v l) = build v

/-- What slicing guarantees on a list-like object `v` with subscript `getitem`, index lists
`idx` and decode call `get`. -/
structure SlicingLaws {β σ : Type} (getitem : σ → PyIndex → Outcome (β ⊕ σ))
    (idx : σ → List Nat) (get : Nat → Except PyError β) (v : σ) : Prop where
  /-- A chain of slices decodes nothing; the object it builds is over `L[s1]…[sm]`, and an
  integer subscript of that object decodes once, at `(L[s1]…[sm])[k]`, inside the bounds,
  and raises `IndexError` with no decode outside them. -/
  chain : ∀ ss : List PySlice, (subscriptChain getitem v ss).decodes = [] ∧
    ∀ w, (subscriptChain getitem v ss).result = .ok (.inr w) →
      pySliceChain (idx v) ss = .ok (idx w) ∧ ∀ k : Int,
        ((-((idx w).length : Int) ≤ k ∧ k < (idx w).length) →
          ∃ a, (idx w)[normIndex (idx w).length k]? = some a ∧
            getitem w (.int k) = ⟨[a], Sum.inl <$> get a⟩) ∧
        (¬ (-((idx w).length : Int) ≤ k ∧ k < (idx w).length) →
          getitem w (.int k) = ⟨[], .error .indexError⟩)
  /-- Every chain of slices with no zero step is built. -/
  built : ∀ ss : List PySlice, (∀ s ∈ ss, s.step ≠ some 0) →
    ∃ w, subscriptChain getitem v ss = ⟨[], .ok (.inr w)⟩
  /-- `V[a:b]` has `b - a` items, and its `k`-th decodes `L[a + k]`. -/
  window : ∀ (a b : Nat) (_ : a ≤ b) (_ : b ≤ (idx v).length),
    ∃ w, getitem v (.slice ⟨some a, some b, none⟩) = ⟨[], .ok (.inr w)⟩ ∧
      (idx w).length = b - a ∧
      ∀ k (_ : k < b - a), getitem w (.int k) = ⟨[(idx v)[a + k]], Sum.inl <$> get (idx v)[a + k]⟩
  /-- `V[-j]` decodes `L[len(L) - j]`. -/
  negative : ∀ (j : Nat) (_ : 1 ≤ j) (_ : j ≤ (idx v).length),
    getitem v (.int (-(j : Int))) =
      ⟨[(idx v)[(idx v).length - j]], Sum.inl <$> get (idx v)[(idx v).length - j]⟩

namespace SlicedFamily

variable {β σ : Type} (F : SlicedFamily β σ)

/-- The subscript of the family's objects. -/
def getitem (v : σ) : PyIndex → Outcome (β ⊕ σ) := indexOrSlice (F.get v) (F.build v) (F.idx v)

/-- A non-empty chain of slices is one slice over `L[s1]…[sm]`, built by `v`. -/
theorem chain_cons (v : σ) (s : PySlice) (ss : List PySlice) :
    subscriptChain F.getitem v (s :: ss) =
      ⟨[], (fun l => .inr (F.build v l)) <$> pySliceChain (F.idx v) (s :: ss)⟩ := by
  induction ss generalizing v s with
  | nil =>
    cases h : pySlice (F.idx v) s <;>
      simp [subscriptChain, getitem, indexOrSlice_slice, pySliceChain, h]
  | cons s' ss ih =>
    cases h : pySlice (F.idx v) s with
    | error e => simp [subscriptChain, getitem, indexOrSlice_slice, pySliceChain, h]
    | ok l =>
      have step : subscriptChain F.getitem v (s :: s' :: ss) =
          subscriptChain F.getitem (F.build v l) (s' :: ss) := by
        simp [subscriptChain, getitem, indexOrSlice_slice, h]
      rw [step, ih, F.idx_build, F.build_build]
      simp [pySliceChain, h]

/-- What a chain of slices returns: `v` itself for no slice, else the object over
`L[s1]…[sm]`. -/
theorem chain_result (v : σ) (ss : List PySlice) :
    (subscriptChain F.getitem v ss).decodes = [] ∧
      ∀ w, (subscriptChain F.getitem v ss).result = .ok (.inr w) →
        pySliceChain (F.idx v) ss = .ok (F.idx w) ∧ F.get w = F.get v := by
  cases ss with
  | nil =>
    refine ⟨rfl, fun w h => ?_⟩
    cases h
    exact ⟨rfl, rfl⟩
  | cons s ss =>
    rw [chain_cons]
    refine ⟨rfl, fun w h => ?_⟩
    cases hc : pySliceChain (F.idx v) (s :: ss) with
    | error e => simp [hc] at h
    | ok l =>
      simp only [hc, Outcome.map_mk] at h
      cases h
      exact ⟨(F.idx_build v l).symm ▸ rfl, F.get_build v l⟩

/-- Every object of the family obeys the slicing laws. -/
theorem slicingLaws (v : σ) : SlicingLaws F.getitem F.idx (F.get v) v where
  chain ss := by
    obtain ⟨hd, hres⟩ := F.chain_result v ss
    refine ⟨hd, fun w hw => ?_⟩
    obtain ⟨hc, hget⟩ := hres w hw
    refine ⟨hc, fun k => ⟨fun hk => ?_, fun hk => ?_⟩⟩
    · obtain ⟨h, e⟩ := indexOrSlice_of_lt (F.get w) (F.build w) (F.idx w) hk.1 hk.2
      exact ⟨_, List.getElem?_eq_getElem h, hget ▸ e⟩
    · exact indexOrSlice_of_out _ _ _ hk
  built ss hss := by
    cases ss with
    | nil => exact ⟨v, rfl⟩
    | cons s ss =>
      obtain ⟨l, hl⟩ := pySliceChain_of_step_ne (F.idx v) hss
      exact ⟨F.build v l, by rw [chain_cons, hl]; rfl⟩
  window a b hab hb := by
    have hlen : ((F.idx v).drop a |>.take (b - a)).length = b - a := by
      rw [List.length_take, List.length_drop]; omega
    refine ⟨F.build v ((F.idx v).drop a |>.take (b - a)), ?_, by rw [F.idx_build, hlen],
      fun k hk => ?_⟩
    · rw [getitem, indexOrSlice_slice, pySlice_window _ hab hb]; rfl
    · rw [getitem, indexOrSlice_int, F.get_build, F.idx_build, pyIndex_natCast _ (by rw [hlen]; exact hk)]
      simp [List.getElem_take, List.getElem_drop]
  negative j hj hle := by
    rw [getitem, indexOrSlice_int, pyIndex_neg _ hj hle]

end SlicedFamily

/-! ## Slices of a reader -/

variable {τ : Type} [LinearOrderedAddCommGroup τ]

/-- `VRSReaderSlice(path, r, indices)`: the binding's reader and absolute indices. -/
structure VRSReaderSlice (τ : Type) [LinearOrderedAddCommGroup τ] where
  path : String
  reader : RecordStore τ
  indices : List Nat

/-- `index_or_slice_records(path, reader, vrs_indices, indices)`. -/
def indexOrSliceRecords (path : String) (reader : RecordStore τ) (vrsIndices : List Nat)
    (indices : PyIndex) : Outcome (VRSRecord τ ⊕ VRSReaderSlice τ) :=
  indexOrSlice reader.readRecord (VRSReaderSlice.mk path reader) vrsIndices indices

/-- `VRSReaderSlice.__getitem__`. -/
def VRSReaderSlice.getitem (s : VRSReaderSlice τ) (i : PyIndex) :
    Outcome (VRSRecord τ ⊕ VRSReaderSlice τ) :=
  indexOrSliceRecords s.path s.reader s.indices i

/-- `len(VRSReaderSlice)`. -/
def VRSReaderSlice.len (s : VRSReaderSlice τ) : Nat := s.indices.length

/-- `AsyncVRSReaderSlice(path, r, indices)`, with the `index` attribute that `__aiter__` sets
(absent until then). -/
structure AsyncVRSReaderSlice (τ : Type) [LinearOrderedAddCommGroup τ] where
  path : String
  reader : RecordStore τ
  indices : List Nat
  index : Option Nat := none

/-- `async_index_or_slice_records(path, reader, vrs_indices, indices)`; the awaited
`async_read_record` is the store's decode. -/
def asyncIndexOrSliceRecords (path : String) (reader : RecordStore τ) (vrsIndices : List Nat)
    (indices : PyIndex) : Outcome (VRSRecord τ ⊕ AsyncVRSReaderSlice τ) :=
  indexOrSlice reader.readRecord (fun l => { path, reader, indices := l }) vrsIndices indices

/-- The asynchronous slice over the same file, reader and indices, before any `__aiter__`. -/
def VRSReaderSlice.toAsync (s : VRSReaderSlice τ) : AsyncVRSReaderSlice τ :=
  { path := s.path, reader := s.reader, indices := s.indices }

/-- `async_index_or_slice_records` is `index_or_slice_records` with the slice it builds made
asynchronous: the same decode calls, the same result otherwise. -/
theorem asyncIndexOrSliceRecords_eq (path : String) (reader : RecordStore τ)
    (vrsIndices : List Nat) (indices : PyIndex) :
    asyncIndexOrSliceRecords path reader vrsIndices indices =
      Sum.map id VRSReaderSlice.toAsync <$> indexOrSliceRecords path reader vrsIndices indices := by
  rw [asyncIndexOrSliceRecords, indexOrSliceRecords, map_indexOrSlice]
  rfl

/-- `AsyncVRSReaderSlice.__getitem__`, awaited. -/
def AsyncVRSReaderSlice.getitem (s : AsyncVRSReaderSlice τ) (i : PyIndex) :
    Outcome (VRSRecord τ ⊕ AsyncVRSReaderSlice τ) :=
  asyncIndexOrSliceRecords s.path s.reader s.indices i

/-- `len(AsyncVRSReaderSlice)`. -/
def AsyncVRSReaderSlice.len (s : AsyncVRSReaderSlice τ) : Nat := s.indices.length

/-! ## Asynchronous iteration -/

/-- The shared body of the three `__anext__` methods, on the view's cursor attribute `attr`
(`_index` or `index`, set by `__aiter__`): at `len` raise `StopAsyncIteration` (`none`);
otherwise await `self[cursor]`, then move the cursor on. -/
def asyncAnext {β : Type} (attr : String) (len : Nat) (getitem : PyIndex → Outcome β) :
    Option Nat → Outcome (Option β) × Option Nat
  | none => (⟨[], .error (.attributeError attr)⟩, none)
  | some c =>
    if c = len then (pure none, some c)
    else
      let o := getitem (.int c)
      match o.result with
      | .ok b => (⟨o.decodes, .ok (some b)⟩, some (c + 1))
      | .error e => (⟨o.decodes, .error e⟩, some c)

/-- `AsyncVRSReaderSlice.__aiter__`: `self.index = 0; return self`. -/
def AsyncVRSReaderSlice.aiter (s : AsyncVRSReaderSlice τ) : AsyncVRSReaderSlice τ :=
  { s with index := some 0 }

/-- `AsyncVRSReaderSlice.__anext__`. -/
def AsyncVRSReaderSlice.anext (s : AsyncVRSReaderSlice τ) :
    Outcome (Option (VRSRecord τ ⊕ AsyncVRSReaderSlice τ)) × AsyncVRSReaderSlice τ :=
  let step := asyncAnext "index" s.len s.getitem s.index
  (step.1, { s with index := step.2 })

/-! ## Blocks of a record -/

/-- `VRSBlocks(get_func, range_)`: a getter for the blocks of one record and the block numbers
this view covers. -/
structure VRSBlocks (β : Type) where
  getFunc : Nat → Except PyError β
  range : List Nat

/-- `VRSBlocks.__getitem__`: `get_func(range_[i])` for an integer, a new `VRSBlocks` over
`range_[i]` otherwise. -/
def VRSBlocks.getitem {β : Type} (b : VRSBlocks β) (i : PyIndex) : Outcome (β ⊕ VRSBlocks β) :=
  indexOrSlice b.getFunc (VRSBlocks.mk b.getFunc) b.range i

/-- `len(VRSBlocks)`. -/
def VRSBlocks.len {β : Type} (b : VRSBlocks β) : Nat := b.range.length

/-- The block views of a record as one `index_or_slice` family. -/
def VRSBlocks.family {β : Type} : SlicedFamily β (VRSBlocks β) where
  idx := VRSBlocks.range
  get := VRSBlocks.getFunc
  build b := VRSBlocks.mk b.getFunc
  idx_build _ _ := rfl
  get_build _ _ := rfl
  build_build _ _ := rfl

theorem VRSBlocks.getitem_eq {β : Type} : (VRSBlocks.getitem : VRSBlocks β → _) = family.getitem :=
  rfl

end Pyvrs
