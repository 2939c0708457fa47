import Pyvrs.Filter

/-!
# Iterating views

Python iterates the synchronous classes through `__getitem__`: `VRSReader` and the filtered
readers define no `__iter__`, and `VRSReaderSlice` inherits `Sequence.__iter__`, so a `for`
loop asks for `self[0]`, `self[1]`, … with a counter of its own and stops at the first
`IndexError` (`syncFor`).

The asynchronous classes are their own iterators: `__aiter__` resets a cursor kept on the
object and returns the object, `__anext__` reads and advances it (`asyncFor`). A loop body that
iterates the same object again moves that shared cursor.

`SyncView` and `AsyncView` gather the three classes on each side, with their index lists.
-/

namespace Pyvrs

variable {τ : Type} [LinearOrderedAddCommGroup τ]

/-! ## Synchronous views -/

/-- An object of one of the three synchronous list-like classes. -/
inductive SyncView (τ : Type) [LinearOrderedAddCommGroup τ] where
  | reader (r : SyncVRSReader τ)
  | filtered (f : SyncFilteredVRSReader τ)
  | slice (s : VRSReaderSlice τ)

namespace SyncView

/-- `__getitem__` of the object's class. -/
def getitem : SyncView τ → PyIndex → Outcome (VRSRecord τ ⊕ VRSReaderSlice τ)
  | .reader r => r.getitem
  | .filtered f => f.getitem
  | .slice s => s.getitem

/-- The index list the object answers subscripts from. -/
def indices : SyncView τ → List Nat
  | .reader r => List.range r.nRecords
  | .filtered f => f.filteredIndices
  | .slice s => s.indices

/-- The binding's reader the object decodes with. -/
def store : SyncView τ → RecordStore τ
  | .reader r => r.reader
  | .filtered f => f.reader.reader
  | .slice s => s.reader

/-- The file path the object passes on to its slices. -/
def path : SyncView τ → String
  | .reader r => r.path
  | .filtered f => f.reader.path
  | .slice s => s.path

/-- Every synchronous class subscripts through `index_or_slice_records` on its index list. -/
theorem getitem_eq (v : SyncView τ) (i : PyIndex) :
    v.getitem i = indexOrSliceRecords v.path v.store v.indices i := by
  cases v <;> rfl

/-- A slice subscript decodes nothing and returns a slice over `L[s]`. -/
theorem getitem_slice (v : SyncView τ) (s : PySlice) :
    v.getitem (.slice s) = ⟨[], (fun l => .inr ⟨v.path, v.store, l⟩) <$> pySlice v.indices s⟩ := by
  rw [getitem_eq, indexOrSliceRecords, indexOrSlice_slice]

/-- `__getitem__`, with the slice it may build seen as a view. -/
def subscript (v : SyncView τ) (i : PyIndex) : Outcome (VRSRecord τ ⊕ SyncView τ) :=
  Sum.map id SyncView.slice <$> v.getitem i

/-- The synchronous views as one `index_or_slice` family: slicing a view builds a
`VRSReaderSlice` over the same file and store. -/
def family : SlicedFamily (VRSRecord τ) (SyncView τ) where
  idx := indices
  get v := v.store.readRecord
  build v l := .slice ⟨v.path, v.store, l⟩
  idx_build _ _ := rfl
  get_build _ _ := rfl
  build_build _ _ := rfl

theorem subscript_eq : (subscript : SyncView τ → _) = family.getitem := by
  funext v i
  rw [subscript, getitem_eq, indexOrSliceRecords, map_indexOrSlice]
  rfl

/-- `V[s1][s2]…[sm]`: subscript with each slice in turn. -/
def sliceChain (v : SyncView τ) (ss : List PySlice) : Outcome (VRSRecord τ ⊕ SyncView τ) :=
  subscriptChain subscript v ss

@[simp] theorem sliceChain_nil (v : SyncView τ) : v.sliceChain [] = pure (.inr v) := rfl

/-- A non-empty chain of slices decodes nothing and returns a slice over `L[s1]…[sm]`: the
slices hold absolute indices, so slicing commutes with slicing the index list. -/
theorem sliceChain_cons (v : SyncView τ) (s : PySlice) (ss : List PySlice) :
    v.sliceChain (s :: ss) =
      ⟨[], (fun l => .inr (.slice ⟨v.path, v.store, l⟩)) <$> pySliceChain v.indices (s :: ss)⟩ := by
  rw [sliceChain, subscript_eq, SlicedFamily.chain_cons]
  rfl

end SyncView

/-- A `for` loop over a sequence, from position `k`, with at most `fuel` rounds: `V[k]`, then the
body, then the next position; an `IndexError` from `V[k]` ends the loop, any other exception
propagates. `none` when the fuel runs out, in this loop or in a loop its body runs. -/
def syncFor {β : Type} (getitem : PyIndex → Outcome β) (body : β → Option (Outcome Unit)) :
    Nat → Nat → Option (Outcome (List β))
  | 0, _ => none
  | fuel + 1, k =>
    let o := getitem (.int k)
    match o.result with
    | .error .indexError => some ⟨o.decodes, .ok []⟩
    | .error e => some ⟨o.decodes, .error e⟩
    | .ok b => (body b).bind fun ob =>
      match ob.result with
      | .error e => some ⟨o.decodes ++ ob.decodes, .error e⟩
      | .ok () => (syncFor getitem body fuel (k + 1)).map fun rest =>
          ⟨o.decodes ++ ob.decodes ++ rest.decodes, (b :: ·) <$> rest.result⟩

/-! ## Asynchronous views -/

/-- An object of one of the three asynchronous list-like classes. -/
inductive AsyncView (τ : Type) [LinearOrderedAddCommGroup τ] where
  | reader (r : AsyncVRSReader τ)
  | filtered (f : AsyncFilteredVRSReader τ)
  | slice (s : AsyncVRSReaderSlice τ)

namespace AsyncView

/-- `__aiter__` of the object's class. -/
def aiter : AsyncView τ → AsyncView τ
  | .reader r => .reader r.aiter
  | .filtered f => .filtered f.aiter
  | .slice s => .slice s.aiter

/-- `__anext__` of the object's class: the awaited result and the object afterwards. -/
def anext : AsyncView τ → Outcome (Option (VRSRecord τ ⊕ AsyncVRSReaderSlice τ)) × AsyncView τ
  | .reader r => (r.anext.1, .reader r.anext.2)
  | .filtered f => (f.anext.1, .filtered f.anext.2)
  | .slice s => (s.anext.1, .slice s.anext.2)

/-- `__getitem__` of the object's class, awaited. -/
def getitem : AsyncView τ → PyIndex → Outcome (VRSRecord τ ⊕ AsyncVRSReaderSlice τ)
  | .reader r => r.getitem
  | .filtered f => f.getitem
  | .slice s => s.getitem

/-- The index list the object answers subscripts from. -/
def indices : AsyncView τ → List Nat
  | .reader r => List.range r.nRecords
  | .filtered f => f.filteredIndices
  | .slice s => s.indices

/-- The cursor attribute: `_index` on the readers, `index` on slices. -/
def cursor : AsyncView τ → Option Nat
  | .reader r => r.index
  | .filtered f => f.index
  | .slice s => s.index

/-- The object with its cursor attribute set to `c`. -/
def setCursor : AsyncView τ → Option Nat → AsyncView τ
  | .reader r, c => .reader { r with index := c }
  | .filtered f, c => .filtered { f with index := c }
  | .slice s, c => .slice { s with index := c }

/-- `len(self)`. -/
def len : AsyncView τ → Nat
  | .reader r => r.nRecords
  | .filtered f => f.nRecords
  | .slice s => s.len

/-- The name of the cursor attribute. -/
def attr : AsyncView τ → String
  | .reader _ => "_index"
  | .filtered _ => "_index"
  | .slice _ => "index"

/-- The binding's reader the object decodes with. -/
def store : AsyncView τ → RecordStore τ
  | .reader r => r.reader
  | .filtered f => f.reader.reader
  | .slice s => s.reader

/-- The file path the object passes on to its slices. -/
def path : AsyncView τ → String
  | .reader r => r.path
  | .filtered f => f.reader.path
  | .slice s => s.path

/-- The synchronous object of the same class over the same file and index list. -/
def toSync : AsyncView τ → SyncView τ
  | .reader r => .reader ⟨r.toVRSReader⟩
  | .filtered f => .filtered ⟨f.toFilteredVRSReader⟩
  | .slice s => .slice ⟨s.path, s.reader, s.indices⟩

end AsyncView

/-- An `async for` loop over an object that is its own iterator, with at most `fuel` rounds
after `__aiter__`: `__anext__`, then the body, which may act on the same object; the loop ends at
`StopAsyncIteration` (`none`). `none` when the fuel runs out, in this loop or in a loop its body
runs. -/
def asyncForLoop {σ β : Type} (anext : σ → Outcome (Option β) × σ)
    (body : β → σ → Option (Outcome Unit × σ)) : Nat → σ → Option (Outcome (List β) × σ)
  | 0, _ => none
  | fuel + 1, v =>
    let o := anext v
    match o.1.result with
    | .error e => some (⟨o.1.decodes, .error e⟩, o.2)
    | .ok none => some (⟨o.1.decodes, .ok []⟩, o.2)
    | .ok (some b) => (body b o.2).bind fun ob =>
      match ob.1.result with
      | .error e => some (⟨o.1.decodes ++ ob.1.decodes, .error e⟩, ob.2)
      | .ok () => (asyncForLoop anext body fuel ob.2).map fun rest =>
          (⟨o.1.decodes ++ ob.1.decodes ++ rest.1.decodes, (b :: ·) <$> rest.1.result⟩, rest.2)

namespace AsyncView

/-- The three `__anext__` methods are `asyncAnext` on the object's cursor. -/
theorem anext_eq (v : AsyncView τ) :
    v.anext = ((asyncAnext v.attr v.len v.getitem v.cursor).1,
      v.setCursor (asyncAnext v.attr v.len v.getitem v.cursor).2) := by
  cases v <;> rfl

theorem aiter_eq (v : AsyncView τ) : v.aiter = v.setCursor (some 0) := by
  cases v <;> rfl

theorem len_eq (v : AsyncView τ) : v.len = v.indices.length := by
  cases v <;> simp [len, indices, FilteredVRSReader.nRecords,
    AsyncVRSReaderSlice.len, VRSReader.nRecords]

theorem getitem_eq (v : AsyncView τ) (i : PyIndex) :
    v.getitem i = asyncIndexOrSliceRecords v.path v.store v.indices i := by
  cases v <;> rfl

/-! Moving the cursor changes nothing else. -/

@[simp] theorem cursor_setCursor (v : AsyncView τ) (c : Option Nat) :
    (v.setCursor c).cursor = c := by cases v <;> rfl

@[simp] theorem setCursor_setCursor (v : AsyncView τ) (c c' : Option Nat) :
    (v.setCursor c).setCursor c' = v.setCursor c' := by cases v <;> rfl

@[simp] theorem getitem_setCursor (v : AsyncView τ) (c : Option Nat) :
    (v.setCursor c).getitem = v.getitem := by cases v <;> rfl

@[simp] theorem len_setCursor (v : AsyncView τ) (c : Option Nat) :
    (v.setCursor c).len = v.len := by cases v <;> rfl

@[simp] theorem attr_setCursor (v : AsyncView τ) (c : Option Nat) :
    (v.setCursor c).attr = v.attr := by cases v <;> rfl

@[simp] theorem indices_setCursor (v : AsyncView τ) (c : Option Nat) :
    (v.setCursor c).indices = v.indices := by cases v <;> rfl

@[simp] theorem store_setCursor (v : AsyncView τ) (c : Option Nat) :
    (v.setCursor c).store = v.store := by cases v <;> rfl

@[simp] theorem toSync_setCursor (v : AsyncView τ) (c : Option Nat) :
    (v.setCursor c).toSync = v.toSync := by cases v <;> rfl

@[simp] theorem setCursor_cursor (v : AsyncView τ) : v.setCursor v.cursor = v := by
  cases v <;> rfl

@[simp] theorem indices_toSync (v : AsyncView τ) : v.toSync.indices = v.indices := by
  cases v <;> rfl

@[simp] theorem store_toSync (v : AsyncView τ) : v.toSync.store = v.store := by
  cases v <;> rfl

@[simp] theorem path_toSync (v : AsyncView τ) : v.toSync.path = v.path := by
  cases v <;> rfl

/-- `__anext__` inside the list decodes `L[c]` once and moves the cursor on. -/
theorem anext_of_lt {v : AsyncView τ} {c : Nat} {g : Nat → VRSRecord τ}
    (hcur : v.cursor = some c) (hlt : c < v.indices.length)
    (hget : v.store.readRecord v.indices[c] = .ok (g v.indices[c])) :
    v.anext =
      (⟨[v.indices[c]], .ok (some (.inl (g v.indices[c])))⟩, v.setCursor (some (c + 1))) := by
  have e : v.getitem (.int c) = ⟨[v.indices[c]], .ok (.inl (g v.indices[c]))⟩ := by
    rw [getitem_eq, asyncIndexOrSliceRecords, indexOrSlice_int, pyIndex_natCast _ hlt]
    dsimp only
    rw [hget]
    rfl
  rw [anext_eq, hcur, len_eq]
  simp only [asyncAnext, if_neg (Nat.ne_of_lt hlt), e]

/-- `__anext__` at the end raises `StopAsyncIteration` and leaves the object as it was. -/
theorem anext_of_eq_len {v : AsyncView τ} (hcur : v.cursor = some v.indices.length) :
    v.anext = (pure none, v) := by
  rw [anext_eq, hcur, len_eq]
  simp only [asyncAnext, if_pos rfl, ite_true]
  rw [← hcur, setCursor_cursor]

end AsyncView

/-- `async for x in V: body`: `__aiter__`, then the loop. -/
def AsyncView.asyncFor (v : AsyncView τ)
    (body : VRSRecord τ ⊕ AsyncVRSReaderSlice τ → AsyncView τ → Option (Outcome Unit × AsyncView τ))
    (fuel : Nat) : Option (Outcome (List (VRSRecord τ ⊕ AsyncVRSReaderSlice τ)) × AsyncView τ) :=
  asyncForLoop AsyncView.anext body fuel v.aiter

/-- `for x in V: body`, from `V[0]`. -/
def SyncView.forLoop (v : SyncView τ)
    (body : VRSRecord τ ⊕ VRSReaderSlice τ → Option (Outcome Unit)) (fuel : Nat) :
    Option (Outcome (List (VRSRecord τ ⊕ VRSReaderSlice τ))) :=
  syncFor v.getitem body fuel 0

/-- The body `pass` of an `async for` loop. -/
def pass {β σ : Type} : β → σ → Option (Outcome Unit × σ) := fun _ v => some (pure (), v)

/-- The body `pass` of a `for` loop. -/
def syncPass {β : Type} : β → Option (Outcome Unit) := fun _ => some (pure ())

/-- The body `for y in V: pass` of a loop over `V`, with `fuel` rounds: a loop with a counter of
its own. -/
def SyncView.innerFor (v : SyncView τ) (fuel : Nat) :
    VRSRecord τ ⊕ VRSReaderSlice τ → Option (Outcome Unit) :=
  fun _ => (v.forLoop syncPass fuel).map ((fun _ => ()) <$> ·)

/-- The body `async for y in V: pass` of a loop over `V`, with `fuel` rounds: it runs on the
object as the outer loop left it, cursor included. -/
def AsyncView.innerFor (fuel : Nat) :
    VRSRecord τ ⊕ AsyncVRSReaderSlice τ → AsyncView τ → Option (Outcome Unit × AsyncView τ) :=
  fun _ v => (v.asyncFor pass fuel).map fun r => ((fun _ => ()) <$> r.1, r.2)

/-! ## Complete iterations -/

/-- A complete `for` loop, from position `k`, over a view whose getter succeeds on its whole
index list `L`, with a body that succeeds and decodes `ds x` for the element `x`: it reads
`L[k]`, `L[k + 1]`, … once each, in order, runs the body after each, and stops at the end. -/
theorem syncFor_indexOrSlice {β γ : Type} {get : Nat → Except PyError β} {g : Nat → β}
    {mk : List Nat → γ} {L : List Nat} (hget : ∀ a ∈ L, get a = .ok (g a))
    (body : β ⊕ γ → Option (Outcome Unit)) (ds : β ⊕ γ → List Nat)
    (hbody : ∀ x, body x = some ⟨ds x, .ok ()⟩) (fuel k : Nat)
    (hk : k ≤ L.length) (hf : L.length - k < fuel) :
    syncFor (indexOrSlice get mk L) body fuel k =
      some ⟨(L.drop k).flatMap (fun a => a :: ds (.inl (g a))),
        .ok ((L.drop k).map (Sum.inl ∘ g))⟩ := by
  induction fuel generalizing k with
  | zero => omega
  | succ fuel ih =>
    rcases Nat.lt_or_ge k L.length with hlt | hge
    · have e : indexOrSlice get mk L (.int k) = ⟨[L[k]], .ok (.inl (g L[k]))⟩ := by
        rw [indexOrSlice_int, pyIndex_natCast L hlt]
        dsimp only
        rw [hget _ (List.getElem_mem _)]
        rfl
      simp only [syncFor, e, hbody, Option.some_bind, ih (k + 1) hlt (by omega),
        List.drop_eq_getElem_cons hlt, Option.map_some', List.flatMap_cons, List.map_cons,
        List.singleton_append, List.cons_append]
      rfl
    · obtain rfl : k = L.length := by omega
      have e := indexOrSlice_of_out get mk L
        (show ¬ (-(L.length : Int) ≤ (L.length : Int) ∧ (L.length : Int) < L.length) by omega)
      simp [syncFor, e]

/-- With the body `pass`, a complete `for` loop decodes exactly `L[k]`, `L[k + 1]`, …. -/
theorem syncFor_indexOrSlice_pass {β γ : Type} {get : Nat → Except PyError β} {g : Nat → β}
    {mk : List Nat → γ} {L : List Nat} (hget : ∀ a ∈ L, get a = .ok (g a)) (fuel k : Nat)
    (hk : k ≤ L.length) (hf : L.length - k < fuel) :
    syncFor (indexOrSlice get mk L) syncPass fuel k =
      some ⟨L.drop k, .ok ((L.drop k).map (Sum.inl ∘ g))⟩ := by
  rw [syncFor_indexOrSlice hget syncPass (fun _ => []) (fun _ => rfl) fuel k hk hf]
  simp

/-- A complete `async for` loop with body `pass`, from cursor `c`, over a view whose records all
decode: it reads `L[c]`, `L[c + 1]`, … once each, in order, stops at the end and leaves the
cursor at `len(L)`. -/
theorem asyncForLoop_pass {g : Nat → VRSRecord τ} :
    ∀ (fuel : Nat) (v : AsyncView τ) (c : Nat),
      (∀ a ∈ v.indices, v.store.readRecord a = .ok (g a)) →
      v.cursor = some c → c ≤ v.indices.length → v.indices.length - c < fuel →
      asyncForLoop AsyncView.anext pass fuel v =
        some (⟨v.indices.drop c, .ok ((v.indices.drop c).map (Sum.inl ∘ g))⟩,
          v.setCursor (some v.indices.length))
  | 0, _, _, _, _, _, hf => absurd hf (Nat.not_lt_zero _)
  | fuel + 1, v, c, hget, hcur, hc, hf => by
    rcases Nat.lt_or_ge c v.indices.length with hlt | hge
    · have rest := asyncForLoop_pass fuel (v.setCursor (some (c + 1))) (c + 1)
        (by simpa using hget) (by simp) (by simpa using hlt) (by simp; omega)
      simp only [AsyncView.setCursor_setCursor, AsyncView.indices_setCursor] at rest
      simp only [asyncForLoop, AsyncView.anext_of_lt hcur hlt (hget _ (List.getElem_mem _)), pass,
        Option.some_bind, rest, List.drop_eq_getElem_cons hlt, Option.map_some',
        Outcome.pure_decodes, List.append_nil, List.singleton_append, List.map_cons]
      rfl
    · obtain rfl : c = v.indices.length := by omega
      have hv : v.setCursor (some v.indices.length) = v := by
        rw [← hcur, AsyncView.setCursor_cursor]
      simp [asyncForLoop, AsyncView.anext_of_eq_len hcur, hv]

end Pyvrs
