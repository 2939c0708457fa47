import Mathlib

/-!
# Python sequences: errors, indexing and slicing

The reader classes of `pyvrs` keep an index list `L` of absolute record indices (a `list`, or
`range(n_records)` for a whole file) and hand every subscript straight to Python:
`vrs_indices[indices]` in `index_or_slice_records`. This module fixes that part of Python's
semantics, following CPython's `list_subscript` and `PySlice_AdjustIndices`:

* integer subscripts count from the end when negative and raise `IndexError` outside
  `[-len, len)` (`pyIndex_of_lt`, `pyIndex_eq_error`);
* a slice is normalised to `(start, stop, step)` and selects `start, start + step, …`
  (`pySlice`); its items form a subsequence of the list for a positive step and of the
  reversed list for a negative one (`pySlice_sublist`).

A `range` is modelled by the list of its elements: subscripting a range gives the elements of the
same subscript on that list.
-/

namespace Pyvrs

open scoped List

variable {α : Type}

/-- The Python exceptions that the modelled code raises or lets through. Messages are kept where
`pyvrs` or the slice machinery writes them. -/
inductive PyError where
  /-- `IndexError`, from subscripting a list or range, or from the store's neighbour lookup. -/
  | indexError
  /-- `KeyError(key)`, from `dict.pop` on an absent key. -/
  | keyError (key : String)
  /-- `ValueError(msg)`, from a zero slice step. -/
  | valueError (msg : String)
  /-- The `ValueError` the store's lower-bound time search raises when no record qualifies. -/
  | notFound
  /-- `TimestampNotFoundError`, from the store's nearest-record search. -/
  | timestampNotFound
  /-- `AssertionError`, from a failed `assert`. -/
  | assertionError
  /-- `AttributeError` for reading the attribute `attr` before anything set it. -/
  | attributeError (attr : String)
  /-- `StreamNotFoundError`, from a store call on a stream id that is not in the file. -/
  | streamNotFound
  deriving DecidableEq, Repr

/-! Python code that may raise is an `Except PyError` computation; these two equations run its
`do` blocks. -/

@[simp] theorem ok_bind {β γ : Type} (a : β) (f : β → Except PyError γ) :
    (Except.ok a >>= f) = f a := rfl

@[simp] theorem error_bind {β γ : Type} (e : PyError) (f : β → Except PyError γ) :
    (Except.error e >>= f) = .error e := rfl

/-! ## Integer subscripts -/

/-- `xs[i]` for an integer `i`: a negative `i` counts from the end (`i += len`), and an index
outside `[0, len)` after that raises `IndexError`. -/
def pyIndex (xs : List α) (i : Int) : Except PyError α :=
  let j := if i < 0 then i + xs.length else i
  if h : 0 ≤ j ∧ j < xs.length then .ok xs[j.toNat] else .error .indexError

/-- The position an in-range integer subscript designates. -/
def normIndex (len : Nat) (i : Int) : Nat := (if i < 0 then i + len else i).toNat

theorem pyIndex_of_lt (xs : List α) {i : Int} (lo : -(xs.length : Int) ≤ i)
    (hi : i < xs.length) :
    ∃ h : normIndex xs.length i < xs.length, pyIndex xs i = .ok xs[normIndex xs.length i] := by
  have h : normIndex xs.length i < xs.length := by unfold normIndex; split <;> omega
  refine ⟨h, ?_⟩
  unfold pyIndex
  rw [dif_pos (by split <;> omega)]
  rfl

theorem pyIndex_eq_error (xs : List α) {i : Int}
    (out : ¬ (-(xs.length : Int) ≤ i ∧ i < xs.length)) : pyIndex xs i = .error .indexError := by
  unfold pyIndex
  rw [dif_neg (by split <;> omega)]

/-- A successful integer subscript returns an item of the list. -/
theorem mem_of_pyIndex_eq_ok {xs : List α} {i : Int} {a : α} (h : pyIndex xs i = .ok a) :
    a ∈ xs := by
  by_cases hin : -(xs.length : Int) ≤ i ∧ i < xs.length
  · obtain ⟨_, hok⟩ := pyIndex_of_lt xs hin.1 hin.2
    rw [hok] at h
    cases h
    exact List.getElem_mem _
  · rw [pyIndex_eq_error xs hin] at h
    cases h

/-- A non-negative in-range subscript is plain list access. -/
theorem pyIndex_natCast (xs : List α) {k : Nat} (hk : k < xs.length) :
    pyIndex xs k = .ok xs[k] := by
  obtain ⟨_, h⟩ := pyIndex_of_lt xs (i := k) (by omega) (by exact_mod_cast hk)
  simpa [normIndex] using h

/-- `xs[-j]` is `xs[len - j]` for `1 ≤ j ≤ len`. -/
theorem pyIndex_neg (xs : List α) {j : Nat} (hj : 1 ≤ j) (hle : j ≤ xs.length) :
    pyIndex xs (-(j : Int)) = .ok xs[xs.length - j] := by
  obtain ⟨_, h⟩ := pyIndex_of_lt xs (i := -(j : Int)) (by omega) (by omega)
  rw [h]
  congr 2
  unfold normIndex
  rw [if_pos (by omega)]
  omega

/-! ## Picking positions -/

/-- The items of `xs` at the positions `ps`, in the order of `ps`: the copy loop
`dest[i] = src[cur]` of `list_subscript`. The slice arithmetic only produces positions inside
`xs` (`slicePositions_lt`), so nothing is ever skipped. -/
def pick (xs : List α) (ps : List Nat) : List α := ps.filterMap (xs[·]?)

@[simp] theorem pick_nil (xs : List α) : pick xs [] = [] := rfl

theorem pick_cons_of_lt (xs : List α) {p : Nat} (ps : List Nat) (hp : p < xs.length) :
    pick xs (p :: ps) = xs[p] :: pick xs ps := by
  simp [pick, List.getElem?_eq_getElem hp]

theorem length_pick (xs : List α) (ps : List Nat) (hps : ∀ p ∈ ps, p < xs.length) :
    (pick xs ps).length = ps.length := by
  induction ps with
  | nil => rfl
  | cons p ps ih =>
    rw [pick_cons_of_lt xs ps (hps p (by simp))]
    simp [ih (fun q hq => hps q (by simp [hq]))]

theorem getElem_pick (xs : List α) (ps : List Nat) (hps : ∀ p ∈ ps, p < xs.length) (k : Nat)
    (hk : k < ps.length) :
    ∃ h : ps[k] < xs.length, (pick xs ps).get ⟨k, by rw [length_pick xs ps hps]; exact hk⟩ =
      xs[ps[k]] := by
  refine ⟨hps _ (List.getElem_mem _), ?_⟩
  rw [List.get_eq_getElem]
  induction ps generalizing k with
  | nil => simp at hk
  | cons p ps ih =>
    have hrest : ∀ q ∈ ps, q < xs.length := fun q hq => hps q (by simp [hq])
    simp only [pick_cons_of_lt xs ps (hps p (by simp))]
    cases k with
    | zero => simp
    | succ k => simpa using ih hrest k (by simpa using hk)

/-- Increasing positions pick a subsequence of the list from the first position on. -/
theorem pick_sublist_drop (xs : List α) :
    ∀ (ps : List Nat) (lo : Nat), ps.Pairwise (· < ·) → (∀ p ∈ ps, lo ≤ p) →
      pick xs ps <+ xs.drop lo
  | [], _, _, _ => by simp
  | p :: ps, lo, hpw, hlo => by
    rw [List.pairwise_cons] at hpw
    have tail := pick_sublist_drop xs ps (p + 1) hpw.2 hpw.1
    have skip : xs.drop (p + 1) <+ xs.drop lo :=
      List.drop_sublist_drop_left xs (by have := hlo p (by simp); omega)
    by_cases hp : p < xs.length
    · rw [pick_cons_of_lt xs ps hp]
      calc xs[p] :: pick xs ps <+ xs[p] :: xs.drop (p + 1) := tail.cons₂ _
        _ = xs.drop p := (List.drop_eq_getElem_cons hp).symm
        _ <+ xs.drop lo := List.drop_sublist_drop_left xs (hlo p (by simp))
    · have none : xs[p]? = none := List.getElem?_eq_none (by omega)
      simpa [pick, none] using tail.trans skip

theorem pick_sublist (xs : List α) {ps : List Nat} (hps : ps.Pairwise (· < ·)) :
    pick xs ps <+ xs := by
  simpa using pick_sublist_drop xs ps 0 hps (fun _ _ => Nat.zero_le _)

/-- Decreasing positions of `xs` are increasing positions of `xs.reverse`. -/
theorem pick_eq_pick_reverse (xs : List α) (ps : List Nat) (hps : ∀ p ∈ ps, p < xs.length) :
    pick xs ps = pick xs.reverse (ps.map (xs.length - 1 - ·)) := by
  unfold pick
  rw [List.filterMap_map]
  refine List.filterMap_congr (fun p hp => ?_)
  have hlt := hps p hp
  simp only [Function.comp, List.getElem?_reverse (by omega : xs.length - 1 - p < xs.length)]
  congr 1
  omega

/-! ## Slices -/

/-- A Python slice object `slice(start, stop, step)`; `none` is a field left out. -/
structure PySlice where
  start : Option Int := none
  stop : Option Int := none
  step : Option Int := none
  deriving DecidableEq, Repr

/-- One given bound after `PySlice_AdjustIndices`: a negative bound counts from the end, and a
bound past either end is clamped, to `-1` or `len - 1` when the step is negative. -/
def adjustIndex (len : Nat) (negative : Bool) (i : Int) : Int :=
  if i < 0 then
    if i + len < 0 then (if negative then -1 else 0) else i + len
  else if len ≤ i then (if negative then (len : Int) - 1 else len) else i

/-- A bound of a slice after adjustment, `dflt` when it was left out. -/
def adjustBound (len : Nat) (negative : Bool) (dflt : Int) : Option Int → Int
  | none => dflt
  | some i => adjustIndex len negative i

/-- The number of items a normalised slice selects (`PySlice_AdjustIndices`' result). -/
def sliceLength (start stop step : Int) : Nat :=
  if step < 0 then
    if stop < start then ((start - stop - 1) / (-step) + 1).toNat else 0
  else if start < stop then ((stop - start - 1) / step + 1).toNat else 0

/-- `slice.indices(len)`: the normalised `(start, stop, step)`. A zero step raises
`ValueError("slice step cannot be zero")`. An omitted start is `0` (`len - 1` for a negative
step) and an omitted stop is `len` (`-1` for a negative step), which is what CPython's
`PY_SSIZE_T_MAX`/`PY_SSIZE_T_MIN` defaults become after adjustment. -/
def PySlice.indices (s : PySlice) (len : Nat) : Except PyError (Int × Int × Int) :=
  let step := s.step.getD 1
  if step = 0 then .error (.valueError "slice step cannot be zero") else
  let negative := decide (step < 0)
  .ok (adjustBound len negative (if negative then (len : Int) - 1 else 0) s.start,
    adjustBound len negative (if negative then -1 else (len : Int)) s.stop, step)

/-- The positions a normalised slice selects: `start + k * step` for `k < sliceLength`. -/
def slicePositions (start stop step : Int) : List Nat :=
  (List.range (sliceLength start stop step)).map fun k : Nat => (start + (k : Int) * step).toNat

/-- `xs[s]` for a slice `s`: a new list of the selected items, never an `IndexError`. -/
def pySlice (xs : List α) (s : PySlice) : Except PyError (List α) := do
  let (start, stop, step) ← s.indices xs.length
  pure (pick xs (slicePositions start stop step))

/-- Normalised bounds: inside `[0, len]` for a positive step, inside `[-1, len - 1]` for a
negative one. -/
structure SliceBounds (len : Nat) (start stop step : Int) : Prop where
  step_ne : step ≠ 0
  pos : 0 < step → 0 ≤ start ∧ start ≤ len ∧ 0 ≤ stop ∧ stop ≤ len
  neg : step < 0 → -1 ≤ start ∧ start < len ∧ -1 ≤ stop ∧ stop < len

theorem adjustBound_pos (len : Nat) (dflt : Int) (h0 : 0 ≤ dflt) (h1 : dflt ≤ len)
    (b : Option Int) : 0 ≤ adjustBound len false dflt b ∧ adjustBound len false dflt b ≤ len := by
  cases b with
  | none => exact ⟨h0, h1⟩
  | some i =>
    simp only [adjustBound, adjustIndex, Bool.false_eq_true, if_false]
    split_ifs <;> omega

theorem adjustBound_neg (len : Nat) (dflt : Int) (h0 : -1 ≤ dflt) (h1 : dflt < len)
    (b : Option Int) : -1 ≤ adjustBound len true dflt b ∧ adjustBound len true dflt b < len := by
  cases b with
  | none => exact ⟨h0, h1⟩
  | some i => simp only [adjustBound, adjustIndex, if_true]; split_ifs <;> omega

theorem PySlice.indices_bounds {s : PySlice} {len : Nat} {start stop step : Int}
    (h : s.indices len = .ok (start, stop, step)) : SliceBounds len start stop step := by
  simp only [PySlice.indices] at h
  by_cases hstep : s.step.getD 1 = 0
  · rw [if_pos hstep] at h; cases h
  rw [if_neg hstep] at h
  simp only [Except.ok.injEq, Prod.mk.injEq] at h
  obtain ⟨rfl, rfl, rfl⟩ := h
  refine ⟨hstep, fun hpos => ?_, fun hneg => ?_⟩
  · have hn : decide (s.step.getD 1 < 0) = false := decide_eq_false (by omega)
    simp only [hn, Bool.false_eq_true, if_false]
    have := adjustBound_pos len 0 le_rfl (Int.natCast_nonneg len) s.start
    have := adjustBound_pos len len (Int.natCast_nonneg len) le_rfl s.stop
    omega
  · have hn : decide (s.step.getD 1 < 0) = true := decide_eq_true hneg
    simp only [hn, if_true]
    have := adjustBound_neg len ((len : Int) - 1) (by omega) (by omega) s.start
    have := adjustBound_neg len (-1) le_rfl (by omega) s.stop
    omega

/-- With a positive step, the `k`-th selected position lies before `stop`. -/
theorem lt_stop_of_lt_sliceLength {start stop step : Int} {k : Nat} (hpos : 0 < step)
    (hk : k < sliceLength start stop step) : start + k * step < stop := by
  unfold sliceLength at hk
  rw [if_neg (by omega)] at hk
  split at hk
  · have hq : 0 ≤ (stop - start - 1) / step := Int.ediv_nonneg (by omega) (by omega)
    have := (Int.le_ediv_iff_mul_le hpos).mp (show (k : Int) ≤ (stop - start - 1) / step by omega)
    omega
  · omega

/-- With a negative step, the `k`-th selected position lies after `stop`. -/
theorem stop_lt_of_lt_sliceLength {start stop step : Int} {k : Nat} (hneg : step < 0)
    (hk : k < sliceLength start stop step) : stop < start + k * step := by
  unfold sliceLength at hk
  rw [if_pos hneg] at hk
  split at hk
  · have hq : 0 ≤ (start - stop - 1) / -step := Int.ediv_nonneg (by omega) (by omega)
    have := (Int.le_ediv_iff_mul_le (by omega)).mp
      (show (k : Int) ≤ (start - stop - 1) / -step by omega)
    have : (k : Int) * -step = -(k * step) := by ring
    omega
  · omega

theorem slicePositions_lt {len : Nat} {start stop step : Int}
    (hb : SliceBounds len start stop step) : ∀ p ∈ slicePositions start stop step, p < len := by
  intro p hp
  simp only [slicePositions, List.mem_map, List.mem_range] at hp
  obtain ⟨k, hk, rfl⟩ := hp
  rcases lt_or_gt_of_ne hb.step_ne with hneg | hpos
  · have := hb.neg hneg
    have := stop_lt_of_lt_sliceLength hneg hk
    have : (k : Int) * step ≤ 0 := Int.mul_nonpos_of_nonneg_of_nonpos (by omega) (by omega)
    omega
  · have := hb.pos hpos
    have := lt_stop_of_lt_sliceLength hpos hk
    have : 0 ≤ (k : Int) * step := Int.mul_nonneg (by omega) (by omega)
    omega

theorem length_slicePositions (start stop step : Int) :
    (slicePositions start stop step).length = sliceLength start stop step := by
  simp [slicePositions]

/-- A positive step selects increasing positions. -/
theorem slicePositions_increasing {len : Nat} {start stop step : Int}
    (hb : SliceBounds len start stop step) (hpos : 0 < step) :
    (slicePositions start stop step).Pairwise (· < ·) := by
  have ⟨hstart, _⟩ := hb.pos hpos
  refine List.pairwise_map.mpr ((List.pairwise_lt_range _).imp fun {k k'} hkk' => ?_)
  have : (k : Int) * step < k' * step := Int.mul_lt_mul_of_pos_right (by exact_mod_cast hkk') hpos
  have : 0 ≤ (k : Int) * step := Int.mul_nonneg (by omega) (by omega)
  omega

/-- A negative step selects decreasing positions. -/
theorem slicePositions_decreasing {len : Nat} {start stop step : Int}
    (hb : SliceBounds len start stop step) (hneg : step < 0) :
    (slicePositions start stop step).Pairwise (· > ·) := by
  have ⟨_, _, hstop, _⟩ := hb.neg hneg
  refine List.pairwise_map.mpr
    ((List.pairwise_lt_range _).imp_of_mem fun {k k'} _ hk' hkk' => ?_)
  have := stop_lt_of_lt_sliceLength hneg (List.mem_range.mp hk')
  have : (k' : Int) * step < k * step :=
    Int.mul_lt_mul_of_neg_right (by exact_mod_cast hkk') hneg
  omega

/-- A successful slice picks the positions of `slice.indices`. -/
theorem pySlice_eq_ok {xs ys : List α} {s : PySlice} (h : pySlice xs s = .ok ys) :
    ∃ start stop step, s.indices xs.length = .ok (start, stop, step) ∧
      ys = pick xs (slicePositions start stop step) := by
  unfold pySlice at h
  cases hs : s.indices xs.length with
  | error e => simp [hs] at h
  | ok v =>
    obtain ⟨start, stop, step⟩ := v
    simp only [hs] at h
    cases h
    exact ⟨start, stop, step, rfl, rfl⟩

/-- Every successful slice is a subsequence of the list, or of the reversed list. -/
theorem pySlice_sublist {xs ys : List α} {s : PySlice} (h : pySlice xs s = .ok ys) :
    ys <+ xs ∨ ys <+ xs.reverse := by
  obtain ⟨start, stop, step, hs, rfl⟩ := pySlice_eq_ok h
  have hb := PySlice.indices_bounds hs
  rcases lt_or_gt_of_ne hb.step_ne with hneg | hpos
  · right
    rw [pick_eq_pick_reverse xs _ (slicePositions_lt hb)]
    refine pick_sublist _ (List.pairwise_map.mpr
      ((slicePositions_decreasing hb hneg).imp_of_mem fun {p q} hp hq hpq => ?_))
    have := slicePositions_lt hb p hp
    have := slicePositions_lt hb q hq
    omega
  · exact .inl (pick_sublist xs (slicePositions_increasing hb hpos))

theorem pySlice_length {xs ys : List α} {s : PySlice} (h : pySlice xs s = .ok ys) :
    ∃ start stop step, s.indices xs.length = .ok (start, stop, step) ∧
      ys.length = sliceLength start stop step := by
  obtain ⟨start, stop, step, hs, rfl⟩ := pySlice_eq_ok h
  refine ⟨start, stop, step, hs, ?_⟩
  rw [length_pick _ _ (slicePositions_lt (PySlice.indices_bounds hs)), length_slicePositions]

/-- A window `xs[a:b]` with `0 ≤ a ≤ b ≤ len` is the `b - a` items from position `a` on. -/
theorem pySlice_window (xs : List α) {a b : Nat} (hab : a ≤ b) (hb : b ≤ xs.length) :
    pySlice xs { start := some a, stop := some b } = .ok ((xs.drop a).take (b - a)) := by
  have hadj : ∀ (d : Int) (i : Nat), i ≤ xs.length →
      adjustBound xs.length false d (some i) = i := by
    intro d i hi; simp only [adjustBound, adjustIndex, Bool.false_eq_true, if_false]
    split_ifs <;> omega
  have hlen : sliceLength a b 1 = b - a := by
    unfold sliceLength; rw [if_neg (by omega)]; split_ifs <;> omega
  have hpos : slicePositions a b 1 = List.range' a (b - a) := by
    rw [List.range'_eq_map_range, slicePositions, hlen]
    refine List.map_congr_left fun k _ => ?_
    omega
  have hind : PySlice.indices { start := some a, stop := some b } xs.length = .ok (a, b, 1) := by
    simp only [PySlice.indices, Option.getD_none, one_ne_zero, if_false,
      show decide ((1 : Int) < 0) = false by decide, Bool.false_eq_true]
    rw [hadj _ a (by omega), hadj _ b hb]
  have hin : ∀ p ∈ List.range' a (b - a), p < xs.length := by
    intro p hp; simp only [List.mem_range'_1] at hp; omega
  unfold pySlice
  rw [hind]
  show Except.ok (pick xs (slicePositions a b 1)) = _
  rw [hpos]
  congr 1
  apply List.ext_getElem
  · rw [length_pick _ _ hin, List.length_range', List.length_take, List.length_drop]; omega
  · intro k h1 h2
    rw [length_pick _ _ hin] at h1
    obtain ⟨_, e⟩ := getElem_pick xs (List.range' a (b - a)) hin k h1
    rw [List.get_eq_getElem] at e
    rw [e]
    simp [List.getElem_range']

/-! ## Chains of slices -/

/-- `xs[s1][s2]…[sm]` on a list. -/
def pySliceChain (xs : List α) : List PySlice → Except PyError (List α)
  | [] => .ok xs
  | s :: ss =>
    match pySlice xs s with
    | .ok ys => pySliceChain ys ss
    | .error e => .error e

/-- `ys` keeps the order of `xs`, or the reverse order. -/
def SubseqOrReverse (ys xs : List α) : Prop := ys <+ xs ∨ ys <+ xs.reverse

theorem SubseqOrReverse.refl (xs : List α) : SubseqOrReverse xs xs := .inl (List.Sublist.refl xs)

/-- A slice of a list that keeps the order of `L` (or its reverse) keeps it too. -/
theorem SubseqOrReverse.slice {xs ys L : List α} {s : PySlice} (hxs : SubseqOrReverse xs L)
    (h : pySlice xs s = .ok ys) : SubseqOrReverse ys L := by
  rcases pySlice_sublist h with hy | hy <;> rcases hxs with hx | hx
  · exact .inl (hy.trans hx)
  · exact .inr (hy.trans hx)
  · exact .inr (hy.trans hx.reverse)
  · exact .inl (by simpa using hy.trans hx.reverse)

/-- A slice with a step other than `0` always succeeds. -/
theorem pySlice_of_step_ne (xs : List α) {s : PySlice} (h : s.step ≠ some 0) :
    ∃ ys, pySlice xs s = .ok ys := by
  have h1 : s.step.getD 1 ≠ 0 := by cases hs : s.step <;> simp_all
  exact ⟨_, by simp only [pySlice, PySlice.indices, if_neg h1]; rfl⟩

/-- A chain of slices none of whose steps is `0` always succeeds. -/
theorem pySliceChain_of_step_ne (xs : List α) {ss : List PySlice}
    (h : ∀ s ∈ ss, s.step ≠ some 0) : ∃ ys, pySliceChain xs ss = .ok ys := by
  induction ss generalizing xs with
  | nil => exact ⟨xs, rfl⟩
  | cons s ss ih =>
    obtain ⟨ys, hys⟩ := pySlice_of_step_ne xs (h s (List.mem_cons_self _ _))
    simpa only [pySliceChain, hys] using ih ys fun s' hs' => h s' (List.mem_cons_of_mem _ hs')

/-- Every chain of slices keeps the order of the list or reverses it. -/
theorem pySliceChain_subseq {xs ys L : List α} (hxs : SubseqOrReverse xs L) :
    ∀ {ss : List PySlice}, pySliceChain xs ss = .ok ys → SubseqOrReverse ys L := by
  intro ss
  induction ss generalizing xs with
  | nil => intro h; cases h; exact hxs
  | cons s ss ih =>
    intro h
    simp only [pySliceChain] at h
    split at h
    · exact ih (hxs.slice ‹_›) h
    · cases h

end Pyvrs
