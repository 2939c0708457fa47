import Pyvrs.Python.Sequence

/-!
# `bisect.bisect_right`

`FilteredVRSReader.get_record_index_by_time` maps an absolute index into its filtered index
list with `bisect(self._filtered_indices, index)`. This is CPython's `internal_bisect_right`:
halve the window `[lo, hi)` until it is empty.

On a list sorted by `≤`, the loop keeps `BisectInv` (everything before `lo` is `≤ x`,
everything from `hi` on is `> x`), so `bisect a x` is the number of items `≤ x`
(`bisect_spec`).
-/

namespace Pyvrs

/-- The loop of `bisect_right(a, x, lo, hi)`: while `lo < hi`, look at `mid = (lo + hi) // 2`
and move `hi` down to `mid` when `x < a[mid]`, else move `lo` past `mid`. The bound
`hi ≤ len(a)` holds for the caller's window and keeps every `a[mid]` in range. -/
def bisectRightLoop (a : List Nat) (x : Nat) (lo hi : Nat) (h : hi ≤ a.length) : Nat :=
  if hlt : lo < hi then
    if x < a[(lo + hi) / 2] then bisectRightLoop a x lo ((lo + hi) / 2) (by omega)
    else bisectRightLoop a x ((lo + hi) / 2 + 1) hi h
  else lo
termination_by hi - lo

/-- `bisect.bisect(a, x)`: `bisect_right` over the whole list. -/
def bisect (a : List Nat) (x : Nat) : Nat := bisectRightLoop a x 0 a.length le_rfl

/-- The loop invariant: `[lo, hi)` is a window of `a`, every item before it is `≤ x`, every
item from `hi` on is `> x`. -/
structure BisectInv (a : List Nat) (x lo hi : Nat) : Prop where
  le : lo ≤ hi
  hi_le : hi ≤ a.length
  left : ∀ j (hj : j < a.length), j < lo → a[j] ≤ x
  right : ∀ j (hj : j < a.length), hi ≤ j → x < a[j]

section

variable {a : List Nat} {x : Nat}

theorem sorted_getElem_le (hs : a.Pairwise (· ≤ ·)) {i j : Nat} (hij : i ≤ j)
    (hj : j < a.length) : a[i] ≤ a[j] := by
  rcases Nat.lt_or_eq_of_le hij with h | rfl
  · exact List.pairwise_iff_getElem.mp hs i j (by omega) hj h
  · exact le_rfl

/-- Inside a non-empty window the midpoint is an index of `a`. -/
theorem BisectInv.mid_lt {lo hi : Nat} (inv : BisectInv a x lo hi) (hlt : lo < hi) :
    (lo + hi) / 2 < a.length := by
  have := inv.hi_le
  omega

/-- One halving step keeps the invariant. -/
theorem bisectInv_step (hs : a.Pairwise (· ≤ ·)) {lo hi : Nat} (inv : BisectInv a x lo hi)
    (hlt : lo < hi) :
    (x < a.get ⟨(lo + hi) / 2, inv.mid_lt hlt⟩ → BisectInv a x lo ((lo + hi) / 2)) ∧
    (¬ x < a.get ⟨(lo + hi) / 2, inv.mid_lt hlt⟩ → BisectInv a x ((lo + hi) / 2 + 1) hi) := by
  have hmid := inv.mid_lt hlt
  refine ⟨fun hx => ⟨by omega, by omega, inv.left, fun j hj hle => ?_⟩,
    fun hx => ⟨by omega, inv.hi_le, fun j hj hle => ?_, inv.right⟩⟩
  · exact lt_of_lt_of_le hx (sorted_getElem_le hs hle hj)
  · rcases Nat.lt_or_ge j lo with h | h
    · exact inv.left j hj h
    · exact le_trans (sorted_getElem_le hs (by omega) hmid) (not_lt.mp hx)

/-- The loop ends on a point of the invariant. -/
theorem bisectRightLoop_inv (hs : a.Pairwise (· ≤ ·)) (lo hi : Nat) (h : hi ≤ a.length)
    (inv : BisectInv a x lo hi) :
    BisectInv a x (bisectRightLoop a x lo hi h) (bisectRightLoop a x lo hi h) := by
  induction lo, hi, h using bisectRightLoop.induct a x with
  | case1 lo hi h hlt hx ih =>
    rw [bisectRightLoop, dif_pos hlt, if_pos hx]
    exact ih ((bisectInv_step hs inv hlt).1 hx)
  | case2 lo hi h hlt hx ih =>
    rw [bisectRightLoop, dif_pos hlt, if_neg hx]
    exact ih ((bisectInv_step hs inv hlt).2 hx)
  | case3 lo hi h hlt =>
    rw [bisectRightLoop, dif_neg hlt]
    have := inv.le
    obtain rfl : lo = hi := by omega
    exact inv

/-- On a sorted list, `bisect a x` splits `a` into the items `≤ x` and the items `> x`. -/
theorem bisect_spec (hs : a.Pairwise (· ≤ ·)) (x : Nat) :
    bisect a x ≤ a.length ∧ (∀ j (hj : j < a.length), j < bisect a x → a[j] ≤ x) ∧
      (∀ j (hj : j < a.length), bisect a x ≤ j → x < a[j]) := by
  have init : BisectInv a x 0 a.length :=
    ⟨Nat.zero_le _, le_rfl, fun _ _ h => absurd h (Nat.not_lt_zero _),
      fun _ hj h => absurd hj (by omega)⟩
  have inv := bisectRightLoop_inv hs 0 a.length le_rfl init
  exact ⟨inv.hi_le, inv.left, inv.right⟩

/-- `bisect` is monotone in the key. -/
theorem bisect_mono (hs : a.Pairwise (· ≤ ·)) {x y : Nat} (hxy : x ≤ y) :
    bisect a x ≤ bisect a y := by
  obtain ⟨hx, hxl, -⟩ := bisect_spec hs x
  obtain ⟨-, -, hyr⟩ := bisect_spec hs y
  by_contra h
  have hj : bisect a y < a.length := by omega
  have := hxl _ hj (by omega)
  have := hyr _ hj le_rfl
  omega

/-- On a strictly ascending list, the item at position `q` is bisected just after `q`. -/
theorem bisect_getElem (hs : a.Pairwise (· < ·)) {q : Nat} (hq : q < a.length) :
    bisect a a[q] = q + 1 := by
  obtain ⟨hb, hl, hr⟩ := bisect_spec (hs.imp Nat.le_of_lt) a[q]
  have h1 : q < bisect a a[q] := by
    by_contra h
    exact absurd (hr q hq (by omega)) (lt_irrefl _)
  have h2 : bisect a a[q] ≤ q + 1 := by
    by_contra h
    have hq1 : q + 1 < a.length := by omega
    have := hl (q + 1) hq1 (by omega)
    have := List.pairwise_iff_getElem.mp hs q (q + 1) hq hq1 (by omega)
    omega
  omega

end

end Pyvrs
