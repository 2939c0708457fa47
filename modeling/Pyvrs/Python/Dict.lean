import Pyvrs.Python.Sequence

/-!
# Python dictionaries

`stringify_metadata_keys` builds its result in a `dict` and keeps the type of each bare key in
a second one. A `PyDict` is a `dict` as Python 3.7+ keeps it: items in insertion order, keys
pairwise distinct (a field of the structure, so no other value can be built). `d[k] = v`
overwrites in place or appends, `d.pop(k)` removes the one item with key `k` or raises
`KeyError(k)`.

Everything later is phrased through `get?_eq_some_iff`: with distinct keys, a lookup succeeds
exactly for the items of the list.
-/

namespace Pyvrs

/-- A Python `dict`: its items in insertion order, with pairwise distinct keys. -/
structure PyDict (κ α : Type) where
  entries : List (κ × α)
  nodup : (entries.map Prod.fst).Nodup

namespace PyDict

variable {κ α : Type}

/-- `{}`. -/
def empty : PyDict κ α := ⟨[], List.nodup_nil⟩

/-- The keys, in insertion order. -/
def keys (d : PyDict κ α) : List κ := d.entries.map Prod.fst

/-- `len(d)`. -/
def length (d : PyDict κ α) : Nat := d.entries.length

@[simp] theorem keys_empty : (empty : PyDict κ α).keys = [] := rfl

@[simp] theorem length_empty : (empty : PyDict κ α).length = 0 := rfl

theorem length_eq_length_keys (d : PyDict κ α) : d.length = d.keys.length := by
  simp [length, keys]

variable [DecidableEq κ]

/-- `d.get(k)`: the value stored under `k`, if any. -/
def get? (d : PyDict κ α) (k : κ) : Option α := d.entries.lookup k

/-- `d[k] = v`: overwrite the value of an existing key in place, or append a new item. -/
def setItem (d : PyDict κ α) (k : κ) (v : α) : PyDict κ α :=
  if h : k ∈ d.keys then
    ⟨d.entries.map (fun e => if e.1 = k then (k, v) else e), by
      have keep : (d.entries.map (fun e => if e.1 = k then (k, v) else e)).map Prod.fst =
          d.entries.map Prod.fst := by
        rw [List.map_map]
        exact List.map_congr_left fun e _ => by by_cases h : e.1 = k <;> simp [h]
      rw [keep]; exact d.nodup⟩
  else
    ⟨d.entries ++ [(k, v)], by
      rw [List.map_append]
      exact d.nodup.append (List.nodup_singleton _) (by simpa [keys] using h)⟩

/-- `d.pop(k)`: the value under `k` and the dict without that item; `KeyError(k)` if absent. -/
def pop (d : PyDict String α) (k : String) : Except PyError (α × PyDict String α) :=
  match d.get? k with
  | some v => .ok (v, ⟨d.entries.filter (·.1 != k),
      d.nodup.sublist ((List.filter_sublist _).map Prod.fst)⟩)
  | none => .error (.keyError k)

/-- `d[k]`: the value under `k`; `KeyError(k)` if absent. -/
def getItem (d : PyDict String α) (k : String) : Except PyError α :=
  match d.get? k with
  | some v => .ok v
  | none => .error (.keyError k)

@[simp] theorem get?_empty (k : κ) : (empty : PyDict κ α).get? k = none := rfl

/-- With distinct keys, a lookup succeeds exactly on the items of the dict. -/
theorem get?_eq_some_iff (d : PyDict κ α) {k : κ} {v : α} :
    d.get? k = some v ↔ (k, v) ∈ d.entries := by
  obtain ⟨entries, nd⟩ := d
  simp only [get?]
  induction entries with
  | nil => simp
  | cons e es ih =>
    obtain ⟨k', v'⟩ := e
    simp only [List.map_cons, List.nodup_cons, List.mem_map] at nd
    by_cases hk : k = k'
    · subst hk
      have fresh : (k, v) ∉ es := fun hm => nd.1 ⟨(k, v), hm, rfl⟩
      simp [List.lookup_cons, fresh, eq_comm]
    · have hb : (k == k') = false := by simpa using hk
      simp [List.lookup_cons, hb, hk, ih nd.2]

theorem mem_keys_iff (d : PyDict κ α) {k : κ} : k ∈ d.keys ↔ ∃ v, d.get? k = some v := by
  simp only [keys, List.mem_map, get?_eq_some_iff]
  constructor
  · rintro ⟨⟨_, v⟩, h, rfl⟩; exact ⟨v, h⟩
  · rintro ⟨v, h⟩; exact ⟨(k, v), h, rfl⟩

theorem get?_eq_none_iff (d : PyDict κ α) {k : κ} : d.get? k = none ↔ k ∉ d.keys := by
  rw [mem_keys_iff]
  cases d.get? k <;> simp

/-- Assigning a key that is not there appends an item. -/
theorem setItem_of_not_mem (d : PyDict κ α) {k : κ} (v : α) (h : k ∉ d.keys) :
    (d.setItem k v).entries = d.entries ++ [(k, v)] := by
  simp [setItem, h]

theorem keys_setItem_of_not_mem (d : PyDict κ α) {k : κ} (v : α) (h : k ∉ d.keys) :
    (d.setItem k v).keys = d.keys ++ [k] := by
  simp [keys, setItem_of_not_mem d v h]

theorem length_setItem_of_not_mem (d : PyDict κ α) {k : κ} (v : α) (h : k ∉ d.keys) :
    (d.setItem k v).length = d.length + 1 := by
  simp [length, setItem_of_not_mem d v h]

theorem get?_setItem_of_not_mem (d : PyDict κ α) {k : κ} (v : α) (h : k ∉ d.keys) (k' : κ) :
    (d.setItem k v).get? k' = if k' = k then some v else d.get? k' := by
  have hk : d.entries.lookup k = none := (get?_eq_none_iff d).mpr h
  simp only [get?, setItem_of_not_mem d v h, List.lookup_append]
  by_cases e : k' = k
  · subst e; simp [hk, List.lookup_cons]
  · have hb : (k' == k) = false := by simpa using e
    simp [e, List.lookup_cons, hb]

theorem getItem_of_get? {d : PyDict String α} {k : String} {v : α} (h : d.get? k = some v) :
    d.getItem k = .ok v := by
  rw [getItem, h]

theorem pop_eq_ok {d d' : PyDict String α} {k : String} {v : α} (h : d.pop k = .ok (v, d')) :
    d.get? k = some v ∧ d'.entries = d.entries.filter (·.1 != k) := by
  unfold pop at h
  split at h
  · rename_i v' hv
    cases h
    exact ⟨hv, rfl⟩
  · cases h

theorem pop_eq_error {d : PyDict String α} {k : String} {e : PyError}
    (h : d.pop k = .error e) : k ∉ d.keys ∧ e = .keyError k := by
  unfold pop at h
  split at h
  · cases h
  · rename_i hv
    cases h
    exact ⟨(get?_eq_none_iff d).mp hv, rfl⟩

theorem pop_of_mem (d : PyDict String α) {k : String} (h : k ∈ d.keys) :
    ∃ v d', d.pop k = .ok (v, d') := by
  cases hp : d.pop k with
  | error e => exact absurd h (pop_eq_error hp).1
  | ok r => exact ⟨r.1, r.2, rfl⟩

theorem get?_pop {d d' : PyDict String α} {k : String} {v : α} (h : d.pop k = .ok (v, d'))
    (k' : String) : d'.get? k' = if k' = k then none else d.get? k' := by
  obtain ⟨_, hd'⟩ := pop_eq_ok h
  split
  · subst k'
    rw [get?_eq_none_iff, keys, hd']
    intro hk
    obtain ⟨e, he, rfl⟩ := List.mem_map.mp hk
    simpa using (List.mem_filter.mp he).2
  · cases hv' : d.get? k' with
    | none =>
      rw [get?_eq_none_iff, keys, hd'] at *
      simp only [List.mem_map, List.mem_filter] at *
      exact fun ⟨e, ⟨he, _⟩, hk⟩ => hv' ⟨e, he, hk⟩
    | some w =>
      rw [get?_eq_some_iff, hd'] at *
      simp only [List.mem_filter]
      exact ⟨hv', by simpa using ‹¬k' = k›⟩

theorem mem_keys_pop {d d' : PyDict String α} {k : String} {v : α}
    (h : d.pop k = .ok (v, d')) (k' : String) : k' ∈ d'.keys ↔ k' ∈ d.keys ∧ k' ≠ k := by
  simp only [mem_keys_iff, get?_pop h]
  split <;> simp_all

theorem length_pop {d d' : PyDict String α} {k : String} {v : α}
    (h : d.pop k = .ok (v, d')) : d'.length + 1 = d.length := by
  obtain ⟨hv, hd'⟩ := pop_eq_ok h
  have hmem : k ∈ d.keys := (mem_keys_iff d).mpr ⟨v, hv⟩
  have hkeys : d'.keys = d.keys.erase k := by
    simp only [keys]
    rw [d.nodup.erase_eq_filter, hd', List.filter_map]
    rfl
  have hpos : 0 < d.keys.length := List.length_pos_of_mem hmem
  rw [length_eq_length_keys, length_eq_length_keys, hkeys, List.length_erase_of_mem hmem]
  omega

end PyDict

end Pyvrs
