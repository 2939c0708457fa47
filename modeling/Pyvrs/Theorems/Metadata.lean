import Pyvrs.Utils

/-!
# `stringify_metadata_keys`

The loop of `stringify_metadata_keys` keeps an invariant (`StringifyInv`) between its three
local variables and the items it has seen: `filtered` holds every item once, under a key that
is the item's bare name while no other item has that name and `name<…type…>` once one has;
`ambiguous_names` are the names of two items or more; `removed_types` maps every name of
exactly one item to that item's type. Each branch of the loop keeps it
(`stringifyInv_ambiguous`, `stringifyInv_collision`, `stringifyInv_fresh`), so whenever the
function returns, its result re-keys its input one to one (`stringify_metadata_keys_rekeys`).

The first-collision branch pops the name from `removed_types`, which holds names of items
only; a later item whose name is a key synthesized earlier reaches that branch and raises
`KeyError` (`stringify_metadata_keys_raises`).

The keys synthesized come from `_unique_string_for_key`, whose `while True` loop tries
`name<type>`, `name<<type>>`, … in turn. The candidates grow in length, so they are distinct and
at most `len(dict_)` of them are taken: the loop ends within `len(dict_) + 1` rounds, at the first
free one (`unique_string_for_key_terminates`).
-/

namespace Pyvrs

open scoped List

variable {α : Type}

/-! ## Fresh keys -/

/-- `_unique_string_for_key(name, type_, dict_)` ends for every dict: its loop runs `i` rounds,
for the least `i ≥ 1` whose candidate `name + "<" * i + type_ + ">" * i` is not a key of `dict_`,
where `i ≤ len(dict_) + 1`, and returns that candidate. Given any number of rounds, the loop
returns it exactly when it may run `i` of them. -/
theorem unique_string_for_key_terminates (name type_ : String) (dict_ : PyDict String α) :
    ∃ i, 1 ≤ i ∧ i ≤ dict_.length + 1 ∧
      uniqueStringForKey name type_ dict_ = bracketKey name type_ i ∧
      bracketKey name type_ i ∉ dict_.keys ∧
      (∀ j, 1 ≤ j → j < i → bracketKey name type_ j ∈ dict_.keys) ∧
      ∀ fuel, uniqueStringForKeyLoop name type_ dict_ 1 fuel =
        if i ≤ fuel then some (bracketKey name type_ i) else none := by
  -- some round has a free candidate; take the first
  have hex : ∃ n, bracketKey name type_ (n + 1) ∉ dict_.keys := by
    obtain ⟨i, hi, hK, hnot⟩ := uniqueStringForKey_spec name type_ dict_
    exact ⟨i - 1, by rwa [Nat.sub_add_cancel hi, ← hK]⟩
  have hfree : bracketKey name type_ (1 + Nat.find hex) ∉ dict_.keys := by
    rw [Nat.add_comm]; exact Nat.find_spec hex
  have htaken : ∀ j, 1 ≤ j → j < 1 + Nat.find hex → bracketKey name type_ j ∈ dict_.keys :=
    fun j h1 h2 => by
      have := Nat.find_min hex (m := j - 1) (by omega)
      rwa [Nat.sub_add_cancel h1, not_not] at this
  have run := uniqueStringForKeyLoop_of_free htaken hfree
  -- the loop of `len(dict_) + 1` rounds returns, so the first free round is among them
  have hbound : Nat.find hex < dict_.length + 1 := by
    have := uniqueStringForKeyLoop_isSome name type_ dict_
    rw [run] at this
    by_contra h
    simp [h] at this
  refine ⟨1 + Nat.find hex, by omega, by omega, ?_, hfree, htaken, fun fuel => ?_⟩
  · simp only [uniqueStringForKey, run, if_pos hbound, Option.get_some]
  · rw [run]
    simp only [show Nat.find hex < fuel ↔ 1 + Nat.find hex ≤ fuel by omega]

/-- With `a<t>` taken, the key for `("a", "t")` escalates to `a<<t>>`. -/
example :
    uniqueStringForKey "a" "t" (⟨[("a<t>", 0)], by decide⟩ : PyDict String Nat) = "a<<t>>" := by
  decide

/-! ## Names among the items -/

/-- The number of items named `n`. -/
def nameCount (es : List ((String × String) × α)) (n : String) : Nat :=
  es.countP fun e => e.1.1 = n

/-- The type of the only item named `n`, when exactly one item has that name. -/
def soleType (es : List ((String × String) × α)) (n : String) : Option String :=
  match es.filter fun e => e.1.1 = n with
  | [e] => some e.1.2
  | _ => none

section Names

variable (es : List ((String × String) × α)) (e : (String × String) × α) (m : String)

theorem nameCount_append :
    nameCount (es ++ [e]) m = nameCount es m + if e.1.1 = m then 1 else 0 := by
  simp [nameCount, List.countP_append, List.countP_cons]

theorem nameCount_eq_length_filter :
    nameCount es m = (es.filter fun e => e.1.1 = m).length :=
  List.countP_eq_length_filter _ _

theorem soleType_append :
    soleType (es ++ [e]) m =
      if e.1.1 = m then (if nameCount es m = 0 then some e.1.2 else none) else soleType es m := by
  unfold soleType
  rw [List.filter_append, nameCount_eq_length_filter]
  by_cases h : e.1.1 = m
  · rw [if_pos h, List.filter_singleton, decide_eq_true h, cond_true]
    generalize es.filter (fun e => e.1.1 = m) = l
    rcases l with _ | ⟨x, _ | ⟨y, l⟩⟩ <;> rfl
  · rw [if_neg h, List.filter_singleton, decide_eq_false h, cond_false, List.append_nil]

theorem soleType_eq_some {t : String} (h : soleType es m = some t) :
    ∃ e0, es.filter (fun e => e.1.1 = m) = [e0] ∧ e0.1.2 = t := by
  unfold soleType at h
  split at h
  · cases h
    exact ⟨_, ‹_›, rfl⟩
  · cases h

theorem nameCount_pos {e : (String × String) × α} (he : e ∈ es) : 0 < nameCount es e.1.1 :=
  List.countP_pos_iff.mpr ⟨e, he, by simp⟩

theorem soleType_eq_none (h : nameCount es m ≠ 1) : soleType es m = none := by
  rw [nameCount_eq_length_filter] at h
  unfold soleType
  split
  · rename_i hf; rw [hf] at h; exact absurd rfl h
  · rfl

end Names

/-- Where the item `e` sits, given the items `es`: under its bare name while it is the only
item of that name, under `name<…type…>` with at least one bracket pair once it is not. -/
structure KeyForm (es : List ((String × String) × α)) (key : String × String → String)
    (e : (String × String) × α) : Prop where
  bare : nameCount es e.1.1 = 1 → key e.1 = e.1.1
  wrapped : 2 ≤ nameCount es e.1.1 → ∃ i, 1 ≤ i ∧ key e.1 = bracketKey e.1.1 e.1.2 i

namespace KeyForm

variable {es es' : List ((String × String) × α)} {key key' : String × String → String}
  {e : (String × String) × α}

/-- The form carries over when the item keeps its key and its name gets no new item, or was
ambiguous already. -/
theorem mono (h : KeyForm es key e) (hk : key' e.1 = key e.1)
    (hc : nameCount es' e.1.1 = nameCount es e.1.1 ∨
      2 ≤ nameCount es e.1.1 ∧ nameCount es e.1.1 ≤ nameCount es' e.1.1) :
    KeyForm es' key' e :=
  ⟨fun h1 => by rw [hk]; exact h.bare (by omega),
    fun h2 => by rw [hk]; exact h.wrapped (by omega)⟩

theorem of_bracket {i : Nat} (hi : 1 ≤ i) (hk : key e.1 = bracketKey e.1.1 e.1.2 i)
    (hc : 2 ≤ nameCount es e.1.1) : KeyForm es key e :=
  ⟨fun h => by omega, fun _ => ⟨i, hi, hk⟩⟩

end KeyForm

/-! ## The loop invariant -/

/-- What the loop of `stringify_metadata_keys` keeps after the items `es`, with `key p` the key
of the item of name and type `p`. -/
structure StringifyInv (es : List ((String × String) × α)) (st : StringifyState α)
    (key : String × String → String) : Prop where
  /-- `filtered` holds every item once, under its key. -/
  perm : st.filtered.entries ~ es.map fun e => (key e.1, e.2)
  /-- `ambiguous_names` are the names of two items or more. -/
  ambiguous : ∀ n, n ∈ st.ambiguousNames ↔ 2 ≤ nameCount es n
  /-- `removed_types` maps every name of exactly one item to its type. -/
  removed : ∀ n, st.removedTypes.get? n = soleType es n
  /-- Every item is under its bare name or under `name<…type…>`, as its name is unique or not. -/
  keyForm : ∀ e ∈ es, KeyForm es key e

theorem stringifyInv_init (key : String × String → String) :
    StringifyInv [] (StringifyState.init : StringifyState α) key :=
  ⟨.nil, fun _ => by simp [StringifyState.init, nameCount], fun _ => rfl, fun _ h => nomatch h⟩

section Step

variable {es : List ((String × String) × α)} {st : StringifyState α}
  {key : String × String → String} {e : (String × String) × α}

/-- A key of `filtered` that is the bare name of no item was synthesized. -/
theorem StringifyInv.mem_keys (inv : StringifyInv es st key) {e0 : (String × String) × α}
    (he0 : e0 ∈ es) (hk : key e0.1 = e0.1.1) : (e0.1.1, e0.2) ∈ st.filtered.entries :=
  inv.perm.mem_iff.mpr (List.mem_map.mpr ⟨e0, he0, by rw [hk]⟩)

theorem ne_of_fresh (hfresh : e.1 ∉ es.map Prod.fst) {e' : (String × String) × α}
    (he' : e' ∈ es) : e'.1 ≠ e.1 :=
  fun h => hfresh (h ▸ List.mem_map_of_mem _ he')

/-- Giving a new item a key leaves the keys of the earlier ones. -/
theorem map_key_update (hfresh : e.1 ∉ es.map Prod.fst) (K : String) :
    (es.map fun e' => ((fun p => if p = e.1 then K else key p) e'.1, e'.2)) =
      es.map fun e' => (key e'.1, e'.2) :=
  List.map_congr_left fun _ he' => by simp [ne_of_fresh hfresh he']

/-- An item whose name is not that of exactly one earlier item, kept out of `ambiguous_names`,
leaves that set right: it is ambiguous already or the item is the first of its name. -/
theorem StringifyInv.ambiguous_append (inv : StringifyInv es st key)
    (h1 : nameCount es e.1.1 ≠ 1) (m : String) :
    m ∈ st.ambiguousNames ↔ 2 ≤ nameCount (es ++ [e]) m := by
  rw [inv.ambiguous, nameCount_append]
  split_ifs with h
  · subst h; omega
  · simp

/-- The branch `name in ambiguous_names`: the item goes under a fresh `name<…type…>` key. -/
theorem stringifyInv_ambiguous (inv : StringifyInv es st key) (hfresh : e.1 ∉ es.map Prod.fst)
    (ha : e.1.1 ∈ st.ambiguousNames) :
    StringifyInv (es ++ [e])
      { st with filtered := st.filtered.setItem (uniqueStringForKey e.1.1 e.1.2 st.filtered) e.2 }
      (fun p => if p = e.1 then uniqueStringForKey e.1.1 e.1.2 st.filtered else key p) := by
  obtain ⟨i, hi, hK, hnot⟩ := uniqueStringForKey_spec e.1.1 e.1.2 st.filtered
  have hc := (inv.ambiguous _).mp ha
  refine ⟨?_, inv.ambiguous_append (by omega), fun m => ?_, fun e' he' => ?_⟩
  · rw [PyDict.setItem_of_not_mem _ _ hnot, List.map_append, map_key_update hfresh]
    simpa using inv.perm.append_right [(uniqueStringForKey e.1.1 e.1.2 st.filtered, e.2)]
  · rw [soleType_append, inv.removed]
    split_ifs with h h0
    · subst h; omega
    · subst h; exact soleType_eq_none _ _ (by omega)
    · rfl
  · rcases List.mem_append.mp he' with he' | he'
    · refine (inv.keyForm e' he').mono (if_neg (ne_of_fresh hfresh he')) ?_
      rw [nameCount_append]
      split_ifs with h
      · rw [← h]; exact .inr ⟨hc, by omega⟩
      · exact .inl rfl
    · obtain rfl := List.mem_singleton.mp he'
      exact KeyForm.of_bracket hi (by rw [if_pos rfl, hK]) (by rw [nameCount_append]; simp; omega)

/-- A name that is neither ambiguous nor a key of `filtered` is the name of no item. -/
theorem StringifyInv.nameCount_eq_zero (inv : StringifyInv es st key) {n : String}
    (ha : n ∉ st.ambiguousNames) (hk : n ∉ st.filtered.keys) : nameCount es n = 0 := by
  have h2 : ¬ 2 ≤ nameCount es n := fun h => ha ((inv.ambiguous n).mpr h)
  by_contra h0
  obtain ⟨e0, he0, hn⟩ := List.countP_pos_iff.mp (Nat.pos_of_ne_zero h0)
  obtain rfl : e0.1.1 = n := by simpa using hn
  exact hk (List.mem_map_of_mem Prod.fst (inv.mem_keys he0 ((inv.keyForm e0 he0).bare (by omega))))

/-- The last branch: the item goes under its bare name, and its type into `removed_types`. -/
theorem stringifyInv_fresh (inv : StringifyInv es st key) (ha : e.1.1 ∉ st.ambiguousNames)
    (hk : e.1.1 ∉ st.filtered.keys) :
    StringifyInv (es ++ [e])
      { st with filtered := st.filtered.setItem e.1.1 e.2,
                removedTypes := st.removedTypes.setItem e.1.1 e.1.2 }
      (fun p => if p = e.1 then e.1.1 else key p) := by
  have h0 := inv.nameCount_eq_zero ha hk
  have hother : ∀ e' ∈ es, e'.1.1 ≠ e.1.1 := fun e' he' h => by
    have := nameCount_pos es he'; rw [h] at this; omega
  have hfresh : e.1 ∉ es.map Prod.fst := fun h => by
    obtain ⟨e', he', hq⟩ := List.mem_map.mp h
    exact hother e' he' (by rw [hq])
  have hr : e.1.1 ∉ st.removedTypes.keys := by
    rw [← PyDict.get?_eq_none_iff, inv.removed]; exact soleType_eq_none _ _ (by omega)
  refine ⟨?_, inv.ambiguous_append (by omega), fun m => ?_, fun e' he' => ?_⟩
  · rw [PyDict.setItem_of_not_mem _ _ hk, List.map_append, map_key_update hfresh]
    simpa using inv.perm.append_right [(e.1.1, e.2)]
  · rw [PyDict.get?_setItem_of_not_mem _ _ hr, soleType_append, inv.removed]
    by_cases h : m = e.1.1
    · subst h; simp [h0]
    · simp [h, Ne.symm h]
  · rcases List.mem_append.mp he' with he' | he'
    · refine (inv.keyForm e' he').mono (if_neg (ne_of_fresh hfresh he')) (.inl ?_)
      simp [nameCount_append, Ne.symm (hother e' he')]
    · obtain rfl := List.mem_singleton.mp he'
      exact ⟨fun _ => if_pos rfl, fun h => by rw [nameCount_append] at h; simp at h; omega⟩

/-- Popping the key of the item `e0` from `filtered` leaves the other items. -/
theorem perm_filter_key {d : PyDict String α} {f : (String × String) × α → String × α}
    {l1 l2 : List ((String × String) × α)} {e0 : (String × String) × α}
    (hperm : d.entries ~ (l1 ++ e0 :: l2).map f) {n : String} (hk : (f e0).1 = n) :
    d.entries.filter (·.1 != n) ~ (l1 ++ l2).map f := by
  have h1 : d.entries ~ f e0 :: (l1 ++ l2).map f :=
    hperm.trans (by simp)
  have hnd := (h1.map Prod.fst).nodup_iff.mp d.nodup
  rw [List.map_cons, List.nodup_cons, hk] at hnd
  have h2 := h1.filter (·.1 != n)
  rwa [List.filter_cons_of_neg (by simp [hk]), (List.filter_eq_self (l := (l1 ++ l2).map f)).mpr
    fun x hx => by
      have : x.1 ≠ n := fun h => hnd.1 (h ▸ List.mem_map_of_mem Prod.fst hx)
      simpa using this] at h2

/-- Re-keying the item `e0` where it stands and appending the new item `e` permutes like
appending both. -/
theorem perm_rekey {l1 l2 : List ((String × String) × α)} {e0 e : (String × String) × α}
    {rest : List (String × α)} {f g : (String × String) × α → String × α}
    (hf : rest ~ (l1 ++ l2).map f) (hg : ∀ x ∈ l1 ++ l2, g x = f x) :
    rest ++ [g e0] ++ [g e] ~ (l1 ++ e0 :: l2 ++ [e]).map g := by
  have hmap : (l1 ++ e0 :: l2 ++ [e]).map g = l1.map f ++ g e0 :: l2.map f ++ [g e] := by
    rw [List.map_append, List.map_append, List.map_cons,
      List.map_congr_left fun x hx => hg x (List.mem_append_left _ hx),
      List.map_congr_left fun x hx => hg x (List.mem_append_right _ hx)]
    rfl
  rw [hmap]
  refine List.Perm.append_right _ ?_
  calc rest ++ [g e0] ~ (l1 ++ l2).map f ++ [g e0] := hf.append_right _
    _ ~ g e0 :: (l1.map f ++ l2.map f) := by
      rw [← List.map_append]; exact List.perm_append_singleton _ _
    _ ~ l1.map f ++ g e0 :: l2.map f := List.perm_middle.symm

/-- The branch of a first collision: the bare item and the new one both go under fresh
`name<…type…>` keys, and the name becomes ambiguous. -/
theorem stringifyInv_collision (inv : StringifyInv es st key) (hnd : (es.map Prod.fst).Nodup)
    (hfresh : e.1 ∉ es.map Prod.fst) {v0 : α} {f1 : PyDict String α} {t0 : String}
    {r1 : PyDict String String} (hp1 : st.filtered.pop e.1.1 = .ok (v0, f1))
    (hp2 : st.removedTypes.pop e.1.1 = .ok (t0, r1)) :
    StringifyInv (es ++ [e])
      ⟨(f1.setItem (uniqueStringForKey e.1.1 t0 f1) v0).setItem
          (uniqueStringForKey e.1.1 e.1.2 (f1.setItem (uniqueStringForKey e.1.1 t0 f1) v0)) e.2,
        st.ambiguousNames.insert e.1.1, r1⟩
      (fun p => if p = e.1 then
          uniqueStringForKey e.1.1 e.1.2 (f1.setItem (uniqueStringForKey e.1.1 t0 f1) v0)
        else if p = (e.1.1, t0) then uniqueStringForKey e.1.1 t0 f1 else key p) := by
  obtain ⟨hv0, hf1⟩ := PyDict.pop_eq_ok hp1
  have ht0 := (PyDict.pop_eq_ok hp2).1
  rw [inv.removed] at ht0
  -- the one earlier item of this name, stored bare
  obtain ⟨e0, hf, rfl⟩ := soleType_eq_some _ _ ht0
  have hmem0 := List.mem_filter.mp (hf ▸ List.mem_singleton_self e0 : e0 ∈ es.filter _)
  have he0 : e0 ∈ es := hmem0.1
  have hn0 : e0.1.1 = e.1.1 := by simpa using hmem0.2
  have hpair0 : (e.1.1, e0.1.2) = e0.1 := by rw [← hn0]
  have hc1 : nameCount es e.1.1 = 1 := by rw [nameCount_eq_length_filter, hf]; rfl
  have hb := (inv.keyForm e0 he0).bare (by rw [hn0]; exact hc1)
  have hv : v0 = e0.2 := by
    have := (st.filtered.get?_eq_some_iff).mpr (inv.mem_keys he0 hb)
    rw [hn0, hv0] at this; exact Option.some.inj this
  subst hv
  -- the other earlier items have other names
  have hother : ∀ e' ∈ es, e' ≠ e0 → e'.1.1 ≠ e.1.1 := fun e' he' hne h =>
    hne (List.mem_singleton.mp (hf ▸ List.mem_filter.mpr ⟨he', by simpa using h⟩))
  obtain ⟨i1, hi1, hK1, hnot1⟩ := uniqueStringForKey_spec e.1.1 e0.1.2 f1
  obtain ⟨i2, hi2, hK2, hnot2⟩ :=
    uniqueStringForKey_spec e.1.1 e.1.2 (f1.setItem (uniqueStringForKey e.1.1 e0.1.2 f1) e0.2)
  have hne0 : e0.1 ≠ e.1 := ne_of_fresh hfresh he0
  refine ⟨?_, fun m => ?_, fun m => ?_, fun e' he' => ?_⟩
  · -- `filtered` lost the bare item and gained the two re-keyed ones
    obtain ⟨l1, l2, hes⟩ := List.append_of_mem he0
    have hnd' : ((l1 ++ e0 :: l2).map Prod.fst).Nodup := hes ▸ hnd
    rw [PyDict.setItem_of_not_mem _ _ hnot2, PyDict.setItem_of_not_mem _ _ hnot1, hes]
    rw [hes] at hfresh hother
    have hperm1 :=
      perm_filter_key (hes ▸ inv.perm) (show (key e0.1, e0.2).1 = e.1.1 by simp [hb, hn0])
    rw [← hf1] at hperm1
    refine .trans (.of_eq ?_) (perm_rekey hperm1 fun x hx => ?_)
    · simp [hne0, hpair0]
    · have hx' : x ∈ l1 ++ e0 :: l2 :=
        List.mem_append.mpr ((List.mem_append.mp hx).imp id (List.mem_cons_of_mem _))
      have hxe0 : x.1 ≠ e0.1 := fun h => by
        rw [List.map_append, List.map_cons, List.nodup_middle, List.nodup_cons,
          ← List.map_append] at hnd'
        exact hnd'.1 (h ▸ List.mem_map_of_mem Prod.fst hx)
      simp [ne_of_fresh hfresh hx', hpair0, hxe0]
  · rw [List.mem_insert_iff, inv.ambiguous, nameCount_append]
    by_cases h : m = e.1.1
    · subst h; simp [hc1]
    · simp [h, Ne.symm h]
  · rw [PyDict.get?_pop hp2, soleType_append, inv.removed]
    by_cases h : m = e.1.1
    · subst h; simp [hc1]
    · simp [h, Ne.symm h]
  · rcases List.mem_append.mp he' with he' | he'
    · by_cases h0 : e' = e0
      · subst h0
        refine KeyForm.of_bracket hi1 ?_ (by rw [nameCount_append, hn0, hc1]; simp)
        rw [if_neg hne0, if_pos hpair0.symm, hK1, hn0]
      · have hn := hother e' he' h0
        refine (inv.keyForm e' he').mono ?_ (.inl (by simp [nameCount_append, Ne.symm hn]))
        rw [if_neg (ne_of_fresh hfresh he'), if_neg fun h => hn (by rw [h])]
    · obtain rfl := List.mem_singleton.mp he'
      exact KeyForm.of_bracket hi2 (by rw [if_pos rfl, hK2])
        (by rw [nameCount_append, hc1]; simp)

/-- One round of the loop keeps the invariant, whichever branch it takes. -/
theorem stringifyInv_step (inv : StringifyInv es st key) (hnd : ((es ++ [e]).map Prod.fst).Nodup)
    {st' : StringifyState α} (h : stringifyStep st e = .ok st') :
    ∃ key', StringifyInv (es ++ [e]) st' key' := by
  rw [List.map_append, List.nodup_append] at hnd
  have hfresh : e.1 ∉ es.map Prod.fst := fun h => hnd.2.2 h (List.mem_singleton_self _)
  simp only [stringifyStep] at h
  by_cases ha : e.1.1 ∈ st.ambiguousNames
  · rw [if_pos ha] at h
    cases h
    exact ⟨_, stringifyInv_ambiguous inv hfresh ha⟩
  · rw [if_neg ha] at h
    by_cases hk : e.1.1 ∈ st.filtered.keys
    · rw [if_pos hk] at h
      cases hp1 : st.filtered.pop e.1.1 with
      | error => simp [hp1] at h
      | ok r1 =>
        cases hp2 : st.removedTypes.pop e.1.1 with
        | error => simp [hp1, hp2] at h
        | ok r2 =>
          simp only [hp1, hp2, ok_bind] at h
          cases h
          exact ⟨_, stringifyInv_collision inv hnd.1 hfresh hp1 hp2⟩
    · rw [if_neg hk] at h
      cases h
      exact ⟨_, stringifyInv_fresh inv ha hk⟩

end Step

/-- A whole run of the loop from a state with the invariant keeps it. -/
theorem stringifyInv_run (rest : List ((String × String) × α)) :
    ∀ (es : List ((String × String) × α)) (st st' : StringifyState α)
      (key : String × String → String), StringifyInv es st key →
      ((es ++ rest).map Prod.fst).Nodup → rest.foldlM stringifyStep st = .ok st' →
      ∃ key', StringifyInv (es ++ rest) st' key' := by
  induction rest with
  | nil =>
    intro es st st' key inv _ h
    cases h
    exact ⟨key, by rwa [List.append_nil]⟩
  | cons e rest ih =>
    intro es st st' key inv hnd h
    have hsplit : es ++ e :: rest = es ++ [e] ++ rest := by
      rw [List.append_assoc, List.singleton_append]
    rw [List.foldlM_cons] at h
    cases hs : stringifyStep st e with
    | error => rw [hs, error_bind] at h; cases h
    | ok s =>
      rw [hs, ok_bind] at h
      rw [hsplit] at hnd ⊢
      obtain ⟨key1, inv1⟩ :=
        stringifyInv_step inv (hnd.sublist ((List.sublist_append_left _ _).map _)) hs
      exact ih (es ++ [e]) s st' key1 inv1 hnd h

/-! ## What the function returns -/

/-- With distinct name-type pairs, an item's name is unique exactly when one item has it. -/
theorem nameCount_eq_one_iff {es : List ((String × String) × α)}
    (hnd : (es.map Prod.fst).Nodup) {e : (String × String) × α} (he : e ∈ es) :
    nameCount es e.1.1 = 1 ↔ ∀ q ∈ es.map Prod.fst, q.1 = e.1.1 → q = e.1 := by
  constructor
  · rw [nameCount_eq_length_filter, List.length_eq_one]
    rintro ⟨x, hx⟩ q hq hqn
    obtain ⟨e', he', rfl⟩ := List.mem_map.mp hq
    have h1 : e' ∈ [x] := hx ▸ List.mem_filter.mpr ⟨he', by simpa using hqn⟩
    have h2 : e ∈ [x] := hx ▸ List.mem_filter.mpr ⟨he, by simp⟩
    rw [List.mem_singleton] at h1 h2
    rw [h1, h2]
  · -- the items of that name are the ones whose pair is the item's own, and pairs are distinct
    intro hu
    calc nameCount es e.1.1 = (es.map Prod.fst).countP (fun q => q.1 = e.1.1) := by
          simp [nameCount, List.countP_map, Function.comp_def]
      _ = (es.map Prod.fst).countP (fun q => decide (q = e.1)) :=
          List.countP_congr fun q hq => by simpa using ⟨hu q hq, fun h => h ▸ rfl⟩
      _ = 1 := List.count_eq_one_of_mem hnd (List.mem_map_of_mem _ he)

theorem bracketKey_ne (name type_ : String) {i : Nat} (hi : 1 ≤ i) :
    bracketKey name type_ i ≠ name := fun h => by
  have := congrArg String.length h
  rw [length_bracketKey] at this
  omega

/-- Whenever `stringify_metadata_keys` returns a dict, that dict re-keys the input one to one:
`key` maps the input's name-type pairs bijectively onto its keys, keeping every value; an item
keeps its bare name exactly when no other item has that name, and is otherwise under
`name + "<" * i + type + ">" * i` for some `i ≥ 1`. -/
theorem stringify_metadata_keys_rekeys (md : PyDict (String × String) α) {D : PyDict String α}
    (h : stringifyMetadataKeys md = .ok D) :
    ∃ key : String × String → String,
      D.keys ~ md.keys.map key ∧ (md.keys.map key).Nodup ∧
      (∀ p v, (p, v) ∈ md.entries → D.get? (key p) = some v) ∧ D.length = md.length ∧
      ∀ p ∈ md.keys, (key p = p.1 ↔ ∀ q ∈ md.keys, q.1 = p.1 → q = p) ∧
        ((∃ q ∈ md.keys, q.1 = p.1 ∧ q ≠ p) → ∃ i, 1 ≤ i ∧ key p = bracketKey p.1 p.2 i) := by
  unfold stringifyMetadataKeys at h
  cases hr : md.entries.foldlM stringifyStep .init with
  | error => rw [hr] at h; cases h
  | ok st =>
    rw [hr] at h
    cases h
    obtain ⟨key, inv⟩ := stringifyInv_run md.entries [] _ st (fun _ => "") (stringifyInv_init _)
      md.nodup hr
    rw [List.nil_append] at inv
    have hkeys : st.filtered.keys ~ md.keys.map key := by
      simpa [PyDict.keys, List.map_map, Function.comp_def] using inv.perm.map Prod.fst
    refine ⟨key, hkeys, hkeys.nodup_iff.mp st.filtered.nodup, fun p v hpv => ?_, ?_,
      fun p hp => ?_⟩
    · exact st.filtered.get?_eq_some_iff.mpr (inv.perm.mem_iff.mpr (List.mem_map_of_mem _ hpv))
    · simpa [PyDict.length] using inv.perm.length_eq
    · obtain ⟨⟨p, v⟩, hpv, rfl⟩ := List.mem_map.mp hp
      have hbare : nameCount md.entries p.1 = 1 → key p = p.1 := (inv.keyForm _ hpv).bare
      have hwrap : 2 ≤ nameCount md.entries p.1 → ∃ i, 1 ≤ i ∧ key p = bracketKey p.1 p.2 i :=
        (inv.keyForm _ hpv).wrapped
      have hone : nameCount md.entries p.1 = 1 ↔ ∀ q ∈ md.keys, q.1 = p.1 → q = p :=
        nameCount_eq_one_iff md.nodup hpv
      have hpos : 0 < nameCount md.entries p.1 := nameCount_pos _ hpv
      refine ⟨⟨fun hk => hone.mp ?_, fun hu => hbare (hone.mpr hu)⟩, fun ⟨q, hq, hqn, hne⟩ =>
        hwrap ?_⟩
      · by_contra h1
        obtain ⟨i, hi, hki⟩ := hwrap (by omega)
        exact bracketKey_ne p.1 p.2 hi (hki ▸ hk)
      · have : nameCount md.entries p.1 ≠ 1 := fun h1 => hne (hone.mp h1 q hq hqn)
        omega

/-- The items of `test_stringify_types_with_collision`. -/
def collisionMetadata : PyDict (String × String) String :=
  ⟨[(("varname", "typenamea"), "aval"), (("varname", "typenameb"), "bval"),
    (("varnameother", "typenameb"), "cval")], by decide⟩

/-- The dict that test expects, in the order the loop builds it. -/
def collisionKeys : PyDict String String :=
  ⟨[("varname<typenamea>", "aval"), ("varname<typenameb>", "bval"), ("varnameother", "cval")],
    by decide⟩

theorem stringify_metadata_keys_rekeys_collision :
    stringifyMetadataKeys collisionMetadata = .ok collisionKeys ∧
    ∃ key : String × String → String,
      collisionKeys.keys ~ collisionMetadata.keys.map key ∧
      (collisionMetadata.keys.map key).Nodup ∧
      (∀ p v, (p, v) ∈ collisionMetadata.entries → collisionKeys.get? (key p) = some v) ∧
      collisionKeys.length = collisionMetadata.length ∧
      ∀ p ∈ collisionMetadata.keys,
        (key p = p.1 ↔ ∀ q ∈ collisionMetadata.keys, q.1 = p.1 → q = p) ∧
        ((∃ q ∈ collisionMetadata.keys, q.1 = p.1 ∧ q ≠ p) →
          ∃ i, 1 ≤ i ∧ key p = bracketKey p.1 p.2 i) :=
  ⟨rfl, stringify_metadata_keys_rekeys collisionMetadata rfl⟩

/-- After the items `pre`, an item whose name is a key of `filtered` but the name of no earlier
item, such as a `name<type>` key synthesized for an earlier collision, takes the
first-collision branch, where `removed_types.pop(name)` raises `KeyError(name)`. -/
theorem stringify_metadata_keys_raises (pre post : List ((String × String) × α))
    (e : (String × String) × α) (hnd : ((pre ++ e :: post).map Prod.fst).Nodup)
    (st : StringifyState α) (hpre : pre.foldlM stringifyStep .init = .ok st)
    (hname : ∀ e' ∈ pre, e'.1.1 ≠ e.1.1) (hkey : e.1.1 ∈ st.filtered.keys) :
    stringifyMetadataKeys ⟨pre ++ e :: post, hnd⟩ = .error (.keyError e.1.1) := by
  obtain ⟨key, inv⟩ := stringifyInv_run pre [] _ st (fun _ => "") (stringifyInv_init _)
    (hnd.sublist (by simp)) hpre
  rw [List.nil_append] at inv
  have h0 : nameCount pre e.1.1 = 0 := List.countP_eq_zero.mpr fun e' he' => by
    simpa using hname e' he'
  have ha : e.1.1 ∉ st.ambiguousNames := fun h => by
    have := (inv.ambiguous _).mp h; omega
  obtain ⟨v0, f1, hp1⟩ := PyDict.pop_of_mem _ hkey
  have hp2 : st.removedTypes.pop e.1.1 = .error (.keyError e.1.1) := by
    unfold PyDict.pop
    rw [inv.removed, soleType_eq_none _ _ (by omega)]
  have hstep : stringifyStep st e = .error (.keyError e.1.1) := by
    simp only [stringifyStep, if_neg ha, if_pos hkey, hp1, hp2, ok_bind]
    rfl
  simp only [stringifyMetadataKeys, List.foldlM_append, hpre, List.foldlM_cons, ok_bind,
    hstep]
  rfl

/-- The entries `("a", "t")`, `("a", "u")`, `("a<t>", "x")`: the collision on `a` stores the first
item under `a<t>`, and the third item's name is that key. -/
theorem stringify_metadata_keys_raises_on_synthesized_name :
    stringifyMetadataKeys
        (⟨[(("a", "t"), 1), (("a", "u"), 2), (("a<t>", "x"), 3)], by decide⟩ :
          PyDict (String × String) Nat) = .error (.keyError "a<t>") :=
  stringify_metadata_keys_raises [(("a", "t"), 1), (("a", "u"), 2)] [] (("a<t>", "x"), 3) _ _ rfl
    (by decide) (by decide)

end Pyvrs
