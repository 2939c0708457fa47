import Pyvrs.Python.Dict
import Pyvrs.Python.Str

/-!
# `pyvrs.utils`

The set filter behind `filtered_by_fields`, the key resolver behind
`VRSRecord.metadata_blocks` and the file tags table of `__str__`, as the Python code computes
them:

* `filterSetOnCondition` runs the two nested loops of `_filter_set_on_condition`. The inner
  loop iterates `items` once per element of the set, which restarts a collection but continues
  a one-shot iterator where the previous round stopped; `PyIterable` keeps that difference.
* `uniqueStringForKey` is the `while True` loop of `_unique_string_for_key`; it runs at most
  `len(dict_) + 1` rounds because its candidate keys have strictly growing lengths
  (`uniqueStringForKeyLoop_isSome`).
* `stringifyMetadataKeys` is the loop of `stringify_metadata_keys` over its three local
  variables, one `stringifyStep` per item.
* `tagsToJustifiedTableStr` builds the table row by row; `tags_table_is_justified` gives its
  layout: the bars in one column and the closing rule as wide as the longest row.
-/

namespace Pyvrs

variable {α : Type}

/-! ## Sets filtered by a condition -/

/-- An argument Python iterates over. A collection (set, list, tuple) hands each `for` loop a
fresh iterator; a one-shot iterator (a generator) is its own iterator, so each `for` loop over it
continues where the previous one stopped. -/
inductive PyIterable (α : Type) where
  | collection (items : List α)
  | iterator (items : List α)

/-- The items the next `for` loop over the iterable sees. -/
def PyIterable.pending : PyIterable α → List α
  | .collection xs => xs
  | .iterator xs => xs

/-- The iterable after a `for` loop that stopped with `rest` unread. -/
def PyIterable.resume : PyIterable α → List α → PyIterable α
  | .collection xs, _ => .collection xs
  | .iterator _, rest => .iterator rest

/-- The inner loop `for b in items: if cond_func(a, b): filtered.add(a); break`: whether it hit
the `break`, and the items it left unread. -/
def scanItems (condFunc : α → α → Bool) (a : α) : List α → Bool × List α
  | [] => (false, [])
  | b :: rest => if condFunc a b then (true, rest) else scanItems condFunc a rest

/-- The outer loop `for a in s` of `_filter_set_on_condition`, over `s` in iteration order. -/
def filterSetOnConditionLoop [DecidableEq α] (condFunc : α → α → Bool) :
    List α → PyIterable α → List α → List α
  | [], _, filtered => filtered
  | a :: s, items, filtered =>
    let scan := scanItems condFunc a items.pending
    filterSetOnConditionLoop condFunc s (items.resume scan.2)
      (if scan.1 then filtered.insert a else filtered)

/-- `_filter_set_on_condition(s, items, cond_func)`, with the set `s` given in its iteration
order. The resulting set is kept as a list without repetitions. -/
def filterSetOnCondition [DecidableEq α] (s : List α) (items : PyIterable α)
    (condFunc : α → α → Bool) : List α :=
  filterSetOnConditionLoop condFunc s items []

/-- `filter_by_stream_ids(available_stream_ids, regex_stream_ids)`; `fnmatch(name, pattern)` is
Python's `fnmatch.fnmatch`, taken as a parameter. -/
def filterByStreamIds (fnmatch : String → String → Bool) (availableStreamIds : List String)
    (regexStreamIds : PyIterable String) : List String :=
  filterSetOnCondition availableStreamIds regexStreamIds fnmatch

/-- `filter_by_record_type(available_record_types, requested_record_types)`: exact matches. -/
def filterByRecordType (availableRecordTypes : List String)
    (requestedRecordTypes : PyIterable String) : List String :=
  filterSetOnCondition availableRecordTypes requestedRecordTypes fun a b => a == b

/-! ## Unique keys -/

/-- `s * n` for a string `s`. -/
def strMul (s : String) : Nat → String
  | 0 => ""
  | n + 1 => strMul s n ++ s

/-- The key tried in round `i` of `_unique_string_for_key`: `name + "<" * i + type_ + ">" * i`. -/
def bracketKey (name type_ : String) (i : Nat) : String :=
  name ++ strMul "<" i ++ type_ ++ strMul ">" i

/-- The `while True` loop of `_unique_string_for_key`, from round `i` with at most `fuel` rounds
left: return the first candidate that is not a key of `dict_`. -/
def uniqueStringForKeyLoop (name type_ : String) (dict_ : PyDict String α) (i : Nat) :
    Nat → Option String
  | 0 => none
  | fuel + 1 =>
    if bracketKey name type_ i ∉ dict_.keys then some (bracketKey name type_ i)
    else uniqueStringForKeyLoop name type_ dict_ (i + 1) fuel

theorem length_strMul (s : String) (n : Nat) : (strMul s n).length = s.length * n := by
  induction n with
  | zero => rfl
  | succ n ih => rw [strMul, String.length_append, ih, Nat.mul_succ]

theorem length_bracketKey (name type_ : String) (i : Nat) :
    (bracketKey name type_ i).length = name.length + type_.length + 2 * i := by
  have h1 : "<".length = 1 := rfl
  have h2 : ">".length = 1 := rfl
  simp only [bracketKey, String.length_append, length_strMul, h1, h2]
  omega

theorem bracketKey_injective (name type_ : String) : Function.Injective (bracketKey name type_) :=
  fun i j h => by have := congrArg String.length h; simp only [length_bracketKey] at this; omega

/-- A loop that finds nothing has met a taken key in every round it ran. -/
theorem mem_keys_of_uniqueStringForKeyLoop_eq_none {name type_ : String} {dict_ : PyDict String α}
    {i fuel : Nat} (h : uniqueStringForKeyLoop name type_ dict_ i fuel = none) :
    ∀ j ∈ List.range' i fuel, bracketKey name type_ j ∈ dict_.keys := by
  induction fuel generalizing i with
  | zero => simp
  | succ fuel ih =>
    unfold uniqueStringForKeyLoop at h
    split at h
    · cases h
    · rename_i taken
      intro j hj
      rw [List.range'_succ, List.mem_cons] at hj
      rcases hj with rfl | hj
      · exact not_not.mp taken
      · exact ih h j hj

/-- The loop always ends within `len(dict_) + 1` rounds: the candidates of those rounds are
pairwise distinct, so they cannot all be keys of `dict_`. -/
theorem uniqueStringForKeyLoop_isSome (name type_ : String) (dict_ : PyDict String α) :
    (uniqueStringForKeyLoop name type_ dict_ 1 (dict_.length + 1)).isSome := by
  cases h : uniqueStringForKeyLoop name type_ dict_ 1 (dict_.length + 1) with
  | some _ => rfl
  | none =>
    have taken := mem_keys_of_uniqueStringForKeyLoop_eq_none h
    have distinct := (List.nodup_range' 1 (dict_.length + 1)).map (bracketKey_injective name type_)
    have := (distinct.subperm fun k hk => by
      obtain ⟨j, hj, rfl⟩ := List.mem_map.mp hk
      exact taken j hj).length_le
    simp [PyDict.length_eq_length_keys] at this

/-- `_unique_string_for_key(name, type_, dict_)`: the first of `name<type_>`, `name<<type_>>`,
… that is not a key of `dict_`. -/
def uniqueStringForKey (name type_ : String) (dict_ : PyDict String α) : String :=
  (uniqueStringForKeyLoop name type_ dict_ 1 (dict_.length + 1)).get
    (uniqueStringForKeyLoop_isSome name type_ dict_)

/-- What the loop returns is a candidate of a round it ran, and not a key of `dict_`. -/
theorem uniqueStringForKeyLoop_eq_some {name type_ : String} {dict_ : PyDict String α}
    {i fuel : Nat} {key : String} (h : uniqueStringForKeyLoop name type_ dict_ i fuel = some key) :
    ∃ j, i ≤ j ∧ key = bracketKey name type_ j ∧ key ∉ dict_.keys := by
  induction fuel generalizing i with
  | zero => cases h
  | succ fuel ih =>
    unfold uniqueStringForKeyLoop at h
    split at h
    · cases h
      exact ⟨i, le_rfl, rfl, ‹_›⟩
    · obtain ⟨j, hj, rfl, hk⟩ := ih h
      exact ⟨j, by omega, rfl, hk⟩

/-- From round `i`, with the candidates of rounds `i`, …, `i + k - 1` taken and that of round
`i + k` free, the loop returns the free one exactly when it has more than `k` rounds left. -/
theorem uniqueStringForKeyLoop_of_free {name type_ : String} {dict_ : PyDict String α}
    {i k : Nat} (htaken : ∀ j, i ≤ j → j < i + k → bracketKey name type_ j ∈ dict_.keys)
    (hfree : bracketKey name type_ (i + k) ∉ dict_.keys) (fuel : Nat) :
    uniqueStringForKeyLoop name type_ dict_ i fuel =
      if k < fuel then some (bracketKey name type_ (i + k)) else none := by
  induction k generalizing i fuel with
  | zero =>
    cases fuel with
    | zero => rfl
    | succ fuel =>
      rw [Nat.add_zero] at hfree
      simp [uniqueStringForKeyLoop, hfree]
  | succ k ih =>
    cases fuel with
    | zero => rfl
    | succ fuel =>
      have hshift : i + 1 + k = i + (k + 1) := by omega
      rw [uniqueStringForKeyLoop, if_neg (not_not.mpr (htaken i le_rfl (by omega))),
        ih (fun j h1 h2 => htaken j (by omega) (by omega)) (hshift ▸ hfree), hshift]
      simp only [Nat.add_lt_add_iff_right]

/-- The key built is `name<…type_…>` with at least one bracket pair, and is fresh. -/
theorem uniqueStringForKey_spec (name type_ : String) (dict_ : PyDict String α) :
    ∃ i, 1 ≤ i ∧ uniqueStringForKey name type_ dict_ = bracketKey name type_ i ∧
      uniqueStringForKey name type_ dict_ ∉ dict_.keys :=
  uniqueStringForKeyLoop_eq_some (Option.some_get _).symm

/-! ## Metadata keys -/

/-- The local variables of `stringify_metadata_keys` between two rounds of its loop. -/
structure StringifyState (α : Type) where
  filtered : PyDict String α
  ambiguousNames : List String
  removedTypes : PyDict String String

/-- One round of the loop of `stringify_metadata_keys`, on the item `((name, type_), value)`. -/
def stringifyStep (st : StringifyState α) (item : (String × String) × α) :
    Except PyError (StringifyState α) :=
  let name := item.1.1
  let type_ := item.1.2
  let value := item.2
  if name ∈ st.ambiguousNames then
    -- the name is already overloaded: store it under `name<type_>`
    .ok { st with filtered := st.filtered.setItem (uniqueStringForKey name type_ st.filtered) value }
  else if name ∈ st.filtered.keys then do
    -- first collision: re-key the bare entry and the new one, mark the name ambiguous
    let (oldValue, filtered) ← st.filtered.pop name
    let (oldType, removedTypes) ← st.removedTypes.pop name
    let filtered := filtered.setItem (uniqueStringForKey name oldType filtered) oldValue
    let filtered := filtered.setItem (uniqueStringForKey name type_ filtered) value
    .ok ⟨filtered, st.ambiguousNames.insert name, removedTypes⟩
  else
    -- unambiguous so far: store it bare and remember its type
    .ok { st with
      filtered := st.filtered.setItem name value
      removedTypes := st.removedTypes.setItem name type_ }

/-- The state before the first round: `filtered = {}`, `ambiguous_names = set()`,
`removed_types = {}`. -/
def StringifyState.init : StringifyState α := ⟨.empty, [], .empty⟩

/-- `stringify_metadata_keys(metadata_dict)`: one `stringifyStep` per item, in order. -/
def stringifyMetadataKeys (metadataDict : PyDict (String × String) α) :
    Except PyError (PyDict String α) :=
  (·.filtered) <$> metadataDict.entries.foldlM stringifyStep .init

/-! ## The file tags table -/

/-- `tag_width`: the length of the longest tag name. -/
def tagWidth (tags : PyDict String String) : Nat := (tags.keys.map String.length).foldl max 0

/-- `table_width`: the length of the longest row. -/
def tableWidth (tableContent : List String) : Nat := (tableContent.map String.length).foldl max 0

/-- The row of tag `k`, `"{}| {}".format(k.rjust(tag_width), tags[k])`. -/
def tableRow (tags : PyDict String String) (k : String) : Except PyError String := do
  let v ← tags.getItem k
  pure (pyRjust k (tagWidth tags) ++ "| " ++ v)

/-- `tags_to_justified_table_str`: the title centred in a rule of dashes, one row per tag in
sorted order, and a closing rule, title and rules as wide as the longest row. -/
def tagsToJustifiedTableStr (tags : PyDict String String) : Except PyError String :=
  if tags.length = 0 then .ok "File contains no file tags."
  else do
    let tableContent ← (tags.keys.insertionSort (· ≤ ·)).mapM (tableRow tags)
    pure (String.intercalate "\n"
      (pyCenter " FILE TAGS " (tableWidth tableContent) '-' :: tableContent ++
        [strMul "-" (tableWidth tableContent)]))

theorem le_foldl_max : ∀ {l : List Nat} {a acc : Nat}, a ∈ l ∨ a ≤ acc → a ≤ l.foldl max acc
  | [], _, _, h => by simpa using h
  | b :: l, a, acc, h => by
    refine le_foldl_max (l := l) ?_
    rcases h with h | h
    · rcases List.mem_cons.mp h with rfl | h
      · exact .inr (le_max_right _ _)
      · exact .inl h
    · exact .inr (le_max_of_le_left h)

theorem foldl_max_mem : ∀ (l : List Nat) (acc : Nat), l.foldl max acc ∈ acc :: l
  | [], acc => List.mem_singleton_self acc
  | b :: l, acc => by
    rcases List.mem_cons.mp (foldl_max_mem l (max acc b)) with h | h
    · rw [List.foldl_cons, h]
      rcases max_choice acc b with hm | hm <;> rw [hm] <;> simp
    · exact List.mem_cons_of_mem _ (List.mem_cons_of_mem _ h)

/-- The largest of a non-empty list of lengths is one of them. -/
theorem exists_mem_foldl_max {l : List Nat} (hl : l ≠ []) : ∃ a ∈ l, a = l.foldl max 0 := by
  rcases List.mem_cons.mp (foldl_max_mem l 0) with h | h
  · obtain ⟨b, l', rfl⟩ := List.exists_cons_of_ne_nil hl
    have : b ≤ (b :: l').foldl max 0 := le_foldl_max (.inl (List.mem_cons_self _ _))
    exact ⟨b, List.mem_cons_self _ _, by omega⟩
  · exact ⟨_, h, rfl⟩

theorem strMul_dash (n : Nat) : strMul "-" n = ⟨List.replicate n '-'⟩ := by
  induction n with
  | zero => rfl
  | succ n ih =>
    rw [strMul, ih, List.replicate_succ']
    rfl

theorem exists_of_mem_of_forall₂ {β : Type} {R : α → β → Prop} {l₁ : List α} {l₂ : List β}
    (h : List.Forall₂ R l₁ l₂) {b : β} (hb : b ∈ l₂) : ∃ a ∈ l₁, R a b := by
  induction h with
  | nil => simp at hb
  | cons hab _ ih =>
    rcases List.mem_cons.mp hb with rfl | hb
    · exact ⟨_, List.mem_cons_self _ _, hab⟩
    · obtain ⟨a, ha, h⟩ := ih hb
      exact ⟨a, List.mem_cons_of_mem _ ha, h⟩

/-- The row of a tag: the name right-justified to `tag_width`, a bar, a space and the value. -/
theorem tableRow_of_mem {tags : PyDict String String} {k : String} (hk : k ∈ tags.keys) :
    ∃ v row, tags.get? k = some v ∧ tableRow tags k = .ok row ∧
      row.toList = List.replicate (tagWidth tags - k.length) ' ' ++ k.toList ++
        '|' :: ' ' :: v.toList := by
  obtain ⟨v, hv⟩ := (PyDict.mem_keys_iff tags).mp hk
  refine ⟨v, _, hv, by simp only [tableRow, PyDict.getItem, hv]; rfl, ?_⟩
  simp only [String.toList, String.data_append, pyRjust, List.append_assoc]
  rfl

/-- A row right-justified to a width no name exceeds has its bar at that column. -/
theorem getElem?_of_row {w : Nat} {k v : String} {row : List Char} (hw : k.length ≤ w)
    (hrow : row = List.replicate (w - k.length) ' ' ++ k.toList ++ '|' :: ' ' :: v.toList) :
    row[w]? = some '|' := by
  have hlen : (List.replicate (w - k.length) ' ' ++ k.toList).length = w := by
    simp only [List.length_append, List.length_replicate, String.length, String.toList] at hw ⊢
    omega
  rw [hrow, List.getElem?_append_right hlen.le, hlen, Nat.sub_self]
  rfl

/-- The loop over the sorted names builds one row per name. -/
theorem mapM_tableRow {tags : PyDict String String} :
    ∀ {keys : List String}, (∀ k ∈ keys, k ∈ tags.keys) →
      ∃ rows, keys.mapM (tableRow tags) = .ok rows ∧
        List.Forall₂ (fun k row => ∃ v, tags.get? k = some v ∧
          row.toList = List.replicate (tagWidth tags - k.length) ' ' ++ k.toList ++
            '|' :: ' ' :: v.toList) keys rows
  | [], _ => ⟨[], rfl, .nil⟩
  | k :: keys, h => by
    obtain ⟨v, row, hv, hk, hrow⟩ := tableRow_of_mem (h k (List.mem_cons_self _ _))
    obtain ⟨rows, hrows, hall⟩ := mapM_tableRow fun k' hk' => h k' (List.mem_cons_of_mem _ hk')
    refine ⟨row :: rows, ?_, .cons ⟨v, hv, hrow⟩ hall⟩
    simp only [List.mapM_cons, hk, hrows]
    rfl

/-- `tags_to_justified_table_str` lays the tags out as a table: no tags give the one sentence;
otherwise the names in sorted order give one row each, right-justified to the longest name `w`,
so that every bar stands at column `w`; the closing rule is a run of dashes exactly as long as
the longest row `W`; and the title is centred in a rule of that width, the odd dash on the
right, or stands alone, eleven characters long, over shorter rows. -/
theorem tags_table_is_justified (tags : PyDict String String) :
    (tags.length = 0 → tagsToJustifiedTableStr tags = .ok "File contains no file tags.") ∧
    (tags.length ≠ 0 → ∃ (keys rows : List String) (title : String) (w W : Nat),
      tagsToJustifiedTableStr tags =
        .ok (String.intercalate "\n" (title :: rows ++ [⟨List.replicate W '-'⟩])) ∧
      keys.Perm tags.keys ∧ keys.Sorted (· ≤ ·) ∧
      (∀ k ∈ keys, k.length ≤ w) ∧ (∃ k ∈ keys, k.length = w) ∧
      List.Forall₂ (fun k row => ∃ v, tags.get? k = some v ∧
        row.toList = List.replicate (w - k.length) ' ' ++ k.toList ++ '|' :: ' ' :: v.toList)
        keys rows ∧
      (∀ row ∈ rows, row.toList[w]? = some '|' ∧ row.length ≤ W) ∧
      (∃ row ∈ rows, row.length = W) ∧
      ∃ l r, title.toList =
          List.replicate l '-' ++ " FILE TAGS ".toList ++ List.replicate r '-' ∧
        l + 11 + r = max W 11 ∧ l ≤ r ∧ r ≤ l + 1) := by
  refine ⟨fun h => if_pos h, fun h => ?_⟩
  have hperm := List.perm_insertionSort (· ≤ ·) tags.keys
  obtain ⟨rows, hmap, hrows⟩ := mapM_tableRow fun k hk => hperm.subset hk
  have hkeys : tags.keys ≠ [] := fun he => h (by rw [PyDict.length_eq_length_keys, he]; rfl)
  have hrowsne : rows ≠ [] := fun he => hkeys (List.eq_nil_of_length_eq_zero (by
    rw [← hperm.length_eq, hrows.length_eq, he]; rfl))
  have hw : ∀ k ∈ tags.keys, k.length ≤ tagWidth tags := fun k hk =>
    le_foldl_max (.inl (List.mem_map_of_mem _ hk))
  obtain ⟨l, r, htitle, hlen, hlr⟩ := pyCenter_shape " FILE TAGS " (tableWidth rows) '-' rfl
  obtain ⟨_, hlk, hkw⟩ := exists_mem_foldl_max (List.map_eq_nil_iff.not.mpr hkeys)
  obtain ⟨k, hk, rfl⟩ := List.mem_map.mp hlk
  obtain ⟨_, hlrow, hrowW⟩ := exists_mem_foldl_max (List.map_eq_nil_iff.not.mpr hrowsne)
  obtain ⟨row, hrow, rfl⟩ := List.mem_map.mp hlrow
  refine ⟨_, rows, _, tagWidth tags, tableWidth rows, ?_, hperm, List.sorted_insertionSort _ _,
    fun k hk => hw k (hperm.subset hk), ⟨k, hperm.mem_iff.mpr hk, hkw⟩, hrows,
    fun row hrow => ⟨?_, le_foldl_max (.inl (List.mem_map_of_mem _ hrow))⟩, ⟨row, hrow, hrowW⟩,
    l, r, htitle, hlen, hlr⟩
  · simp only [tagsToJustifiedTableStr, if_neg h, hmap, strMul_dash]
    rfl
  · obtain ⟨k, hk, v, -, hrowk⟩ := exists_of_mem_of_forall₂ hrows hrow
    exact getElem?_of_row (hw k (hperm.subset hk)) hrowk

end Pyvrs
