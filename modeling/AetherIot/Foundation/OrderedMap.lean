import Mathlib

/-!
# Ordered finite maps

`BTreeMap K V` is the extensional balanced-tree map of the standard library, read in the vocabulary
of an ordered map: first key, values in key order, and the two half-open ranges of keys.  A map
keyed by machine words whose keys are exactly one interval is a *window*; the last section computes
its first key and its ranges.
-/

namespace OrderedMap

open Std

/-- An ordered map, determined by its lookups. -/
abbrev BTreeMap (K V : Type) [Ord K] := Std.ExtTreeMap K V compare

section Lookup

variable {K V : Type} [Ord K] [Std.TransOrd K] [Std.LawfulEqOrd K] (map : BTreeMap K V)

/-- The values in ascending key order. -/
def valueList : List V := map.toList.map Prod.snd

/-- The smallest key, if there is one. -/
def firstKey : Option K := map.keys.head?

/-- Remove the listed keys one after another. -/
def removeAll (keys : List K) : BTreeMap K V :=
  keys.foldl (fun remaining key => remaining.erase key) map

/-- The keys at or below `bound`, in ascending order. -/
def keysThrough (bound : K) : List K :=
  map.keys.filter fun key => (compare key bound).isLE

/-- The entries at or above `start`, in ascending key order. -/
def entriesFrom (start : K) : List (K × V) :=
  map.toList.filter fun entry => (compare start entry.1).isLE

variable {map : BTreeMap K V} {value : V} {test : V → Bool} {key : K}

theorem mem_valueList : value ∈ valueList map ↔ ∃ key : K, map[key]? = some value := by
  simp only [valueList, List.mem_map, Prod.exists, exists_eq_right]
  simp only [ExtTreeMap.mem_toList_iff_getElem?_eq_some]

omit [Std.LawfulEqOrd K] in
theorem length_valueList (map : BTreeMap K V) : (valueList map).length = map.size := by
  simp [valueList, ExtTreeMap.length_toList]

theorem valueList_find?_eq_none : (valueList map).find? test = none ↔
      ∀ (key : K) (value : V), map[key]? = some value → test value = false := by
  simp only [List.find?_eq_none, mem_valueList, Bool.not_eq_true]
  exact ⟨fun absent key value present => absent value ⟨key, present⟩,
    fun absent value ⟨key, present⟩ => absent key value present⟩

theorem of_valueList_find?_eq_some (found : (valueList map).find? test = some value) :
    test value = true ∧ ∃ key : K, map[key]? = some value :=
  ⟨List.find?_some found, mem_valueList.mp (List.mem_of_find?_eq_some found)⟩

theorem getElem?_removeAll [DecidableEq K] (map : BTreeMap K V) (keys : List K) (key : K) :
    (removeAll map keys)[key]? = if key ∈ keys then none else map[key]? := by
  induction keys generalizing map with
  | nil => simp [removeAll]
  | cons head keys ih =>
    have unfolded : removeAll map (head :: keys) = removeAll (map.erase head) keys := rfl
    rw [unfolded, ih, ExtTreeMap.getElem?_erase]
    by_cases same : head = key
    · simp [same]
    · simp [same, Ne.symm same]

theorem firstKey_eq_some_iff :
    firstKey map = some key ↔ key ∈ map ∧ ∀ other ∈ map, (compare key other).isLE := by
  rw [firstKey, ← ExtTreeMap.minKey?_eq_head?_keys]
  exact ExtTreeMap.minKey?_eq_some_iff_mem_and_forall

omit [Std.LawfulEqOrd K] in
theorem firstKey_eq_none_iff : firstKey map = none ↔ map = ∅ := by
  rw [firstKey, ← ExtTreeMap.minKey?_eq_head?_keys]
  exact ExtTreeMap.minKey?_eq_none_iff

omit [Std.LawfulEqOrd K] in
theorem exists_firstKey (nonempty : 0 < map.size) : ∃ key, firstKey map = some key := by
  cases first : firstKey map with
  | some key => exact ⟨key, rfl⟩
  | none =>
    rw [firstKey_eq_none_iff.mp first] at nonempty
    simp at nonempty

theorem mem_keysThrough {bound : K} :
    key ∈ keysThrough map bound ↔ key ∈ map ∧ (compare key bound).isLE := by
  simp [keysThrough, ExtTreeMap.mem_keys]

theorem mem_entriesFrom {start : K} : (key, value) ∈ entriesFrom map start ↔
      map[key]? = some value ∧ (compare start key).isLE := by
  simp [entriesFrom, ExtTreeMap.mem_toList_iff_getElem?_eq_some]

/-- Insert values under their own keys, one after another. -/
def insertAll (key : V → K) (map : BTreeMap K V) (values : List V) : BTreeMap K V :=
  values.foldl (fun grown value => grown.insert (key value) value) map

theorem map_key_valueList {key : V → K}
    (keyed : ∀ (position : K) (value : V), map[position]? = some value → key value = position) :
    (valueList map).map key = map.keys := by
  rw [valueList, List.map_map, ← ExtTreeMap.map_fst_toList_eq_keys]
  apply List.map_congr_left
  rintro ⟨position, value⟩ member
  exact keyed position value (ExtTreeMap.mem_toList_iff_getElem?_eq_some.mp member)

theorem nodup_map_key_valueList {key : V → K}
    (keyed : ∀ (position : K) (value : V), map[position]? = some value → key value = position) :
    ((valueList map).map key).Nodup :=
  map_key_valueList keyed ▸ ExtTreeMap.nodup_keys

/-- A function that tells the entries of a map apart has no repeated value on them. -/
theorem nodup_map_valueList {W : Type} {read : V → W}
    (injective : ∀ (key other : K) (left right : V), map[key]? = some left →
      map[other]? = some right → read left = read right → key = other) :
    ((valueList map).map read).Nodup := by
  rw [valueList, List.map_map, List.Nodup, List.pairwise_map]
  apply List.Pairwise.imp_of_mem _ (ExtTreeMap.ordered_keys_toList (t := map))
  rintro ⟨key, left⟩ ⟨other, right⟩ leftMember rightMember below same
  rw [ExtTreeMap.mem_toList_iff_getElem?_eq_some] at leftMember rightMember
  have equal := injective key other left right leftMember rightMember same
  simp [equal] at below

theorem getElem?_insertAll [DecidableEq K] {key : V → K} {values : List V}
    (distinct : (values.map key).Nodup) (map : BTreeMap K V) (position : K) :
    (insertAll key map values)[position]? =
      (values.find? fun value => key value = position).or map[position]? := by
  induction values generalizing map with
  | nil => rfl
  | cons value values ih =>
    rw [List.map_cons, List.nodup_cons] at distinct
    have unfolded : insertAll key map (value :: values) =
        insertAll key (map.insert (key value) value) values := rfl
    rw [unfolded, ih distinct.2, ExtTreeMap.getElem?_insert]
    by_cases same : key value = position
    · have missing : (values.find? fun other => key other = position) = none := by
        rw [List.find?_eq_none]
        intro _ _
        have := distinct.1
        grind
      simp [same, missing]
    · simp [same]

/-- A map whose values know their keys is rebuilt by inserting the values. -/
theorem insertAll_valueList [DecidableEq K] {key : V → K}
    (keyed : ∀ (position : K) (value : V), map[position]? = some value → key value = position) :
    insertAll key ∅ (valueList map) = map := by
  apply ExtTreeMap.ext_getElem?
  intro position
  rw [getElem?_insertAll (nodup_map_key_valueList keyed)]
  cases found : (valueList map).find? fun value => key value = position with
  | none =>
    cases present : map[position]? with
    | none => simp
    | some value =>
      have absent := List.find?_eq_none.mp found value (mem_valueList.mpr ⟨position, present⟩)
      exact absurd (by simpa using keyed position value present) absent
  | some value =>
    obtain ⟨named, other, present⟩ := of_valueList_find?_eq_some found
    have same : other = position := (keyed other value present).symm.trans (by simpa using named)
    simp [← same, present]

omit [Std.LawfulEqOrd K] in
theorem nodup_keys_toList (map : BTreeMap K V) : (map.toList.map Prod.fst).Nodup := by
  rw [ExtTreeMap.map_fst_toList_eq_keys]
  exact ExtTreeMap.nodup_keys

theorem getElem?_insertMany_empty [DecidableEq K] {entries : List (K × V)}
    (distinct : (entries.map Prod.fst).Nodup) :
    ((∅ : BTreeMap K V).insertMany entries)[key]? = some value ↔ (key, value) ∈ entries := by
  have apart : entries.Pairwise fun left right => ¬ compare left.1 right.1 = .eq := by
    simp only [Std.compare_eq_iff_eq]
    exact List.pairwise_map.mp distinct
  constructor
  · intro present
    have named : key ∈ entries.map Prod.fst := by
      by_contra absent
      rw [ExtTreeMap.getElem?_insertMany_list_of_contains_eq_false (by simpa using absent)]
        at present
      simp at present
    obtain ⟨⟨_, _⟩, member, rfl⟩ := List.mem_map.mp named
    rw [ExtTreeMap.getElem?_insertMany_list_of_mem (Std.compare_self) apart member] at present
    cases present
    exact member
  · exact ExtTreeMap.getElem?_insertMany_list_of_mem Std.compare_self apart

/-- A map is rebuilt by inserting its entries. -/
theorem insertMany_toList [DecidableEq K] (map : BTreeMap K V) :
    (∅ : BTreeMap K V).insertMany map.toList = map := by
  apply ExtTreeMap.ext_getElem?
  intro _
  apply Option.ext
  intro _
  rw [getElem?_insertMany_empty (nodup_keys_toList map), ExtTreeMap.mem_toList_iff_getElem?_eq_some]

/-- A fold that succeeds at every item, described by the state after each prefix. -/
theorem foldlM_images {α β σ ε : Type} {step : σ → β → Except ε σ} (image : List α → σ)
    {write : α → β} {items : List α}
    (steps : ∀ front item back, items = front ++ item :: back →
      step (image front) (write item) = .ok (image (front ++ [item]))) :
    (items.map write).foldlM step (image []) = .ok (image items) := by
  have onward : ∀ back front, items = front ++ back →
      (back.map write).foldlM step (image front) = .ok (image items) := by
    intro back
    induction back with
    | nil =>
      intro front whole
      rw [whole, List.append_nil]
      rfl
    | cons item back ih =>
      intro front whole
      rw [List.map_cons, List.foldlM_cons, steps front item back whole]
      exact ih (front ++ [item]) (by simpa using whole)
  exact onward items [] rfl

theorem not_mem_insertMany [DecidableEq K] {front back : List (K × V)} {entry : K × V}
    (distinct : ((front ++ entry :: back).map Prod.fst).Nodup) :
    entry.1 ∉ (∅ : BTreeMap K V).insertMany front := by
  rw [ExtTreeMap.mem_insertMany_list]
  rw [List.map_append, List.map_cons, List.nodup_append] at distinct
  rintro (absent | listed)
  · simp at absent
  · exact distinct.2.2 entry.1 (by simpa using listed) entry.1 List.mem_cons_self rfl

/-- A fold that inserts the entries of a map one by one rebuilds the map. -/
theorem foldlM_insert [DecidableEq K] {β ε : Type}
    {step : BTreeMap K V → β → Except ε (BTreeMap K V)} {write : K × V → β}
    (steps : ∀ (grown : BTreeMap K V) (key : K) (value : V), map[key]? = some value →
      key ∉ grown → step grown (write (key, value)) = .ok (grown.insert key value)) :
    (map.toList.map write).foldlM step ∅ = .ok map := by
  have folded : (map.toList.map write).foldlM step ((∅ : BTreeMap K V).insertMany []) =
      .ok ((∅ : BTreeMap K V).insertMany map.toList) := by
    apply foldlM_images
    rintro _ ⟨key, value⟩ _ whole
    have member : (key, value) ∈ map.toList := by simp [whole]
    rw [ExtTreeMap.mem_toList_iff_getElem?_eq_some] at member
    rw [steps _ key value member (not_mem_insertMany (whole ▸ nodup_keys_toList map)),
      ExtTreeMap.insertMany_append, ExtTreeMap.insertMany_list_singleton]
  rw [ExtTreeMap.insertMany_nil, insertMany_toList] at folded
  exact folded

end Lookup

section Window

variable {V : Type} {map : BTreeMap UInt64 V} {first next : UInt64}

/-- The keys of `map` are exactly the interval `[first, next)`. -/
structure Window (map : BTreeMap UInt64 V) (first next : UInt64) : Prop where
  /-- The interval is not reversed. -/
  ordered : first ≤ next
  /-- Membership is membership in the interval. -/
  mem_iff : ∀ key, key ∈ map ↔ first ≤ key ∧ key < next

namespace Window

theorem empty (next : UInt64) : Window (∅ : BTreeMap UInt64 V) next next where
  ordered := UInt64.le_refl next
  mem_iff key := by grind

/-- The first key of a window, with the upper end standing in for an empty window. -/
theorem firstKey_getD (window : Window map first next) : (firstKey map).getD next = first := by
  cases smallest : firstKey map with
  | none =>
    have vacant := firstKey_eq_none_iff.mp smallest
    have outside : ¬ first < next := by
      intro below
      have member := (window.mem_iff first).mpr ⟨UInt64.le_refl first, below⟩
      simp [vacant] at member
    have := window.ordered
    grind
  | some key =>
    obtain ⟨member, least⟩ := firstKey_eq_some_iff.mp smallest
    have bounds := (window.mem_iff key).mp member
    have below : first < next := by grind
    have := least first ((window.mem_iff first).mpr ⟨UInt64.le_refl first, below⟩)
    rw [Std.isLE_compare] at this
    simp only [Option.getD_some]
    grind

variable {key : UInt64}

section

variable (window : Window map first next)

include window

theorem firstKey_eq_some (smallest : firstKey map = some key) : key = first ∧ first < next := by
  have value := window.firstKey_getD
  rw [smallest] at value
  have member := (firstKey_eq_some_iff.mp smallest).1
  have bounds := (window.mem_iff key).mp member
  exact ⟨value, by grind⟩

/-- Allocating the upper end extends the window. -/
theorem insert_next {after : UInt64} (successor : next < after ∧ after = next + 1) (value : V) :
    Window (map.insert next value) first after where
  ordered := by have := window.ordered; grind
  mem_iff key := by
    have := window.mem_iff key
    have := window.ordered
    rw [ExtTreeMap.mem_insert, Std.compare_eq_iff_eq]
    grind

/-- Evicting the first key shortens the window. -/
theorem erase_first (nonempty : first < next) : Window (map.erase first) (first + 1) next where
  ordered := by grind
  mem_iff key := by
    have := window.mem_iff key
    rw [ExtTreeMap.mem_erase, Ne, Std.compare_eq_iff_eq]
    grind

/-- Removing every key through a retained bound leaves the window above it. -/
theorem removeThrough {bound : UInt64} (lower : first ≤ bound) (upper : bound < next) :
    Window (removeAll map (keysThrough map bound)) (bound + 1) next where
  ordered := by grind
  mem_iff key := by
    have := window.mem_iff key
    rw [ExtTreeMap.mem_iff_isSome_getElem?, getElem?_removeAll]
    by_cases removed : key ∈ keysThrough map bound
    · have below := (mem_keysThrough.mp removed).2
      rw [Std.isLE_compare] at below
      simp only [removed, if_true, Option.isSome_none]
      grind
    · rw [mem_keysThrough, Std.isLE_compare] at removed
      simp only [mem_keysThrough, Std.isLE_compare, removed, if_false,
        ← ExtTreeMap.mem_iff_isSome_getElem?]
      grind

/-- Replacing a retained value keeps the window. -/
theorem insert_present (present : key ∈ map) (value : V) :
    Window (map.insert key value) first next where
  ordered := window.ordered
  mem_iff other := by
    have := window.mem_iff other
    rw [ExtTreeMap.mem_insert, Std.compare_eq_iff_eq]
    grind

/-- Reading a window from a position inside it yields consecutive positions up to its end. -/
theorem positions_entriesFrom {start : UInt64} (lower : first ≤ start) :
    (entriesFrom map start).map (fun entry => entry.1.toNat) =
      List.range' start.toNat (next.toNat - start.toNat) := by
  have ascending : ((entriesFrom map start).map fun entry => entry.1.toNat).Pairwise (· < ·) := by
    rw [List.pairwise_map]
    apply (ExtTreeMap.ordered_keys_toList.filter _).imp
    intro _ _ below
    rw [Std.compare_eq_lt] at below
    exact UInt64.lt_iff_toNat_lt.mp below
  apply ascending.eq_of_mem_iff List.pairwise_lt_range'
  intro position
  simp only [List.mem_map, Prod.exists, mem_entriesFrom, Std.isLE_compare, List.mem_range'_1]
  constructor
  · rintro ⟨key, value, ⟨present, above⟩, rfl⟩
    have member : key ∈ map := by
      rw [ExtTreeMap.mem_iff_isSome_getElem?, present]
      rfl
    have below := UInt64.lt_iff_toNat_lt.mp ((window.mem_iff key).mp member).2
    have above := UInt64.le_iff_toNat_le.mp above
    omega
  · rintro ⟨above, _⟩
    have bound : position < 2 ^ 64 := by
      have := next.toNat_lt
      omega
    have value_eq : (UInt64.ofNat position).toNat = position := UInt64.toNat_ofNat_of_lt' bound
    have start_le : start ≤ UInt64.ofNat position := by
      rw [UInt64.le_iff_toNat_le, value_eq]
      exact above
    have member : UInt64.ofNat position ∈ map := by
      rw [window.mem_iff]
      refine ⟨UInt64.le_trans lower start_le, ?_⟩
      rw [UInt64.lt_iff_toNat_lt, value_eq]
      omega
    rw [ExtTreeMap.mem_iff_isSome_getElem?, Option.isSome_iff_exists] at member
    obtain ⟨value, present⟩ := member
    exact ⟨UInt64.ofNat position, value, ⟨present, start_le⟩, value_eq⟩

end

end Window

end Window

end OrderedMap
