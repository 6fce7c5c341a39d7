import Mathlib

/-!
# Lists searched by a predicate

Replacing the first element a search finds, and searching for the last element: a table that is
filled in the order of a list keeps for each key the last element with it.
-/

namespace KeyedList

variable {α β : Type}

/-- Apply `change` to the first element that satisfies `wanted`. -/
def updateFirst (wanted : α → Bool) (change : α → α) : List α → List α
  | [] => []
  | item :: items =>
    if wanted item then change item :: items else item :: updateFirst wanted change items

variable {wanted : α → Bool} {change : α → α} {items : List α} {item : α} {key : α → β}
  {other : α → Bool} {choose : α → Option β}

theorem mem_updateFirst_of_not_wanted (member : item ∈ items) (other : wanted item = false) :
    item ∈ updateFirst wanted change items := by
  induction items with
  | nil => cases member
  | cons _ _ ih =>
    rw [updateFirst]
    rcases List.mem_cons.mp member with rfl | member
    · simp [other]
    · split
      · exact List.mem_cons_of_mem _ member
      · exact List.mem_cons_of_mem _ (ih member)

theorem change_mem_updateFirst (found : items.find? wanted = some item) :
    change item ∈ updateFirst wanted change items := by
  induction items with
  | nil => cases found
  | cons =>
    rw [updateFirst]
    rw [List.find?_cons] at found
    split at found
    · cases found
      simp [*]
    · simp [*]

theorem mem_updateFirst (member : item ∈ updateFirst wanted change items) :
    item ∈ items ∨ ∃ found, items.find? wanted = some found ∧ item = change found := by
  induction items with
  | nil => cases member
  | cons first _ ih =>
    rw [updateFirst] at member
    by_cases first_wanted : wanted first = true
    · rw [if_pos first_wanted] at member
      rcases List.mem_cons.mp member with rfl | member
      · exact .inr ⟨first, List.find?_cons_of_pos first_wanted, rfl⟩
      · exact .inl (List.mem_cons_of_mem _ member)
    · rw [if_neg first_wanted] at member
      rw [List.find?_cons_of_neg first_wanted]
      rcases List.mem_cons.mp member with rfl | member
      · exact .inl List.mem_cons_self
      · exact (ih member).imp_left (List.mem_cons_of_mem _)

/-- The search for a key that occurs once finds exactly its element. -/
theorem find?_key_eq_some [DecidableEq β] {wantedKey : β} (distinct : (items.map key).Nodup) :
    items.find? (fun other => key other = wantedKey) = some item ↔
      item ∈ items ∧ key item = wantedKey := by
  constructor
  · intro found
    exact ⟨List.mem_of_find?_eq_some found, by simpa using List.find?_some found⟩
  · rintro ⟨member, named⟩
    cases search : items.find? (fun other => key other = wantedKey) with
    | none =>
      rw [List.find?_eq_none] at search
      exact absurd (decide_eq_true named) (search item member)
    | some other =>
      have sameKey : key other = key item := by
        rw [named]
        simpa using List.find?_some search
      rw [List.inj_on_of_nodup_map distinct (List.mem_of_find?_eq_some search) member sameKey]

/-- The last element that satisfies `wanted`. -/
def findLast? (wanted : α → Bool) (items : List α) : Option α := items.reverse.find? wanted

theorem mem_of_findLast? (found : findLast? wanted items = some item) :
    item ∈ items ∧ wanted item = true :=
  ⟨List.mem_reverse.mp (List.mem_of_find?_eq_some found), List.find?_some found⟩

theorem findLast?_eq_none : findLast? wanted items = none ↔ ∀ item ∈ items, wanted item = false := by
  simp [findLast?]

theorem exists_findLast? (member : item ∈ items) (holds : wanted item = true) :
    ∃ last, findLast? wanted items = some last := by
  cases found : findLast? wanted items with
  | none => exact absurd (findLast?_eq_none.mp found item member) (by simp [holds])
  | some last => exact ⟨last, rfl⟩

/-- Predicates that agree on the elements of a list have the same last element. -/
theorem findLast?_congr (agree : ∀ item ∈ items, wanted item = other item) :
    findLast? wanted items = findLast? other items := by
  have agreeReverse : ∀ item ∈ items.reverse, wanted item = other item := fun item member =>
    agree item (List.mem_reverse.mp member)
  rw [findLast?, findLast?]
  generalize items.reverse = reversed at agreeReverse ⊢
  induction reversed with
  | nil => rfl
  | cons first _ ih =>
    rw [List.find?_cons, List.find?_cons, agreeReverse first List.mem_cons_self,
      ih fun item member => agreeReverse item (List.mem_cons_of_mem _ member)]

/-- The last elements of two kinds are one element when each is of both kinds. -/
theorem findLast?_unique {last otherLast : α} (found : findLast? wanted items = some last)
    (otherFound : findLast? other items = some otherLast) (both : other last = true)
    (otherBoth : wanted otherLast = true) : last = otherLast := by
  rw [findLast?] at found otherFound
  generalize items.reverse = reversed at found otherFound
  induction reversed with
  | nil => cases found
  | cons first _ ih =>
    rw [List.find?_cons] at found otherFound
    cases isWanted : wanted first <;> cases isOther : other first <;>
      simp only [isWanted, isOther, Option.some.injEq] at found otherFound
    · exact ih found otherFound
    · subst otherFound
      exact absurd otherBoth (by simp [isWanted])
    · subst found
      exact absurd both (by simp [isOther])
    · exact found.symm.trans otherFound

theorem sublist_keys_filterMap {γ : Type} {key : β → γ} {source : α → γ}
    (keeps : ∀ item chosen, choose item = some chosen → key chosen = source item) :
    ((items.filterMap choose).map key).Sublist (items.map source) := by
  induction items with
  | nil => exact List.Sublist.refl _
  | cons first _ ih =>
    cases chosen : choose first with
    | none =>
      rw [List.filterMap_cons_none chosen]
      exact ih.cons _
    | some value =>
      rw [List.filterMap_cons_some chosen, List.map_cons, List.map_cons, keeps first value chosen]
      exact ih.cons_cons _

/-- Keeping every element is choosing none away. -/
theorem map_eq_filterMap {keep : α → β} :
    items.map keep = items.filterMap choose ↔ ∀ item ∈ items, choose item = some (keep item) := by
  constructor
  · intro same
    induction items with
    | nil => simp
    | cons first items ih =>
      cases chosen : choose first with
      | none =>
        rw [List.filterMap_cons_none chosen] at same
        have lengths := congrArg List.length same
        have bound := List.length_filterMap_le choose items
        simp only [List.map_cons, List.length_cons, List.length_map] at lengths
        omega
      | some =>
        rw [List.filterMap_cons_some chosen, List.map_cons] at same
        obtain ⟨rfl, rest⟩ := List.cons.inj same
        exact List.forall_mem_cons.mpr ⟨chosen, ih rest⟩
  · intro all
    rw [← List.filterMap_eq_map]
    exact List.filterMap_congr fun item member => (all item member).symm

end KeyedList
