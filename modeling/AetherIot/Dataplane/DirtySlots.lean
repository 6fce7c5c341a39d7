import AetherIot.Foundation.GuardedRun

/-!
# Dirty slots

A writer of a mapping marks every slot that it has stored in a word of sixty-four bits.  A drain
takes the words one after another, each with one atomic swap.  The calls of any number of threads
interleave at these accesses.
-/

namespace AetherIot.Dataplane

open GuardedRun

def dirtyWordCount (slotCount : Nat) : Nat := (slotCount + 63) / 64

def newDirtyWords (slotCount : Nat) : List (BitVec 64) :=
  List.replicate (dirtyWordCount slotCount) 0

def markDirtySlot (words : List (BitVec 64)) (slot : Nat) : List (BitVec 64) :=
  words.modify (slot / 64) (· ||| 1#64 <<< (slot % 64))

/-- The lowest bit of a number is the only one that it does not share with its predecessor. -/
theorem testBit_and_pred {number lowest : Nat} (set : number.testBit lowest = true)
    (below : ∀ bit < lowest, number.testBit bit = false) (bit : Nat) :
    (number &&& (number - 1)).testBit bit = (number.testBit bit && decide (bit ≠ lowest)) := by
  have multiple : number % 2 ^ lowest = 0 := by
    refine Nat.eq_of_testBit_eq fun bit => ?_
    by_cases lower : bit < lowest <;> simp [lower, below]
  have odd : number / 2 ^ lowest % 2 = 1 := by
    simpa [Nat.testBit_eq_decide_div_mod_eq] using set
  obtain ⟨half, quotient⟩ : ∃ half, number / 2 ^ lowest = 2 * half + 1 :=
    ⟨number / 2 ^ lowest / 2, by omega⟩
  have positive := Nat.two_pow_pos lowest
  have split : number = 2 ^ lowest * (2 * half + 1) := by
    rw [← quotient, Nat.mul_div_cancel' (Nat.dvd_of_mod_eq_zero multiple)]
  have pred : number - 1 = 2 ^ lowest * (2 * half) + (2 ^ lowest - 1) := by
    rw [split, Nat.mul_add]
    omega
  rw [Nat.testBit_and, pred, Nat.testBit_two_pow_mul_add _ (by omega)]
  by_cases lower : bit < lowest
  · simp [lower, below]
  · rw [if_neg lower]
    by_cases same : bit = lowest
    · simp [same]
    · obtain ⟨offset, rfl⟩ : ∃ offset, bit = lowest + (offset + 1) := ⟨bit - lowest - 1, by omega⟩
      rw [split, Nat.testBit_two_pow_mul]
      simp [Nat.testBit_succ, Nat.mul_add_div]

variable {bits : BitVec 64}

/-- Taking the lowest bit of a word. -/
theorem getLsbD_and_pred (nonzero : bits ≠ 0) (bit : Nat) :
    (bits &&& bits - 1).getLsbD bit = (bits.getLsbD bit && decide (bit ≠ bits.ctz.toNat)) := by
  have pred : (bits - 1).toNat = bits.toNat - 1 := by
    rw [BitVec.toNat_sub_of_le]
    · rfl
    · have : bits.toNat ≠ 0 := fun zero => nonzero (BitVec.eq_of_toNat_eq (by simpa using zero))
      simp [BitVec.le_def]
      omega
  simp only [← BitVec.testBit_toNat, BitVec.toNat_and, pred]
  refine testBit_and_pred ?_ (fun lower below => ?_) bit
  · rw [BitVec.testBit_toNat, BitVec.getLsbD_true_ctz_of_ne_zero nonzero]
  · rw [BitVec.testBit_toNat, BitVec.getLsbD_false_of_lt_ctz below]

theorem and_pred_lt (nonzero : bits ≠ 0) : (bits &&& bits - 1).toNat < bits.toNat := by
  refine lt_of_le_of_ne ?_ fun same => ?_
  · rw [BitVec.toNat_and]
    exact Nat.and_le_left
  · have kept := getLsbD_and_pred nonzero bits.ctz.toNat
    rw [BitVec.eq_of_toNat_eq same, BitVec.getLsbD_true_ctz_of_ne_zero nonzero] at kept
    simp at kept

/-- The indices of the bits of a word, from the lowest one on. -/
def bitIndices (bits : BitVec 64) : List Nat :=
  if bits = 0 then [] else bits.ctz.toNat :: bitIndices (bits &&& bits - 1)
termination_by bits.toNat
decreasing_by exact and_pred_lt ‹_›

/-- The slots of the bits of a word. -/
def takeBits (slotCount word : Nat) (bits : BitVec 64) : List Nat :=
  ((bitIndices bits).map (word * 64 + ·)).filter (· < slotCount)

theorem mem_bitIndices {bit : Nat} : bit ∈ bitIndices bits ↔ bits.getLsbD bit = true := by
  fun_induction bitIndices bits with
  | case1 => simp
  | case2 bits nonzero ih =>
    rw [List.mem_cons, ih, getLsbD_and_pred nonzero]
    by_cases lowest : bit = bits.ctz.toNat
    · simp [lowest, BitVec.getLsbD_true_ctz_of_ne_zero nonzero]
    · simp [lowest]

theorem pairwise_bitIndices : (bitIndices bits).Pairwise (· < ·) := by
  fun_induction bitIndices bits with
  | case1 => exact .nil
  | case2 bits nonzero ih =>
    refine .cons (fun bit member => ?_) ih
    rw [mem_bitIndices, getLsbD_and_pred nonzero, Bool.and_eq_true, decide_eq_true_eq] at member
    by_contra above
    have below : bit < bits.ctz.toNat := by omega
    simp [BitVec.getLsbD_false_of_lt_ctz below] at member

variable {slotCount word slot : Nat}

theorem mem_takeBits : slot ∈ takeBits slotCount word bits ↔
    slot < slotCount ∧ slot / 64 = word ∧ bits.getLsbD (slot % 64) = true := by
  simp only [takeBits, List.mem_filter, List.mem_map, mem_bitIndices, decide_eq_true_eq]
  constructor
  · rintro ⟨⟨bit, set, rfl⟩, inside⟩
    have bound := BitVec.lt_of_getLsbD set
    have index : (word * 64 + bit) % 64 = bit := by omega
    refine ⟨inside, by omega, ?_⟩
    rwa [index]
  · rintro ⟨inside, rfl, set⟩
    exact ⟨⟨slot % 64, set, by omega⟩, inside⟩

theorem pairwise_takeBits : (takeBits slotCount word bits).Pairwise (· < ·) := by
  refine List.Pairwise.filter _ (List.pairwise_map.mpr (pairwise_bitIndices.imp ?_))
  exact Nat.add_lt_add_left (k := word * 64)

/-- The bit of the slot is set. -/
def IsDirty (words : List (BitVec 64)) (slot : Nat) : Prop :=
  (words.getD (slot / 64) 0).getLsbD (slot % 64) = true

variable {words : List (BitVec 64)}

theorem isDirty_markDirtySlot {other : Nat} : IsDirty (markDirtySlot words slot) other ↔
    IsDirty words other ∨ (other = slot ∧ slot / 64 < words.length) := by
  have shifted : (1#64 <<< (slot % 64)).getLsbD (other % 64) = decide (other % 64 = slot % 64) := by
    have bound : other % 64 < 64 := Nat.mod_lt _ (by omega)
    rw [← BitVec.twoPow_eq, BitVec.getLsbD_twoPow]
    simp [eq_comm]
    omega
  simp only [IsDirty, markDirtySlot, List.getD_eq_getElem?_getD, List.getElem?_modify]
  rcases read : words[other / 64]? with _ | _
  · have outside := List.getElem?_eq_none_iff.mp read
    simp
    rintro rfl
    exact outside
  · obtain ⟨inside, -⟩ := List.getElem?_eq_some_iff.mp read
    by_cases same : slot / 64 = other / 64
    · have equal : other % 64 = slot % 64 ↔ other = slot := by omega
      simp [same, shifted, inside, equal]
    · have apart : other ≠ slot := fun equal => same (equal ▸ rfl)
      simp [same, apart]

theorem isDirty_set {next : Nat} :
    IsDirty (words.set next 0) slot ↔ IsDirty words slot ∧ slot / 64 ≠ next := by
  simp only [IsDirty, List.getD_eq_getElem?_getD, List.getElem?_set]
  by_cases same : next = slot / 64
  · subst same
    by_cases inside : slot / 64 < words.length <;> simp [inside]
  · simp [same, Ne.symm same]

theorem mem_takeBits_getD : slot ∈ takeBits slotCount word (words.getD word 0) ↔
    slot < slotCount ∧ slot / 64 = word ∧ IsDirty words slot := by
  rw [mem_takeBits, IsDirty]
  constructor
  · rintro ⟨inside, rfl, set⟩
    exact ⟨inside, rfl, set⟩
  · rintro ⟨inside, rfl, set⟩
    exact ⟨inside, rfl, set⟩

/-- A write stores its data and then marks its slot.  A drain swaps the words in their order. -/
inductive DirtyAccess (ι : Type) where
  | store (slot : Nat)
  | mark (slot : Nat)
  | swap (drain : ι) (word : Nat)
  deriving DecidableEq

namespace DirtyAccess

variable {ι : Type}

def perform (words : List (BitVec 64)) : DirtyAccess ι → List (BitVec 64)
  | store _ => words
  | mark slot => markDirtySlot words slot
  | swap _ word => words.set word 0

variable [DecidableEq ι]

/-- The word that the access swaps for the drain. -/
def swapped (drain : ι) : DirtyAccess ι → Option Nat
  | swap other word => if other = drain then some word else none
  | _ => none

/-- The words that a drain swaps along a run. -/
def swaps (drain : ι) (accesses : List (DirtyAccess ι)) : List Nat :=
  accesses.filterMap (swapped drain)

/-- The slots that a drain collects along a run. -/
def takeDirtySlots (slotCount : Nat) (drain : ι) :
    List (BitVec 64) → List (DirtyAccess ι) → List Nat
  | _, [] => []
  | words, access :: accesses =>
    (match access.swapped drain with
      | some word => takeBits slotCount word (words.getD word 0)
      | none => []) ++ takeDirtySlots slotCount drain (access.perform words) accesses

variable {drain : ι} {access : DirtyAccess ι} {accesses : List (DirtyAccess ι)}

theorem swapped_eq_some {word : Nat} : access.swapped drain = some word ↔ access = swap drain word := by
  cases access <;> simp [swapped]

omit [DecidableEq ι] in
theorem length_perform : (access.perform words).length = words.length := by
  cases access <;> simp [perform, markDirtySlot]

omit [DecidableEq ι] in
theorem isDirty_perform (access : DirtyAccess ι) (dirty : IsDirty words slot) :
    (∃ drain, access = swap drain (slot / 64)) ∨ IsDirty (access.perform words) slot := by
  cases access with
  | store => exact .inr dirty
  | mark => exact .inr (isDirty_markDirtySlot.mpr (.inl dirty))
  | swap drain word =>
    by_cases same : slot / 64 = word
    · exact .inl ⟨drain, same ▸ rfl⟩
    · exact .inr (isDirty_set.mpr ⟨dirty, same⟩)

theorem mem_swaps {word : Nat} : word ∈ swaps drain accesses ↔ swap drain word ∈ accesses := by
  simp [swaps, swapped_eq_some]

/-- A dirty slot is collected by the first drain that swaps its word. -/
theorem exists_mem_takeDirtySlots (inside : slot < slotCount) (dirty : IsDirty words slot)
    (reached : swap drain (slot / 64) ∈ accesses) :
    ∃ other, slot ∈ takeDirtySlots slotCount other words accesses := by
  induction accesses generalizing words with
  | nil => cases reached
  | cons access _ ih =>
    obtain ⟨other, rfl⟩ | later := isDirty_perform access dirty
    · refine ⟨other, List.mem_append_left _ ?_⟩
      simpa [swapped] using mem_takeBits_getD.mpr ⟨inside, rfl, dirty⟩
    · obtain rfl | rest := List.mem_cons.mp reached
      · exact absurd rfl (isDirty_set.mp later).2
      · obtain ⟨other, taken⟩ := ih later rest
        exact ⟨other, List.mem_append_right _ taken⟩

theorem mem_takeDirtySlots_cons : slot ∈ takeDirtySlots slotCount drain words (access :: accesses) ↔
    (slot < slotCount ∧ access = swap drain (slot / 64) ∧ IsDirty words slot) ∨
      slot ∈ takeDirtySlots slotCount drain (access.perform words) accesses := by
  rw [takeDirtySlots, List.mem_append]
  refine or_congr_left ?_
  split
  · rename_i own
    rw [mem_takeBits_getD, swapped_eq_some.mp own]
    simp [eq_comm]
  · rename_i other
    simp only [List.not_mem_nil, false_iff]
    rintro ⟨_, rfl, _⟩
    simp [swapped] at other

/-- A drain collects slots of the mapping, from words that it has swapped. -/
theorem inside_of_mem (taken : slot ∈ takeDirtySlots slotCount drain words accesses) :
    slot < slotCount ∧ slot / 64 ∈ swaps drain accesses := by
  induction accesses generalizing words with
  | nil => cases taken
  | cons _ _ ih =>
    rw [mem_swaps]
    obtain ⟨inside, rfl, _⟩ | later := mem_takeDirtySlots_cons.mp taken
    · exact ⟨inside, List.mem_cons_self⟩
    · exact ⟨(ih later).1, List.mem_cons_of_mem _ (mem_swaps.mp (ih later).2)⟩

theorem pairwise_takeDirtySlots (ordered : (swaps drain accesses).Pairwise (· < ·)) :
    (takeDirtySlots slotCount drain words accesses).Pairwise (· < ·) := by
  induction accesses generalizing words with
  | nil => exact .nil
  | cons _ _ ih =>
    rw [takeDirtySlots]
    split
    · rename_i own
      rw [swaps, List.filterMap_cons_some own, List.pairwise_cons] at ordered
      refine List.pairwise_append.mpr ⟨pairwise_takeBits, ih ordered.2, ?_⟩
      intro _ first _ later
      have := (mem_takeBits.mp first).2.1
      have := ordered.1 _ (inside_of_mem later).2
      omega
    · rename_i own
      rw [swaps, List.filterMap_cons_none own] at ordered
      exact ih ordered

omit [DecidableEq ι] in
theorem isDirty_of_perform (unmarked : ∀ slot, access ≠ mark slot)
    (dirty : IsDirty (access.perform words) slot) :
    IsDirty words slot ∧ ∀ drain, access ≠ swap drain (slot / 64) := by
  cases access with
  | store => exact ⟨dirty, by simp⟩
  | mark other => exact absurd rfl (unmarked other)
  | swap =>
    obtain ⟨before, other⟩ := isDirty_set.mp dirty
    exact ⟨before, by simp [Ne.symm other]⟩

omit [DecidableEq ι] in
/-- Without a mark, a slot that is dirty was dirty before, and its word was not swapped. -/
theorem isDirty_of_run (unmarked : ∀ slot, mark slot ∉ accesses)
    (dirty : IsDirty (run perform words accesses) slot) :
    IsDirty words slot ∧ ∀ drain, swap drain (slot / 64) ∉ accesses := by
  induction accesses generalizing words with
  | nil => exact ⟨dirty, by simp⟩
  | cons _ _ ih =>
    simp only [List.mem_cons, not_or] at unmarked ⊢
    obtain ⟨later, rest⟩ := ih (fun slot => (unmarked slot).2) dirty
    obtain ⟨before, first⟩ := isDirty_of_perform (fun slot => Ne.symm (unmarked slot).1) later
    exact ⟨before, fun drain => ⟨(first drain).symm, rest drain⟩⟩

theorem isDirty_of_mem (unmarked : ∀ slot, mark slot ∉ accesses)
    (taken : slot ∈ takeDirtySlots slotCount drain words accesses) : IsDirty words slot := by
  induction accesses generalizing words with
  | nil => cases taken
  | cons _ _ ih =>
    simp only [List.mem_cons, not_or] at unmarked
    obtain ⟨_, _, dirty⟩ | later := mem_takeDirtySlots_cons.mp taken
    · exact dirty
    · have dirty := ih (fun slot => (unmarked slot).2) later
      exact (isDirty_of_perform (fun slot => Ne.symm (unmarked slot).1) dirty).1

omit [DecidableEq ι] in
theorem length_run (accesses : List (DirtyAccess ι)) :
    (run perform (newDirtyWords slotCount) accesses).length = dirtyWordCount slotCount := by
  have preserved : ∀ (words : List (BitVec 64)) (access : DirtyAccess ι),
      words.length = dirtyWordCount slotCount →
      (access.perform words).length = dirtyWordCount slotCount :=
    fun words access length => length_perform.trans length
  exact invariant_of_forall preserved List.length_replicate accesses

/-- In every interleaving of writes and drains, a slot is collected after it was stored and marked
as soon as a drain swaps its word; what one drain collects increases and lies in the mapping; and
after a drain, nothing is collected unless a slot was marked since that drain began. -/
theorem dirty_slots_drained (slotCount : Nat) (earlier : List (DirtyAccess ι)) :
    (∀ slot during later, ∀ drain : ι, slot < slotCount → slot / 64 ∈ swaps drain later →
      ∃ other, slot ∈ takeDirtySlots slotCount other (run perform (newDirtyWords slotCount)
        (earlier ++ store slot :: during ++ [mark slot])) later) ∧
    (∀ drain, swaps drain earlier <+: List.range (dirtyWordCount slotCount) →
      (takeDirtySlots slotCount drain (newDirtyWords slotCount) earlier).Pairwise (· < ·) ∧
      ∀ slot ∈ takeDirtySlots slotCount drain (newDirtyWords slotCount) earlier, slot < slotCount) ∧
    ∀ first during second rest, swaps first during = List.range (dirtyWordCount slotCount) →
      (∀ slot, mark slot ∉ during ++ rest) →
      takeDirtySlots slotCount second
        (run perform (newDirtyWords slotCount) (earlier ++ during)) rest = [] := by
  refine ⟨?_, ?_, ?_⟩
  · intro slot _ _ _ inside reached
    refine exists_mem_takeDirtySlots inside ?_ (mem_swaps.mp reached)
    rw [run_snoc, perform, isDirty_markDirtySlot, length_run, dirtyWordCount]
    exact .inr ⟨rfl, by omega⟩
  · intro _ order
    have ordered := List.pairwise_lt_range.sublist order.sublist
    exact ⟨pairwise_takeDirtySlots ordered, fun slot taken => (inside_of_mem taken).1⟩
  · intro first _ _ _ complete unmarked
    simp only [List.mem_append, not_or] at unmarked
    rw [List.eq_nil_iff_forall_not_mem]
    intro slot taken
    have dirty := isDirty_of_mem (fun slot => (unmarked slot).2) taken
    rw [run_append] at dirty
    refine (isDirty_of_run (fun slot => (unmarked slot).1) dirty).2 first ?_
    have inside := (inside_of_mem taken).1
    rw [← mem_swaps, complete, List.mem_range, dirtyWordCount]
    omega

end DirtyAccess

end AetherIot.Dataplane
