import Mathlib

/-!
# Placement of blocks in a table of slots

Blocks are placed one after another.  A block may have to start at a multiple of the unit, which
leaves slots before it empty.  The placed blocks do not overlap, and the blocks that share a unit
belong to one group if every block of another group starts at a multiple of the unit.
-/

namespace Placement

variable {κ γ α : Type}

/-- The next multiple of the unit. -/
def alignUp (unit slot : Nat) : Nat := (slot + (unit - 1)) / unit * unit

variable {unit slot : Nat} {table : List (Option α)} {writes : List (Nat × α)}

theorem le_alignUp (positive : 0 < unit) (slot : Nat) : slot ≤ alignUp unit slot := by
  have division := Nat.div_add_mod (slot + (unit - 1)) unit
  have remainder := Nat.mod_lt (slot + (unit - 1)) positive
  rw [alignUp, Nat.mul_comm]
  omega

theorem dvd_alignUp (unit slot : Nat) : unit ∣ alignUp unit slot := Nat.dvd_mul_left ..

/-- A bound that is itself a multiple of the unit stays a bound. -/
theorem alignUp_le {bound : Nat} (positive : 0 < unit) (below : slot ≤ bound)
    (aligned : unit ∣ bound) : alignUp unit slot ≤ bound := by
  obtain ⟨count, rfl⟩ := aligned
  have division : (slot + (unit - 1)) / unit < count + 1 := by
    rw [Nat.div_lt_iff_lt_mul positive, Nat.add_mul, Nat.mul_comm count]
    omega
  rw [alignUp, Nat.mul_comm unit]
  exact Nat.mul_le_mul_right unit (Nat.lt_succ_iff.mp division)

/-- Consecutive slots for a key. -/
structure Block (κ : Type) where
  key : κ
  aligned : Bool
  length : Nat

structure Placed (κ : Type) where
  block : Block κ
  start : Nat

namespace Placed

def Covers (placed : Placed κ) (slot : Nat) : Prop :=
  placed.start ≤ slot ∧ slot < placed.start + placed.block.length

end Placed

/-- The first slot of a block after those that are taken. -/
def Block.start (unit next : Nat) (block : Block κ) : Nat :=
  if block.aligned then alignUp unit next else next

theorem Block.le_start (positive : 0 < unit) (next : Nat) (block : Block κ) :
    next ≤ block.start unit next := by
  rw [Block.start]
  split
  · exact le_alignUp positive next
  · exact le_rfl

def place (unit : Nat) : Nat → List (Block κ) → List (Placed κ)
  | _, [] => []
  | next, block :: rest =>
    ⟨block, block.start unit next⟩ :: place unit (block.start unit next + block.length) rest

/-- The number of slots that are taken by the blocks. -/
def finish (unit : Nat) : Nat → List (Block κ) → Nat
  | next, [] => next
  | next, block :: rest => finish unit (block.start unit next + block.length) rest

section

variable {next : Nat} {blocks : List (Block κ)}

theorem le_finish (positive : 0 < unit) : next ≤ finish unit next blocks := by
  induction blocks generalizing next with
  | nil => exact le_rfl
  | cons block rest ih =>
    calc next ≤ block.start unit next := block.le_start positive next
      _ ≤ block.start unit next + block.length := Nat.le_add_right ..
      _ ≤ finish unit next (block :: rest) := ih

variable {placed first second : Placed κ} {later rest : List (Block κ)} {before : Nat}
  {group : κ → γ} {current : Option γ} {block : Block κ}

/-- Blocks are placed between the taken slots and the end. -/
theorem bounds_of_mem_place (positive : 0 < unit) (member : placed ∈ place unit next blocks) :
    next ≤ placed.start ∧ placed.start + placed.block.length ≤ finish unit next blocks := by
  induction blocks generalizing next with
  | nil => cases member
  | cons block _ ih =>
    have first := block.le_start positive next
    obtain rfl | member := List.mem_cons.mp member
    · exact ⟨first, le_finish positive⟩
    · obtain ⟨_, before⟩ := ih member
      exact ⟨by omega, before⟩

theorem place_append : place unit next (blocks ++ later) =
      place unit next blocks ++ place unit (finish unit next blocks) later := by
  induction blocks generalizing next with
  | nil => rfl
  | cons _ _ ih =>
    rw [List.cons_append, place, place, finish, ih, List.cons_append]

theorem finish_append :
    finish unit next (blocks ++ later) = finish unit (finish unit next blocks) later := by
  induction blocks generalizing next with
  | nil => rfl
  | cons _ _ ih => rw [List.cons_append, finish, finish, ih]

theorem eq_of_covers (positive : 0 < unit) (member : first ∈ place unit next blocks)
    (other : second ∈ place unit next blocks) (covers : first.Covers slot)
    (covered : second.Covers slot) : first = second := by
  induction blocks generalizing next with
  | nil => cases member
  | cons _ _ ih =>
    obtain rfl | member := List.mem_cons.mp member
    · obtain rfl | other := List.mem_cons.mp other
      · rfl
      · have later := (bounds_of_mem_place positive other).1
        exact absurd covers.2 (Nat.not_lt.mpr (later.trans covered.1))
    · obtain rfl | other := List.mem_cons.mp other
      · have later := (bounds_of_mem_place positive member).1
        exact absurd covered.2 (Nat.not_lt.mpr (later.trans covers.1))
      · exact ih member other

/-- Every block of another group starts at a multiple of the unit.  `current` is the group of the
slots since the last multiple that a block had to start at. -/
def Grouped (group : κ → γ) : Option γ → List (Block κ) → Prop
  | _, [] => True
  | current, block :: rest =>
    (block.length = 0 → Grouped group (if block.aligned then none else current) rest) ∧
    (0 < block.length → (block.aligned = false → ∀ other, current = some other →
        other = group block.key) ∧ Grouped group (some (group block.key)) rest)

section

/-- A block continues its own group. -/
theorem grouped_of_same (block : Block κ)
    (same : ∀ other, current = some other → other = group block.key)
    (later : ∀ current, (∀ other, current = some other → other = group block.key) →
      Grouped group current rest) : Grouped group current (block :: rest) := by
  refine ⟨fun _ => later _ ?_, fun _ => ⟨fun _ => same, later _ fun other known => ?_⟩⟩
  · intro other known
    split at known
    · cases known
    · exact same other known
  · exact (Option.some.inj known).symm

theorem grouped_of_aligned (aligned : block.aligned = true)
    (later : ∀ current, (∀ other, current = some other → other = group block.key) →
      Grouped group current rest) : Grouped group current (block :: rest) := by
  refine ⟨fun _ => later _ ?_, fun _ => ⟨?_, later _ fun other known => ?_⟩⟩
  · rw [if_pos aligned]
    intro _ known
    cases known
  · intro unaligned
    cases aligned.symm.trans unaligned
  · exact (Option.some.inj known).symm

theorem grouped_of_empty (empty : block.length = 0)
    (later : ∀ current, Grouped group current rest) : Grouped group current (block :: rest) :=
  ⟨fun _ => later _, fun nonempty => absurd empty nonempty.ne'⟩

end

theorem div_lt_of_cut {cut : Nat} (positive : 0 < unit) (aligned : unit ∣ cut)
    (earlier : before < cut) (later : cut ≤ slot) : before / unit < slot / unit := by
  obtain ⟨count, rfl⟩ := aligned
  calc before / unit < count := Nat.div_lt_of_lt_mul earlier
    _ = unit * count / unit := (Nat.mul_div_cancel_left count positive).symm
    _ ≤ slot / unit := Nat.div_le_div_right later

theorem current_eq_of_start (positive : 0 < unit) (grouped : Grouped group current (block :: rest))
    (fresh : current = none → unit ∣ next) (nonempty : 0 < block.length)
    (after : block.start unit next ≤ slot) (earlier : before < next)
    (shared : before / unit = slot / unit) : current = some (group block.key) := by
  have first := block.le_start positive next
  cases aligned : block.aligned with
  | true =>
    have cut : unit ∣ block.start unit next := by
      rw [Block.start, if_pos aligned]
      exact dvd_alignUp unit next
    have apart := div_lt_of_cut positive cut (earlier.trans_le first) after
    exact absurd shared apart.ne
  | false =>
    cases known : current with
    | none =>
      have apart := div_lt_of_cut positive (fresh known) earlier (first.trans after)
      exact absurd shared apart.ne
    | some other => rw [(grouped.2 nonempty).1 aligned other known]

/-- What follows a block is grouped, too. -/
theorem Grouped.tail (grouped : Grouped group current (block :: rest))
    (fresh : current = none → unit ∣ next) :
    ∃ later, Grouped group later rest ∧
      (later = none → unit ∣ block.start unit next + block.length) ∧
      (0 < block.length → later = some (group block.key)) ∧
      (block.length = 0 → ∀ known, later = some known → current = some known) := by
  obtain empty | nonempty := Nat.eq_zero_or_pos block.length
  · refine ⟨_, grouped.1 empty, ?_, fun positive => absurd empty positive.ne', ?_⟩
    · rw [empty, Nat.add_zero, Block.start]
      split
      · exact fun _ => dvd_alignUp unit next
      · exact fresh
    · intro _ _ same
      split at same
      · cases same
      · exact same
  · refine ⟨_, (grouped.2 nonempty).2, fun absent => ?_, fun _ => rfl, ?_⟩
    · cases absent
    · exact fun empty => absurd empty nonempty.ne'

theorem current_eq_of_shared (positive : 0 < unit) (grouped : Grouped group current blocks)
    (fresh : current = none → unit ∣ next) (member : placed ∈ place unit next blocks)
    (covers : placed.Covers slot) (earlier : before < next) (shared : before / unit = slot / unit) :
    current = some (group placed.block.key) := by
  induction blocks generalizing next current with
  | nil => cases member
  | cons block _ ih =>
    have first := block.le_start positive next
    obtain rfl | member := List.mem_cons.mp member
    · have nonempty : 0 < block.length := by
        have inside := covers.1.trans_lt covers.2
        exact Nat.pos_of_lt_add_right inside
      exact current_eq_of_start positive grouped fresh nonempty covers.1 earlier shared
    · obtain ⟨_, groupedRest, freshRest, continues, keeps⟩ := grouped.tail fresh
      have reached : next ≤ block.start unit next + block.length :=
        first.trans (Nat.le_add_right ..)
      have known := ih groupedRest freshRest member (earlier.trans_le reached)
      obtain empty | nonempty := Nat.eq_zero_or_pos block.length
      · exact keeps empty _ known
      · have after := (bounds_of_mem_place positive member).1.trans covers.1
        have start := current_eq_of_start positive grouped fresh nonempty
          ((Nat.le_add_right ..).trans after) earlier shared
        rw [start, ← continues nonempty, known]

theorem group_eq_of_shared (positive : 0 < unit) (grouped : Grouped group current blocks)
    (fresh : current = none → unit ∣ next) (member : first ∈ place unit next blocks)
    (other : second ∈ place unit next blocks) {otherSlot : Nat} (covers : first.Covers slot)
    (covered : second.Covers otherSlot) (shared : slot / unit = otherSlot / unit) :
    group first.block.key = group second.block.key := by
  induction blocks generalizing next current with
  | nil => cases member
  | cons block _ ih =>
    obtain ⟨_, groupedRest, freshRest, continues, -⟩ := grouped.tail fresh
    obtain rfl | member := List.mem_cons.mp member
    · obtain rfl | other := List.mem_cons.mp other
      · rfl
      · have nonempty : 0 < block.length := Nat.pos_of_lt_add_right (covers.1.trans_lt covers.2)
        have known := current_eq_of_shared positive groupedRest freshRest other covered covers.2
          shared
        exact Option.some.inj ((continues nonempty).symm.trans known)
    · obtain rfl | other := List.mem_cons.mp other
      · have nonempty : 0 < block.length := Nat.pos_of_lt_add_right (covered.1.trans_lt covered.2)
        have known := current_eq_of_shared positive groupedRest freshRest member covers covered.2
          shared.symm
        exact Option.some.inj (known.symm.trans (continues nonempty))
      · exact ih groupedRest freshRest member other

end

/-- Write values into slots, all of which must be in the table. -/
def fill : List (Option α) → List (Nat × α) → Option (List (Option α))
  | table, [] => some table
  | table, (slot, value) :: rest =>
    if slot < table.length then fill (table.set slot (some value)) rest else none

theorem fill_isSome : (fill table writes).isSome ↔ ∀ write ∈ writes, write.1 < table.length := by
  induction writes generalizing table with
  | nil => simp [fill]
  | cons _ _ ih =>
    rw [fill, List.forall_mem_cons]
    split
    · rename_i inside
      rw [ih, List.length_set]
      exact (and_iff_right inside).symm
    · rename_i outside
      exact iff_of_false (by simp) fun both => outside both.1

/-- Distinct slots hold what was written, and the others what they held. -/
theorem getElem?_fill {filled : List (Option α)} (distinct : (writes.map Prod.fst).Nodup)
    (done : fill table writes = some filled) {value : α} :
    filled[slot]? = some (some value) ↔ (slot, value) ∈ writes ∨
      (slot ∉ writes.map Prod.fst ∧ table[slot]? = some (some value)) := by
  induction writes generalizing table with
  | nil =>
    cases done
    simp
  | cons write rest ih =>
    obtain ⟨position, _⟩ := write
    rw [fill] at done
    split at done
    · rename_i inside
      rw [List.map_cons, List.nodup_cons] at distinct
      rw [ih distinct.2 done, List.getElem?_set]
      by_cases here : position = slot
      · subst here
        have absent : (position, value) ∉ rest := fun member =>
          distinct.1 (List.mem_map.mpr ⟨_, member, rfl⟩)
        simp [inside, absent, distinct.1, eq_comm]
      · have elsewhere : slot ≠ position := Ne.symm here
        simp [here, elsewhere]
    · cases done

end Placement
