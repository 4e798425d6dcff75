import MelodyAutomation.Proofs.Outcome
import MelodyAutomation.Value.Arithmetic
import Mathlib.Algebra.GroupWithZero.Nat

/-!
# Copies in a row

A list can be repeated as often as there is room for its copies. Where an item of the
copies comes from is a matter of counting: in copies of a whole list the places recur
with the length of the list, and in groups of copies they are counted from the sum of
the lengths of the groups in front.
-/

namespace MelodyAutomation

section

variable (R : Type) [Machine R]

/-- There is room for a number of copies of a list of some length: the number is one
that a length can be, and the copies together are not too long. -/
def HasRoom (length times : Nat) : Prop :=
  (times : Int) ≤ sizeLimit ∧ length * times ≤ (Machine.limits R).room

instance (length times : Nat) : Decidable (HasRoom R length times) :=
  inferInstanceAs (Decidable (_ ∧ _))

/-- There is always room for no copies. -/
theorem hasRoom_zero (length : Nat) : HasRoom R length 0 := by
  simp [HasRoom, sizeLimit]

end

/-- Where there is room for some items, there is room for fewer. -/
theorem HasRoom.mono
    {R : Type}
    [Machine R]
    {fewer more : Nat}
    (room : HasRoom R 1 more)
    (less : fewer ≤ more) :
    HasRoom R 1 fewer :=
  ⟨Int.le_trans (by exact_mod_cast less) room.1,
    Nat.le_trans (Nat.mul_le_mul_left 1 less) room.2⟩

/-- A list is repeated exactly when there is room for the copies. -/
theorem Value.repeatItems_eq_ok
    {R α : Type}
    [Machine R]
    {excess : Failure R}
    {items copies : List α}
    {times : Nat} :
    repeatItems excess items times = .ok copies ↔
      HasRoom R items.length times ∧
        copies = (List.replicate times items).flatten := by
  have limits : ((Machine.limits R).room : Int) ≤ sizeLimit :=
    (Machine.limits R).room_le_sizeLimit
  have lower : ¬ (times : Int) < -sizeLimit - 1 := by
    simp only [sizeLimit]
    omega
  unfold repeatItems HasRoom
  by_cases small : (times : Int) ≤ sizeLimit
  · rw [if_neg (not_or.2 ⟨lower, Int.not_lt.2 small⟩)]
    by_cases nothing : items.isEmpty ∨ (times : Int) ≤ 0
    · have none : items.length * times = 0 ∧
          (List.replicate times items).flatten = [] := by
        rcases nothing with empty | zero
        · simp [List.isEmpty_iff.1 empty]
        · obtain rfl : times = 0 := by omega
          simp
      rw [if_pos nothing, none.1, none.2]
      simp [small, eq_comm]
    · rw [if_neg nothing]
      by_cases room : items.length * times ≤ (Machine.limits R).room
      · have within : (items.length * times : Int) ≤ (Machine.limits R).room := by
          exact_mod_cast room
        rw [if_neg (Int.not_lt.2 (Int.le_trans within limits)), if_neg (Int.not_lt.2 within)]
        simp [small, room, eq_comm]
      · have beyond : ((Machine.limits R).room : Int) < items.length * times := by
          exact_mod_cast Nat.lt_of_not_le room
        rw [if_pos beyond]
        split <;> simp [room]
  · rw [if_pos (.inr (Int.not_le.1 small))]
    simp [small]

/-! ## Where an item of the copies comes from -/

section

variable {α : Type}

/-- In copies of a whole list the places recur with the length of the list. -/
theorem copies_getElem?
    (items : List α)
    {times place : Nat}
    (within : place < times * items.length) :
    (List.replicate times items).flatten[place]? =
      items[place % items.length]? := by
  induction times generalizing place with
  | zero => omega
  | succ times hypothesis =>
      rw [List.replicate_succ, List.flatten_cons]
      by_cases first : place < items.length
      · rw [List.getElem?_append_left first, Nat.mod_eq_of_lt first]
      · have later : items.length ≤ place := Nat.not_lt.1 first
        rw [Nat.succ_mul] at within
        rw [List.getElem?_append_right later, hypothesis (by omega),
          ← Nat.mod_eq_sub_mod later]

/-- Copies of copies are as many copies as the product of both numbers. -/
theorem copies_copies (items : List α) (first second : Nat) :
    (List.replicate second (List.replicate first items).flatten).flatten =
      (List.replicate (first * second) items).flatten := by
  induction second with
  | zero => simp
  | succ second hypothesis =>
      rw [List.replicate_succ, List.flatten_cons, hypothesis, Nat.mul_succ,
        Nat.add_comm, List.replicate_add, List.flatten_append]

/-- Copies of one item stand beside the items of a list. -/
theorem zip_copies {β : Type} (items : List α) (item : β) :
    items.zip (List.replicate items.length item) = items.map (·, item) :=
  (List.zip_of_prod (by simp [Function.comp_def])
    (by simp [Function.comp_def])).symm

/-- The places of a group are counted from the sum of the lengths of the groups in
front of it. -/
theorem groups_getElem?
    {groups : List (List α)}
    {index : Nat}
    {group : List α}
    (found : groups[index]? = some group)
    {place : Nat}
    (within : place < group.length) :
    groups.flatten[((groups.take index).map List.length).sum + place]? =
      group[place]? := by
  induction groups generalizing index with
  | nil => simp at found
  | cons first rest hypothesis =>
      cases index with
      | zero =>
          obtain rfl : first = group := by simpa using found
          simp [List.getElem?_append_left within]
      | succ index =>
          have own := hypothesis (by simpa using found)
          rw [← own, List.flatten_cons, List.take_succ_cons, List.map_cons,
            List.sum_cons, Nat.add_assoc, List.getElem?_append_right (by omega),
            Nat.add_sub_cancel_left]

end
end MelodyAutomation
