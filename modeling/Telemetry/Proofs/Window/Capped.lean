import Mathlib.Data.List.DropRight
import Mathlib.Data.Option.Basic
import Telemetry.Window

/-!
Queues that keep the newest items.

`pushCapped` drops at most one item at a time, so a queue never gets shorter: one
that holds more items than its capacity goes on holding as many. What it holds is
always the end of the list of everything that it was given, its newest items
(`pushAllCapped_eq_rtake`), and it does not matter whether the items are changed
before they are appended or afterwards.
-/

namespace Telemetry

variable {α β : Type} {capacity : Nat}

/-! ### The newest items of a list -/

theorem getLast?_rtake (hpos : 0 < capacity) (items : List α) :
    (items.rtake capacity).getLast? = items.getLast? := by
  rw [List.rtake, List.getLast?_drop]
  split
  · have hnil : items = [] := List.eq_nil_of_length_eq_zero (by omega)
    rw [hnil, List.getLast?_nil]
  · rfl

theorem rtake_map (f : α → β) (n : Nat) (items : List α) :
    (items.map f).rtake n = (items.rtake n).map f := by
  rw [List.rtake, List.rtake, List.length_map, List.map_drop]

theorem rtake_min_length (n : Nat) (items : List α) :
    items.rtake (min items.length n) = items.rtake n := by
  rw [List.rtake, List.rtake]
  congr 1
  omega

theorem length_rtake (n : Nat) (items : List α) :
    (items.rtake n).length = min items.length n := by
  rw [List.rtake, List.length_drop]
  omega

theorem rtake_of_length_le {n : Nat} {items : List α} (h : items.length ≤ n) :
    items.rtake n = items := by
  rw [List.rtake, Nat.sub_eq_zero_of_le h, List.drop_zero]

/-- An item that was let go is not missed when newer ones arrive. -/
theorem rtake_rtake_append (n : Nat) (items newer : List α) :
    (items.rtake n ++ newer).rtake n = (items ++ newer).rtake n := by
  simp only [List.rtake_eq_reverse_take_reverse, List.reverse_append, List.reverse_reverse,
    List.take_append, List.take_take, Nat.min_eq_left (Nat.sub_le _ _)]

/-! ### Appending to a queue -/

/-- How many items a queue has room for: as many as its capacity says, but at least one, and at
least those that it holds already. -/
def queueRoom (capacity : Nat) (items : List α) : Nat := max items.length (max capacity 1)

@[simp] theorem pushCapped_ne_nil (capacity : Nat) (items : List α) (item : α) :
    pushCapped capacity items item ≠ [] := by
  simp [pushCapped]

theorem pushCapped_eq_rtake (capacity : Nat) (items : List α) (item : α) :
    pushCapped capacity items item = (items ++ [item]).rtake (queueRoom capacity items) := by
  by_cases hroom : items.length < queueRoom capacity items
  · rw [rtake_of_length_le (by rwa [List.length_append]), pushCapped]
    split
    · -- a full queue with room for another item has no capacity and is empty
      have hlength : items.length = 0 := by
        rw [queueRoom] at hroom
        omega
      rw [List.eq_nil_of_length_eq_zero hlength, List.drop_nil]
    · rfl
  · have hfull : queueRoom capacity items = items.length :=
      Nat.le_antisymm (Nat.not_lt.mp hroom) (Nat.le_max_left _ _)
    have hbound : max capacity 1 ≤ items.length := hfull ▸ Nat.le_max_right _ _
    rw [pushCapped, if_pos (by omega), hfull, List.rtake, List.length_append, List.length_singleton,
      Nat.add_sub_cancel_left, List.drop_append_of_le_length (by omega)]

@[simp] theorem queueRoom_pushCapped (capacity : Nat) (items : List α) (item : α) :
    queueRoom capacity (pushCapped capacity items item) = queueRoom capacity items := by
  rw [pushCapped_eq_rtake, queueRoom, length_rtake, List.length_append, List.length_singleton,
    queueRoom]
  omega

theorem pushCapped_rtake (hpos : 0 < capacity) (items : List α) (item : α) :
    pushCapped capacity (items.rtake capacity) item = (items ++ [item]).rtake capacity := by
  have hroom : queueRoom capacity (items.rtake capacity) = capacity := by
    rw [queueRoom, length_rtake]
    omega
  rw [pushCapped_eq_rtake, hroom, rtake_rtake_append]

theorem mem_pushCapped {items : List α} {item a : α} (h : a ∈ pushCapped capacity items item) :
    a ∈ items ∨ a = item := by
  rw [pushCapped, List.mem_append, List.mem_singleton] at h
  refine h.imp_left fun hitems => ?_
  split at hitems
  · exact List.mem_of_mem_drop hitems
  · exact hitems

theorem map_pushCapped (f : α → β) (capacity : Nat) (items : List α) (item : α) :
    (pushCapped capacity items item).map f = pushCapped capacity (items.map f) (f item) := by
  rw [pushCapped, pushCapped, List.map_append, List.length_map, apply_ite (List.map f),
    List.map_drop, List.map_singleton]

/-- A search that finds something everywhere passes over nothing. -/
theorem map_some_filterMap {f : α → Option β} {items : List α}
    (h : ∀ a ∈ items, ∃ b, f a = some b) : (items.filterMap f).map some = items.map f := by
  induction items with
  | nil => rfl
  | cons a items ih =>
      obtain ⟨b, hb⟩ := h a (by simp)
      rw [List.filterMap_cons_some hb, List.map_cons, List.map_cons, hb,
        ih fun a' ha' => h a' (by simp [ha'])]

theorem filterMap_pushCapped {f : α → Option β} {items : List α} {item : α} {b : β}
    (h : ∀ a ∈ items, ∃ b, f a = some b) (hb : f item = some b) :
    (pushCapped capacity items item).filterMap f =
      pushCapped capacity (items.filterMap f) b := by
  refine List.map_injective_iff.2 (Option.some_injective β) ?_
  have hall : ∀ a ∈ pushCapped capacity items item, ∃ b, f a = some b := by
    intro a ha
    rcases mem_pushCapped ha with ha | rfl
    · exact h a ha
    · exact ⟨b, hb⟩
  rw [map_some_filterMap hall, map_pushCapped, map_pushCapped, map_some_filterMap h, hb]

/-! ### Appending many items -/

/-- A queue behind items that are appended one after the other, the first one first. -/
def pushAllCapped (capacity : Nat) (items newer : List α) : List α :=
  newer.foldl (pushCapped capacity) items

@[simp] theorem pushAllCapped_nil (capacity : Nat) (items : List α) :
    pushAllCapped capacity items [] = items := rfl

@[simp] theorem pushAllCapped_cons (capacity : Nat) (items : List α) (item : α) (newer : List α) :
    pushAllCapped capacity items (item :: newer) =
      pushAllCapped capacity (pushCapped capacity items item) newer := rfl

/-- What is held is the end of everything that was given, with as much of it as there was room for
at the start. -/
theorem pushAllCapped_eq_rtake (capacity : Nat) (items newer : List α) :
    pushAllCapped capacity items newer = (items ++ newer).rtake (queueRoom capacity items) := by
  induction newer generalizing items with
  | nil =>
      have hroom : items.length ≤ queueRoom capacity items := Nat.le_max_left _ _
      rw [pushAllCapped_nil, List.append_nil, rtake_of_length_le hroom]
  | cons item newer ih =>
      rw [pushAllCapped_cons, ih, queueRoom_pushCapped, pushCapped_eq_rtake, rtake_rtake_append,
        List.append_assoc, List.singleton_append]

theorem length_pushAllCapped (capacity : Nat) (items newer : List α) :
    (pushAllCapped capacity items newer).length =
      min (items.length + newer.length) (queueRoom capacity items) := by
  rw [pushAllCapped_eq_rtake, length_rtake, List.length_append]

/-- **A queue keeps the newest items, from any start.** Whatever it holds at first and whatever its
capacity, it ends up with the last of the items that it held and was given, in their order: all of
them, or as many as it held, or as many as its capacity, and one at least. It ends in the item
given last, and does not get shorter, which keeps an over-full queue at its length. -/
theorem pushAllCapped_keeps_newest (capacity : Nat) (items newer : List α) :
    (pushAllCapped capacity items newer <:+ items ++ newer ∧
      (pushAllCapped capacity items newer).length =
        min (items.length + newer.length) (max items.length (max capacity 1))) ∧
    (pushAllCapped capacity items newer).length ≤ max items.length (max capacity 1) ∧
    (∀ newest, newer.getLast? = some newest →
      (pushAllCapped capacity items newer).getLast? = some newest) ∧
    items.length ≤ (pushAllCapped capacity items newer).length ∧
    (capacity < items.length → (pushAllCapped capacity items newer).length = items.length) := by
  have hlength := length_pushAllCapped capacity items newer
  have hpos : 0 < queueRoom capacity items :=
    (Nat.le_max_right capacity 1).trans (Nat.le_max_right _ _)
  refine ⟨⟨?_, hlength⟩, ?_, ?_, ?_, ?_⟩
  · rw [pushAllCapped_eq_rtake]
    exact List.drop_suffix _ _
  · rw [hlength]
    exact Nat.min_le_right _ _
  · intro newest hnewest
    rw [pushAllCapped_eq_rtake, getLast?_rtake hpos, List.getLast?_append, hnewest, Option.some_or]
  · have hroom : items.length ≤ queueRoom capacity items := Nat.le_max_left _ _
    omega
  · intro hover
    have hroom : queueRoom capacity items = items.length := Nat.max_eq_left (by omega)
    omega

/-- Without capacity one item is held, and an over-full queue slides at its length. -/
example : pushAllCapped 0 [] [1, 2, 3] = [3] ∧
    pushAllCapped 2 [1, 2, 3, 4] [5, 6] = [3, 4, 5, 6] := by decide

end Telemetry
