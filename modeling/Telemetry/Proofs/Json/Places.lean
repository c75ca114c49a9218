import Telemetry.Proofs.Json.Records

/-!
A value within a tree.

A gap is a record without the value of one field. What the record stands for once the gap is
filled depends on the value in it: there is nothing if the value stands for nothing, whatever the
rest of the record, and otherwise the field has what the value stands for. The same is true of an
item of an array, and of a value within a value.
-/

namespace Telemetry.Json

/-- A record without the value of one field, as an array or as an object. -/
inductive Gap where
  | item (before after : List Tree)
  | member (before : List (String × Tree)) (key : String) (after : List (String × Tree))

namespace Gap

def fill (v : Tree) : Gap → Tree
  | item before after => .list (before ++ v :: after)
  | member before key after => .object (before ++ (key, v) :: after)

/-- The value is missing in the place of a field, which has a position and a name. -/
def IsAt (index : Nat) (name : String) : Gap → Prop
  | item before _ => before.length = index
  | member _ key _ => key = name

end Gap

variable {ι κ α β γ : Type}

/-- What is read of whatever fills a gap has in it what the filling stands for, and nothing is read
if the filling stands for nothing. Whether anything is read does not depend on the filling
otherwise. -/
structure Focuses (read? : ι → Option α) (value? : ι → Option β) (get? : α → Option β) :
    Prop where
  isSome_iff : ∃ rest : Prop, ∀ i, (read? i).isSome ↔ (value? i).isSome ∧ rest
  get?_eq {i : ι} {a : α} (h : read? i = some a) : get? a = value? i

namespace Focuses

variable {read? : ι → Option α} {value? : ι → Option β} {get? : α → Option β}

theorem map (h : Focuses read? value? get?) (f : α → γ) {get?' : γ → Option β}
    (hget : ∀ a, get?' (f a) = get? a) : Focuses (fun i => (read? i).map f) value? get?' where
  isSome_iff := by simpa using h.isSome_iff
  get?_eq hc := by
    obtain ⟨a, ha, rfl⟩ := Option.map_eq_some_iff.mp hc
    rw [hget, h.get?_eq ha]

/-- A value within a value. -/
theorem within {value?' : κ → Option γ} {get?' : β → Option γ} {fill : κ → ι}
    (h : Focuses read? value? get?) (h' : Focuses (fun k => value? (fill k)) value?' get?') :
    Focuses (fun k => read? (fill k)) value?' fun a => (get? a).bind get?' where
  isSome_iff := by
    obtain ⟨rest, hrest⟩ := h.isSome_iff
    obtain ⟨rest', hrest'⟩ := h'.isSome_iff
    exact ⟨rest' ∧ rest, fun k => by rw [hrest, hrest', and_assoc]⟩
  get?_eq {k a} ha := by
    obtain ⟨rest, hrest⟩ := h.isSome_iff
    obtain ⟨b, hb⟩ := Option.isSome_iff_exists.mp ((hrest (fill k)).mp (by simp [ha])).1
    rw [h.get?_eq ha, hb, Option.bind_some, h'.get?_eq hb]

end Focuses

/-! ### Items -/

theorem focuses_list (value? : Tree → Option β) (before after : List Tree) :
    Focuses (fun v => Tree.list? value? (.list (before ++ v :: after))) value?
      fun bs => bs[before.length]? where
  isSome_iff := by
    refine ⟨(∀ v ∈ before, (value? v).isSome) ∧ ∀ v ∈ after, (value? v).isSome, fun v => ?_⟩
    rw [Tree.list?, isSome_mapM, List.forall_mem_append, List.forall_mem_cons, and_left_comm]
  get?_eq {v bs} h := by
    have hitem := congrArg (·[before.length]?) (mapM_eq_some h)
    obtain ⟨b, hb, hv⟩ : ∃ b, bs[before.length]? = some b ∧ some b = value? v := by
      simpa using hitem.symm
    rw [hb, hv]

/-! ### Fields -/

section

variable {x : Column} {xs ys : List Column} {ms : List (String × Tree)} {vs : List Tree}

/-- The value of the column behind the first ones. -/
def Row.get : (xs : List Column) → Row (fieldsOf (xs ++ x :: ys)) → x.field.Value
  | [], (a, _) => a
  | _ :: xs, (_, row) => Row.get xs row

theorem get_rowOfMembers {row : Row (fieldsOf (xs ++ x :: ys))}
    (h : rowOfMembers (xs ++ x :: ys) ms = some row) :
    x.ofOccurrences (occurrences x.name ms) = some (row.get xs) := by
  induction xs with
  | nil =>
      obtain ⟨a, ha, h⟩ := Option.bind_eq_some_iff.1 h
      obtain ⟨row', -, rfl⟩ := Option.map_eq_some_iff.1 h
      exact ha
  | cons y xs ih =>
      obtain ⟨a, -, h⟩ := Option.bind_eq_some_iff.1 h
      obtain ⟨row', hrow', rfl⟩ := Option.map_eq_some_iff.1 h
      exact ih hrow'

theorem get_rowOfItems {row : Row (fieldsOf (xs ++ x :: ys))} {before after : List Tree} {v : Tree}
    (hlength : before.length = xs.length)
    (h : rowOfItems (xs ++ x :: ys) (before ++ v :: after) = some row) :
    x.value? v = some (row.get xs) := by
  induction xs generalizing before with
  | nil =>
      obtain rfl := List.length_eq_zero_iff.mp hlength
      obtain ⟨a, ha, h⟩ := Option.bind_eq_some_iff.1 h
      obtain ⟨row', -, rfl⟩ := Option.map_eq_some_iff.1 h
      exact ha
  | cons y xs ih =>
      obtain ⟨w, before, rfl⟩ := List.exists_cons_of_length_eq_add_one hlength
      obtain ⟨a, -, h⟩ := Option.bind_eq_some_iff.1 h
      obtain ⟨row', hrow', rfl⟩ := Option.map_eq_some_iff.1 h
      exact ih (Nat.succ.inj hlength) hrow'

theorem occurrences_append (name : String) (ms ms' : List (String × Tree)) :
    occurrences name (ms ++ ms') = occurrences name ms ++ occurrences name ms' := by
  simp [occurrences]

/-- A column of another name does not see the member. -/
theorem occurrences_append_of_ne {name key : String} (h : name ≠ key)
    (before after : List (String × Tree)) (v : Tree) :
    occurrences name (before ++ (key, v) :: after) = occurrences name (before ++ after) := by
  rw [occurrences_append, occurrences_cons_of_ne h, occurrences_append]

/-- One more tree under the name of a column must be the only one. -/
theorem Column.isSome_ofOccurrences_middle (x : Column) (vs vs' : List Tree) (v : Tree) :
    (x.ofOccurrences (vs ++ v :: vs')).isSome ↔ (x.value? v).isSome ∧ vs ++ vs' = [] := by
  match vs, vs' with
  | [], [] => simp [ofOccurrences]
  | [], w :: vs' => simp [ofOccurrences]
  | [w], vs' => simp [ofOccurrences]
  | w :: u :: vs, vs' => simp [ofOccurrences]

theorem isSome_rowOfMembers_iff :
    (rowOfMembers xs ms).isSome ↔ ∀ x ∈ xs, (x.ofOccurrences (occurrences x.name ms)).isSome := by
  simp only [isSome_rowOfMembers, Tree.FitsRecord, ← Column.isSome_ofOccurrences]

theorem isSome_rowOfMembers_gap (hnames : ((xs ++ x :: ys).map Column.name).Nodup)
    (before after : List (String × Tree)) (v : Tree) :
    (rowOfMembers (xs ++ x :: ys) (before ++ (x.name, v) :: after)).isSome ↔
      (x.value? v).isSome ∧ occurrences x.name (before ++ after) = [] ∧
        ∀ y ∈ xs ++ ys, (y.ofOccurrences (occurrences y.name (before ++ after))).isSome := by
  have hmiddle := (List.perm_middle.map Column.name).nodup_iff.mp hnames
  have hne : ∀ y ∈ xs ++ ys, y.name ≠ x.name := fun y hy hname =>
    (List.nodup_cons.mp hmiddle).1 (hname ▸ List.mem_map_of_mem hy)
  have hothers : (∀ y ∈ xs ++ ys,
      (y.ofOccurrences (occurrences y.name (before ++ (x.name, v) :: after))).isSome) ↔
      ∀ y ∈ xs ++ ys, (y.ofOccurrences (occurrences y.name (before ++ after))).isSome :=
    forall₂_congr fun y hy => by rw [occurrences_append_of_ne (hne y hy)]
  rw [isSome_rowOfMembers_iff, List.forall_mem_append, List.forall_mem_cons, and_left_comm,
    ← List.forall_mem_append, hothers, occurrences_append, occurrences_cons_self,
    x.isSome_ofOccurrences_middle, ← occurrences_append, and_assoc]

theorem isSome_rowOfItems_gap {before after : List Tree} (hlength : before.length = xs.length)
    (v : Tree) :
    (rowOfItems (xs ++ x :: ys) (before ++ v :: after)).isSome ↔
      (x.value? v).isSome ∧ after.length ≤ ys.length ∧
        (∀ p ∈ xs.zip before ++ ys.zip after, (p.1.value? p.2).isSome) ∧
        ∀ y ∈ ys.drop after.length, y.field.default?.isSome := by
  have hdrop : (xs ++ x :: ys).drop (before ++ v :: after).length = ys.drop after.length := by
    simp [List.drop_append, hlength]
  have hle : (before ++ v :: after).length ≤ (xs ++ x :: ys).length ↔
      after.length ≤ ys.length := by
    simp [hlength]
  rw [isSome_rowOfItems, Tree.FitsRecord, hdrop, hle, List.zip_append hlength.symm,
    List.zip_cons_cons, List.forall_mem_append, List.forall_mem_cons, List.forall_mem_append]
  grind

/-- A record takes from a gap what the column of the gap makes of it. -/
theorem focuses_row {gap : Gap} (hgap : gap.IsAt xs.length x.name)
    (hnames : ((xs ++ x :: ys).map Column.name).Nodup) :
    Focuses (fun v => (gap.fill v).row? (xs ++ x :: ys)) x.value? fun row => some (row.get xs) := by
  cases gap with
  | item before after =>
      exact ⟨⟨_, fun v => isSome_rowOfItems_gap hgap v⟩, fun h => (get_rowOfItems hgap h).symm⟩
  | member before key after =>
      obtain rfl : key = x.name := hgap
      refine ⟨⟨_, fun v => isSome_rowOfMembers_gap hnames before after v⟩, fun {v row} h => ?_⟩
      obtain ⟨-, hnone, -⟩ := (isSome_rowOfMembers_gap hnames before after v).mp
        (Option.isSome_iff_exists.mpr ⟨row, h⟩)
      rw [occurrences_append, List.append_eq_nil_iff] at hnone
      have hget := get_rowOfMembers h
      rw [occurrences_append, occurrences_cons_self, hnone.1, hnone.2] at hget
      exact hget.symm

end

end Telemetry.Json
