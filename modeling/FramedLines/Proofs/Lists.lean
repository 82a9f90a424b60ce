import Mathlib.Data.List.Basic

-- Lists whose items are known by their places, lists of entries that are known by their keys, and
-- lists that are made of a list for each item.

namespace FramedLines

theorem getElem?_modify_cases {α : Type} {items : List α} {f : α → α} {number index : Nat}
    {item : α} (hitem : (items.modify number f)[index]? = some item) :
    (number = index ∧ ∃ old, items[index]? = some old ∧ item = f old) ∨
      number ≠ index ∧ items[index]? = some item := by
  rw [List.getElem?_modify] at hitem
  obtain ⟨old, hold, rfl⟩ := Option.map_eq_some_iff.mp hitem
  by_cases hnumber : number = index
  · exact .inl ⟨hnumber, old, hold, if_pos hnumber⟩
  · exact .inr ⟨hnumber, by rwa [if_neg hnumber]⟩

theorem getElem?_modify_of {α : Type} {items : List α} {index : Nat} {item : α}
    (hitem : items[index]? = some item) (number : Nat) (f : α → α) :
    (items.modify number f)[index]? = some (if number = index then f item else item) := by
  rw [List.getElem?_modify, hitem]
  split <;> rfl

theorem modify_eq_set {α : Type} {items : List α} {index : Nat} {item : α}
    (hitem : items[index]? = some item) (f : α → α) :
    items.modify index f = items.set index (f item) := by
  rw [List.modify_eq_set_getElem?, hitem]
  rfl

theorem getElem?_concat_cases {α : Type} {items : List α} {last item : α} {index : Nat}
    (hitem : (items ++ [last])[index]? = some item) :
    items[index]? = some item ∨ index = items.length ∧ item = last := by
  by_cases hlt : index < items.length
  · rw [List.getElem?_append_left hlt] at hitem
    exact .inl hitem
  · have hbound := (List.getElem?_eq_some_iff.mp hitem).1
    rw [List.length_append, List.length_singleton] at hbound
    obtain rfl : index = items.length := by omega
    rw [List.getElem?_concat_length] at hitem
    exact .inr ⟨rfl, (Option.some.inj hitem).symm⟩

theorem modify_concat {α : Type} (items : List α) (last : α) (f : α → α) :
    (items ++ [last]).modify items.length f = items ++ [f last] := by
  induction items with
  | nil => rfl
  | cons item items ih => exact congrArg (item :: ·) ih

theorem modify_congr {α : Type} {items : List α} {number : Nat} {f g : α → α}
    (h : ∀ item, items[number]? = some item → f item = g item) :
    items.modify number f = items.modify number g := by
  refine List.ext_getElem? fun index => ?_
  rw [List.getElem?_modify, List.getElem?_modify]
  cases hitem : items[index]? with
  | none => rfl
  | some item =>
      by_cases hindex : number = index
      · subst hindex
        simp [h item hitem]
      · simp [hindex]

-- How many items are of a kind, one of them set apart.
theorem exists_countP_others {α : Type} {items : List α} {index : Nat} {item : α}
    (hitem : items[index]? = some item) (p : α → Bool) :
    ∃ others, items.countP p = others + (p item).toNat ∧
      ∀ next, (items.set index next).countP p = others + (p next).toNat := by
  obtain ⟨hindex, rfl⟩ := List.getElem?_eq_some_iff.mp hitem
  have hset (next : α) : (items.set index next).countP p =
      (items.take index).countP p + (items.drop (index + 1)).countP p + (p next).toNat := by
    rw [List.set_eq_take_append_cons_drop, if_pos hindex, List.countP_append, List.countP_cons]
    cases p next with
    | false => simp
    | true =>
        simp only [if_pos, Bool.toNat_true]
        omega
  refine ⟨_, ?_, hset⟩
  have hself := hset items[index]
  rwa [List.set_getElem_self] at hself

theorem lookup_filter_ne {α β : Type} [BEq α] [LawfulBEq α] (key other : α)
    (entries : List (α × β)) : (entries.filter (·.1 != key)).lookup other =
      if other == key then none else entries.lookup other := by
  induction entries with
  | nil => simp
  | cons entry entries ih =>
      obtain ⟨first, value⟩ := entry
      cases hfirst : first == key with
      | true =>
          obtain rfl := beq_iff_eq.mp hfirst
          rw [List.filter_cons_of_neg (by simp), ih, List.lookup_cons]
          cases other == first <;> rfl
      | false =>
          rw [List.filter_cons_of_pos (by simp [bne, hfirst]), List.lookup_cons,
            List.lookup_cons, ih]
          cases hother : other == first with
          | true =>
              obtain rfl := beq_iff_eq.mp hother
              simp [hfirst]
          | false => rfl

theorem length_le_flatMap_of_mem {α β : Type} {items : List α} {item : α} (hitem : item ∈ items)
    (f : α → List β) : (f item).length ≤ (items.flatMap f).length := by
  rw [List.flatMap_def]
  exact (List.sublist_flatten_of_mem (List.mem_map_of_mem hitem)).length_le

theorem length_le_length_flatMap {α β : Type} {items : List α} {f : α → List β}
    (hitems : ∀ item ∈ items, f item ≠ []) : items.length ≤ (items.flatMap f).length := by
  induction items with
  | nil => simp
  | cons item items ih =>
      have hpos := List.length_pos_iff.mpr (hitems item (by simp))
      have hrest := ih fun other hother => hitems other (by simp [hother])
      simp only [List.length_cons, List.flatMap_cons, List.length_append]
      omega

end FramedLines
