import PathQuery.SortedList

namespace PathQuery

variable {α : Type} {cmp : α → α → Ordering} {x y : α} {xs : List α}

theorem mem_insertSorted (hcmp : ∀ x y, cmp x y = .eq → x = y) (h : y = x ∨ y ∈ xs) :
    y ∈ insertSorted cmp x xs := by
  induction xs with
  | nil => simpa [insertSorted] using h
  | cons z zs ih =>
    simp only [insertSorted]
    split
    · simpa using h
    · next hz =>
      obtain rfl := hcmp x z hz
      simpa using h
    · rcases h with h | h
      · exact List.mem_cons_of_mem z (ih (.inl h))
      · rcases List.mem_cons.mp h with rfl | h
        · exact List.mem_cons_self
        · exact List.mem_cons_of_mem z (ih (.inr h))

theorem mem_sortDistinct (hcmp : ∀ x y, cmp x y = .eq → x = y) (h : x ∈ xs) :
    x ∈ sortDistinct cmp xs := by
  induction xs with
  | nil => simp at h
  | cons y ys ih => exact mem_insertSorted hcmp ((List.mem_cons.mp h).imp_right ih)

theorem of_mem_insertSorted (h : y ∈ insertSorted cmp x xs) : y = x ∨ y ∈ xs := by
  induction xs with
  | nil => exact .inl (List.mem_singleton.mp h)
  | cons z zs ih =>
    simp only [insertSorted] at h
    split at h
    · exact List.mem_cons.mp h
    · exact .inr h
    · rcases List.mem_cons.mp h with rfl | h
      · exact .inr List.mem_cons_self
      · exact (ih h).imp_right (List.mem_cons_of_mem z)

theorem of_mem_sortDistinct (h : x ∈ sortDistinct cmp xs) : x ∈ xs := by
  induction xs with
  | nil => exact h
  | cons y ys ih =>
    rcases of_mem_insertSorted h with rfl | h
    · exact List.mem_cons_self
    · exact List.mem_cons_of_mem y (ih h)

theorem insertSorted_pairwise {r : α → α → Prop} (hlt : ∀ x y, cmp x y = .lt → r x y)
    (hgt : ∀ x y, cmp x y = .gt → r y x) (htrans : ∀ x y z, r x y → r y z → r x z)
    (h : xs.Pairwise r) : (insertSorted cmp x xs).Pairwise r := by
  induction h with
  | nil => exact .cons nofun .nil
  | @cons y ys hy hys ih =>
    simp only [insertSorted]
    split
    · next hxy =>
      have hx := hlt x y hxy
      refine .cons (List.forall_mem_cons.mpr ⟨hx, fun z hz => htrans x y z hx (hy z hz)⟩) ?_
      exact .cons hy hys
    · exact .cons hy hys
    · next hxy =>
      refine .cons (fun z hz => ?_) ih
      rcases of_mem_insertSorted hz with rfl | hz
      · exact hgt z y hxy
      · exact hy z hz

theorem lt_of_compare {a b : String} (h : compare a b = .lt) : a < b :=
  compareOfLessAndEq_eq_lt.mp h

theorem sortNames_pairwise (names : List String) : (sortNames names).Pairwise (· < ·) := by
  induction names with
  | nil => exact .nil
  | cons name names ih =>
    exact insertSorted_pairwise (fun _ _ h => lt_of_compare h)
      (fun _ _ h => lt_of_compare (Std.OrientedCmp.gt_iff_lt.mp h)) (fun _ _ _ => String.lt_trans) ih

theorem mem_sortNames {name : String} {names : List String} :
    name ∈ sortNames names ↔ name ∈ names :=
  ⟨of_mem_sortDistinct, mem_sortDistinct fun _ _ => Std.LawfulEqOrd.eq_of_compare⟩

theorem eq_of_compareNames (xs ys : List String) (h : compareNames xs ys = .eq) : xs = ys := by
  induction xs generalizing ys with
  | nil => cases ys with
    | nil => rfl
    | cons y ys => simp [compareNames] at h
  | cons x xs ih => cases ys with
    | nil => simp [compareNames] at h
    | cons y ys =>
      simp only [compareNames, Ordering.then_eq_eq] at h
      rw [Std.LawfulEqOrd.eq_of_compare h.1, ih ys h.2]

end PathQuery
