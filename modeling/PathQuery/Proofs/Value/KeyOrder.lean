import PathQuery.Proofs.Decimal.Order
import PathQuery.Proofs.SortedList
import PathQuery.Value.Lookup

namespace PathQuery

namespace Key

theorem compare_swap (k l : Key) : k.compare l = (l.compare k).swap := by
  cases k with
  | bool b =>
    cases l with
    | bool c => exact Std.OrientedOrd.eq_swap
    | number | string => rfl
  | number d =>
    cases l with
    | number c => exact (Std.OrientedCmp.eq_swap : d.compare c = (c.compare d).swap)
    | bool | string => rfl
  | string s =>
    cases l with
    | string t => exact Std.OrientedOrd.eq_swap
    | bool | number => rfl

theorem compare_isLE_trans (k l m : Key) (hkl : (k.compare l).isLE = true)
    (hlm : (l.compare m).isLE = true) : (k.compare m).isLE = true := by
  -- Keys of one kind are compared in that kind; of two kinds the first one is lower, always.
  cases k <;> cases l <;> cases m
  all_goals first
    | contradiction
    | rfl
    | exact @Std.TransCmp.isLE_trans _ Decimal.compare _ _ _ _ hkl hlm
    | exact Std.TransOrd.isLE_trans hkl hlm

instance : Std.TransCmp Key.compare where
  eq_swap := compare_swap _ _
  isLE_trans := compare_isLE_trans _ _ _

end Key

namespace Entries

variable {m : Entries}

def IsAscending (m : Entries) : Prop := (m.map (·.1)).Pairwise fun k l => k.compare l = .lt

theorem keys_insert (m : Entries) (key : Key) (v : Value) :
    (insert m key v).map (·.1) = insertSorted Key.compare key (m.map (·.1)) := by
  induction m with
  | nil => rfl
  | cons e rest ih =>
    rw [insert, List.map_cons, insertSorted]
    cases key.compare e.1 with
    | lt => rfl
    | eq => rfl
    | gt => exact congrArg (e.1 :: ·) ih

theorem IsAscending.insert (h : m.IsAscending) (key : Key) (v : Value) :
    (m.insert key v).IsAscending := by
  rw [IsAscending, keys_insert]
  exact insertSorted_pairwise (fun _ _ hlt => hlt) (fun _ _ hgt => Std.OrientedCmp.gt_iff_lt.mp hgt)
    (fun _ _ _ => Std.TransCmp.lt_trans) h

theorem ofList_concat (entries : List (Key × Value)) (e : Key × Value) :
    ofList (entries ++ [e]) = insert (ofList entries) e.1 e.2 :=
  List.foldl_concat _ _ _ _

theorem isAscending_ofList (entries : List (Key × Value)) : (ofList entries).IsAscending := by
  induction entries using List.reverseRecOn with
  | nil => exact .nil
  | append_singleton entries e ih =>
    rw [ofList_concat]
    exact ih.insert e.1 e.2

theorem insert_of_above {key : Key} (h : ∀ k ∈ m.map (·.1), k.compare key = .lt) (v : Value) :
    m.insert key v = m ++ [(key, v)] := by
  induction m with
  | nil => rfl
  | cons e rest ih =>
    obtain ⟨hkey, hrest⟩ := List.forall_mem_cons.mp h
    rw [Entries.insert, Std.OrientedCmp.gt_iff_lt.mpr hkey]
    exact congrArg (e :: ·) (ih hrest)

theorem IsAscending.ofList_eq (h : m.IsAscending) : ofList m = m := by
  induction m using List.reverseRecOn with
  | nil => rfl
  | append_singleton m e ih =>
    rw [IsAscending, List.map_append, List.pairwise_append] at h
    obtain ⟨hm, -, hbelow⟩ := h
    rw [ofList_concat, ih hm]
    exact insert_of_above (fun k hk => hbelow k hk e.1 List.mem_cons_self) e.2

theorem isAscending_iff : m.IsAscending ↔ ∃ entries, ofList entries = m := by
  constructor
  · intro h
    exact ⟨m, h.ofList_eq⟩
  · rintro ⟨entries, rfl⟩
    exact isAscending_ofList entries

end Entries

end PathQuery
