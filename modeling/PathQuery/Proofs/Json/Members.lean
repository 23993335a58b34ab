import PathQuery.Json.Basic
import PathQuery.Proofs.SortedList

namespace PathQuery

variable {α β : Type} {xs ys : List (String × α)}

def nameLe (a b : String × α) : Bool := a.1 ≤ b.1

def byName (pairs : List (String × α)) : List (String × α) := pairs.mergeSort nameLe

def NamesIncrease (pairs : List (String × α)) : Prop := pairs.Pairwise fun a b => a.1 < b.1

theorem byName_perm (xs : List (String × α)) : (byName xs).Perm xs := List.mergeSort_perm xs _

theorem nameLe_trans (a b c : String × α) (hab : nameLe a b = true) (hbc : nameLe b c = true) :
    nameLe a c = true :=
  decide_eq_true (String.le_trans (of_decide_eq_true hab) (of_decide_eq_true hbc))

theorem nameLe_total (a b : String × α) : (nameLe a b || nameLe b a) = true := by
  simpa [nameLe] using String.le_total a.1 b.1

theorem byName_increase (h : (xs.map (·.1)).Nodup) : NamesIncrease (byName xs) := by
  have hle : (byName xs).Pairwise fun a b => nameLe a b = true :=
    List.pairwise_mergeSort nameLe_trans nameLe_total xs
  have hn : ((byName xs).map (·.1)).Nodup := ((byName_perm xs).map (·.1)).nodup_iff.mpr h
  refine (hle.and (List.pairwise_map.mp hn)).imp fun ⟨hab, hne⟩ => ?_
  exact Std.lt_of_le_of_ne (of_decide_eq_true hab) hne

theorem NamesIncrease.nodup (h : NamesIncrease xs) : (xs.map (·.1)).Nodup := by
  refine List.pairwise_map.mpr (h.imp fun {a b} hab heq => ?_)
  exact String.lt_irrefl b.1 (heq ▸ hab)

theorem NamesIncrease.eq_of_perm (hx : NamesIncrease xs) (hy : NamesIncrease ys)
    (h : xs.Perm ys) : xs = ys :=
  h.eq_of_pairwise
    (fun _ _ _ _ hab hba => absurd (String.lt_trans hab hba) (String.lt_irrefl _)) hx hy

namespace Json

theorem insertMember_perm {name : String} {value : α} (h : name ∉ xs.map (·.1)) :
    (insertMember name value xs).Perm ((name, value) :: xs) := by
  induction xs with
  | nil => exact .refl _
  | cons m xs ih =>
    simp only [List.map_cons, List.mem_cons, not_or] at h
    simp only [insertMember]
    split
    · exact .refl _
    · next heq => exact absurd (Std.LawfulEqOrd.eq_of_compare heq) h.1
    · exact ((ih h.2).cons m).trans (.swap _ _ _)

theorem sortMembers_perm (h : (xs.map (·.1)).Nodup) : (sortMembers xs).Perm xs := by
  induction xs with
  | nil => exact .refl _
  | cons m xs ih =>
    obtain ⟨hm, h⟩ := List.nodup_cons.mp h
    have hperm := ih h
    have hm' : m.1 ∉ (sortMembers xs).map (·.1) := fun hmem =>
      hm ((hperm.map (·.1)).mem_iff.mp hmem)
    exact (insertMember_perm hm').trans (hperm.cons m)

theorem of_mem_insertMember {name : String} {value : α} {m : String × α}
    (h : m ∈ insertMember name value xs) : m = (name, value) ∨ m ∈ xs := by
  induction xs with
  | nil => exact .inl (List.mem_singleton.mp h)
  | cons y xs ih =>
    simp only [insertMember] at h
    split at h
    · exact List.mem_cons.mp h
    · exact .inr h
    · rcases List.mem_cons.mp h with rfl | h
      · exact .inr List.mem_cons_self
      · exact (ih h).imp_right (List.mem_cons_of_mem y)

theorem of_mem_sortMembers {m : String × α} (h : m ∈ sortMembers xs) : m ∈ xs := by
  induction xs with
  | nil => exact h
  | cons y xs ih =>
    rcases of_mem_insertMember h with rfl | h
    · exact List.mem_cons_self
    · exact List.mem_cons_of_mem y (ih h)

theorem insertMember_increase {name : String} {value : α} (h : NamesIncrease xs) :
    NamesIncrease (insertMember name value xs) := by
  induction xs with
  | nil => exact .cons nofun .nil
  | cons m xs ih =>
    obtain ⟨hm, hxs⟩ := List.pairwise_cons.mp h
    simp only [insertMember]
    split
    · next hlt =>
      have hname := lt_of_compare hlt
      exact .cons (List.forall_mem_cons.mpr
        ⟨hname, fun x hx => String.lt_trans hname (hm x hx)⟩) h
    · exact h
    · next hgt =>
      refine .cons (fun x hx => ?_) (ih hxs)
      rcases of_mem_insertMember hx with rfl | hx
      · exact lt_of_compare (Std.OrientedCmp.gt_iff_lt.mp hgt)
      · exact hm x hx

theorem sortMembers_increase (xs : List (String × α)) : NamesIncrease (sortMembers xs) := by
  induction xs with
  | nil => exact .nil
  | cons m xs ih => exact insertMember_increase ih

theorem sortMembers_congr (hx : (xs.map (·.1)).Nodup) (h : xs.Perm ys) :
    sortMembers xs = sortMembers ys := by
  have hy : (ys.map (·.1)).Nodup := (h.map (·.1)).nodup_iff.mp hx
  exact (sortMembers_increase xs).eq_of_perm (sortMembers_increase ys)
    (((sortMembers_perm hx).trans h).trans (sortMembers_perm hy).symm)

theorem sortMembers_of_increase (h : NamesIncrease xs) : sortMembers xs = xs :=
  (sortMembers_increase xs).eq_of_perm h (sortMembers_perm h.nodup)

end Json
end PathQuery
