import PathQuery.Value.Lookup

namespace PathQuery

variable {α β : Type}

theorem find?_of_imp {p q : α → Bool} {xs : List α} {x : α} (h : xs.find? p = some x)
    (hq : q x = true) (hqp : ∀ y, q y = true → p y = true) : xs.find? q = some x := by
  induction xs with
  | nil => simp at h
  | cons y ys ih =>
    by_cases hp : p y = true
    · obtain rfl : y = x := by simpa [hp] using h
      simp [hq]
    · have hn : ¬q y = true := fun hy => hp (hqp y hy)
      simp only [List.find?_cons, hp] at h
      simp [hn, ih h]

theorem exists_find?_of_mem {p : α → Bool} {xs : List α} {x : α} (h : x ∈ xs) (hp : p x = true) :
    ∃ first, xs.find? p = some first :=
  Option.isSome_iff_exists.mp (List.find?_isSome.mpr ⟨x, h, hp⟩)

theorem named?_eq_or (entries : List (String × α)) (name : String) :
    named? entries name = ((entries.find? fun e => e.1 == name).map (·.2)).or
      ((entries.find? fun e => Text.sameName e.1 name).map (·.2)) := by
  unfold named?
  cases entries.find? fun e => e.1 == name with
  | none => rfl
  | some e => rfl

theorem named?_map (entries : List (String × α)) (f : α → β) (name : String) :
    named? (entries.map fun e => (e.1, f e.2)) name = (named? entries name).map f := by
  simp only [named?_eq_or, List.find?_map, Option.map_or, Option.map_map, Function.comp_def]

theorem exists_mem_of_named? {entries : List (String × α)} {name : String} {a : α}
    (h : named? entries name = some a) : ∃ e ∈ entries, e.2 = a := by
  have of_find? {p : String × α → Bool} (h : (entries.find? p).map (·.2) = some a) :
      ∃ e ∈ entries, e.2 = a := by
    obtain ⟨e, he, ha⟩ := Option.map_eq_some_iff.mp h
    exact ⟨e, List.mem_of_find?_eq_some he, ha⟩
  rw [named?_eq_or, Option.or_eq_some_iff] at h
  rcases h with h | ⟨-, h⟩
  · exact of_find? h
  · exact of_find? h

theorem named?_of_mem {entries : List (String × α)} {name : String}
    (h : name ∈ entries.map (·.1)) : ∃ a, named? entries name = some a := by
  obtain ⟨e, he, rfl⟩ := List.mem_map.mp h
  obtain ⟨e', he'⟩ := exists_find?_of_mem (p := fun x => x.1 == e.1) he (beq_self_eq_true e.1)
  exact ⟨e'.2, by rw [named?_eq_or, he', Option.map_some, Option.some_or]⟩

def keepNamed (f : α → Option β) (entries : List (String × α)) : List (String × β) :=
  entries.filterMap fun e => (f e.2).map (e.1, ·)

theorem any_keepNamed {f : α → Option β} {p : String → Bool} {e : String × α}
    (h : ((f e.2).map (e.1, ·)).any (fun e => p e.1) = true) : p e.1 = true := by
  cases hf : f e.2 <;> simp_all

theorem find?_keepNamed {entries : List (String × α)} {f : α → Option β} {p : String → Bool}
    {e : String × α} {b : β} (h : entries.find? (fun e => p e.1) = some e) (hf : f e.2 = some b) :
    (keepNamed f entries).find? (fun e => p e.1) = some (e.1, b) := by
  have hp := List.find?_some h
  have hq : ((f e.2).map (e.1, ·)).any (fun e => p e.1) = true := by simp [hf, hp]
  rw [keepNamed, List.find?_filterMap, find?_of_imp h hq fun _ => any_keepNamed]
  simp [hf]

theorem find?_keepNamed_none {entries : List (String × α)} (f : α → Option β) {p : String → Bool}
    (h : entries.find? (fun e => p e.1) = none) :
    (keepNamed f entries).find? (fun e => p e.1) = none := by
  rw [keepNamed, List.find?_filterMap, Option.bind_eq_none_iff]
  intro e he
  have hp := List.find?_some he
  exact absurd (any_keepNamed hp) (List.find?_eq_none.mp h e (List.mem_of_find?_eq_some he))

theorem named?_keepNamed {entries : List (String × α)} {f : α → Option β} {name : String} {a : α}
    {b : β} (h : named? entries name = some a) (hf : f a = some b) :
    named? (keepNamed f entries) name = some b := by
  rw [named?_eq_or, Option.or_eq_some_iff] at h ⊢
  simp only [Option.map_eq_some_iff, Option.map_eq_none_iff] at h ⊢
  rcases h with ⟨e, he, rfl⟩ | ⟨hexact, e, he, rfl⟩
  · exact .inl ⟨(e.1, b), find?_keepNamed (p := (· == name)) he hf, rfl⟩
  · exact .inr ⟨find?_keepNamed_none (p := (· == name)) f hexact, (e.1, b),
      find?_keepNamed (p := (Text.sameName · name)) he hf, rfl⟩

theorem named?_keepNamed_none {entries : List (String × α)} (f : α → Option β) {name : String}
    (h : named? entries name = none) : named? (keepNamed f entries) name = none := by
  rw [named?_eq_or, Option.or_eq_none_iff] at h ⊢
  simp only [Option.map_eq_none_iff] at h ⊢
  exact ⟨find?_keepNamed_none (p := (· == name)) f h.1,
    find?_keepNamed_none (p := (Text.sameName · name)) f h.2⟩

section Setting

variable {entries : List (String × α)} {name name' : String} {a : α}

theorem lookup_cons_of_ne (h : name' ≠ name) :
    ((name, a) :: entries).lookup name' = entries.lookup name' := by
  rw [List.lookup_cons, beq_eq_false_iff_ne.mpr h]

theorem lookup_setNamed (entries : List (String × α)) (name name' : String) (a : α) :
    (setNamed entries name a).lookup name' =
      if name' = name then some a else entries.lookup name' := by
  induction entries with
  | nil =>
    by_cases h : name' = name
    · simp [setNamed, h]
    · rw [setNamed, lookup_cons_of_ne h, if_neg h]
  | cons e entries ih =>
    obtain ⟨k, b⟩ := e
    by_cases hk : k = name
    · obtain rfl := hk
      by_cases h : name' = k
      · simp [setNamed, h]
      · simp [setNamed, h, lookup_cons_of_ne h]
    · by_cases h : name' = k
      · obtain rfl := h
        simp [setNamed, hk]
      · simp [setNamed, hk, lookup_cons_of_ne h, ih]

theorem setNamed_of_not_mem (h : name ∉ entries.map (·.1)) :
    setNamed entries name a = entries ++ [(name, a)] := by
  induction entries with
  | nil => rfl
  | cons e entries ih =>
    simp only [List.map_cons, List.mem_cons, not_or] at h
    have hne : (e.1 == name) = false := beq_eq_false_iff_ne.mpr (Ne.symm h.1)
    simp [setNamed, hne, ih h.2]

theorem of_mem_setNamed {e : String × α} (h : e ∈ setNamed entries name a) :
    e.2 = a ∨ e ∈ entries := by
  induction entries with
  | nil => exact .inl (congrArg Prod.snd (List.mem_singleton.mp h))
  | cons e' entries ih =>
    rw [setNamed] at h
    split at h
    · rcases List.mem_cons.mp h with rfl | h
      · exact .inl rfl
      · exact .inr (List.mem_cons_of_mem e' h)
    · rcases List.mem_cons.mp h with rfl | h
      · exact .inr List.mem_cons_self
      · exact (ih h).imp_right (List.mem_cons_of_mem e')

end Setting

theorem nodup_eraseDups : ∀ names : List String, names.eraseDups.Nodup
  | [] => by simp
  | name :: names => by
    rw [List.eraseDups_cons]
    refine List.nodup_cons.mpr ⟨fun h => ?_, nodup_eraseDups _⟩
    have hkept := (List.mem_filter.mp (List.mem_eraseDups.mp h)).2
    simp at hkept
termination_by names => names.length
decreasing_by exact Nat.lt_succ_of_le (List.length_filter_le _ _)

end PathQuery
