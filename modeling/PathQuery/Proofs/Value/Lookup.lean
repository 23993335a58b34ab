import PathQuery.Proofs.Value.Insertion
import PathQuery.Proofs.Value.KeyOrder

namespace PathQuery

namespace Entries

variable {m : Entries} {test : String → Bool} {e e' : Key × Value} {name : String} {v : Value}

structure IsFirst (m : Entries) (test : String → Bool) (e : Key × Value) : Prop where
  mem : e ∈ m
  passes : test e.1.text = true
  before : ∀ e' ∈ m, test e'.1.text = true → e' = e ∨ e.1.compare e'.1 = .lt

theorem IsFirst.unique (h : m.IsFirst test e) (h' : m.IsFirst test e') : e = e' := by
  rcases h.before e' h'.mem h'.passes with heq | hlt
  · exact heq.symm
  · rcases h'.before e h.mem h.passes with heq | hlt'
    · exact heq
    · exact absurd hlt' (Std.OrientedCmp.not_lt_of_lt hlt)

theorem IsAscending.isFirst (hm : m.IsAscending)
    (h : m.find? (fun e => test e.1.text) = some e) : m.IsFirst test e := by
  obtain ⟨hpasses, before, after, rfl, hbefore⟩ := List.find?_eq_some_iff_append.mp h
  rw [IsAscending, List.map_append, List.map_cons] at hm
  have hafter := (List.pairwise_cons.mp (List.pairwise_append.mp hm).2.1).1
  refine ⟨List.mem_append_right before List.mem_cons_self, hpasses, ?_⟩
  intro e' he' htest
  rcases List.mem_append.mp he' with hb | hrest
  · exact absurd htest (by simpa using hbefore e' hb)
  · rcases List.mem_cons.mp hrest with heq | ha
    · exact .inl heq
    · exact .inr (hafter e'.1 (List.mem_map_of_mem ha))

theorem IsAscending.find?_eq_some_iff (hm : m.IsAscending) :
    m.find? (fun e => test e.1.text) = some e ↔ m.IsFirst test e := by
  constructor
  · exact hm.isFirst
  · intro h
    obtain ⟨e', he'⟩ := exists_find?_of_mem (p := fun e => test e.1.text) h.mem h.passes
    rw [he', h.unique (hm.isFirst he')]

theorem IsAscending.map_find?_eq_some_iff (hm : m.IsAscending) (test : String → Bool) :
    (m.find? fun e => test e.1.text).map (·.2) = some v ↔ ∃ k, m.IsFirst test (k, v) := by
  rw [Option.map_eq_some_iff]
  constructor
  · rintro ⟨⟨k, w⟩, h, rfl⟩
    exact ⟨k, hm.isFirst h⟩
  · rintro ⟨k, h⟩
    exact ⟨(k, v), hm.find?_eq_some_iff.mpr h, rfl⟩

theorem lookup?_eq_or (m : Entries) (name : String) :
    m.lookup? name = ((m.find? fun e => e.1.text == name).map (·.2)).or
      ((m.find? fun e => Text.sameName e.1.text name).map (·.2)) := by
  rw [lookup?, named?_eq_or, texts, List.find?_map, List.find?_map, Option.map_map, Option.map_map]
  rfl

theorem IsAscending.lookup?_eq_some_iff (hm : m.IsAscending) :
    m.lookup? name = some v ↔ (∃ k, m.IsFirst (· == name) (k, v)) ∨
      (∀ e ∈ m, e.1.text ≠ name) ∧ ∃ k, m.IsFirst (Text.sameName · name) (k, v) := by
  have hnone : (m.find? fun e => e.1.text == name).map (·.2) = none ↔ ∀ e ∈ m, e.1.text ≠ name := by
    rw [Option.map_eq_none_iff, List.find?_eq_none]
    simp
  rw [lookup?_eq_or, Option.or_eq_some_iff, hnone, hm.map_find?_eq_some_iff (· == name),
    hm.map_find?_eq_some_iff (Text.sameName · name)]

def scan (name : String) : Option Value → Entries → Option Value
  | folded, [] => folded
  | folded, (key, v) :: rest =>
    if key.text == name then some v
    else if folded.isNone && Text.sameName key.text name then scan name (some v) rest
    else scan name folded rest

theorem scan_eq (name : String) (folded : Option Value) (m : Entries) :
    scan name folded m = ((m.find? fun e => e.1.text == name).map (·.2)).or
      (folded.or ((m.find? fun e => Text.sameName e.1.text name).map (·.2))) := by
  induction m generalizing folded with
  | nil => simp [scan]
  | cons e rest ih =>
    obtain ⟨key, v⟩ := e
    by_cases hexact : key.text = name
    · simp [scan, hexact]
    · cases folded with
      | some w => simp [scan, hexact, ih]
      | none =>
        by_cases hsame : Text.sameName key.text name = true
        · simp [scan, hexact, hsame, ih]
        · simp [scan, hexact, hsame, ih]

theorem scan_eq_lookup? (name : String) (m : Entries) : scan name none m = m.lookup? name := by
  rw [scan_eq, lookup?_eq_or, Option.none_or]

end Entries

theorem lookup_exact_or_folded (calls : List (String × Value)) {m : Entries} (hm : m.IsAscending)
    (name : String) :
    (Fields.ofList calls).names.Nodup ∧
      (Fields.ofList calls).names = (calls.map (·.1)).eraseDups ∧
      (Fields.ofList calls).length = (calls.map (·.1)).toFinset.card ∧
      (∀ v, (Fields.ofList calls).lookup? name = some v ↔
        IsLast calls name v ∨ name ∉ calls.map (·.1) ∧
          ∃ first, (calls.map (·.1)).find? (Text.sameName · name) = some first ∧
            IsLast calls first v) ∧
      (∀ v, m.lookup? name = some v ↔ (∃ k, m.IsFirst (· == name) (k, v)) ∨
        (∀ e ∈ m, e.1.text ≠ name) ∧ ∃ k, m.IsFirst (Text.sameName · name) (k, v)) ∧
      m.scan name none = m.lookup? name := by
  have hnames := Fields.names_ofList calls
  refine ⟨?_, hnames, Fields.length_ofList calls, ?_, ?_, Entries.scan_eq_lookup? name m⟩
  · rw [hnames]
    exact nodup_eraseDups _
  · intro v
    exact Fields.lookup?_ofList_eq_some_iff
  · intro v
    exact hm.lookup?_eq_some_iff

theorem lookup_exact_or_folded_true :
    let calls : List (String × Value) := [("TRUE", .null), ("true", .null), ("TRUE", .string "last")]
    let m := Entries.ofList [(.string "True", .string "exact"), (.bool true, .string "folded")]
    m.IsAscending ∧ (Fields.ofList calls).names = ["TRUE", "true"] ∧ (Fields.ofList calls).length = 2 ∧
      (Fields.ofList calls).lookup? "True" = some (.string "last") ∧
      m.lookup? "True" = some (.string "exact") ∧ m.lookup? "tRUE" = some (.string "folded") := by
  intro calls m
  have hm : m.IsAscending := Entries.isAscending_ofList _
  obtain ⟨-, hnames, hlength, hfields, -, hscan⟩ := lookup_exact_or_folded calls hm "True"
  obtain ⟨-, -, -, -, -, hscan'⟩ := lookup_exact_or_folded calls hm "tRUE"
  refine ⟨hm, hnames.trans (by decide), hlength.trans (by decide), ?_, hscan.symm.trans ?_,
    hscan'.symm.trans ?_⟩
  · exact (hfields _).mpr (.inr ⟨by decide, "TRUE", by decide, [("TRUE", .null), ("true", .null)], [],
      rfl, by decide⟩)
  · rfl
  · rfl

end PathQuery
