import Mathlib.Order.Bounds.Defs
import Mathlib.Data.Set.Basic
import PathQuery.Proofs.Json.Members
import PathQuery.Proofs.Result
import PathQuery.Schema.Document

namespace PathQuery.Schema

def IsClosed (keys : List SchemaKey) (names : Set String) : Prop :=
  ∀ k ∈ keys, ∀ required ∈ k.requires, ∀ b ∈ names, Text.sameName b required = true → k.name ∈ names

variable {keys ks : List SchemaKey} {blocked : List String} {k : SchemaKey} {names : Set String}

theorem needs_iff : SchemaKey.needs k blocked = true ↔
    ∃ required ∈ k.requires, ∃ b ∈ blocked, Text.sameName b required = true := by
  simp only [SchemaKey.needs, List.any_eq_true]

theorem suffix_block (blocked : List String) (k : SchemaKey) : blocked <:+ block blocked k := by
  unfold block
  split
  · exact List.suffix_refl blocked
  · split
    · exact List.suffix_cons k.name blocked
    · exact List.suffix_refl blocked

theorem suffix_pass (ks : List SchemaKey) (blocked : List String) : blocked <:+ pass ks blocked := by
  induction ks generalizing blocked with
  | nil => exact List.suffix_refl blocked
  | cons k ks ih => exact (suffix_block blocked k).trans (ih (block blocked k))

theorem block_subset (h : IsClosed keys names) (hk : k ∈ keys) (hb : ∀ b ∈ blocked, b ∈ names) :
    ∀ b ∈ block blocked k, b ∈ names := by
  unfold block
  split
  · exact hb
  · split
    · next hneeds =>
      obtain ⟨required, hr, b, hmem, hsame⟩ := needs_iff.mp hneeds
      exact List.forall_mem_cons.mpr ⟨h k hk required hr b (hb b hmem) hsame, hb⟩
    · exact hb

theorem pass_subset (h : IsClosed keys names) (hks : ks ⊆ keys) (hb : ∀ b ∈ blocked, b ∈ names) :
    ∀ b ∈ pass ks blocked, b ∈ names := by
  induction ks generalizing blocked with
  | nil => exact hb
  | cons k ks ih =>
    obtain ⟨hk, hks⟩ := List.cons_subset.mp hks
    exact ih hks (block_subset h hk hb)

theorem closure_of_end (h : (pass keys blocked).length = blocked.length) :
    closure keys blocked = blocked := by
  rw [closure, if_pos h]

theorem closure_of_grows (h : ¬(pass keys blocked).length = blocked.length) :
    closure keys blocked = closure keys (pass keys blocked) := by
  rw [closure, if_neg h]

theorem closure_subset (h : IsClosed keys names) (hb : ∀ b ∈ blocked, b ∈ names) :
    ∀ b ∈ closure keys blocked, b ∈ names := by
  induction blocked using closure.induct keys with
  | case1 blocked hend =>
    rw [closure_of_end hend]
    exact hb
  | case2 blocked hgrows ih =>
    rw [closure_of_grows hgrows]
    exact ih (pass_subset h (List.Subset.refl keys) hb)

theorem mem_of_block (h : block blocked k = blocked) (hneeds : SchemaKey.needs k blocked = true) :
    k.name ∈ blocked := by
  by_cases hk : blocked.contains k.name = true
  · exact List.contains_iff_mem.mp hk
  · rw [block, if_neg hk, if_pos hneeds] at h
    exact absurd h (List.cons_ne_self k.name blocked)

theorem block_of_pass (h : (pass ks blocked).length = blocked.length) :
    ∀ k ∈ ks, block blocked k = blocked := by
  induction ks with
  | nil => exact List.forall_mem_nil _
  | cons k ks ih =>
    have hle : (block blocked k).length ≤ (pass (k :: ks) blocked).length :=
      (suffix_pass ks (block blocked k)).length_le
    have hfirst : block blocked k = blocked :=
      ((suffix_block blocked k).eq_of_length_le (hle.trans h.le)).symm
    have hrest : pass (k :: ks) blocked = pass ks blocked := congrArg (pass ks) hfirst
    rw [hrest] at h
    exact List.forall_mem_cons.mpr ⟨hfirst, ih h⟩

theorem isClosed_of_pass (h : (pass keys blocked).length = blocked.length) :
    IsClosed keys {name | name ∈ blocked} := by
  intro k hk required hr b hb hsame
  exact mem_of_block (block_of_pass h k hk) (needs_iff.mpr ⟨required, hr, b, hb, hsame⟩)

theorem isClosed_closure (keys : List SchemaKey) (blocked : List String) :
    IsClosed keys {name | name ∈ closure keys blocked} := by
  induction blocked using closure.induct keys with
  | case1 blocked hend =>
    rw [closure_of_end hend]
    exact isClosed_of_pass hend
  | case2 blocked hgrows ih =>
    rw [closure_of_grows hgrows]
    exact ih

theorem suffix_closure (keys : List SchemaKey) (blocked : List String) :
    blocked <:+ closure keys blocked := by
  induction blocked using closure.induct keys with
  | case1 blocked hend =>
    exact (closure_of_end hend).symm ▸ List.suffix_refl blocked
  | case2 blocked hgrows ih =>
    rw [closure_of_grows hgrows]
    exact (suffix_pass keys blocked).trans ih

theorem isLeast_closure (keys : List SchemaKey) (first : String) :
    IsLeast {names : Set String | first ∈ names ∧ IsClosed keys names}
      {name | name ∈ sortNames (closure keys [first])} := by
  simp only [mem_sortNames]
  constructor
  · have hfirst : first ∈ closure keys [first] :=
      (suffix_closure keys [first]).subset (List.mem_singleton_self first)
    exact ⟨hfirst, isClosed_closure keys [first]⟩
  · rintro names ⟨hfirst, hclosed⟩ name hname
    exact closure_subset hclosed (List.forall_mem_singleton.mpr hfirst) name hname

theorem specs?_increase {text : String} {specs : List (String × KeySpec)}
    (h : specs? text = some specs) : NamesIncrease specs := by
  unfold specs? at h
  split at h
  · obtain ⟨members, -, rfl⟩ := Option.map_eq_some_iff.mp h
    exact Json.sortMembers_increase members
  · cases h

theorem keys_increase {text : String} {s : Schema} (h : Schema.read text = .ok s) :
    s.keys.Pairwise fun j k => j.name < k.name := by
  unfold Schema.read at h
  split at h
  · cases h
  · next specs hspecs =>
    obtain ⟨fields, -, h⟩ := bind_eq_ok.mp h
    simp only at h
    split at h
    · cases h
    · cases h
      exact List.pairwise_map.mpr (specs?_increase hspecs)

theorem first_of_find? {p : SchemaKey → Bool} (hkeys : keys.Pairwise fun j k => j.name < k.name)
    (h : keys.find? p = some k) : ∀ j ∈ keys, p j = true → j = k ∨ k.name < j.name := by
  obtain ⟨-, before, behind, rfl, hbefore⟩ := List.find?_eq_some_iff_append.mp h
  intro j hj hp
  rcases List.mem_append.mp hj with hj | hj
  · have hnot := hbefore j hj
    rw [hp] at hnot
    cases hnot
  · rcases List.mem_cons.mp hj with rfl | hj
    · exact .inl rfl
    · exact .inr (List.rel_of_pairwise_cons (List.pairwise_append.mp hkeys).2.1 hj)

theorem key?_eq_some {s : Schema} {target : String} (h : s.key? target = some k) :
    k ∈ s.keys ∧ Text.sameName k.name target = true := by
  unfold key? at h
  have hsame := List.find?_some h
  exact ⟨List.mem_of_find?_eq_some h, hsame⟩

theorem blockedFor_of_read {text : String} {s : Schema} (h : Schema.read text = .ok s)
    (target : String) :
    (s.blockedFor target = .error (.unknownTarget target) ↔
      ∀ k ∈ s.keys, Text.sameName k.name target = false) ∧
    ((∃ k ∈ s.keys, Text.sameName k.name target = true) →
      ∃ first ∈ s.keys, Text.sameName first.name target = true ∧
        (∀ k ∈ s.keys, Text.sameName k.name target = true → k = first ∨ first.name < k.name) ∧
        ∃ blocked, s.blockedFor target = .ok blocked ∧ blocked.Pairwise (· < ·) ∧
          IsLeast {names : Set String | first.name ∈ names ∧ IsClosed s.keys names}
            {name | name ∈ blocked}) := by
  cases hfind : s.key? target with
  | none =>
    have hnone : ∀ k ∈ s.keys, Text.sameName k.name target = false := by
      simpa [key?] using hfind
    have hblocked : s.blockedFor target = .error (.unknownTarget target) := by
      rw [blockedFor, hfind]
    refine ⟨iff_of_true hblocked hnone, ?_⟩
    rintro ⟨k, hk, hsame⟩
    rw [hnone k hk] at hsame
    cases hsame
  | some first =>
    obtain ⟨hmem, hsame⟩ := key?_eq_some hfind
    have hblocked : s.blockedFor target = .ok (sortNames (closure s.keys [first.name])) := by
      rw [blockedFor, hfind]
    constructor
    · refine iff_of_false (by rw [hblocked]; exact nofun) fun hnone => ?_
      rw [hnone first hmem] at hsame
      cases hsame
    · intro _
      exact ⟨first, hmem, hsame, first_of_find? (keys_increase h) hfind, _, hblocked,
        sortNames_pairwise _, isLeast_closure s.keys first.name⟩

theorem blockedFor_of_read_cyclic :
    let text := "\x7b\"order\":[\"bool\",[\"SHIP\",\"ship\"]],\"Note\":[\"string\"]," ++
      "\"Ship\":[\"bool\",[\"ORDER\"]],\"Order\":[\"bool\",[\"order\"]]\x7d"
    ∃ s, Schema.read text = .ok s ∧ s.blockedFor "oRDER" = .ok ["Order", "Ship", "order"] ∧
      IsLeast {names : Set String | "Order" ∈ names ∧ IsClosed s.keys names}
        {name | name ∈ ["Order", "Ship", "order"]} := by
  intro text
  have hread : (Schema.read text).toOption.map (·.keys) = some
      [⟨"Note", [], false⟩, ⟨"Order", ["order"], false⟩, ⟨"Ship", ["ORDER"], false⟩,
        ⟨"order", ["SHIP", "ship"], false⟩] := by decide +kernel
  cases hs : Schema.read text with
  | error e =>
    rw [hs] at hread
    cases hread
  | ok s =>
    rw [hs] at hread
    have hkeys : s.keys = _ := Option.some.inj hread
    have horder : ⟨"Order", ["order"], false⟩ ∈ s.keys := by
      rw [hkeys]
      decide
    have hlowest : ∀ k ∈ s.keys, Text.sameName k.name "oRDER" = true → ¬k.name < "Order" := by
      rw [hkeys]
      decide +kernel
    have hcomputed : s.blockedFor "oRDER" = .ok ["Order", "Ship", "order"] := by
      rw [blockedFor, key?, hkeys]
      decide +kernel
    obtain ⟨-, hfound⟩ := blockedFor_of_read hs "oRDER"
    obtain ⟨first, hmem, hsame, hfirst, blocked, hblocked, -, hleast⟩ :=
      hfound ⟨_, horder, by decide +kernel⟩
    obtain rfl := Except.ok.inj (hblocked.symm.trans hcomputed)
    rcases hfirst _ horder (by decide +kernel) with rfl | hlt
    · exact ⟨s, rfl, hcomputed, hleast⟩
    · exact absurd hlt (hlowest first hmem hsame)

end PathQuery.Schema
