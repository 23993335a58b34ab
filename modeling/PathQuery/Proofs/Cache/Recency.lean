import PathQuery.Cache
import PathQuery.Power

namespace PathQuery

variable {α ε : Type}

abbrev RecencyList (α : Type) := List (String × α)

namespace RecencyList

def find? (l : RecencyList α) (key : String) : Option α :=
  (List.find? (fun e => e.1 == key) l).map (·.2)

def without (l : RecencyList α) (key : String) : RecencyList α := l.filter fun e => e.1 != key

def get (l : RecencyList α) (key : String) : Option α × RecencyList α :=
  match l.find? key with
  | some value => (some value, (key, value) :: l.without key)
  | none => (none, l)

def insert (capacity : Nat) (l : RecencyList α) (key : String) (value : α) : RecencyList α :=
  if capacity = 0 then l
  else if (l.find? key).isSome then (key, value) :: l.without key
  else if l.length < capacity then (key, value) :: l
  else (key, value) :: l.dropLast

def getOrBuild (capacity : Nat) (l : RecencyList α) (key : String) (built : Except ε α) :
    Except ε α × RecencyList α :=
  match l.get key, built with
  | (some value, l), _ => (.ok value, l)
  | (none, l), .ok value => (.ok value, l.insert capacity key value)
  | (none, l), .error e => (.error e, l)

theorem without_of_missing {l l' : RecencyList α} {key : String} (h : l.find? key = none)
    (hl : l' ⊆ l) : l'.without key = l' := by
  rw [find?, Option.map_eq_none_iff, List.find?_eq_none] at h
  exact List.filter_eq_self.mpr fun e he => by simpa using h e (hl he)

end RecencyList

def CacheEntry.pair (e : CacheEntry α) : String × α := (e.key, e.value)

namespace Cache

variable {c c' : Cache α} {entries es : List (CacheEntry α)} {e : CacheEntry α} {key : String}

structure Ranks (c : Cache α) (es : List (CacheEntry α)) : Prop where
  perm : c.entries.Perm es
  newestFirst : es.Pairwise fun a b => b.lastUse < a.lastUse
  distinct : es.Pairwise fun a b => a.key ≠ b.key
  past : ∀ e ∈ es, e.lastUse ≤ c.clock
  fits : es.length ≤ c.capacity

def view (es : List (CacheEntry α)) : RecencyList α := es.map CacheEntry.pair

section Lookups

theorem view_find? (es : List (CacheEntry α)) (key : String) :
    (view es).find? key = (es.find? fun e => e.key == key).map (·.value) := by
  simp [view, RecencyList.find?, List.find?_map, Function.comp_def, CacheEntry.pair]

theorem view_without (es : List (CacheEntry α)) (key : String) :
    (view es).without key = view (without es key) := by
  simp [view, RecencyList.without, without, List.filter_map, Function.comp_def, CacheEntry.pair]

theorem find?_eq_some_iff (hd : es.Pairwise fun a b => a.key ≠ b.key) :
    es.find? (fun e => e.key == key) = some e ↔ e ∈ es ∧ e.key = key := by
  constructor
  · intro h
    exact ⟨List.mem_of_find?_eq_some h, by simpa using List.find?_some h⟩
  · rintro ⟨he, rfl⟩
    induction hd with
    | nil => simp at he
    | @cons a es hne _ ih =>
      rcases List.mem_cons.mp he with rfl | he
      · simp
      · simp [hne e he, ih he]

theorem find?_perm (h : entries.Perm es) (hd : es.Pairwise fun a b => a.key ≠ b.key) :
    entries.find? (fun e => e.key == key) = es.find? fun e => e.key == key := by
  have hd' := h.symm.pairwise hd fun hab => hab.symm
  ext e
  rw [find?_eq_some_iff hd, find?_eq_some_iff hd', h.mem_iff]

theorem Ranks.find? (h : c.Ranks es) (key : String) :
    (c.find? key).map (·.value) = (view es).find? key := by
  rw [view_find?, Cache.find?, find?_perm h.perm h.distinct]

end Lookups

section Oldest

theorem foldl_older_mem (e : CacheEntry α) (es : List (CacheEntry α)) :
    es.foldl older e ∈ e :: es := by
  induction es generalizing e with
  | nil => exact List.mem_singleton.mpr rfl
  | cons b es ih =>
    rw [List.foldl_cons]
    rcases List.mem_cons.mp (ih (older e b)) with h | h
    · rw [h, older]
      split <;> simp
    · exact List.mem_cons_of_mem e (List.mem_cons_of_mem b h)

theorem foldl_older_le (e : CacheEntry α) (es : List (CacheEntry α)) :
    ∀ a ∈ e :: es, (es.foldl older e).lastUse ≤ a.lastUse := by
  induction es generalizing e with
  | nil => simp
  | cons b es ih =>
    intro a ha
    rw [List.foldl_cons]
    have hfirst : (older e b).lastUse ≤ e.lastUse ∧ (older e b).lastUse ≤ b.lastUse := by
      rw [older]
      split
      · next hlt => exact ⟨UInt64.le_of_lt hlt, UInt64.le_refl _⟩
      · next hge => exact ⟨UInt64.le_refl _, UInt64.not_lt.mp hge⟩
    have hle := ih (older e b) (older e b) (List.mem_cons_self ..)
    rcases List.mem_cons.mp ha with rfl | ha
    · exact UInt64.le_trans hle hfirst.1
    · rcases List.mem_cons.mp ha with rfl | ha
      · exact UInt64.le_trans hle hfirst.2
      · exact ih (older e b) a (List.mem_cons_of_mem _ ha)

theorem oldest?_perm (h : entries.Perm es) (hn : es.Pairwise fun a b => b.lastUse < a.lastUse) :
    oldest? entries = es.getLast? := by
  cases entries with
  | nil => rw [← h.nil_eq]; rfl
  | cons e rest =>
    rcases List.eq_nil_or_concat es with rfl | ⟨front, last, rfl⟩
    · exact absurd h.length_eq (by simp)
    · rw [List.concat_eq_append] at h hn ⊢
      rw [oldest?, List.getLast?_concat]
      have hmem := h.mem_iff.mp (foldl_older_mem e rest)
      have hle := foldl_older_le e rest last (h.mem_iff.mpr (by simp))
      rcases List.mem_append.mp hmem with hfront | hlast
      · have hlt := (List.pairwise_append.mp hn).2.2 _ hfront last (List.mem_singleton.mpr rfl)
        exact absurd hlt (UInt64.not_lt.mpr hle)
      · rw [List.mem_singleton.mp hlast]

theorem dropOldest_perm (h : entries.Perm es) (hn : es.Pairwise fun a b => b.lastUse < a.lastUse)
    (hd : es.Pairwise fun a b => a.key ≠ b.key) : (dropOldest entries).Perm es.dropLast := by
  rw [dropOldest, oldest?_perm h hn]
  rcases List.eq_nil_or_concat es with rfl | ⟨front, last, rfl⟩
  · exact .refl []
  · rw [List.concat_eq_append] at h hd ⊢
    rw [List.getLast?_concat, List.dropLast_concat]
    have hfront : without (front ++ [last]) last.key = front := by
      have hne := (List.pairwise_append.mp hd).2.2
      rw [without, List.filter_append, List.filter_eq_self.mpr fun e he => by
        simpa using hne e he last (List.mem_singleton.mpr rfl)]
      simp
    exact hfront ▸ h.filter _

end Oldest

section Clock

def HasTime (c : Cache α) (n : Nat) : Prop := c.clock.toNat + n < twos 64

theorem HasTime.mono {m n : Nat} (h : c.HasTime n) (hle : m ≤ n) : c.HasTime m :=
  Nat.lt_of_le_of_lt (Nat.add_le_add_left hle _) h

theorem toNat_succ_le (t : UInt64) : (t + 1).toNat ≤ t.toNat + 1 := by
  rw [UInt64.toNat_add]
  exact Nat.mod_le ..

theorem HasTime.lt_succ (h : c.HasTime 1) : c.clock < c.clock + 1 := by
  rw [UInt64.lt_iff_toNat_lt, UInt64.toNat_add, UInt64.toNat_one]
  exact Nat.lt_of_lt_of_eq (Nat.lt_succ_self _) (Nat.mod_eq_of_lt h).symm

theorem clock_get (c : Cache α) (key : String) : (c.get key).2.clock = c.clock + 1 := by
  rw [get]
  split <;> rfl

theorem clock_get_le (c : Cache α) (key : String) :
    (c.get key).2.clock.toNat ≤ c.clock.toNat + 1 :=
  c.clock_get key ▸ toNat_succ_le c.clock

theorem clock_insert_le (c : Cache α) (key : String) (value : α) :
    (c.insert key value).clock.toNat ≤ c.clock.toNat + 1 := by
  rw [insert]
  split
  · exact Nat.le_succ _
  · split <;> exact toNat_succ_le c.clock

theorem clock_getOrBuild_le (c : Cache α) (key : String) (built : Except ε α) :
    (c.getOrBuild key fun _ => built).2.clock.toNat ≤ c.clock.toNat + 2 := by
  have hget := c.clock_get_le key
  rw [getOrBuild]
  generalize c.get key = got at hget
  obtain ⟨value?, c'⟩ := got
  have hc' : c'.clock.toNat ≤ c.clock.toNat + 1 := hget
  cases value? with
  | some value => exact Nat.le_succ_of_le hc'
  | none =>
    cases built with
    | ok value => exact Nat.le_trans (c'.clock_insert_le key value) (Nat.succ_le_succ hc')
    | error e => exact Nat.le_succ_of_le hc'

theorem HasTime.get {n : Nat} (h : c.HasTime (n + 1)) (key : String) : (c.get key).2.HasTime n := by
  have hget := c.clock_get_le key
  unfold HasTime at h ⊢
  omega

end Clock

section Steps

theorem ranks_ofCapacity (capacity : Nat) : (ofCapacity capacity : Cache α).Ranks [] :=
  ⟨.refl [], .nil, .nil, nofun, Nat.zero_le capacity⟩

theorem Ranks.past_succ (h : c.Ranks es) (ht : c.HasTime 1) : ∀ e ∈ es, e.lastUse < c.clock + 1 :=
  fun e he => UInt64.lt_of_le_of_lt (h.past e he) ht.lt_succ

theorem Ranks.tick (h : c.Ranks es) (ht : c.HasTime 1) :
    { c with clock := c.clock + 1 }.Ranks es where
  perm := h.perm
  newestFirst := h.newestFirst
  distinct := h.distinct
  past e he := UInt64.le_of_lt (h.past_succ ht e he)
  fits := h.fits

theorem Ranks.dropOldest (h : c.Ranks es) :
    { c with entries := dropOldest c.entries }.Ranks es.dropLast where
  perm := dropOldest_perm h.perm h.newestFirst h.distinct
  newestFirst := h.newestFirst.sublist (List.dropLast_sublist es)
  distinct := h.distinct.sublist (List.dropLast_sublist es)
  past e he := h.past e (List.dropLast_subset es he)
  fits := Nat.le_trans (List.dropLast_sublist es).length_le h.fits

theorem Ranks.use (h : c.Ranks es) (ht : c.HasTime 1) (value : α)
    (hfits : (without es key).length < c.capacity) :
    (c.use key value).Ranks (⟨key, value, c.clock + 1⟩ :: without es key) where
  perm := (h.perm.filter _).cons _
  newestFirst := by
    refine .cons (fun e he => ?_) (h.newestFirst.filter _)
    exact h.past_succ ht e (List.mem_filter.mp he).1
  distinct := by
    refine .cons (fun e he => ?_) (h.distinct.filter _)
    have hne : e.key ≠ key := by simpa using (List.mem_filter.mp he).2
    exact hne.symm
  past e he := by
    rcases List.mem_cons.mp he with rfl | he
    · exact UInt64.le_refl _
    · exact UInt64.le_of_lt (h.past_succ ht e (List.mem_filter.mp he).1)
  fits := hfits

theorem length_without_lt (h : es.find? (fun e => e.key == key) = some e) :
    (without es key).length < es.length := by
  rw [without, List.length_filter_lt_length_iff_exists]
  exact ⟨e, List.mem_of_find?_eq_some h, by simpa using List.find?_some h⟩

def StandsFor (capacity : Nat) (c : Cache α) (l : RecencyList α) : Prop :=
  c.capacity = capacity ∧ ∃ es, c.Ranks es ∧ view es = l

variable {capacity : Nat} {l : RecencyList α}

theorem StandsFor.tick (h : StandsFor capacity c l) (ht : c.HasTime 1) :
    StandsFor capacity { c with clock := c.clock + 1 } l := by
  obtain ⟨hcap, es, hes, hl⟩ := h
  exact ⟨hcap, es, hes.tick ht, hl⟩

theorem StandsFor.find? (h : StandsFor capacity c l) (key : String) :
    (c.find? key).map (·.value) = l.find? key := by
  obtain ⟨-, es, hes, rfl⟩ := h
  exact hes.find? key

theorem StandsFor.use (h : StandsFor capacity c l) (ht : c.HasTime 1) (key : String) (value : α)
    (hroom : l.find? key ≠ none ∨ l.length < capacity) :
    StandsFor capacity (c.use key value) ((key, value) :: l.without key) := by
  obtain ⟨rfl, es, hes, rfl⟩ := h
  have hfits : (without es key).length < c.capacity := by
    rcases hroom with hkey | hroom
    · rw [view_find?, ne_eq, Option.map_eq_none_iff, ← ne_eq, Option.ne_none_iff_exists'] at hkey
      obtain ⟨e, he⟩ := hkey
      exact Nat.lt_of_lt_of_le (length_without_lt he) hes.fits
    · rw [view, List.length_map] at hroom
      exact Nat.lt_of_le_of_lt (List.length_filter_le ..) hroom
  refine ⟨rfl, _, hes.use ht value hfits, ?_⟩
  rw [view_without]
  rfl

theorem StandsFor.dropOldest (h : StandsFor capacity c l) :
    StandsFor capacity { c with entries := dropOldest c.entries } l.dropLast := by
  obtain ⟨hcap, es, hes, rfl⟩ := h
  refine ⟨hcap, _, hes.dropOldest, ?_⟩
  rw [view, view, List.map_dropLast]

theorem StandsFor.size_eq (h : StandsFor capacity c l) : c.size = l.length := by
  obtain ⟨-, es, hes, rfl⟩ := h
  rw [size, hes.perm.length_eq, view, List.length_map]

theorem StandsFor.length_le (h : StandsFor capacity c l) : l.length ≤ capacity := by
  obtain ⟨rfl, es, hes, rfl⟩ := h
  rw [view, List.length_map]
  exact hes.fits

theorem StandsFor.isEmpty_eq (h : StandsFor capacity c l) : c.isEmpty = l.isEmpty := by
  have hsize : c.entries.length = l.length := h.size_eq
  rw [isEmpty, Bool.eq_iff_iff, List.isEmpty_iff_length_eq_zero, List.isEmpty_iff_length_eq_zero,
    hsize]

theorem StandsFor.get (h : StandsFor capacity c l) (ht : c.HasTime 1) (key : String) :
    (c.get key).1 = (l.get key).1 ∧ StandsFor capacity (c.get key).2 (l.get key).2 := by
  have hfind := h.find? key
  rw [Cache.get, RecencyList.get, ← hfind]
  cases he : c.find? key with
  | none => exact ⟨rfl, h.tick ht⟩
  | some e =>
    rw [he] at hfind
    exact ⟨rfl, h.use ht key e.value (.inl (by simp [← hfind]))⟩

theorem StandsFor.insert (h : StandsFor capacity c l) (ht : c.HasTime 1) (key : String)
    (value : α) : StandsFor capacity (c.insert key value) (l.insert capacity key value) := by
  have hfind := h.find? key
  have hlength := h.length_le
  rw [Cache.insert, RecencyList.insert, h.1, h.size_eq]
  split
  · exact h
  · next hzero =>
    cases he : c.find? key with
    | some e =>
      rw [he] at hfind
      rw [← hfind]
      exact h.use ht key value (.inl (by simp [← hfind]))
    | none =>
      have hmissing : l.find? key = none := by rw [← hfind, he]; rfl
      by_cases hfull : capacity ≤ l.length
      · have hroom : l.dropLast.length < capacity := by rw [List.length_dropLast]; omega
        have huse := h.dropOldest.use ht key value (.inr hroom)
        rw [RecencyList.without_of_missing hmissing (List.dropLast_subset l)] at huse
        simpa [hmissing, hfull, h.1, Nat.not_lt.mpr hfull] using huse
      · have huse := h.use ht key value (.inr (Nat.lt_of_not_le hfull))
        rw [RecencyList.without_of_missing hmissing fun _ he => he] at huse
        simpa [hmissing, hfull, Nat.lt_of_not_le hfull] using huse

theorem StandsFor.getOrBuild (h : StandsFor capacity c l) (ht : c.HasTime 2) (key : String)
    (built : Except ε α) :
    (c.getOrBuild key fun _ => built).1 = (l.getOrBuild capacity key built).1 ∧
      StandsFor capacity (c.getOrBuild key fun _ => built).2 (l.getOrBuild capacity key built).2 := by
  have hget := h.get (ht.mono (Nat.le_succ 1)) key
  have htime := ht.get key
  rw [Cache.getOrBuild]
  unfold RecencyList.getOrBuild
  generalize c.get key = got, l.get key = got' at hget htime
  obtain ⟨value?, c'⟩ := got
  obtain ⟨value?', l'⟩ := got'
  obtain ⟨rfl, hget⟩ := hget
  cases value? with
  | some value => exact ⟨rfl, hget⟩
  | none =>
    cases built with
    | ok value => exact ⟨rfl, hget.insert htime key value⟩
    | error e => exact ⟨rfl, hget⟩

theorem StandsFor.clear (h : StandsFor capacity c l) : StandsFor capacity c.clear [] :=
  ⟨h.1, [], ⟨.refl [], .nil, .nil, nofun, Nat.zero_le _⟩, rfl⟩

end Steps

end Cache
end PathQuery
