import PathQuery.Proofs.Cache.Recency

namespace PathQuery

variable {α ε : Type}

inductive CacheCall (ε α : Type) where
  | get (key : String)
  | insert (key : String) (value : α)
  | getOrBuild (key : String) (built : Except ε α)
  | clear

inductive CacheReply (ε α : Type) where
  | found (value? : Option α)
  | kept (value : α)
  | built (result : Except ε α)
  | cleared

structure CacheSight (ε α : Type) where
  reply : CacheReply ε α
  size : Nat
  isEmpty : Bool

namespace CacheCall

def onCache (c : Cache α) : CacheCall ε α → CacheReply ε α × Cache α
  | .get key => ((c.get key).map .found id)
  | .insert key value => (.kept value, c.insert key value)
  | .getOrBuild key built => ((c.getOrBuild key fun _ => built).map .built id)
  | .clear => (.cleared, c.clear)

def onList (capacity : Nat) (l : RecencyList α) : CacheCall ε α → CacheReply ε α × RecencyList α
  | .get key => ((l.get key).map .found id)
  | .insert key value => (.kept value, l.insert capacity key value)
  | .getOrBuild key built => ((l.getOrBuild capacity key built).map .built id)
  | .clear => (.cleared, [])

end CacheCall

def RecencyList.sights (capacity : Nat) (l : RecencyList α) :
    List (CacheCall ε α) → List (CacheSight ε α)
  | [] => []
  | call :: calls =>
    let (reply, l) := call.onList capacity l
    ⟨reply, l.length, l.isEmpty⟩ :: sights capacity l calls

namespace Cache

variable {c c' : Cache α} {capacity : Nat} {l : RecencyList α}

structure Reordered (c c' : Cache α) : Prop where
  capacity : c'.capacity = c.capacity
  entries : c'.entries.Perm c.entries
  clock : c'.clock = c.clock

inductive Trace : Cache α → List (CacheCall ε α) → List (CacheSight ε α) → Cache α → Prop where
  | nil (c : Cache α) : Trace c [] [] c
  | cons {c c' c'' : Cache α} {call : CacheCall ε α} {calls : List (CacheCall ε α)}
    {sights : List (CacheSight ε α)} (order : c.Reordered c')
    (rest : Trace (call.onCache c').2 calls sights c'') :
    Trace c (call :: calls) (⟨(call.onCache c').1, (call.onCache c').2.size,
      (call.onCache c').2.isEmpty⟩ :: sights) c''

def Alike (ε : Type) (n : Nat) (c c' : Cache α) : Prop :=
  ∀ (calls : List (CacheCall ε α)) (sights : List (CacheSight ε α)), calls.length < n →
    ((∃ d, c.Trace calls sights d) ↔ ∃ d, c'.Trace calls sights d)

theorem Reordered.refl (c : Cache α) : c.Reordered c := ⟨rfl, .refl _, rfl⟩

theorem StandsFor.reordered (h : StandsFor capacity c l) (hc : c.Reordered c') :
    StandsFor capacity c' l := by
  obtain ⟨hcap, es, hes, hl⟩ := h
  refine ⟨hc.capacity.trans hcap, es, ⟨hc.entries.trans hes.perm, hes.newestFirst, hes.distinct,
    ?_, ?_⟩, hl⟩
  · rw [hc.clock]
    exact hes.past
  · rw [hc.capacity]
    exact hes.fits

section Clock

theorem clock_onCache_le (c : Cache α) (call : CacheCall ε α) :
    (call.onCache c).2.clock.toNat ≤ c.clock.toNat + 2 := by
  cases call with
  | get key => exact Nat.le_succ_of_le (c.clock_get_le key)
  | insert key value => exact Nat.le_succ_of_le (c.clock_insert_le key value)
  | getOrBuild key built => exact c.clock_getOrBuild_le key built
  | clear => exact Nat.le_add_right ..

theorem HasTime.onCache {n : Nat} (h : c.HasTime (n + 2)) (call : CacheCall ε α) :
    (call.onCache c).2.HasTime n := by
  have hcall := clock_onCache_le c call
  unfold HasTime at h ⊢
  omega

theorem Trace.clock_le {calls : List (CacheCall ε α)} {sights : List (CacheSight ε α)}
    {d : Cache α} (h : c.Trace calls sights d) :
    d.clock.toNat ≤ c.clock.toNat + 2 * calls.length := by
  induction h with
  | nil c => exact Nat.le_refl _
  | @cons c c' d call calls sights order rest ih =>
    have hcall := clock_onCache_le c' call
    rw [order.clock] at hcall
    rw [List.length_cons]
    omega

end Clock

section Runs

variable {calls : List (CacheCall ε α)} {sights : List (CacheSight ε α)} {d : Cache α}

theorem StandsFor.onCache (h : StandsFor capacity c l) (ht : c.HasTime 2) (call : CacheCall ε α) :
    (call.onCache c).1 = (call.onList capacity l).1 ∧
      StandsFor capacity (call.onCache c).2 (call.onList capacity l).2 := by
  have hone : c.HasTime 1 := ht.mono (Nat.le_succ 1)
  cases call with
  | get key =>
    obtain ⟨hvalue, hget⟩ := h.get hone key
    exact ⟨congrArg CacheReply.found hvalue, hget⟩
  | insert key value => exact ⟨rfl, h.insert hone key value⟩
  | getOrBuild key built =>
    obtain ⟨hvalue, hbuilt⟩ := h.getOrBuild ht key built
    exact ⟨congrArg CacheReply.built hvalue, hbuilt⟩
  | clear => exact ⟨rfl, h.clear⟩

theorem StandsFor.trace (h : StandsFor capacity c l) (htime : c.HasTime (2 * calls.length))
    (ht : c.Trace calls sights d) :
    sights = l.sights capacity calls ∧ ∃ l', StandsFor capacity d l' := by
  induction ht generalizing l with
  | nil c => exact ⟨rfl, l, h⟩
  | @cons c c' d call calls sights order rest ih =>
    have htime' : c'.HasTime (2 * calls.length + 2) := by
      rw [HasTime, order.clock]
      exact htime
    obtain ⟨hreply, hnext⟩ :=
      (h.reordered order).onCache (htime'.mono (Nat.le_add_left 2 _)) call
    obtain ⟨hsights, hd⟩ := ih hnext (htime'.onCache call)
    refine ⟨?_, hd⟩
    rw [RecencyList.sights, hreply, hnext.size_eq, hnext.isEmpty_eq, hsights]

theorem exists_trace (c : Cache α) (calls : List (CacheCall ε α)) :
    ∃ sights d, c.Trace calls sights d := by
  induction calls generalizing c with
  | nil => exact ⟨[], c, .nil c⟩
  | cons call calls ih =>
    obtain ⟨sights, d, h⟩ := ih (call.onCache c).2
    exact ⟨_, d, .cons (.refl c) h⟩

theorem StandsFor.exists_trace_iff (h : StandsFor capacity c l)
    (htime : c.HasTime (2 * calls.length)) :
    (∃ d, c.Trace calls sights d) ↔ sights = l.sights capacity calls := by
  constructor
  · rintro ⟨d, ht⟩
    exact (h.trace htime ht).1
  · rintro rfl
    obtain ⟨sights, d, ht⟩ := exists_trace c calls
    obtain rfl := (h.trace htime ht).1
    exact ⟨d, ht⟩

theorem StandsFor.alike {n : Nat} (h : StandsFor capacity c l) (h' : StandsFor capacity c' l)
    (htime : ∀ m < n, c.HasTime (2 * m)) (htime' : ∀ m < n, c'.HasTime (2 * m)) :
    c.Alike ε n c' := by
  intro calls sights hn
  rw [h.exists_trace_iff (htime _ hn), h'.exists_trace_iff (htime' _ hn)]

end Runs

section States

theorem StandsFor.lastUse_distinct (h : StandsFor capacity c l) :
    c.entries.Pairwise fun a b => a.lastUse ≠ b.lastUse := by
  obtain ⟨-, es, hes, -⟩ := h
  refine hes.perm.symm.pairwise ?_ Ne.symm
  exact hes.newestFirst.imp fun hab => (UInt64.ne_of_lt hab).symm

theorem StandsFor.lastUse_le (h : StandsFor capacity c l) :
    ∀ e ∈ c.entries, e.lastUse ≤ c.clock := by
  obtain ⟨-, es, hes, -⟩ := h
  exact fun e he => hes.past e (hes.perm.mem_iff.mp he)

theorem StandsFor.oldest?_reordered (h : StandsFor capacity c l) (hc : c.Reordered c') :
    oldest? c'.entries = oldest? c.entries := by
  obtain ⟨-, es, hes, -⟩ := h
  rw [oldest?_perm hes.perm hes.newestFirst, oldest?_perm (hc.entries.trans hes.perm) hes.newestFirst]

theorem StandsFor.get_missing {key : String} (h : StandsFor capacity c l) (ht : c.HasTime 1)
    (hkey : c.find? key = none) : StandsFor capacity (c.get key).2 l := by
  have hmissing : l.find? key = none := by
    rw [← h.find?, hkey]
    rfl
  have hget := (h.get ht key).2
  rwa [RecencyList.get, hmissing] at hget

theorem getOrBuild_missing {key : String} (hkey : c.find? key = none) (e : ε) :
    (c.getOrBuild key fun _ => .error e).2 = (c.get key).2 := by
  simp only [getOrBuild, get, hkey]

theorem StandsFor.alike_get_missing {key : String} {n : Nat} (h : StandsFor capacity c l)
    (htime : c.clock.toNat + 2 * n ≤ twos 64) (hkey : c.find? key = none) :
    c.Alike ε n (c.get key).2 := by
  have hget := c.clock_get_le key
  cases n with
  | zero => exact fun _ _ hn => absurd hn (Nat.not_lt_zero _)
  | succ n =>
    refine h.alike (h.get_missing ?_ hkey) ?_ ?_
    · unfold HasTime
      omega
    · intro m hm
      unfold HasTime
      omega
    · intro m hm
      unfold HasTime
      omega

end States

theorem trace_refines (capacity : Nat) (calls : List (CacheCall ε α))
    (hcalls : calls.length < twos 63) :
    (∃ sights d, (ofCapacity capacity : Cache α).Trace calls sights d) ∧
      ∀ sights d, (ofCapacity capacity : Cache α).Trace calls sights d →
        sights = RecencyList.sights capacity [] calls ∧ d.size ≤ capacity ∧
        (d.entries.Pairwise fun a b => a.lastUse ≠ b.lastUse) ∧
        (∀ e ∈ d.entries, e.lastUse ≤ d.clock) ∧ d.clock.toNat ≤ 2 * calls.length ∧
        (∀ d', d.Reordered d' → oldest? d'.entries = oldest? d.entries) ∧
        (∀ key, d.find? key = none → d.Alike ε (twos 63 - calls.length) (d.get key).2 ∧
          ∀ e : ε, d.Alike ε (twos 63 - calls.length) (d.getOrBuild key fun _ => .error e).2) ∧
        (capacity = 0 → d.entries = []) := by
  refine ⟨exists_trace _ calls, fun sights d ht => ?_⟩
  have hstart : StandsFor capacity (ofCapacity capacity : Cache α) [] :=
    ⟨rfl, [], ranks_ofCapacity capacity, rfl⟩
  have htwos : twos 64 = twos 63 * 2 := twos_succ 63
  have htime : (ofCapacity capacity : Cache α).HasTime (2 * calls.length) := by
    rw [HasTime, ofCapacity, UInt64.toNat_zero]
    omega
  obtain ⟨hsights, l, hd⟩ := hstart.trace htime ht
  have hsize : d.size ≤ capacity := hd.size_eq ▸ hd.length_le
  have hclock : d.clock.toNat ≤ 2 * calls.length := by simpa [ofCapacity] using ht.clock_le
  have hempty : capacity = 0 → d.entries = [] := by
    rintro rfl
    exact List.eq_nil_of_length_eq_zero (Nat.le_zero.mp hsize)
  refine ⟨hsights, hsize, hd.lastUse_distinct, hd.lastUse_le, hclock,
    fun _ hd' => hd.oldest?_reordered hd', fun key hkey => ?_, hempty⟩
  have halike : d.Alike ε (twos 63 - calls.length) (d.get key).2 :=
    hd.alike_get_missing (by omega) hkey
  exact ⟨halike, fun e => by rwa [getOrBuild_missing hkey e]⟩

theorem trace_refines_full :
    let calls : List (CacheCall Unit Nat) := [.insert "a" 1, .insert "b" 2, .get "a", .insert "c" 3,
      .get "b", .getOrBuild "a" (.error ())]
    calls.length < twos 63 ∧ ∀ sights d, (ofCapacity 2).Trace calls sights d →
      sights = [⟨.kept 1, 1, false⟩, ⟨.kept 2, 2, false⟩, ⟨.found (some 1), 2, false⟩,
        ⟨.kept 3, 2, false⟩, ⟨.found none, 2, false⟩, ⟨.built (.ok 1), 2, false⟩] := by
  intro calls
  have hcalls : calls.length < twos 63 := by decide
  refine ⟨hcalls, fun sights d ht => ?_⟩
  exact ((trace_refines 2 calls hcalls).2 sights d ht).1

end Cache
end PathQuery
