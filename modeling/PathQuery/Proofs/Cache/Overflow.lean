import PathQuery.Proofs.Cache.Refinement

namespace PathQuery.Cache

def buildCall (key : String) : CacheCall Unit Unit := .getOrBuild key (.ok ())

def buildRounds : Nat → List (CacheCall Unit Unit)
  | 0 => []
  | n + 1 => buildCall "c" :: buildCall "a" :: buildCall "b" :: buildRounds n

def builtSight (size : Nat) : CacheSight Unit Unit := ⟨.built (.ok ()), size, false⟩

-- The time is a number, of which the cache has the last 64 bits.
def pairAt (newer older : String) (time : Nat) : Cache Unit :=
  ⟨2, [⟨newer, (), .ofNat time⟩, ⟨older, (), .ofNat (time - 2)⟩], .ofNat time⟩

section Steps

variable {newer older key : String} {time : Nat}

theorem ofNat_lt_ofNat {m n : Nat} (hlt : m < n) (hn : n < twos 64) :
    UInt64.ofNat m < UInt64.ofNat n := by
  rw [UInt64.lt_iff_toNat_lt, UInt64.toNat_ofNat_of_lt' hn,
    UInt64.toNat_ofNat_of_lt' (Nat.lt_trans hlt hn)]
  exact hlt

theorem onCache_pairAt (hkey : newer ≠ key ∧ older ≠ key ∧ newer ≠ older) (hle : 2 ≤ time)
    (hlt : time < twos 64) :
    (buildCall key).onCache (pairAt newer older time) =
      (.built (.ok ()), pairAt key newer (time + 2)) := by
  obtain ⟨hnewer, holder, hne⟩ := hkey
  have hstamp : UInt64.ofNat (time - 2) < UInt64.ofNat time := ofNat_lt_ofNat (by omega) hlt
  simp [buildCall, CacheCall.onCache, getOrBuild, get, find?, pairAt, insert, size, use, dropOldest,
    oldest?, Cache.older, without, hnewer, holder, hne, hstamp, UInt64.ofNat_add, UInt64.add_assoc]

theorem trace_build {calls : List (CacheCall Unit Unit)} {sights : List (CacheSight Unit Unit)}
    {d : Cache Unit} (hkey : newer ≠ key ∧ older ≠ key ∧ newer ≠ older) (hle : 2 ≤ time)
    (hlt : time < twos 64) (ht : (pairAt key newer (time + 2)).Trace calls sights d) :
    (pairAt newer older time).Trace (buildCall key :: calls) (builtSight 2 :: sights) d := by
  have hcall := onCache_pairAt hkey hle hlt
  have hrest : ((buildCall key).onCache (pairAt newer older time)).2.Trace calls sights d := by
    rw [hcall]
    exact ht
  have htrace := Trace.cons (.refl _) hrest
  rw [hcall] at htrace
  exact htrace

theorem sights_build (hkey : newer ≠ key ∧ older ≠ key) (calls : List (CacheCall Unit Unit)) :
    RecencyList.sights 2 [(newer, ()), (older, ())] (buildCall key :: calls) =
      builtSight 2 :: RecencyList.sights 2 [(key, ()), (newer, ())] calls := by
  simp [RecencyList.sights, buildCall, CacheCall.onList, RecencyList.getOrBuild, RecencyList.get,
    RecencyList.find?, RecencyList.insert, builtSight, hkey.1, hkey.2]

end Steps

section Rounds

theorem length_buildRounds (n : Nat) : (buildRounds n).length = 3 * n := by
  induction n with
  | zero => rfl
  | succ n ih =>
    simp only [buildRounds, List.length_cons, ih]
    omega

theorem replicate_round (n : Nat) : List.replicate (3 * (n + 1)) (builtSight 2) =
    builtSight 2 :: builtSight 2 :: builtSight 2 :: List.replicate (3 * n) (builtSight 2) := rfl

variable {time : Nat} {calls : List (CacheCall Unit Unit)} {sights : List (CacheSight Unit Unit)}
  {d : Cache Unit}

theorem trace_rounds (n : Nat) (hle : 2 ≤ time) (hlt : time + 6 * n ≤ twos 64)
    (ht : (pairAt "b" "a" (time + 6 * n)).Trace calls sights d) :
    (pairAt "b" "a" time).Trace (buildRounds n ++ calls)
      (List.replicate (3 * n) (builtSight 2) ++ sights) d := by
  induction n generalizing time with
  | zero => exact ht
  | succ n ih =>
    have hnext : time + 6 * (n + 1) = time + 2 + 2 + 2 + 6 * n := by omega
    rw [hnext] at ht hlt
    have hrest := ih (by omega) hlt ht
    rw [replicate_round]
    refine trace_build (by decide) hle (by omega) ?_
    refine trace_build (by decide) (by omega) (by omega) ?_
    exact trace_build (by decide) (by omega) (by omega) hrest

theorem sights_rounds (n : Nat) (calls : List (CacheCall Unit Unit)) :
    RecencyList.sights 2 [("b", ()), ("a", ())] (buildRounds n ++ calls) =
      List.replicate (3 * n) (builtSight 2) ++
        RecencyList.sights 2 [("b", ()), ("a", ())] calls := by
  induction n with
  | zero => rfl
  | succ n ih =>
    rw [replicate_round, buildRounds, List.cons_append, List.cons_append, List.cons_append,
      sights_build (by decide), sights_build (by decide), sights_build (by decide), ih]
    rfl

end Rounds

def longRun : List (CacheCall Unit Unit) :=
  buildCall "a" :: buildCall "b" :: buildRounds 3074457345618258602

def longSights : List (CacheSight Unit Unit) :=
  builtSight 1 :: builtSight 2 :: List.replicate (3 * 3074457345618258602) (builtSight 2)

theorem length_longRun : longRun.length = twos 63 := by
  rw [longRun, List.length_cons, List.length_cons, length_buildRounds]
  rfl

theorem trace_longRun {calls : List (CacheCall Unit Unit)} {sights : List (CacheSight Unit Unit)}
    {d : Cache Unit} (ht : (pairAt "b" "a" (twos 64)).Trace calls sights d) :
    (ofCapacity 2).Trace (longRun ++ calls) (longSights ++ sights) d := by
  have hrounds : (pairAt "b" "a" 4).Trace (buildRounds 3074457345618258602 ++ calls)
      (List.replicate (3 * 3074457345618258602) (builtSight 2) ++ sights) d :=
    trace_rounds _ (by decide) (by decide) ht
  exact .cons (.refl _) (.cons (.refl _) hrounds)

theorem sights_longRun (calls : List (CacheCall Unit Unit)) :
    RecencyList.sights 2 [] (longRun ++ calls) =
      longSights ++ RecencyList.sights 2 [("b", ()), ("a", ())] calls := by
  rw [longSights, List.cons_append, List.cons_append, ← sights_rounds]
  rfl

def lateCalls : List (CacheCall Unit Unit) := [.insert "c" (), .get "b"]

-- The entry used last has the time zero, so it is the one that makes place.
theorem trace_lateCalls : ∃ d, (pairAt "b" "a" (twos 64)).Trace lateCalls
    [⟨.kept (), 2, false⟩, ⟨.found none, 2, false⟩] d :=
  ⟨_, .cons (.refl _) (.cons (.refl _) (.nil _))⟩

theorem trace_refines_overflow :
    longRun.length = twos 63 ∧ (longRun ++ lateCalls).length < twos 64 ∧
      (∃ sights d, (ofCapacity 2).Trace longRun sights d ∧ ∃ e ∈ d.entries, d.clock < e.lastUse) ∧
      ∃ sights d, (ofCapacity 2).Trace (longRun ++ lateCalls) sights d ∧
        sights ≠ RecencyList.sights 2 [] (longRun ++ lateCalls) := by
  refine ⟨length_longRun, ?_, ?_, ?_⟩
  · rw [List.length_append, length_longRun]
    decide
  · have hrun := trace_longRun (.nil (pairAt "b" "a" (twos 64)))
    rw [List.append_nil] at hrun
    exact ⟨_, _, hrun, ⟨"a", (), .ofNat (twos 64 - 2)⟩, by simp [pairAt], by decide⟩
  · obtain ⟨d, hlate⟩ := trace_lateCalls
    refine ⟨_, d, trace_longRun hlate, fun h => ?_⟩
    rw [sights_longRun] at h
    have hlast : [⟨.kept (), 2, false⟩, ⟨.found none, 2, false⟩] =
        ([⟨.kept (), 2, false⟩, ⟨.found (some ()), 2, false⟩] : List (CacheSight Unit Unit)) :=
      List.append_cancel_left h
    simp at hlast

end PathQuery.Cache
