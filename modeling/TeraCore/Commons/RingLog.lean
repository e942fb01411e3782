import Mathlib.Data.List.DropRight
import Mathlib.Data.List.Nodup
import Mathlib.Data.List.Range
import Mathlib.Data.Nat.ModEq

/-!
# The last entries of a history, numbered round and round

A log that keeps at most `k` entries numbers them `0, 1, …, k - 1` and then from `0` again.  What
it holds is a function of its history: the last `k` events, each with the number it was given.

The next number is the oldest entry's once the log is full, and nobody's before.  So dropping the
oldest entry of a full log and deleting the entry with the next number are the same thing.

## Main definitions

* `numbered k es`: the events of a history with their numbers
* `ring k es`: the last `k` of them

## Main results

* `ring_snoc`, `ring_filter_ne`: one more event, by position and by number
* `ring_nodup`, `lt_of_mem_ring`: the numbers are distinct and below `k`
* `map_snd_ring`: the events are the last of the history
-/

namespace Commons

variable {ε : Type*} {k : ℕ}

/-- The events of a history, numbered round and round. -/
def numbered (k : ℕ) (es : List ε) : List (ℕ × ε) :=
  es.mapIdx fun i e => (i % k, e)

/-- The last `k` events of a history, with their numbers. -/
def ring (k : ℕ) (es : List ε) : List (ℕ × ε) :=
  List.rtake (numbered k es) k

@[simp] theorem ring_nil : ring k ([] : List ε) = [] := List.rtake_nil k

variable (es : List ε)

@[simp] theorem length_numbered : (numbered k es).length = es.length :=
  List.length_mapIdx

theorem numbered_snoc (e : ε) : numbered k (es ++ [e]) = numbered k es ++ [(es.length % k, e)] :=
  List.mapIdx_concat

theorem length_ring : (ring k es).length = min es.length k := by
  rw [ring, List.rtake, List.length_drop, length_numbered]
  omega

theorem rtake_pred (hk : 0 < k) (l : List ε) :
    l.rtake (k - 1) = if (l.rtake k).length < k then l.rtake k else (l.rtake k).tail := by
  simp only [List.rtake, List.length_drop, List.tail_drop]
  split
  · rename_i hlt
    rw [show l.length - (k - 1) = 0 by omega, show l.length - k = 0 by omega]
  · congr 1
    omega

/-- **One more event**: a full log drops its oldest entry. -/
theorem ring_snoc (hk : 0 < k) (es : List ε) (e : ε) :
    ring k (es ++ [e]) =
      (if (ring k es).length < k then ring k es else (ring k es).tail) ++
        [(es.length % k, e)] := by
  have hpred := rtake_pred hk (numbered k es)
  obtain ⟨j, rfl⟩ : ∃ j, k = j + 1 := ⟨k - 1, by omega⟩
  rw [ring, numbered_snoc, List.rtake_concat_succ]
  exact congrArg (· ++ _) hpred

theorem map_snd_numbered : (numbered k es).map Prod.snd = es := by
  induction es using List.reverseRecOn with
  | nil => rfl
  | append_singleton es e ih => rw [numbered_snoc, List.map_append, ih, List.map_singleton]

theorem map_fst_numbered : (numbered k es).map Prod.fst = (List.range es.length).map (· % k) := by
  induction es using List.reverseRecOn with
  | nil => rfl
  | append_singleton es e ih =>
    rw [numbered_snoc, List.map_append, ih, List.length_append, List.length_singleton,
      List.range_succ, List.map_append, List.map_singleton, List.map_singleton]

theorem map_snd_ring : (ring k es).map Prod.snd = List.rtake es k := by
  rw [ring, List.rtake, List.map_drop, map_snd_numbered, length_numbered]
  rfl

theorem map_fst_ring :
    (ring k es).map Prod.fst =
      (List.range' (es.length - k) (min es.length k)).map (· % k) := by
  rw [ring, List.rtake, List.map_drop, map_fst_numbered, length_numbered, ← List.map_drop,
    List.range_eq_range', List.drop_range']
  congr 2 <;> omega

theorem lt_of_mem_ring (hk : 0 < k) {es : List ε} {p : ℕ × ε} (h : p ∈ ring k es) : p.1 < k := by
  have hmem : p.1 ∈ (ring k es).map Prod.fst := List.mem_map_of_mem h
  rw [map_fst_ring] at hmem
  obtain ⟨i, -, hi⟩ := List.mem_map.mp hmem
  exact hi ▸ Nat.mod_lt i hk

theorem mod_ne_of_lt {i j : ℕ} (hij : i < j) (hk : j < i + k) : i % k ≠ j % k := by
  intro h
  have hdvd : k ∣ j - i := (Nat.modEq_iff_dvd' hij.le).mp h
  exact absurd (Nat.le_of_dvd (by omega) hdvd) (by omega)

theorem ring_nodup : ((ring k es).map Prod.fst).Nodup := by
  rw [map_fst_ring]
  refine List.Nodup.map_on (fun i hi j hj h => ?_) List.nodup_range'
  rw [List.mem_range'_1] at hi hj
  rcases Nat.lt_trichotomy i j with hij | hij | hij
  · exact absurd h (mod_ne_of_lt hij (by omega))
  · exact hij
  · exact absurd h.symm (mod_ne_of_lt hij (by omega))

theorem fst_ne_of_mem_ring {es : List ε} (hlt : es.length < k) {p : ℕ × ε} (h : p ∈ ring k es) :
    p.1 ≠ es.length % k := by
  have hmem : p.1 ∈ (ring k es).map Prod.fst := List.mem_map_of_mem h
  rw [map_fst_ring] at hmem
  obtain ⟨i, hi, hp⟩ := List.mem_map.mp hmem
  rw [List.mem_range'_1] at hi
  exact hp ▸ mod_ne_of_lt (by omega) (by omega)

theorem ring_eq_cons (hk : 0 < k) {es : List ε} (hle : k ≤ es.length) :
    ∃ p t, ring k es = p :: t ∧ p.1 = es.length % k := by
  obtain ⟨p, t, hring⟩ : ∃ p t, ring k es = p :: t :=
    List.exists_cons_of_ne_nil (List.ne_nil_of_length_pos (by rw [length_ring]; omega))
  refine ⟨p, t, hring, ?_⟩
  have hfst := map_fst_ring (k := k) es
  rw [hring, min_eq_right hle, show k = k - 1 + 1 by omega, List.range'_succ] at hfst
  have hp : p.1 = (es.length - k) % k := by
    have := (List.cons.inj hfst).1
    rwa [show k - 1 + 1 = k by omega] at this
  rw [hp, ← Nat.mod_eq_sub_mod hle]

/-- **Deleting by number**: the entry with the next number is the one a full log drops. -/
theorem ring_filter_ne (hk : 0 < k) (es : List ε) :
    (ring k es).filter (fun p => p.1 ≠ es.length % k) =
      if (ring k es).length < k then ring k es else (ring k es).tail := by
  rw [length_ring]
  split
  · rename_i hlt
    refine List.filter_eq_self.mpr fun p hp => ?_
    exact decide_eq_true (fst_ne_of_mem_ring (by omega) hp)
  · obtain ⟨p, t, hring, hp⟩ := @ring_eq_cons _ _ hk es (by omega)
    have hnodup := ring_nodup (k := k) es
    rw [hring, List.map_cons, List.nodup_cons] at hnodup
    rw [hring, List.filter_cons_of_neg (by simp [hp]), List.tail_cons]
    refine List.filter_eq_self.mpr fun q hq => decide_eq_true fun h => ?_
    exact hnodup.1 (hp ▸ h ▸ List.mem_map_of_mem hq)

theorem getLast?_ring (hk : 0 < k) (es : List ε) (e : ε) :
    (ring k (es ++ [e])).getLast? = some (es.length % k, e) := by
  rw [ring_snoc hk, List.getLast?_concat]

end Commons
