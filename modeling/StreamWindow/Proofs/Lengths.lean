import StreamWindow.Proofs.Congruence

/-!
Durations by their length. Comparing, hashing, sorting and counting in milliseconds all look at
the same number, which has no bound, and agree on durations that no word can measure.
-/

namespace StreamWindow

namespace Duration

def Precedes (durations : List Duration) (first second : Nat) : Prop :=
  ∀ own ∈ durations[first]?, ∀ other ∈ durations[second]?,
    own.exactMillis < other.exactMillis ∨
      own.exactMillis = other.exactMillis ∧ first < second

section

variable {first second third duration : Duration}

theorem compare_isLE_iff :
    (compare first second).isLE = true ↔ first.exactMillis ≤ second.exactMillis :=
  Nat.isLE_compare

theorem compare_eq_swap : compare second first = (compare first second).swap :=
  (Nat.compare_swap first.exactMillis second.exactMillis).symm

theorem beq_iff_compare_eq : (first == second) = true ↔ compare first second = .eq := by
  rw [beq_iff]
  exact Nat.compare_eq_eq.symm

theorem compare_total :
    (compare first second).isLE = true ∨ (compare second first).isLE = true := by
  rw [compare_isLE_iff, compare_isLE_iff]
  exact Nat.le_total first.exactMillis second.exactMillis

theorem compare_trans (shorter : (compare first second).isLE = true)
    (short : (compare second third).isLE = true) : (compare first third).isLE = true := by
  rw [compare_isLE_iff] at *
  exact Nat.le_trans shorter short

theorem millis_le_days (unit : TimeUnit) : unit.millis ≤ TimeUnit.days.millis := by
  cases unit <;> decide

theorem exactMillis_lt (duration : Duration) :
    duration.exactMillis < UInt64.size * UInt64.size := by
  have bound := duration.magnitude.toNat_lt_size
  have unitBound := millis_le_days duration.unit
  calc duration.exactMillis
      ≤ duration.magnitude.toNat * TimeUnit.days.millis := Nat.mul_le_mul_left _ unitBound
    _ ≤ UInt64.size * TimeUnit.days.millis := Nat.mul_le_mul_right _ (Nat.le_of_lt bound)
    _ < UInt64.size * UInt64.size := by decide

theorem exists_millis_iff :
    (∃ millis, duration.millis = .ok millis) ↔ duration.exactMillis ≤ Word.largest := by
  simp only [millis_eq_ok_iff]
  exact fits_iff

theorem millis_of_shorter {millis : UInt64} (measured : first.millis = .ok millis)
    (shorter : (compare second first).isLE = true) :
    ∃ fewer, second.millis = .ok fewer ∧ fewer ≤ millis := by
  rw [millis_eq_ok_iff] at measured
  rw [compare_isLE_iff] at shorter
  have bound := Word.toNat_le_largest millis
  obtain ⟨fewer, exact⟩ := fits_iff.mpr (show second.exactMillis ≤ Word.largest by omega)
  refine ⟨fewer, millis_eq_ok_iff.mpr exact, ?_⟩
  rw [UInt64.le_iff_toNat_le]
  omega

end

/-! Sorting. -/

section

variable (durations : List Duration)

theorem mergeSort_ascending :
    (durations.mergeSort fun first second => (compare first second).isLE).Pairwise
      fun first second => first.exactMillis ≤ second.exactMillis := by
  have trans (first second third : Duration) (shorter : (compare first second).isLE = true)
      (short : (compare second third).isLE = true) : (compare first third).isLE = true :=
    compare_trans shorter short
  have total (first second : Duration) :
      ((compare first second).isLE || (compare second first).isLE) = true := by
    rw [Bool.or_eq_true]
    exact compare_total
  have sorted := List.pairwise_mergeSort trans total durations
  exact sorted.imp compare_isLE_iff.mp

def ranked : List (Duration × Nat) :=
  durations.zipIdx.mergeSort fun first second => first.1.exactMillis ≤ second.1.exactMillis

theorem sortedPositions_eq : sortedPositions durations = (ranked durations).map Prod.snd := rfl

theorem mem_ranked_iff {entry : Duration × Nat} :
    entry ∈ ranked durations ↔ durations[entry.2]? = some entry.1 := by
  unfold ranked
  rw [List.mem_mergeSort, List.mem_zipIdx_iff_getElem?]

theorem ranked_durations : (ranked durations).map Prod.fst =
    durations.mergeSort fun first second => (compare first second).isLE := by
  unfold ranked
  rw [List.map_mergeSort (s := fun first second => (compare first second).isLE),
    List.zipIdx_map_fst]
  intro first _ second _
  rw [Bool.eq_iff_iff, decide_eq_true_eq, compare_isLE_iff]

theorem position_eq_number {entry : (Duration × Nat) × Nat}
    (member : entry ∈ durations.zipIdx.zipIdx) : entry.1.2 = entry.2 := by
  rw [List.mem_zipIdx_iff_getElem?, List.getElem?_zipIdx, Option.map_eq_some_iff] at member
  obtain ⟨duration, _, same⟩ := member
  rw [← same]
  omega

theorem ranked_pairwise : (ranked durations).Pairwise fun first second =>
    first.1.exactMillis < second.1.exactMillis ∨
      first.1.exactMillis = second.1.exactMillis ∧ first.2 ≤ second.2 := by
  have shorterTrans : ∀ first second third : Duration × Nat,
      decide (first.1.exactMillis ≤ second.1.exactMillis) = true →
      decide (second.1.exactMillis ≤ third.1.exactMillis) = true →
      decide (first.1.exactMillis ≤ third.1.exactMillis) = true := by
    intro first second third shorter short
    rw [decide_eq_true_eq] at *
    omega
  have shorterTotal : ∀ first second : Duration × Nat,
      (decide (first.1.exactMillis ≤ second.1.exactMillis) ||
        decide (second.1.exactMillis ≤ first.1.exactMillis)) = true := by
    intro first second
    rw [Bool.or_eq_true, decide_eq_true_eq, decide_eq_true_eq]
    omega
  -- A stable sort is known by numbering the entries once more; each gets its position again.
  have numbered := List.pairwise_mergeSort (List.zipIdxLE_trans shorterTrans)
    (List.zipIdxLE_total shorterTotal) durations.zipIdx.zipIdx
  unfold ranked
  rw [← List.mergeSort_zipIdx, List.pairwise_map]
  refine numbered.imp_of_mem ?_
  intro first second firstMember secondMember ordered
  have firstSame := position_eq_number durations (List.mem_mergeSort.mp firstMember)
  have secondSame := position_eq_number durations (List.mem_mergeSort.mp secondMember)
  simp only [List.zipIdxLE, decide_eq_true_eq] at ordered
  split at ordered
  · split at ordered
    · rw [decide_eq_true_eq] at ordered
      omega
    · omega
  · contradiction

theorem sortedPositions_perm :
    (sortedPositions durations).Perm (List.range durations.length) := by
  have sorted := (List.mergeSort_perm durations.zipIdx
    (fun first second => first.1.exactMillis ≤ second.1.exactMillis)).map Prod.snd
  rw [List.zipIdx_map_snd, ← List.range_eq_range'] at sorted
  exact sorted

theorem sortedPositions_durations :
    (sortedPositions durations).map (durations[·]?) =
      (durations.mergeSort fun first second => (compare first second).isLE).map some := by
  rw [sortedPositions_eq, ← ranked_durations, List.map_map, List.map_map]
  refine List.map_congr_left ?_
  intro entry member
  exact (mem_ranked_iff durations).mp member

theorem sortedPositions_pairwise :
    (sortedPositions durations).Pairwise (Precedes durations) := by
  have distinct := (sortedPositions_perm durations).nodup_iff.mpr List.nodup_range
  rw [sortedPositions_eq, List.Nodup, List.pairwise_map] at distinct
  rw [sortedPositions_eq, List.pairwise_map]
  refine ((ranked_pairwise durations).and distinct).imp_of_mem ?_
  rintro first second firstMember secondMember ⟨ordered, different⟩ own found other otherFound
  rw [(mem_ranked_iff durations).mp firstMember] at found
  rw [(mem_ranked_iff durations).mp secondMember] at otherFound
  obtain rfl := Option.some.inj found
  obtain rfl := Option.some.inj otherFound
  omega

end

end Duration

/-- Durations are compared by their exact lengths, which is a total preorder, and are equal where
neither is shorter. A length in milliseconds exists for all but lengths beyond the largest word, and
for everything that is not longer than a duration that has one. Sorting is ascending, keeps the
order of equally long durations, and a hash set keeps one duration for each length. -/
theorem durations_ordered_by_length :
    (∀ first second : Duration,
      compare first second = compare (first.magnitude.toNat * first.unit.millis)
        (second.magnitude.toNat * second.unit.millis) ∧
      hash first = hash (first.magnitude.toNat * first.unit.millis) ∧
      compare second first = (compare first second).swap ∧
      ((compare first second).isLE = true ∨ (compare second first).isLE = true) ∧
      ((first == second) = true ↔ compare first second = .eq) ∧
      ((first == second) = true → hash first = hash second)) ∧
    (∀ first second third : Duration, (compare first second).isLE = true →
      (compare second third).isLE = true → (compare first third).isLE = true) ∧
    (∀ duration : Duration,
      duration.exactMillis < UInt64.size * UInt64.size ∧
      (duration.isZero = true ↔ duration.exactMillis = 0) ∧
      ((∃ millis, duration.millis = .ok millis) ↔ duration.exactMillis ≤ Word.largest) ∧
      (∀ millis, duration.millis = .ok millis ↔ duration.exactMillis = millis.toNat) ∧
      (∀ cause, duration.millis = .error cause ↔
        Word.largest < duration.exactMillis ∧ cause = .overflow duration) ∧
      ∀ millis, duration.millis = .ok millis → ∀ other, (compare other duration).isLE = true →
        ∃ fewer, other.millis = .ok fewer ∧ fewer ≤ millis) ∧
    ∀ durations : List Duration,
      let sorted := durations.mergeSort fun first second => (compare first second).isLE
      let positions := Duration.sortedPositions durations
      sorted.Perm durations ∧
      sorted.Pairwise (fun first second => first.exactMillis ≤ second.exactMillis) ∧
      positions.map (durations[·]?) = sorted.map some ∧
      positions.Perm (List.range durations.length) ∧
      positions.Pairwise (Duration.Precedes durations) ∧
      distinctCount durations = (durations.map Duration.exactMillis).toFinset.card := by
  refine ⟨fun first second => ⟨rfl, rfl, Duration.compare_eq_swap, Duration.compare_total,
    Duration.beq_iff_compare_eq, hash_eq⟩, fun _ _ _ => Duration.compare_trans, ?_, ?_⟩
  · intro duration
    exact ⟨duration.exactMillis_lt, duration.isZero_iff, Duration.exists_millis_iff,
      fun _ => Duration.millis_eq_ok_iff, fun _ => Duration.millis_eq_error_iff,
      fun _ measured _ => Duration.millis_of_shorter measured⟩
  · intro durations sorted positions
    exact ⟨List.mergeSort_perm _ _, Duration.mergeSort_ascending durations,
      Duration.sortedPositions_durations durations, Duration.sortedPositions_perm durations,
      Duration.sortedPositions_pairwise durations, distinctCount_eq Duration.beq_iff durations⟩

end StreamWindow
