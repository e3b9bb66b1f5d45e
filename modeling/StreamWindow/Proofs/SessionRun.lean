import Mathlib.Data.List.SplitBy
import StreamWindow.Proofs.GroupedRun

/-!
Running an aggregation over sessions. The live session of a key is the fold over the newest group
of its records, and a record begins another group exactly when it is beyond the gap.
-/

namespace StreamWindow

variable {value aggregate : Type}

namespace Word

theorem toNat_min (first second : UInt64) :
    (min first second).toNat = min first.toNat second.toNat := by
  rw [UInt64.min_def]
  split
  · next ordered => exact (Nat.min_eq_left (UInt64.le_iff_toNat_le.mp ordered)).symm
  · next ordered =>
      rw [UInt64.le_iff_toNat_le] at ordered
      omega

theorem toNat_max (first second : UInt64) :
    (max first second).toNat = max first.toNat second.toNat := by
  rw [UInt64.max_def]
  split
  · next ordered => exact (Nat.max_eq_right (UInt64.le_iff_toNat_le.mp ordered)).symm
  · next ordered =>
      rw [UInt64.le_iff_toNat_le] at ordered
      omega

end Word

/-- The record is no later than the gap after some record of the group. -/
def Near (windows : SessionWindows) (group : List (StreamRecord value))
    (record : StreamRecord value) : Prop :=
  ∃ earlier ∈ group, record.timestamp.toNat ≤ earlier.timestamp.toNat + windows.gap.toNat

instance (windows : SessionWindows) (group : List (StreamRecord value))
    (record : StreamRecord value) : Decidable (Near windows group record) :=
  inferInstanceAs (Decidable (∃ earlier ∈ group, _))

/-- The groups after one more record, the newest first. The record goes into the newest group when
it is near that group, or else begins another. -/
def extendGroups (windows : SessionWindows) :
    List (List (StreamRecord value)) → StreamRecord value → List (List (StreamRecord value))
  | [], record => [[record]]
  | group :: closed, record =>
      if Near windows group record then (group ++ [record]) :: closed
      else [record] :: group :: closed

def sessionGroups (windows : SessionWindows) (records : List (StreamRecord value))
    (key : String) : List (List (StreamRecord value)) :=
  (records.filter (·.key = key)).foldl (extendGroups windows) []

structure Session.Folds (initial : aggregate) (fold : String → value → aggregate → aggregate)
    (session : Session aggregate) (group : List (StreamRecord value)) : Prop where
  starts : ∃ record ∈ group, record.timestamp = session.start
  earliest : ∀ record ∈ group, session.start ≤ record.timestamp
  ends : ∃ record ∈ group, record.timestamp = session.finish
  latest : ∀ record ∈ group, record.timestamp ≤ session.finish
  folded : session.aggregate = total initial fold group

def Opens (windows : SessionWindows) (live : Option (Session aggregate))
    (record : StreamRecord value) : Prop :=
  live = none ∨ ∃ session, live = some session ∧
    session.finish.toNat + windows.gap.toNat < record.timestamp.toNat

section

variable {windows : SessionWindows} {initial : aggregate}
  {fold : String → value → aggregate → aggregate}

theorem total_append (group : List (StreamRecord value)) (record : StreamRecord value) :
    total initial fold (group ++ [record]) =
      fold record.key record.value (total initial fold group) := by
  rw [total, total, List.foldl_append]
  rfl

theorem Session.Folds.near_iff {session : Session aggregate} {group : List (StreamRecord value)}
    (folds : session.Folds initial fold group) (record : StreamRecord value) :
    Near windows group record ↔
      record.timestamp.toNat ≤ session.finish.toNat + windows.gap.toNat := by
  constructor
  · rintro ⟨earlier, member, near⟩
    have latest := folds.latest earlier member
    rw [UInt64.le_iff_toNat_le] at latest
    omega
  · intro near
    obtain ⟨last, member, same⟩ := folds.ends
    exact ⟨last, member, by rwa [same]⟩

namespace SessionTable

theorem join_fresh {live : Option (Session aggregate)} {record : StreamRecord value}
    (fresh : ∀ session, live = some session →
      ¬ windows.merges session.finish record.timestamp = true) :
    join windows initial fold live record =
      ⟨record.timestamp, record.timestamp, fold record.key record.value initial⟩ := by
  cases live with
  | none => rfl
  | some session => simp only [join, fresh session rfl, Bool.false_eq_true, ↓reduceIte]

theorem join_merge {session : Session aggregate} {record : StreamRecord value}
    (merges : windows.merges session.finish record.timestamp = true) :
    join windows initial fold (some session) record =
      ⟨min session.start record.timestamp, max session.finish record.timestamp,
        fold record.key record.value session.aggregate⟩ := by
  simp only [join, merges, ↓reduceIte]

theorem fresh_folds (record : StreamRecord value) :
    (Session.mk record.timestamp record.timestamp (fold record.key record.value initial)).Folds
      initial fold [record] where
  starts := ⟨record, List.mem_cons_self, rfl⟩
  earliest := by simp
  ends := ⟨record, List.mem_cons_self, rfl⟩
  latest := by simp
  folded := rfl

theorem merge_folds {session : Session aggregate} {group : List (StreamRecord value)}
    (folds : session.Folds initial fold group) (record : StreamRecord value) :
    (Session.mk (min session.start record.timestamp) (max session.finish record.timestamp)
      (fold record.key record.value session.aggregate)).Folds initial fold (group ++ [record]) where
  starts := by
    obtain ⟨first, member, same⟩ := folds.starts
    rw [UInt64.min_def]
    split
    · exact ⟨first, List.mem_append_left _ member, same⟩
    · exact ⟨record, List.mem_append_right _ List.mem_cons_self, rfl⟩
  earliest := by
    intro other member
    rw [UInt64.le_iff_toNat_le, Word.toNat_min]
    rcases List.mem_append.mp member with before | last
    · have earliest := UInt64.le_iff_toNat_le.mp (folds.earliest other before)
      omega
    · rw [List.mem_singleton.mp last]
      omega
  ends := by
    obtain ⟨last, member, same⟩ := folds.ends
    rw [UInt64.max_def]
    split
    · exact ⟨record, List.mem_append_right _ List.mem_cons_self, rfl⟩
    · exact ⟨last, List.mem_append_left _ member, same⟩
  latest := by
    intro other member
    rw [UInt64.le_iff_toNat_le, Word.toNat_max]
    rcases List.mem_append.mp member with before | last
    · have latest := UInt64.le_iff_toNat_le.mp (folds.latest other before)
      omega
    · rw [List.mem_singleton.mp last]
      omega
  folded := by rw [total_append, folds.folded]

theorem join_folds {live : Option (Session aggregate)} {groups : List (List (StreamRecord value))}
    (folds : Option.Rel (Session.Folds initial fold) live groups.head?)
    (record : StreamRecord value) :
    Option.Rel (Session.Folds initial fold) (some (join windows initial fold live record))
      (extendGroups windows groups record).head? := by
  cases groups with
  | nil =>
      cases folds with
      | none => exact .some (fresh_folds record)
  | cons group closed =>
      cases folds with
      | @some session _ folds =>
          have near : Near windows group record ↔ _ := folds.near_iff record
          rw [← SessionWindows.merges_iff] at near
          simp only [extendGroups]
          split
          · next within =>
              rw [join_merge (near.mp within)]
              exact .some (merge_folds folds record)
          · next beyond =>
              have fresh : ∀ other, some session = some other →
                  ¬ windows.merges other.finish record.timestamp = true := by
                rintro other ⟨rfl⟩ merges
                exact beyond (near.mpr merges)
              rw [join_fresh fresh]
              exact .some (fresh_folds record)

theorem extendGroups_opens {live : Option (Session aggregate)}
    {groups : List (List (StreamRecord value))}
    (folds : Option.Rel (Session.Folds initial fold) live groups.head?)
    (record : StreamRecord value) :
    (Opens windows live record → extendGroups windows groups record = [record] :: groups) ∧
      (¬ Opens windows live record → ∃ group closed, groups = group :: closed ∧
        extendGroups windows groups record = (group ++ [record]) :: closed) := by
  cases groups with
  | nil =>
      cases folds with
      | none => exact ⟨fun _ => rfl, fun stays => absurd (.inl rfl) stays⟩
  | cons group closed =>
      cases folds with
      | @some session _ folds =>
          have near : Near windows group record ↔ _ := folds.near_iff record
          have opens : Opens windows (some session) record ↔ ¬ Near windows group record := by
            simp [Opens, near]
          rw [opens, not_not]
          constructor
          · intro beyond
            simp only [extendGroups, beyond, ↓reduceIte]
          · intro within
            refine ⟨group, closed, rfl, ?_⟩
            simp only [extendGroups, within, ↓reduceIte]

theorem feed_getElem? (records : List (StreamRecord value)) (table : SessionTable aggregate)
    (key : String) :
    (feed windows initial fold records table).2[key]? =
      (records.filter (·.key = key)).foldl
        (fun live record => some (join windows initial fold live record)) table[key]? := by
  induction records generalizing table with
  | nil => rfl
  | cons record records ih =>
      simp only [feed, ih, Std.HashMap.getElem?_insert, beq_iff_eq, List.filter_cons,
        decide_eq_true_eq]
      split
      · next same =>
          subst same
          rfl
      · rfl

theorem feed_folds (records : List (StreamRecord value)) (key : String) :
    Option.Rel (Session.Folds initial fold) (feed windows initial fold records ∅).2[key]?
      (sessionGroups windows records key).head? := by
  rw [feed_getElem?, Std.HashMap.getElem?_empty]
  exact List.foldl_rel (r := fun live groups => Option.Rel (Session.Folds initial fold) live
    (List.head? groups)) .none fun record _ _ _ folds => join_folds folds record

theorem feed_append (past later : List (StreamRecord value)) (table : SessionTable aggregate) :
    feed windows initial fold (past ++ later) table =
      ((feed windows initial fold past table).1 ++
          (feed windows initial fold later (feed windows initial fold past table).2).1,
        (feed windows initial fold later (feed windows initial fold past table).2).2) := by
  induction past generalizing table with
  | nil => rfl
  | cons record past ih => simp only [List.cons_append, feed, ih]

theorem feed_length (records : List (StreamRecord value)) (table : SessionTable aggregate) :
    (feed windows initial fold records table).1.length = records.length := by
  induction records generalizing table with
  | nil => rfl
  | cons record records ih => simp only [feed, List.length_cons, ih]

theorem feed_row (past later : List (StreamRecord value)) (record : StreamRecord value) :
    (feed windows initial fold (past ++ record :: later) ∅).1[past.length]? =
      (feed windows initial fold (past ++ [record]) ∅).2[record.key]? := by
  have before : (feed windows initial fold past ∅).1.length = past.length := feed_length past ∅
  rw [feed_append, feed_append, List.getElem?_append_right (by omega), before, Nat.sub_self]
  simp only [feed, List.getElem?_cons_zero, Std.HashMap.getElem?_insert_self]

end SessionTable

end

section

variable {windows : SessionWindows}

theorem flatten_extendGroups (groups : List (List (StreamRecord value)))
    (record : StreamRecord value) :
    (extendGroups windows groups record).reverse.flatten = groups.reverse.flatten ++ [record] := by
  cases groups with
  | nil => rfl
  | cons group closed =>
      simp only [extendGroups]
      split
      · simp
      · simp

theorem flatten_foldl_extendGroups (records : List (StreamRecord value))
    (groups : List (List (StreamRecord value))) :
    (records.foldl (extendGroups windows) groups).reverse.flatten =
      groups.reverse.flatten ++ records := by
  induction records generalizing groups with
  | nil => simp
  | cons record records ih =>
      rw [List.foldl_cons, ih, flatten_extendGroups, List.append_assoc, List.singleton_append]

theorem sessionGroups_append (records : List (StreamRecord value)) (record : StreamRecord value) :
    sessionGroups windows (records ++ [record]) record.key =
      extendGroups windows (sessionGroups windows records record.key) record := by
  simp [sessionGroups, List.filter_append]

def InOrder (records : List (StreamRecord value)) : Prop :=
  records.Pairwise fun earlier next => earlier.timestamp ≤ next.timestamp

def follows (windows : SessionWindows) (earlier next : StreamRecord value) : Bool :=
  next.timestamp.toNat - earlier.timestamp.toNat ≤ windows.gap.toNat

/-- Inside a group each record is within the gap of the one before; from one group to the next it
is not. The newest group comes first. -/
structure MaximalRuns (windows : SessionWindows) (groups : List (List (StreamRecord value))) :
    Prop where
  filled : [] ∉ groups
  together : ∀ group ∈ groups, group.IsChain fun earlier next => follows windows earlier next = true
  apart : groups.IsChain fun newer older => ∃ olderFilled newerFilled,
    follows windows (older.getLast olderFilled) (newer.head newerFilled) = false

theorem inOrder_getLast {group : List (StreamRecord value)} (filled : group ≠ [])
    (ordered : InOrder group) :
    ∀ earlier ∈ group, earlier.timestamp ≤ (group.getLast filled).timestamp := by
  intro earlier member
  have refl : Std.Refl fun earlier next : StreamRecord value =>
      earlier.timestamp ≤ next.timestamp := ⟨fun _ => UInt64.le_refl _⟩
  exact ordered.rel_getLast member

theorem near_iff_follows {group : List (StreamRecord value)} {record : StreamRecord value}
    (filled : group ≠ []) (ordered : InOrder (group ++ [record])) :
    Near windows group record ↔ follows windows (group.getLast filled) record = true := by
  have last := List.getLast_mem filled
  simp only [follows, decide_eq_true_eq]
  constructor
  · rintro ⟨earlier, member, near⟩
    have upTo := inOrder_getLast filled (List.pairwise_append.mp ordered).1 earlier member
    rw [UInt64.le_iff_toNat_le] at upTo
    omega
  · intro within
    exact ⟨_, last, by omega⟩

theorem MaximalRuns.extend {groups : List (List (StreamRecord value))}
    (runs : MaximalRuns windows groups) {record : StreamRecord value}
    (ordered : InOrder (groups.reverse.flatten ++ [record])) :
    MaximalRuns windows (extendGroups windows groups record) := by
  cases groups with
  | nil =>
      refine ⟨?_, ?_, ?_⟩
      · simp [extendGroups]
      · simp [extendGroups]
      · simp [extendGroups]
  | cons group closed =>
      obtain ⟨filled, together, apart⟩ := runs
      rw [List.mem_cons, not_or] at filled
      rw [List.forall_mem_cons] at together
      obtain ⟨present, closedFilled⟩ := filled
      obtain ⟨chain, closedTogether⟩ := together
      have groupFilled : group ≠ [] := Ne.symm present
      have ends : InOrder (group ++ [record]) := by
        rw [List.reverse_cons, List.flatten_append, List.flatten_singleton, List.append_assoc]
          at ordered
        exact (List.pairwise_append.mp ordered).2.1
      have near : Near windows group record ↔ _ := near_iff_follows groupFilled ends
      simp only [extendGroups]
      split
      · next within =>
          rw [near] at within
          refine ⟨?_, ?_, ?_⟩
          · simp [closedFilled]
          · simp only [List.forall_mem_cons]
            refine ⟨?_, closedTogether⟩
            rw [List.isChain_append]
            refine ⟨chain, .singleton record, ?_⟩
            rw [List.getLast?_eq_some_getLast groupFilled]
            rintro _ ⟨rfl⟩ _ ⟨rfl⟩
            exact within
          · -- The newest group keeps its first record, so its border with the older one stays.
            rw [List.isChain_cons] at apart ⊢
            obtain ⟨first, later⟩ := apart
            refine ⟨?_, later⟩
            intro older member
            obtain ⟨olderFilled, newerFilled, gap⟩ := first older member
            refine ⟨olderFilled, by simp, ?_⟩
            rwa [List.head_append_of_ne_nil newerFilled]
      · next beyond =>
          rw [near, Bool.not_eq_true] at beyond
          refine ⟨?_, ?_, ?_⟩
          · simp [present, closedFilled]
          · simp only [List.forall_mem_cons]
            exact ⟨.singleton record, chain, closedTogether⟩
          · exact .cons_cons ⟨groupFilled, List.cons_ne_nil _ _, beyond⟩ apart

theorem maximalRuns_of_inOrder {records : List (StreamRecord value)} (ordered : InOrder records) :
    MaximalRuns windows (records.foldl (extendGroups windows) []) := by
  induction records using List.reverseRecOn with
  | nil => exact ⟨List.not_mem_nil, by simp, .nil⟩
  | append_singleton records record ih =>
      rw [List.foldl_append]
      apply (ih (List.pairwise_append.mp ordered).1).extend
      rwa [flatten_foldl_extendGroups]

theorem splitBy_of_inOrder {records : List (StreamRecord value)} (ordered : InOrder records) :
    (records.foldl (extendGroups windows) []).reverse =
      records.splitBy (follows windows) := by
  have runs : MaximalRuns windows _ := maximalRuns_of_inOrder ordered
  refine (List.splitBy_eq_iff.mpr ⟨?_, ?_, ?_, ?_⟩).symm
  · exact (flatten_foldl_extendGroups records []).symm
  · simpa using runs.filled
  · simpa using runs.together
  · simpa [List.isChain_reverse] using runs.apart

end

theorem Aggregation.run_session {operator : Aggregation value aggregate}
    {windows : SessionWindows} (spaced : operator.descriptor = .session windows)
    (past later : List (StreamRecord value)) (record : StreamRecord value) :
    (operator.run (past ++ record :: later))[past.length]? =
      (SessionTable.feed windows operator.initial operator.fold
        (past ++ [record]) ∅).2[record.key]?.map fun session =>
          [(session.text, session.aggregate)] := by
  unfold Aggregation.run
  rw [spaced]
  simp only [List.getElem?_map, SessionTable.feed_row]

/-- At every moment of a run the live session of a key is the fold over the newest group of its
records, from the earliest to the latest timestamp among them. A record goes into that group
unless it opens a session, and a record of another key changes nothing. The run reports the live
session after each record. If the timestamps of the key do not decrease, its groups are the
maximal runs of its records that follow one another within the gap. -/
theorem feed_sessions (windows : SessionWindows) (initial : aggregate)
    (fold : String → value → aggregate → aggregate) (records : List (StreamRecord value))
    (key : String) :
    let live := fun records : List (StreamRecord value) =>
      (SessionTable.feed windows initial fold records ∅).2[key]?
    let groups := fun records : List (StreamRecord value) => sessionGroups windows records key
    let mine := records.filter (·.key = key)
    Option.Rel (Session.Folds initial fold) (live records) (groups records).head? ∧
    (groups records).reverse.flatten = mine ∧
    (∀ record : StreamRecord value, record.key = key →
      (Opens windows (live records) record →
        groups (records ++ [record]) = [record] :: groups records) ∧
      (¬ Opens windows (live records) record → ∃ group closed, groups records = group :: closed ∧
        groups (records ++ [record]) = (group ++ [record]) :: closed) ∧
      ∀ source store later, (Aggregation.run ⟨source, .session windows, initial, fold, store⟩
        (records ++ record :: later))[records.length]? =
          (live (records ++ [record])).map fun session => [(session.text, session.aggregate)]) ∧
    (∀ record : StreamRecord value, record.key ≠ key →
      live (records ++ [record]) = live records ∧
        groups (records ++ [record]) = groups records) ∧
    (InOrder mine → (groups records).reverse = mine.splitBy (follows windows)) := by
  intro live groups mine
  have folds : Option.Rel (Session.Folds initial fold) (live records) (groups records).head? :=
    SessionTable.feed_folds records key
  refine ⟨folds, flatten_foldl_extendGroups mine [], ?_, ?_, splitBy_of_inOrder⟩
  · rintro record rfl
    obtain ⟨opened, stayed⟩ := SessionTable.extendGroups_opens folds record
    have extended : groups (records ++ [record]) = extendGroups windows (groups records) record :=
      sessionGroups_append records record
    rw [extended]
    exact ⟨opened, stayed, fun _ _ later => Aggregation.run_session rfl records later record⟩
  · intro record other
    have unshared : (records ++ [record]).filter (·.key = key) = mine := by
      simp [mine, List.filter_append, other]
    simp only [live, groups, SessionTable.feed_getElem?, sessionGroups, unshared]
    exact ⟨rfl, rfl⟩

example : (sessionGroups ⟨5⟩ ([⟨"a", 10, 0⟩, ⟨"b", 11, 0⟩, ⟨"a", 15, 0⟩, ⟨"a", 12, 0⟩,
    ⟨"a", 21, 0⟩] : List (StreamRecord Nat)) "a").map (·.map (·.timestamp)) =
      [[21], [10, 15, 12]] := by decide

end StreamWindow
