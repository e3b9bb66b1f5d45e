import StreamWindow.Run
import StreamWindow.Proofs.WindowGrid

/-!
Running an aggregation over time windows groups the records by key and window: each entry of the
table is the fold over the records that share its key and fall into its window.
-/

namespace StreamWindow

open WindowTable

variable {value aggregate : Type}

/-- The records that a run adds to one entry. -/
def share (windows : TimeWindows) (records : List (StreamRecord value)) (key : String)
    (bounds : WindowBounds) : List (StreamRecord value) :=
  records.filter fun record => record.key = key ∧ bounds ∈ windows.windowsFor record.timestamp

def total (initial : aggregate) (fold : String → value → aggregate → aggregate)
    (records : List (StreamRecord value)) : aggregate :=
  records.foldl (fun kept record => fold record.key record.value kept) initial

def accumulate (initial : aggregate) (fold : String → value → aggregate → aggregate)
    (entry : Option aggregate) (record : StreamRecord value) : Option aggregate :=
  some (fold record.key record.value (entry.getD initial))

theorem share_append (windows : TimeWindows) (past later : List (StreamRecord value))
    (key : String) (bounds : WindowBounds) :
    share windows (past ++ later) key bounds =
      share windows past key bounds ++ share windows later key bounds :=
  List.filter_append past later

theorem share_of_key (windows : TimeWindows) (records : List (StreamRecord value)) (key : String)
    (bounds : WindowBounds) :
    share windows (records.filter (·.key = key)) key bounds =
      share windows records key bounds := by
  unfold share
  rw [List.filter_filter]
  apply List.filter_congr
  intro record _
  by_cases same : record.key = key
  · simp [same]
  · simp [same]

theorem mem_share_iff {windows : TimeWindows} (sized : windows.size ≠ 0)
    (advanced : windows.advance ≠ 0) {records : List (StreamRecord value)} {key : String}
    {bounds : WindowBounds} {record : StreamRecord value} :
    record ∈ share windows records key bounds ↔
      windows.OnGrid bounds ∧ record ∈ records ∧ record.key = key ∧
        bounds.contains record.timestamp = true := by
  simp only [share, List.mem_filter, decide_eq_true_eq,
    TimeWindows.mem_windowsFor_iff sized advanced]
  constructor
  · rintro ⟨member, same, grid, inside⟩
    exact ⟨grid, member, same, inside⟩
  · rintro ⟨grid, member, same, inside⟩
    exact ⟨member, same, grid, inside⟩

theorem share_onGrid {windows : TimeWindows} (sized : windows.size ≠ 0)
    (advanced : windows.advance ≠ 0) (records : List (StreamRecord value)) (key : String)
    {bounds : WindowBounds} (grid : windows.OnGrid bounds) :
    share windows records key bounds =
      records.filter fun record => record.key = key ∧ bounds.contains record.timestamp := by
  unfold share
  apply List.filter_congr
  intro record _
  simp [TimeWindows.mem_windowsFor_iff sized advanced, grid]

section

variable {initial : aggregate} {fold : String → value → aggregate → aggregate}

theorem foldl_accumulate_some (records : List (StreamRecord value)) (kept : aggregate) :
    records.foldl (accumulate initial fold) (some kept) = some (total kept fold records) := by
  induction records generalizing kept with
  | nil => rfl
  | cons record records ih => exact ih _

theorem foldl_accumulate_none (records : List (StreamRecord value)) :
    records.foldl (accumulate initial fold) none =
      if records = [] then none else some (total initial fold records) := by
  cases records with
  | nil => rfl
  | cons record records => exact foldl_accumulate_some records _

theorem addTo_getElem? {record : StreamRecord value} {slots : List WindowBounds}
    (once : slots.Nodup) (table : WindowTable aggregate) (key : String) (bounds : WindowBounds) :
    (addTo initial fold record slots table).2[(key, bounds)]? =
      if record.key = key ∧ bounds ∈ slots then
        accumulate initial fold table[(key, bounds)]? record
      else table[(key, bounds)]? := by
  induction slots generalizing table with
  | nil => simp [addTo]
  | cons slot rest ih =>
      obtain ⟨absent, later⟩ := List.nodup_cons.mp once
      simp only [addTo, ih later, Std.HashMap.getElem?_insert, beq_iff_eq, Prod.mk.injEq,
        List.mem_cons]
      by_cases same : record.key = key
      · by_cases here : slot = bounds
        · subst same here
          simp [absent, accumulate, Std.HashMap.getD_eq_getD_getElem?]
        · have elsewhere : bounds ≠ slot := Ne.symm here
          simp [same, here, elsewhere]
      · simp [same]

theorem addTo_updates {record : StreamRecord value} {slots : List WindowBounds}
    (once : slots.Nodup) (table : WindowTable aggregate) :
    (addTo initial fold record slots table).1 = slots.map fun bounds =>
      (bounds, fold record.key record.value (table.getD (record.key, bounds) initial)) := by
  induction slots generalizing table with
  | nil => rfl
  | cons slot rest ih =>
      obtain ⟨absent, later⟩ := List.nodup_cons.mp once
      simp only [addTo, ih later, List.map_cons, List.cons.injEq, true_and]
      apply List.map_congr_left
      intro bounds member
      have elsewhere : slot ≠ bounds := by
        rintro rfl
        exact absent member
      simp [Std.HashMap.getD_insert, elsewhere]

theorem addTo_windowsFor (windows : TimeWindows) (record : StreamRecord value)
    (table : WindowTable aggregate) (key : String) (bounds : WindowBounds) :
    (addTo initial fold record (windows.windowsFor record.timestamp) table).2[(key, bounds)]? =
      (share windows [record] key bounds).foldl (accumulate initial fold)
        table[(key, bounds)]? := by
  rw [addTo_getElem? (windows.windowsFor_nodup record.timestamp)]
  unfold share
  split
  · next joins => simp [joins]
  · next apart => simp [apart]

theorem feed_getElem? (windows : TimeWindows) (records : List (StreamRecord value))
    (table : WindowTable aggregate) (key : String) (bounds : WindowBounds) :
    (feed windows initial fold records table).2[(key, bounds)]? =
      (share windows records key bounds).foldl (accumulate initial fold)
        table[(key, bounds)]? := by
  -- The table is arbitrary, because the first record changes the one that the others see.
  induction records generalizing table with
  | nil => rfl
  | cons record records ih =>
      have split := share_append windows [record] records key bounds
      rw [List.singleton_append] at split
      rw [split, List.foldl_append, ← addTo_windowsFor windows record table key bounds]
      exact ih _

theorem feed_entry (windows : TimeWindows) (records : List (StreamRecord value)) (key : String)
    (bounds : WindowBounds) :
    (feed windows initial fold records ∅).2[(key, bounds)]? =
      if share windows records key bounds = [] then none
      else some (total initial fold (share windows records key bounds)) := by
  rw [feed_getElem?, Std.HashMap.getElem?_empty, foldl_accumulate_none]

theorem mem_feed_iff (windows : TimeWindows) (records : List (StreamRecord value)) (key : String)
    (bounds : WindowBounds) :
    (key, bounds) ∈ (feed windows initial fold records ∅).2 ↔
      ∃ record, record ∈ share windows records key bounds := by
  rw [Std.HashMap.mem_iff_isSome_getElem?, feed_entry]
  split
  · next missing => simp [missing]
  · next found =>
      have nonempty := List.exists_mem_of_ne_nil _ found
      simp [nonempty]

theorem feed_entry_getD (windows : TimeWindows) (records : List (StreamRecord value))
    (key : String) (bounds : WindowBounds) :
    (feed windows initial fold records ∅).2.getD (key, bounds) initial =
      total initial fold (share windows records key bounds) := by
  rw [Std.HashMap.getD_eq_getD_getElem?, feed_entry]
  split
  · next missing =>
      rw [missing]
      rfl
  · rfl

theorem feed_updates_append (windows : TimeWindows) (past later : List (StreamRecord value))
    (table : WindowTable aggregate) :
    (feed windows initial fold (past ++ later) table).1 =
      (feed windows initial fold past table).1 ++
        (feed windows initial fold later (feed windows initial fold past table).2).1 := by
  induction past generalizing table with
  | nil => rfl
  | cons record past ih => simp only [List.cons_append, feed, ih]

theorem feed_updates_length (windows : TimeWindows) (records : List (StreamRecord value))
    (table : WindowTable aggregate) :
    (feed windows initial fold records table).1.length = records.length := by
  induction records generalizing table with
  | nil => rfl
  | cons record records ih => simp only [feed, List.length_cons, ih]

theorem feed_row (windows : TimeWindows) (past later : List (StreamRecord value))
    (record : StreamRecord value) :
    (feed windows initial fold (past ++ record :: later) ∅).1[past.length]? =
      some ((windows.windowsFor record.timestamp).map fun bounds =>
        (bounds, total initial fold (share windows (past ++ [record]) record.key bounds))) := by
  have before : (feed windows initial fold past ∅).1.length = past.length :=
    feed_updates_length windows past ∅
  rw [feed_updates_append, List.getElem?_append_right (by omega), before, Nat.sub_self]
  simp only [feed, List.getElem?_cons_zero, addTo_updates (windows.windowsFor_nodup _)]
  congr 1
  apply List.map_congr_left
  intro bounds member
  rw [feed_entry_getD, share_append]
  simp [share, member, total]

end

theorem Aggregation.run_row {operator : Aggregation value aggregate} {windows : TimeWindows}
    (timed : operator.descriptor = .time windows) (past later : List (StreamRecord value))
    (record : StreamRecord value) :
    (operator.run (past ++ record :: later))[past.length]? =
      some ((windows.windowsFor record.timestamp).map fun slot =>
        (slot.text, (feed windows operator.initial operator.fold (past ++ [record]) ∅).2.getD
          (record.key, slot) operator.initial)) := by
  unfold Aggregation.run
  rw [timed]
  simp only [List.getElem?_map, feed_row, Option.map_some, List.map_map, feed_entry_getD]
  rfl

theorem Aggregation.lower_handlers {window : Window} {stream : GroupedStream}
    {initial : aggregate} {fold : String → value → aggregate → aggregate} {store : Store}
    {operator : Aggregation value aggregate}
    (lowered : (Aggregation.lower window stream initial fold store).outcome = .ok operator) :
    operator.initial = initial ∧ operator.fold = fold := by
  unfold Aggregation.lower Aggregation.build at lowered
  cases found : window.lower with
  | error cause => simp [found] at lowered
  | ok descriptor =>
      cases fits : store.mismatch? stream descriptor with
      | some mismatch => simp [found, fits] at lowered
      | none =>
          simp only [found, fits, Except.ok.injEq] at lowered
          subst lowered
          exact ⟨rfl, rfl⟩

/-- After any run over time windows, an entry is stored for a key and bounds exactly when the
bounds are a window of the grid that some record of the key falls into. It is the fold, in the
order of arrival, over all such records, and it is the same without the other keys. The run
reports for each record the entries of its windows at that moment. -/
theorem feed_groups {window : Window} {stream : GroupedStream} {initial : aggregate}
    {fold : String → value → aggregate → aggregate} {store : Store}
    {operator : Aggregation value aggregate} {windows : TimeWindows}
    (lowered : (Aggregation.lower window stream initial fold store).outcome = .ok operator)
    (timed : operator.descriptor = .time windows) (sized : 1 ≤ windows.size)
    (advanced : 1 ≤ windows.advance) (records : List (StreamRecord value)) (key : String)
    (bounds : WindowBounds) :
    let run := fun records => (feed windows operator.initial operator.fold records ∅).2
    let inside := records.filter fun record =>
      record.key = key ∧ bounds.contains record.timestamp
    ((key, bounds) ∈ run records ↔ windows.OnGrid bounds ∧
      ∃ record ∈ records, record.key = key ∧ bounds.contains record.timestamp = true) ∧
    ((key, bounds) ∈ run records → (run records)[(key, bounds)]? =
      some (inside.foldl (fun kept record => fold record.key record.value kept) initial)) ∧
    (run records)[(key, bounds)]? = (run (records.filter (·.key = key)))[(key, bounds)]? ∧
    ∀ past record later, records = past ++ record :: later →
      (operator.run records)[past.length]? =
        some ((windows.windowsFor record.timestamp).map fun slot =>
          (slot.text, (run (past ++ [record])).getD (record.key, slot) initial)) := by
  intro run inside
  obtain ⟨rfl, rfl⟩ := Aggregation.lower_handlers lowered
  have nonempty := Word.ne_zero_of_one_le sized
  have moving := Word.ne_zero_of_one_le advanced
  have stored : (key, bounds) ∈ run records ↔ windows.OnGrid bounds ∧
      ∃ record ∈ records, record.key = key ∧ bounds.contains record.timestamp = true := by
    rw [mem_feed_iff]
    simp only [mem_share_iff nonempty moving, exists_and_left]
  refine ⟨stored, ?_, ?_, ?_⟩
  · intro found
    have grid := (stored.mp found).1
    obtain ⟨record, member⟩ := (mem_feed_iff windows records key bounds).mp found
    rw [feed_entry, if_neg (List.ne_nil_of_mem member),
      share_onGrid nonempty moving records key grid]
    rfl
  · simp only [run, feed_entry, share_of_key]
  · rintro past record later rfl
    exact operator.run_row timed past later record

theorem feed_groups_hopping :
    let fold := fun (_ : String) (value : Nat) (kept : List Nat) => kept ++ [value]
    let records : List (StreamRecord Nat) :=
      [⟨"a", 4500, 1⟩, ⟨"b", 4500, 7⟩, ⟨"a", 3999, 2⟩, ⟨"a", 8000, 3⟩]
    (feed ⟨5000, 2000⟩ [] fold records ∅).2[("a", (⟨2000, 7000⟩ : WindowBounds))]? =
      some [1, 2] := by
  intro fold records
  obtain ⟨stored, entry, _⟩ := @feed_groups Nat (List Nat)
    (.hopping ⟨5, .seconds⟩ ⟨2, .seconds⟩) ⟨"orders", .string, .row⟩ [] fold
    ⟨"totals", .string, .row, .any⟩
    ⟨⟨"orders", .string, .row⟩, .time ⟨5000, 2000⟩, [], fold, ⟨"totals", .string, .row, .any⟩⟩
    ⟨5000, 2000⟩ rfl rfl (by decide) (by decide) records "a" ⟨2000, 7000⟩
  have grid : TimeWindows.OnGrid ⟨5000, 2000⟩ ⟨2000, 7000⟩ := ⟨1, by decide, by decide⟩
  have found := stored.mpr ⟨grid, _, List.mem_cons_self, rfl, by decide⟩
  refine (entry found).trans ?_
  decide

end StreamWindow
