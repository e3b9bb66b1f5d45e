import Mathlib.Data.Option.Basic
import StreamWindow.Toml.Document

/-!
The names of a document. No table that a document describes has two entries of one name, however
the parts of the table are spread over the document.
-/

namespace StreamWindow

def Data.isLeaf : Data → Bool
  | sequence _ => false
  | map _ => false
  | _ => true

inductive Data.Distinct : Data → Prop
  | leaf {data} : data.isLeaf = true → Distinct data
  | sequence {items} : (∀ item ∈ items, Distinct item) → Distinct (.sequence items)
  | map {entries} : (entries.map Prod.fst).Nodup → (∀ entry ∈ entries, Distinct entry.2) →
      Distinct (.map entries)

namespace Toml

def Entries.names (entries : Entries) : List String :=
  entries.map fun entry => entry.1.name

inductive Node.Distinct : Node → Prop
  | leaf {region data} : data.Distinct → Distinct (.leaf region data)
  | array {region items} : (∀ item ∈ items, Distinct item) → Distinct (.array region items)
  | table {region origin} {entries : Entries} : entries.names.Nodup →
      (∀ entry ∈ entries, Distinct entry.2) → Distinct (.table region origin entries)
  | tables {region header} {latest : Entries} {earlier} : latest.names.Nodup →
      (∀ entry ∈ latest, Distinct entry.2) → (∀ node ∈ earlier, Distinct node) →
      Distinct (.tables region header latest earlier)

structure Entries.Distinct (entries : Entries) : Prop where
  names : entries.names.Nodup
  nodes : ∀ entry ∈ entries, entry.2.Distinct

theorem Entries.Distinct.nil : Entries.Distinct [] :=
  ⟨List.nodup_nil, by simp⟩

theorem Entries.distinct_cons_iff {entry : Key × Node} {entries : Entries} :
    Entries.Distinct (entry :: entries) ↔
      entry.1.name ∉ entries.names ∧ entry.2.Distinct ∧ entries.Distinct := by
  constructor
  · rintro ⟨names, nodes⟩
    obtain ⟨fresh, names⟩ := List.nodup_cons.mp names
    obtain ⟨node, nodes⟩ := List.forall_mem_cons.mp nodes
    exact ⟨fresh, node, names, nodes⟩
  · rintro ⟨fresh, node, names, nodes⟩
    exact ⟨List.nodup_cons.mpr ⟨fresh, names⟩, List.forall_mem_cons.mpr ⟨node, nodes⟩⟩

structure Keeps (name : String) (change : Change) : Prop where
  added : ∀ {entry}, change none = some entry → entry.1.name = name ∧ entry.2.Distinct
  changed : ∀ {found entry}, found.1.name = name → found.2.Distinct →
    change (some found) = some entry → entry.1.name = name ∧ entry.2.Distinct

section

variable {entries updated : Entries}

theorem update_distinct {name : String} {change : Change} (keeps : Keeps name change)
    (distinct : entries.Distinct) (done : update name change entries = some updated) :
    updated.Distinct ∧ ∀ other ∈ updated.names, other = name ∨ other ∈ entries.names := by
  induction entries generalizing updated with
  | nil =>
      obtain ⟨entry, added, rfl⟩ := Option.map_eq_some_iff.mp done
      obtain ⟨named, node⟩ := keeps.added added
      refine ⟨Entries.distinct_cons_iff.mpr ⟨by simp [Entries.names], node, .nil⟩, ?_⟩
      simp [Entries.names, named]
  | cons entry entries ih =>
      obtain ⟨fresh, node, later⟩ := Entries.distinct_cons_iff.mp distinct
      rw [update] at done
      split at done
      · next named =>
          obtain ⟨changed, found, rfl⟩ := Option.map_eq_some_iff.mp done
          obtain ⟨still, changedNode⟩ := keeps.changed named node found
          have same : changed.1.name = entry.1.name := still.trans named.symm
          refine ⟨Entries.distinct_cons_iff.mpr ⟨same ▸ fresh, changedNode, later⟩, ?_⟩
          intro other member
          right
          simpa [Entries.names, same] using member
      · next different =>
          obtain ⟨rest, found, rfl⟩ := Option.map_eq_some_iff.mp done
          obtain ⟨restDistinct, known⟩ := ih later found
          have missing : entry.1.name ∉ Entries.names rest := by
            intro again
            exact (known _ again).elim different fresh
          refine ⟨Entries.distinct_cons_iff.mpr ⟨missing, node, restDistinct⟩, ?_⟩
          intro other member
          rcases List.mem_cons.mp member with rfl | member
          · exact .inr List.mem_cons_self
          · exact (known other member).imp_right (List.mem_cons_of_mem _)

def Preserves (change : Origin → Entries → Option Entries) : Prop :=
  ∀ {reached entries updated}, Entries.Distinct entries →
    change reached entries = some updated → Entries.Distinct updated

theorem within_distinct {origin reached : Origin} {path : List Key}
    {change : Origin → Entries → Option Entries} (preserves : Preserves change)
    (distinct : entries.Distinct)
    (done : within origin change path reached entries = some updated) : updated.Distinct := by
  induction path generalizing reached entries updated with
  | nil => exact preserves distinct done
  | cons key path ih =>
      refine (update_distinct ⟨?_, ?_⟩ distinct done).1
      · intro entry added
        simp only [Option.bind_eq_bind, Option.bind_eq_some_iff, Option.pure_def,
          Option.some.injEq] at added
        obtain ⟨inner, found, rfl⟩ := added
        obtain ⟨names, nodes⟩ := ih .nil found
        exact ⟨rfl, .table names nodes⟩
      · rintro ⟨found, node⟩ entry named distinct changed
        cases distinct with
        | leaf _ => contradiction
        | array _ => contradiction
        | tables names nodes earlier =>
            simp only [Option.bind_eq_bind, Option.bind_eq_some_iff, Option.pure_def,
              Option.some.injEq] at changed
            obtain ⟨latest, opened, rfl⟩ := changed
            obtain ⟨names, nodes⟩ := ih ⟨names, nodes⟩ opened
            exact ⟨named, .tables names nodes earlier⟩
        | table names nodes =>
            simp only at changed
            split at changed
            · contradiction
            · simp only [Option.bind_eq_bind, Option.bind_eq_some_iff, Option.pure_def,
                Option.some.injEq] at changed
              obtain ⟨inner, opened, rfl⟩ := changed
              obtain ⟨names, nodes⟩ := ih ⟨names, nodes⟩ opened
              exact ⟨named, .table names nodes⟩

theorem assign_distinct {path : List Key} {key : Key} {value : Node} (node : value.Distinct)
    (distinct : entries.Distinct) (done : assign path key value entries = some updated) :
    updated.Distinct := by
  refine within_distinct ?_ distinct done
  intro reached inner updated distinct done
  simp only at done
  split at done
  · refine (update_distinct ⟨?_, ?_⟩ distinct done).1
    · intro entry added
      cases added
      exact ⟨rfl, node⟩
    · intro found entry _ _ changed
      contradiction
  · contradiction

theorem openTable_distinct {header : Text.Region} {path : List Key} {key : Key}
    (distinct : entries.Distinct) (done : openTable header path key entries = some updated) :
    updated.Distinct := by
  refine within_distinct ?_ distinct done
  intro reached inner updated distinct done
  refine (update_distinct ⟨?_, ?_⟩ distinct done).1
  · intro entry added
    cases added
    exact ⟨rfl, .table List.nodup_nil (by simp)⟩
  · intro found entry _ node changed
    split at changed
    · contradiction
    · next known =>
        cases known
        cases changed
        cases node with
        | table names nodes => exact ⟨rfl, .table names nodes⟩
    · contradiction

theorem appendTable_distinct {header : Text.Region} {path : List Key} {key : Key}
    (distinct : entries.Distinct) (done : appendTable header path key entries = some updated) :
    updated.Distinct := by
  refine within_distinct ?_ distinct done
  intro reached inner updated distinct done
  refine (update_distinct ⟨?_, ?_⟩ distinct done).1
  · intro entry added
    cases added
    exact ⟨rfl, .tables List.nodup_nil (by simp) (by simp)⟩
  · intro found entry named node changed
    split at changed
    · contradiction
    · next known =>
        cases known
        cases changed
        cases node with
        | tables names nodes earlier =>
            refine ⟨named, .tables List.nodup_nil (by simp) ?_⟩
            exact List.forall_mem_cons.mpr ⟨.table names nodes, earlier⟩
    · contradiction

end

theorem float?_distinct {chars : List Char} {data : Data} (found : float? chars = some data) :
    data.Distinct := by
  simp only [float?] at found
  split at found
  · cases found
    exact .leaf rfl
  · split at found
    · cases found
      exact .leaf rfl
    · simp only [Option.bind_eq_bind, Option.bind_eq_some_iff, Option.pure_def] at found
      obtain ⟨value, _, result⟩ := found
      split at result
      · cases result
        exact .leaf rfl
      · cases result
        exact .leaf rfl

theorem scalar?_distinct {chars : List Char} {data : Data} (found : scalar? chars = some data) :
    data.Distinct := by
  unfold scalar? at found
  split at found
  · cases found
    exact .leaf rfl
  · split at found
    · cases found
      exact .leaf rfl
    · simp only [Option.or_eq_some_iff, Option.map_eq_some_iff] at found
      rcases found with ⟨written, _, rfl⟩ | ⟨_, ⟨number, _, rfl⟩ | ⟨_, float⟩⟩
      · exact .leaf rfl
      · unfold ofInteger
        split
        · exact .leaf rfl
        · exact .leaf rfl
      · exact float?_distinct float

def ValuesDistinct (count : Nat) : Prop :=
  ∀ {depth source node rest}, value? count depth source = some (node, rest) → node.Distinct

def ItemsDistinct (count : Nat) : Prop :=
  ∀ {depth source nodes rest}, items? count depth source = some (nodes, rest) →
    ∀ node ∈ nodes, node.Distinct

def MembersDistinct (count : Nat) : Prop :=
  ∀ {depth entries source updated rest}, Entries.Distinct entries →
    members? count depth entries source = some (updated, rest) → Entries.Distinct updated

section

variable {count : Nat}

theorem value?_step (items : ItemsDistinct count) (members : MembersDistinct count) :
    ValuesDistinct (count + 1) := by
  intro depth source node rest found
  unfold value? at found
  split at found
  · simp only [Option.bind_eq_bind, Option.bind_eq_some_iff, Option.pure_def] at found
    obtain ⟨_, _, ⟨nodes, after⟩, read, result⟩ := found
    cases result
    exact .array (items read)
  · simp only [Option.bind_eq_bind, Option.bind_eq_some_iff, Option.pure_def] at found
    obtain ⟨_, _, ⟨entries, after⟩, read, result⟩ := found
    cases result
    obtain ⟨names, nodes⟩ := members .nil read
    exact .table names nodes
  · simp only [Option.bind_eq_bind, Option.bind_eq_some_iff, Option.pure_def,
      Option.or_eq_some_iff, Option.map_eq_some_iff] at found
    obtain ⟨⟨data, after⟩, ⟨_, _, quoted⟩ | ⟨_, plain⟩, result⟩ := found
    · cases quoted
      cases result
      exact .leaf (.leaf rfl)
    · obtain ⟨data, scalar, same⟩ := Option.map_eq_some_iff.mp plain
      cases same
      cases result
      exact .leaf (scalar?_distinct scalar)

theorem items?_step (values : ValuesDistinct count) (items : ItemsDistinct count) :
    ItemsDistinct (count + 1) := by
  intro depth source nodes rest found
  unfold items? at found
  split at found
  · cases found
    simp
  · simp only [Option.bind_eq_bind, Option.bind_eq_some_iff, Option.pure_def] at found
    obtain ⟨⟨first, after⟩, read, later⟩ := found
    simp only at later
    split at later
    · obtain ⟨⟨others, last⟩, more, result⟩ := Option.bind_eq_some_iff.mp later
      cases result
      exact List.forall_mem_cons.mpr ⟨values read, items more⟩
    · cases later
      exact List.forall_mem_singleton.mpr (values read)
    · contradiction

theorem members?_step (values : ValuesDistinct count) (members : MembersDistinct count) :
    MembersDistinct (count + 1) := by
  intro depth entries source updated rest distinct found
  unfold members? at found
  split at found
  · cases found
    exact distinct
  · simp only [Option.bind_eq_bind, Option.bind_eq_some_iff, Option.pure_def] at found
    obtain ⟨⟨⟨path, key⟩, _⟩, _, _, _, ⟨value, after⟩, read, known, assigned, later⟩ := found
    have step := assign_distinct (values read) distinct assigned
    simp only at later
    split at later
    · exact members step later
    · cases later
      exact step
    · contradiction

theorem nested_distinct (count : Nat) :
    ValuesDistinct count ∧ ItemsDistinct count ∧ MembersDistinct count := by
  induction count with
  | zero =>
      refine ⟨?_, ?_, ?_⟩
      · intro depth source node rest found
        rw [value?] at found
        contradiction
      · intro depth source nodes rest found
        rw [items?] at found
        contradiction
      · intro depth entries source updated rest _ found
        rw [members?] at found
        contradiction
  | succ count ih =>
      obtain ⟨values, items, members⟩ := ih
      exact ⟨value?_step items members, items?_step values items, members?_step values members⟩

end

section

variable {count : Nat} {progress next : Progress} {source rest : List Char}

theorem expression?_distinct (distinct : progress.entries.Distinct)
    (read : expression? count progress source = some (next, rest)) : next.entries.Distinct := by
  simp only [expression?] at read
  split at read
  · simp only [Option.bind_eq_bind, Option.bind_eq_some_iff, Option.pure_def] at read
    obtain ⟨⟨⟨path, key⟩, _⟩, _, _, _, _, appended, result⟩ := read
    cases result
    exact appendTable_distinct distinct appended
  · simp only [Option.bind_eq_bind, Option.bind_eq_some_iff, Option.pure_def] at read
    obtain ⟨⟨⟨path, key⟩, _⟩, _, _, _, _, opened, result⟩ := read
    cases result
    exact openTable_distinct distinct opened
  · split at read
    · cases read
      exact distinct
    · split at read
      · cases read
        exact distinct
      · simp only [Option.bind_eq_bind, Option.bind_eq_some_iff, Option.pure_def] at read
        obtain ⟨⟨⟨path, key⟩, _⟩, _, _, _, ⟨value, _⟩, found, _, assigned, result⟩ := read
        cases result
        refine within_distinct ?_ distinct assigned
        intro reached entries updated known done
        exact assign_distinct ((nested_distinct count).1 found) known done

theorem lines?_distinct {more : Nat} (distinct : progress.entries.Distinct)
    (read : lines? count more progress source = some next) : next.entries.Distinct := by
  induction more generalizing progress source with
  | zero =>
      cases source with
      | nil =>
          cases read
          exact distinct
      | cons char source => contradiction
  | succ more ih =>
      cases source with
      | nil =>
          cases read
          exact distinct
      | cons char source =>
          simp only [lines?, Option.bind_eq_bind, Option.bind_eq_some_iff] at read
          obtain ⟨⟨step, _⟩, first, _, _, later⟩ := read
          exact ih (expression?_distinct distinct first) later

theorem document?_distinct {text : String} {document : Document}
    (read : document? text = some document) : document.entries.Distinct := by
  obtain ⟨progress, lines, rfl⟩ := Option.map_eq_some_iff.mp read
  exact lines?_distinct .nil lines

end

theorem itemsToData_eq (items : List Node) : itemsToData items = items.map Node.toData := by
  induction items with
  | nil => rfl
  | cons item items ih => rw [itemsToData, ih, List.map_cons]

theorem entriesToData_eq (entries : Entries) :
    entriesToData entries = entries.map fun entry => (entry.1.name, entry.2.toData) := by
  induction entries with
  | nil => rfl
  | cons entry entries ih => rw [entriesToData, ih, List.map_cons]

theorem byName_distinct {entries : Entries} (names : entries.names.Nodup)
    (nodes : ∀ entry ∈ entries, entry.2.toData.Distinct) :
    ((byName (entriesToData entries)).map Prod.fst).Nodup ∧
      ∀ entry ∈ byName (entriesToData entries), entry.2.Distinct := by
  have sorted : (byName (entriesToData entries)).Perm (entriesToData entries) :=
    List.mergeSort_perm _ _
  rw [entriesToData_eq] at sorted ⊢
  constructor
  · refine (sorted.map Prod.fst).nodup_iff.mpr ?_
    rw [List.map_map]
    exact names
  · intro entry member
    obtain ⟨node, known, rfl⟩ := List.mem_map.mp (sorted.mem_iff.mp member)
    exact nodes node known

theorem Node.toData_distinct {node : Node} (distinct : node.Distinct) : node.toData.Distinct := by
  induction distinct with
  | leaf data => exact data
  | array _ items =>
      rw [Node.toData, itemsToData_eq]
      exact .sequence (List.forall_mem_map.mpr items)
  | table names _ nodes =>
      obtain ⟨sortedNames, sortedNodes⟩ := byName_distinct names nodes
      exact .map sortedNames sortedNodes
  | tables names _ _ nodes earlier =>
      obtain ⟨sortedNames, sortedNodes⟩ := byName_distinct names nodes
      rw [Node.toData, itemsToData_eq]
      refine .sequence fun item member => ?_
      rcases List.mem_cons.mp (List.mem_reverse.mp member) with rfl | member
      · exact .map sortedNames sortedNodes
      · exact List.forall_mem_map.mpr earlier item member

/-- A document describes a map in which, on every level, names are given a value once. -/
theorem Document.data_distinct {text : String} {document : Document}
    (read : document? text = some document) : (Data.map document.data).Distinct := by
  obtain ⟨names, nodes⟩ := document?_distinct read
  obtain ⟨sortedNames, sortedNodes⟩ := byName_distinct names
    fun entry member => Node.toData_distinct (nodes entry member)
  exact .map sortedNames sortedNodes

end Toml

end StreamWindow
