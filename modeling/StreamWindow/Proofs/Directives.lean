import StreamWindow.Configuration
import StreamWindow.Proofs.ByteOrder

/-!
The log filter as a text. A map of levels has no order of its own, but the text has: it does not
depend on how the map came about, and it says which map it was written for.
-/

namespace StreamWindow

namespace LoggingOptions

def Lists (logging : LoggingOptions) (levels : Std.HashMap String String) : Prop :=
  logging.modules.Perm levels.toList

/-- The separators of the text occur in no level and no name. -/
structure Separable (logging : LoggingOptions) : Prop where
  level : ',' ∉ logging.level.toList
  names : ∀ entry ∈ logging.modules, ',' ∉ entry.1.toList ∧ '=' ∉ entry.1.toList
  levels : ∀ entry ∈ logging.modules, ',' ∉ entry.2.toList

def part (entry : String × String) : List Char :=
  entry.1.toList ++ '=' :: entry.2.toList

def entryOf (text : List Char) : String × String :=
  (String.ofList (text.takeWhile (· != '=')), String.ofList (text.dropWhile (· != '=')).tail)

section

variable {logging first second : LoggingOptions}
variable {levels firstLevels secondLevels : Std.HashMap String String}

theorem setModule_lists (lists : logging.Lists levels) (name level : String) :
    (logging.setModule name level).Lists (levels.insert name level) := by
  have kept : logging.modules.filter (·.1 != name) =
      logging.modules.filter fun entry => decide ¬(name == entry.1) = true := by
    refine List.filter_congr fun entry _ => ?_
    rw [bne, Bool.beq_comm, decide_not, Bool.decide_eq_true]
  have inserted := Std.HashMap.toList_insert_perm (m := levels) (k := name) (v := level)
  unfold Lists setModule
  simp only [kept]
  exact (List.perm_append_singleton _ _).trans (((lists.filter _).cons _).trans inserted.symm)

theorem setModules_lists (lists : logging.Lists levels) (entries : List (String × String)) :
    (logging.setModules entries).Lists
      (entries.foldl (fun levels entry => levels.insert entry.1 entry.2) levels) := by
  induction entries generalizing logging levels with
  | nil => exact lists
  | cons entry entries ih => exact ih (setModule_lists lists entry.1 entry.2)

theorem setModules_lists_ofList (level : String) (entries : List (String × String)) :
    (({ level } : LoggingOptions).setModules entries).Lists (Std.HashMap.ofList entries) := by
  have none : ({ level } : LoggingOptions).Lists ∅ := by
    rw [Lists, Std.HashMap.toList_empty]
  have inserted := (Std.HashMap.insertMany_list_equiv_foldl
    (m := (∅ : Std.HashMap String String)) (l := entries)).toList_perm
  rw [← Std.HashMap.ofList_eq_insertMany_empty] at inserted
  exact (setModules_lists none entries).trans inserted.symm

theorem Lists.names_differ (lists : logging.Lists levels) :
    logging.modules.Pairwise fun first second => first.1 ≠ second.1 := by
  have distinct := levels.distinct_keys_toList.imp (S := fun first second => first.1 ≠ second.1)
    fun different => by simpa using different
  exact (lists.pairwise_iff fun different => different.symm).mpr distinct

theorem sortedModules_perm (logging : LoggingOptions) :
    logging.sortedModules.Perm logging.modules :=
  List.mergeSort_perm _ _

theorem sortedModules_ascending (lists : logging.Lists levels) :
    logging.sortedModules.Pairwise fun first second => first.1 < second.1 := by
  have trans (first second third : String × String) (earlier : decide (first.1 ≤ second.1) = true)
      (early : decide (second.1 ≤ third.1) = true) : decide (first.1 ≤ third.1) = true := by
    rw [decide_eq_true_eq] at *
    exact String.le_trans earlier early
  have total (first second : String × String) :
      (decide (first.1 ≤ second.1) || decide (second.1 ≤ first.1)) = true := by
    rw [Bool.or_eq_true, decide_eq_true_eq, decide_eq_true_eq]
    exact String.le_total first.1 second.1
  have sorted := List.pairwise_mergeSort trans total logging.modules
  have distinct := ((sortedModules_perm logging).pairwise_iff
    fun different => different.symm).mpr lists.names_differ
  refine (sorted.and distinct).imp ?_
  rintro first second ⟨ordered, different⟩
  refine String.not_le.mp fun behind => ?_
  exact different (String.le_antisymm (of_decide_eq_true ordered) behind)

theorem sortedModules_congr (firstLists : first.Lists firstLevels)
    (secondLists : second.Lists secondLevels)
    (same : ∀ name : String, firstLevels[name]? = secondLevels[name]?) :
    first.sortedModules = second.sortedModules := by
  have entries : firstLevels.toList.Perm secondLevels.toList :=
    Std.HashMap.equiv_iff_toList_perm.mp (.of_forall_getElem?_eq same)
  have modules := firstLists.trans (entries.trans secondLists.symm)
  refine List.Perm.eq_of_pairwise ?_ (sortedModules_ascending firstLists)
    (sortedModules_ascending secondLists)
    ((sortedModules_perm first).trans (modules.trans (sortedModules_perm second).symm))
  intro entry other _ _ earlier later
  exact absurd later (String.lt_asymm earlier)

theorem append_parts (text : List Char) (entries : List (String × String)) :
    text ++ entries.flatMap (fun entry => ',' :: part entry) =
      [','].intercalate (text :: entries.map part) := by
  induction entries generalizing text with
  | nil => simp
  | cons entry entries ih => simp [List.intercalate_cons_cons, ← ih]

theorem directives_toList (logging : LoggingOptions) : logging.directives.toList =
    [','].intercalate (logging.level.toList :: logging.sortedModules.map part) := by
  rw [← append_parts, directives, String.toList_append, String.toList_join, List.flatMap_map]
  congr 1
  refine List.flatMap_congr fun entry _ => ?_
  simp [part, toString]

theorem comma_not_mem_parts (separable : logging.Separable) :
    ∀ text ∈ logging.level.toList :: logging.sortedModules.map part, ',' ∉ text := by
  intro text member
  rcases List.mem_cons.mp member with rfl | member
  · exact separable.level
  · obtain ⟨entry, sorted, rfl⟩ := List.mem_map.mp member
    have listed := (sortedModules_perm logging).mem_iff.mp sorted
    simp [part, separable.names entry listed, separable.levels entry listed]

theorem entryOf_part {entry : String × String} (plain : '=' ∉ entry.1.toList) :
    entryOf (part entry) = entry := by
  have inside : ∀ char ∈ entry.1.toList, (char != '=') = true := by
    intro char member
    rw [bne_iff_ne]
    rintro rfl
    exact plain member
  rw [entryOf, part, List.takeWhile_append_of_pos inside, List.dropWhile_append_of_pos inside]
  simp

theorem sortedModules_of_directives (separable : logging.Separable) :
    logging.directives.toList.splitOn ',' =
        logging.level.toList :: logging.sortedModules.map part ∧
      (logging.sortedModules.map part).map entryOf = logging.sortedModules := by
  constructor
  · rw [directives_toList]
    exact List.splitOn_intercalate ',' (comma_not_mem_parts separable) (List.cons_ne_nil _ _)
  · rw [List.map_map]
    refine (List.map_congr_left fun entry sorted => ?_).trans (List.map_id _)
    have listed := (sortedModules_perm logging).mem_iff.mp sorted
    exact entryOf_part (separable.names entry listed).2

theorem directives_inj (separable : first.Separable) (otherSeparable : second.Separable)
    (same : first.directives = second.directives) :
    first.level = second.level ∧ first.sortedModules = second.sortedModules := by
  obtain ⟨parts, entries⟩ := sortedModules_of_directives separable
  obtain ⟨otherParts, otherEntries⟩ := sortedModules_of_directives otherSeparable
  rw [same, otherParts] at parts
  obtain ⟨level, modules⟩ := List.cons.inj parts
  rw [modules, entries] at otherEntries
  exact ⟨String.toList_injective level.symm, otherEntries⟩

theorem levels_of_sortedModules (lists : first.Lists firstLevels)
    (otherLists : second.Lists secondLevels) (same : first.sortedModules = second.sortedModules)
    (name : String) : firstLevels[name]? = secondLevels[name]? := by
  have modules := (sortedModules_perm first).symm.trans (same ▸ sortedModules_perm second)
  have entries := lists.symm.trans (modules.trans otherLists)
  exact (Std.HashMap.equiv_iff_toList_perm.mpr entries).getElem?_eq

end

/-- The text is the level and, in the order of the bytes of the names, each entry of the map once.
It is the same for the same level and map, however the entries came about and in whatever order they
stand, and where no separator occurs in a name or a level it tells different levels and maps
apart. -/
theorem directives_canonical :
    (∀ (logging : LoggingOptions) (levels : Std.HashMap String String), logging.Lists levels →
      ∃ entries : List (String × String), entries.Perm levels.toList ∧
        entries.Pairwise (fun first second => Text.bytes first.1 < Text.bytes second.1) ∧
        logging.directives = logging.level ++
          String.join (entries.map fun entry => "," ++ entry.1 ++ "=" ++ entry.2)) ∧
    (∀ (level : String) (entries : List (String × String)),
      (({ level } : LoggingOptions).setModules entries).Lists (Std.HashMap.ofList entries)) ∧
    ∀ (first second : LoggingOptions) (firstLevels secondLevels : Std.HashMap String String),
      first.Lists firstLevels → second.Lists secondLevels →
      (first.level = second.level →
        (∀ name : String, firstLevels[name]? = secondLevels[name]?) →
        first.directives = second.directives) ∧
      (first.Separable → second.Separable → first.directives = second.directives →
        first.level = second.level ∧
          ∀ name : String, firstLevels[name]? = secondLevels[name]?) := by
  refine ⟨?_, setModules_lists_ofList, ?_⟩
  · intro logging levels lists
    refine ⟨logging.sortedModules, (sortedModules_perm logging).trans lists,
      (sortedModules_ascending lists).imp bytes_lt_iff.mpr, ?_⟩
    rfl
  · intro first second firstLevels secondLevels firstLists secondLists
    constructor
    · intro level same
      rw [directives, directives, level, sortedModules_congr firstLists secondLists same]
    · intro separable otherSeparable same
      obtain ⟨level, modules⟩ := directives_inj separable otherSeparable same
      exact ⟨level, levels_of_sortedModules firstLists secondLists modules⟩

end LoggingOptions

/-- A comma within a level can make the text of one entry out of it. -/
example : ({ level := "warn,a=info" } : LoggingOptions).directives =
    ({ level := "warn", modules := [("a", "info")] } : LoggingOptions).directives := by cbv

end StreamWindow
