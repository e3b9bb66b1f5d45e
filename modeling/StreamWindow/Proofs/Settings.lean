import StreamWindow.Configuration.Decode
import StreamWindow.Proofs.Directives
import StreamWindow.Proofs.Fallible
import StreamWindow.Proofs.Literals
import StreamWindow.Proofs.Tables

/-!
What is read from a document where names differ. The levels of modules in a configuration are the
entries of a map, since no module has two of them.
-/

namespace StreamWindow

section

variable {state element : Type} {failure : Type}

theorem foldlM_keeps {holds : state → Prop} {step : state → element → Except failure state}
    {elements : List element} {first last : state} (start : holds first)
    (kept : ∀ element ∈ elements, ∀ before after, holds before →
      step before element = .ok after → holds after)
    (done : elements.foldlM step first = .ok last) : holds last := by
  induction elements generalizing first with
  | nil =>
      cases done
      exact start
  | cons element elements ih =>
      obtain ⟨middle, here, later⟩ := bind_eq_ok_iff.mp done
      obtain ⟨keeps, others⟩ := List.forall_mem_cons.mp kept
      exact ih (keeps first middle start here) others later

end

namespace Data

variable {data : Data}

theorem before_eq_ok_iff {α : Type} {step : Step} {outcome : Except DecodingError α} {result : α} :
    step.before outcome = .ok result ↔ outcome = .ok result := by
  cases outcome <;> simp [Step.before, Except.mapError]

theorem entries?_distinct {entries : List (String × Data)} (distinct : data.Distinct)
    (found : data.entries? = some entries) :
    (entries.map Prod.fst).Nodup ∧ ∀ entry ∈ entries, entry.2.Distinct := by
  cases data with
  | map entries =>
      cases found
      cases distinct with
      | leaf other => contradiction
      | map names nodes => exact ⟨names, nodes⟩
  | moment written =>
      cases found
      refine ⟨List.nodup_singleton _, List.forall_mem_singleton.mpr ?_⟩
      exact .leaf rfl
  | null => contradiction
  | boolean _ => contradiction
  | integer _ => contradiction
  | float _ => contradiction
  | oversized _ => contradiction
  | text _ => contradiction
  | sequence _ => contradiction

theorem mapM_names {value : Type} {read : String × Data → Except DecodingError (String × value)}
    (named : ∀ {entry result}, read entry = .ok result → result.1 = entry.1)
    {entries : List (String × Data)} {results : List (String × value)}
    (done : entries.mapM read = .ok results) :
    results.map Prod.fst = entries.map Prod.fst := by
  induction entries generalizing results with
  | nil =>
      rw [List.mapM_nil] at done
      cases done
      rfl
  | cons entry entries ih =>
      simp only [List.mapM_cons, bind_eq_ok_iff] at done
      obtain ⟨first, here, later, others, same⟩ := done
      cases same
      rw [List.map_cons, List.map_cons, named here, ih others]

theorem asTextMap_names {entries : List (String × String)} (distinct : data.Distinct)
    (read : data.asTextMap = .ok entries) : (entries.map Prod.fst).Nodup := by
  unfold asTextMap at read
  split at read
  · next found =>
      rw [mapM_names ?_ read]
      · exact (entries?_distinct distinct found).1
      · intro entry result taken
        simp only [before_eq_ok_iff, bind_eq_ok_iff] at taken
        obtain ⟨value, _, same⟩ := taken
        cases same
        rfl
  · cases data <;> contradiction

theorem settings?_distinct {names : List String} {settings : List (Step × String × Data)}
    (distinct : data.Distinct) (found : data.settings? names = some settings) :
    ∀ setting ∈ settings, setting.2.2.Distinct := by
  unfold settings? at found
  split at found
  · next items =>
      cases found
      refine List.forall_mem_map.mpr ?_
      rintro ⟨setting, index⟩ member
      have inside := (List.of_mem_zip (List.fst_mem_of_mem_zipIdx member)).2
      cases distinct with
      | leaf other => contradiction
      | sequence nodes => exact nodes _ inside
  · obtain ⟨entries, known, rfl⟩ := Option.map_eq_some_iff.mp found
    exact List.forall_mem_map.mpr (entries?_distinct distinct known).2

theorem asSection_keeps {options : Type} {holds : options → Prop} {kind : String}
    {names : List String} {default result : options}
    {change : options → String → Data → Except DecodingError options} (start : holds default)
    (kept : ∀ before name value after, value.Distinct → holds before →
      change before name value = .ok after → holds after)
    (distinct : data.Distinct) (read : data.asSection kind names default change = .ok result) :
    holds result := by
  unfold asSection at read
  split at read
  · next settings found =>
      refine foldlM_keeps start ?_ read
      rintro ⟨step, name, value⟩ member before after holdsBefore done
      exact kept before name value after (settings?_distinct distinct found _ member) holdsBefore
        (before_eq_ok_iff.mp done)
  · cases data <;> contradiction

end Data

namespace LoggingOptions

def Named (logging : LoggingOptions) : Prop :=
  (logging.modules.map Prod.fst).Nodup

theorem withSetting_named {logging changed : LoggingOptions} {name : String} {data : Data}
    (distinct : data.Distinct) (named : logging.Named)
    (done : logging.withSetting name data = .ok changed) : changed.Named := by
  unfold withSetting at done
  split at done
  · obtain ⟨level, _, same⟩ := bind_eq_ok_iff.mp done
    cases same
    exact named
  · obtain ⟨modules, read, same⟩ := bind_eq_ok_iff.mp done
    cases same
    exact Data.asTextMap_names distinct read
  · obtain ⟨file, _, same⟩ := bind_eq_ok_iff.mp done
    cases same
    exact named
  · obtain ⟨format, _, same⟩ := bind_eq_ok_iff.mp done
    cases same
    exact named
  · obtain ⟨_, _, same⟩ := bind_eq_ok_iff.mp done
    cases same
    exact named

theorem decode_named {logging : LoggingOptions} {data : Data} (distinct : data.Distinct)
    (read : decode data = .ok logging) : logging.Named :=
  Data.asSection_keeps (show Named {} from List.nodup_nil)
    (fun _ _ _ _ distinct named done => withSetting_named distinct named done) distinct read

theorem setModules_modules {logging : LoggingOptions} {entries : List (String × String)}
    (different : ((logging.modules ++ entries).map Prod.fst).Nodup) :
    (logging.setModules entries).modules = logging.modules ++ entries := by
  induction entries generalizing logging with
  | nil => simp [setModules]
  | cons entry entries ih =>
      have fresh : ∀ other ∈ logging.modules, (other.1 != entry.1) = true := by
        intro other member
        rw [List.map_append] at different
        have apart := List.disjoint_of_nodup_append different
        rw [bne_iff_ne]
        intro same
        exact apart (List.mem_map_of_mem member) (by simp [same])
      have step : (logging.setModule entry.1 entry.2).modules = logging.modules ++ [entry] := by
        rw [setModule, List.filter_eq_self.mpr fresh]
      change ((logging.setModule entry.1 entry.2).setModules entries).modules = _
      rw [ih (by simpa [step] using different), step, List.append_assoc]
      rfl

theorem exists_lists {logging : LoggingOptions} (named : logging.Named) :
    ∃ levels, logging.Lists levels := by
  refine ⟨Std.HashMap.ofList logging.modules, ?_⟩
  have listed := setModules_lists_ofList logging.level logging.modules
  rw [Lists, setModules_modules (by exact named)] at listed
  exact listed

end LoggingOptions

namespace Configuration

def Named (configuration : Configuration) : Prop :=
  configuration.logging.Named

theorem withSection_named {configuration changed : Configuration} {name : String} {data : Data}
    (distinct : data.Distinct) (named : configuration.Named)
    (done : configuration.withSection name data = .ok changed) : changed.Named := by
  unfold withSection at done
  split at done
  · obtain ⟨logging, read, same⟩ := bind_eq_ok_iff.mp done
    cases same
    exact LoggingOptions.decode_named distinct read
  · obtain ⟨check, _, same⟩ := bind_eq_ok_iff.mp done
    cases same
    exact named
  · contradiction

theorem decode_named {configuration : Configuration} {sections : List (String × Data)}
    (distinct : ∀ entry ∈ sections, entry.2.Distinct)
    (read : decode sections = .ok configuration) : configuration.Named := by
  refine foldlM_keeps (show Named {} from List.nodup_nil) ?_ read
  rintro ⟨name, data⟩ member before after named done
  exact withSection_named (distinct _ member) named (Data.before_eq_ok_iff.mp done)

/-- The levels of modules in a configuration that is read are the entries of a map. -/
theorem read_lists {text : String} {configuration : Configuration}
    (accepted : read text = .ok configuration) :
    ∃ levels, configuration.logging.Lists levels := by
  unfold read at accepted
  split at accepted
  · contradiction
  · next document found =>
      split at accepted
      · contradiction
      · next decoded =>
          split at accepted
          · cases accepted
            cases Toml.Document.data_distinct found with
            | leaf other => contradiction
            | map _ nodes => exact LoggingOptions.exists_lists (decode_named nodes decoded)
          · contradiction

/-- A cap is read as it was written, unless it is zero. -/
theorem read_cap {span : Span} (readable : (Data.ofSpan span).asDuration = .ok span)
    (positive : span.isZero = false) :
    read (String.ofList (Toml.settingLine "check".toList "max_window_size".toList
      (HumanDuration.text span).toList)) = .ok { check := { cap := some span } } := by
  have sectioned : Toml.Bare "check".toList := ⟨by decide, by simp [Toml.isBareKeyChar]⟩
  have named : Toml.Bare "max_window_size".toList := ⟨by decide, by simp [Toml.isBareKeyChar]⟩
  obtain ⟨document, found, described⟩ :=
    Toml.document?_setting sectioned named (HumanDuration.text span).toList
  simp only [String.ofList_toList] at described
  have set : CheckOptions.withSetting {} "max_window_size" (Data.ofSpan span) =
      .ok { cap := some span } := by
    simp only [CheckOptions.withSetting, readable]
    rfl
  have checked : CheckOptions.decode (.map [("max_window_size", Data.ofSpan span)]) =
      .ok { cap := some span } := by
    simp only [CheckOptions.decode, Data.asSection, Data.settings?, Data.entries?,
      Option.map_some, List.map_cons, List.map_nil, List.foldlM_cons, List.foldlM_nil, set]
    rfl
  have decoded : decode document.data = .ok { check := { cap := some span } } := by
    rw [described]
    change decode [("check", .map [("max_window_size", Data.ofSpan span)])] = _
    simp only [decode, List.foldlM_cons, List.foldlM_nil, withSection, checked]
    rfl
  have valid : ({ check := { cap := some span } } : Configuration).isValid = true := by
    simp [isValid, positive]
  simp only [read, found, decoded, if_pos valid]

end Configuration

end StreamWindow
