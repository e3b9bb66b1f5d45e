import StreamWindow.CommandLine.Session
import StreamWindow.FileTree
import StreamWindow.Proofs.Explaining
import StreamWindow.Proofs.Invocations
import StreamWindow.Proofs.Relocation
import StreamWindow.Proofs.RoundTrip

/-!
The commands and the planner. They accept the same texts, and what they report on a clause depends
on the place where it stands, but on nothing else in the way it is written.
-/

namespace StreamWindow

def Store.TakesAll (store : Store) (stream : GroupedStream) : Prop :=
  store.keyType = stream.keyType ∧ store.valueType = .row ∧ stream.valueType = .row ∧
    store.layout = .any

theorem Store.TakesAll.suitable {store : Store} {stream : GroupedStream}
    (takes : store.TakesAll stream) (kind : Window.Kind) : ¬ store.Unsuitable stream kind := by
  obtain ⟨keys, values, streamed, layout⟩ := takes
  rintro (wrong | wrong | wrong | ⟨wrong, _⟩)
  · exact wrong keys
  · exact wrong values
  · exact wrong streamed
  · exact wrong layout

theorem plans_iff {value aggregate : Type} {clause : Clause} {options : CheckOptions}
    {initial : aggregate} {fold : String → value → aggregate → aggregate} :
    (∀ (stream : GroupedStream) (store : Store), store.TakesAll stream →
      ∃ operator, (clause.plan options stream initial fold store).outcome = .ok operator) ↔
    hasErrors (clause.check options) = false := by
  constructor
  · intro plans
    by_contra unclean
    have errors : hasErrors (clause.check options) = true := by simpa using unclean
    -- Errors end every plan, so any one stream with a store for it will do.
    obtain ⟨operator, planned⟩ := plans ⟨"", .string, .row⟩ ⟨"", .string, .row, .any⟩
      ⟨rfl, rfl, rfl, rfl⟩
    rw [plan_of_errors errors] at planned
    contradiction
  · intro clean stream store takes
    obtain ⟨descriptor, _, planned⟩ := @plan_of_suitable value aggregate clause options stream
      initial fold store clean (takes.suitable _)
    rw [planned]
    exact ⟨_, rfl⟩

end StreamWindow

namespace StreamWindow.CommandLine

def refusal (diagnostics : List Diagnostic) : String :=
  "check errors:\n" ++ "\n".intercalate (diagnostics.map Diagnostic.text)

def Explained.movedTo (explained : Explained) (location : Option Location) : Explained where
  explanation := explained.explanation.movedTo location
  descriptor := explained.descriptor
  hints := explained.hints.map (·.movedTo location)

section

variable {text : String} {options : CheckOptions} {clause : Clause} {failure : Failure}

theorem readClause_of_read (read : Clause.read text = .ok clause) :
    readClause text = .ok clause := by
  rw [readClause, read]
  rfl

theorem readClause_of_unread (unread : Clause.read text = .error failure) :
    readClause text = .error (failure.message text) := by
  rw [readClause, unread]
  rfl

theorem explain_of_unread (unread : Clause.read text = .error failure) :
    explain text options = .error (failure.message text) := by
  rw [explain, readClause_of_unread unread]
  rfl

theorem explain_of_errors (read : Clause.read text = .ok clause)
    (errors : hasErrors (clause.check options) = true) :
    explain text options = .error (refusal (clause.check options)) := by
  rw [explain, readClause_of_read read]
  simp only [bind, Except.bind, errors, ↓reduceIte]
  rfl

theorem explain_of_clean (read : Clause.read text = .ok clause)
    (clean : hasErrors (clause.check options) = false) :
    ∃ descriptor, clause.window.lower = .ok descriptor ∧
      clause.explain = .ok ⟨clause, descriptor.measurements⟩ ∧
      explain text options =
        .ok ⟨⟨clause, descriptor.measurements⟩, descriptor, clause.check options⟩ := by
  obtain ⟨descriptor, lowered, explained⟩ := explain_of_validate (validate_of_clean clean)
  refine ⟨descriptor, lowered, explained, ?_⟩
  rw [explain, readClause_of_read read]
  simp only [bind, Except.bind, clean, explained, lowered]
  rfl

theorem checkReport_of_unread (unread : Clause.read text = .error failure) :
    checkReport text options = failed (failure.message text) := by
  unfold checkReport
  rw [readClause_of_unread unread]

theorem checkReport_of_read (read : Clause.read text = .ok clause) :
    checkReport text options = {
      success := !hasErrors (clause.check options)
      events := [checkedEvent clause (clause.check options)]
      errors := (clause.check options).map Diagnostic.text ++
        [summary (clause.check options)] } := by
  unfold checkReport
  rw [readClause_of_read read]

theorem summary_movedTo (found : List Diagnostic) (location : Option Location) :
    summary (found.map (·.movedTo location)) = summary found := by
  rw [summary, summary, countP_movedTo, List.length_map, List.isEmpty_map]

def Accepted (text : String) (options : CheckOptions) : Prop :=
  ∃ clause, Clause.read text = .ok clause ∧ hasErrors (clause.check options) = false

theorem accepted_iff_of_read (read : Clause.read text = .ok clause) :
    Accepted text options ↔ hasErrors (clause.check options) = false := by
  simp only [Accepted, read, Except.ok.injEq, exists_eq_left']

theorem not_accepted_of_unread (unread : Clause.read text = .error failure) :
    ¬ Accepted text options := by
  rintro ⟨clause, read, _⟩
  rw [unread] at read
  contradiction

theorem checkReport_success_iff :
    (checkReport text options).success = true ↔ Accepted text options := by
  cases read : Clause.read text with
  | error failure =>
      rw [checkReport_of_unread read]
      simp [failed, not_accepted_of_unread read]
  | ok clause =>
      rw [checkReport_of_read read, accepted_iff_of_read read, Bool.not_eq_true']

theorem explain_ok_iff :
    (∃ explained, explain text options = .ok explained) ↔ Accepted text options := by
  cases read : Clause.read text with
  | error failure =>
      rw [explain_of_unread read]
      simp [not_accepted_of_unread read]
  | ok clause =>
      rw [accepted_iff_of_read read]
      cases errors : hasErrors (clause.check options) with
      | true =>
          rw [explain_of_errors read errors]
          simp
      | false =>
          obtain ⟨descriptor, _, _, explained⟩ := explain_of_clean read errors
          simp [explained]

theorem explain_error_iff {message : String} :
    explain text options = .error message ↔
      (∃ failure, Clause.read text = .error failure ∧ message = failure.message text) ∨
      ∃ clause, Clause.read text = .ok clause ∧ hasErrors (clause.check options) = true ∧
        message = refusal (clause.check options) := by
  cases read : Clause.read text with
  | error failure =>
      rw [explain_of_unread read]
      simp [@eq_comm _ message]
  | ok clause =>
      cases errors : hasErrors (clause.check options) with
      | true =>
          rw [explain_of_errors read errors]
          simp [errors, @eq_comm _ message]
      | false =>
          obtain ⟨descriptor, _, _, explained⟩ := explain_of_clean read errors
          simp [explained, errors]

theorem formatReport_success_iff :
    (formatReport text).success = true ↔ ∃ clause, Clause.read text = .ok clause := by
  constructor
  · intro success
    obtain ⟨canonical, formatted⟩ := formatReport_success success
    obtain ⟨clause, read, _⟩ := read_of_format formatted
    exact ⟨clause, read⟩
  · rintro ⟨clause, read⟩
    rw [formatReport_ok (format_of_read read)]

theorem explainReport_ok {explained : Explained} (told : explain text options = .ok explained) :
    explainReport text options =
      { events := [loweredEvent explained.descriptor], output := explained.text } := by
  unfold explainReport
  rw [told]

theorem explainReport_error {message : String} (refused : explain text options = .error message) :
    explainReport text options = { success := false, errors := ["Error: " ++ message] } := by
  have error : s!"Error: {message}" = "Error: " ++ message := rfl
  unfold explainReport
  rw [refused, ← error]
  rfl

theorem explainReport_success_iff :
    (explainReport text options).success = true ↔
      ∃ explained, explain text options = .ok explained := by
  unfold explainReport
  cases explain text options with
  | error message => simp [failed]
  | ok explained => simp

theorem report_of_unread (unread : Clause.read text = .error failure) (command : Command) :
    command.report text options =
      { success := false, errors := ["Error: " ++ failure.message text] } := by
  cases command with
  | check => exact checkReport_of_unread unread
  | explain => exact explainReport_error (explain_of_unread unread)
  | format =>
      change formatReport text = _
      unfold formatReport
      rw [format, readClause_of_unread unread]
      rfl

theorem read_output (read : Clause.read text = .ok clause) :
    Clause.read (formatReport text).output = .ok (clause.movedTo (some ⟨1, 1⟩)) := by
  have newline : Layout "\n".toList [] := .space (by decide) (.none [])
  rw [formatReport_of_read read]
  exact read_text_append clause.window newline

section

variable {again : String} {location : Option Location}

theorem checkReport_again (read : Clause.read text = .ok clause)
    (reread : Clause.read again = .ok (clause.movedTo location)) :
    checkReport again options = { checkReport text options with
      errors := ((clause.check options).map (·.movedTo location)).map Diagnostic.text ++
        [summary (clause.check options)] } := by
  have kind : (clause.movedTo location).window = clause.window := rfl
  rw [checkReport_of_read read, checkReport_of_read reread, check_movedTo, hasErrors_movedTo,
    summary_movedTo, checkedEvent, checkedEvent, List.length_map, kind]

theorem explain_again (read : Clause.read text = .ok clause)
    (reread : Clause.read again = .ok (clause.movedTo location)) {explained : Explained}
    (told : explain text options = .ok explained) :
    explain again options = .ok (explained.movedTo location) := by
  have accepted : Accepted text options := explain_ok_iff.mp ⟨explained, told⟩
  have clean := (accepted_iff_of_read read).mp accepted
  have stillClean : hasErrors ((clause.movedTo location).check options) = false := by
    rw [check_movedTo, hasErrors_movedTo, clean]
  obtain ⟨descriptor, lowered, _, first⟩ := explain_of_clean read clean
  obtain ⟨sameDescriptor, sameLowered, _, second⟩ := explain_of_clean reread stillClean
  obtain rfl : sameDescriptor = descriptor := Except.ok.inj (sameLowered.symm.trans lowered)
  obtain rfl := Except.ok.inj (told.symm.trans first)
  rw [second, check_movedTo]
  rfl

theorem refused_again (reread : Clause.read again = .ok (clause.movedTo location))
    (errors : hasErrors (clause.check options) = true) :
    explain again options =
      .error (refusal ((clause.check options).map (·.movedTo location))) := by
  rw [← check_movedTo]
  apply explain_of_errors reread
  rw [check_movedTo, hasErrors_movedTo, errors]

end

end

/-- A run gets as far as doing a command on a text with some options. -/
def Reaches (arguments : List String) (environment : Environment) (tree : FileTree)
    (command : Command) (text : String) (options : CheckOptions) : Prop :=
  ∃ source config configuration directory loaded logging complaints started read,
    readArguments (.ok none) arguments = .ok (.invoke ⟨command, source, config⟩) ∧
    (loadConfiguration config : StateM FileTree _) tree =
      (.ok (configuration, directory), loaded) ∧
    (startLogging configuration.logging directory environment : StateM FileTree _) loaded =
      ((.ok logging, complaints), started) ∧
    (source.text : StateM FileTree _) started = (.ok text, read) ∧
    configuration.check = options

section

variable {arguments : List String} {environment : Environment} {tree : FileTree}
  {command : Command} {text : String} {options : CheckOptions}

theorem outcome_of_reaches (reaches : Reaches arguments environment tree command text options) :
    let outcome := ((run arguments environment : StateM FileTree Outcome) tree).1
    outcome.exitCode = (if (command.report text options).success then 0 else 1) ∧
      outcome.output = (command.report text options).output := by
  obtain ⟨source, config, configuration, directory, loaded, logging, complaints, started, read,
    asked, configured, logged, given, rfl⟩ := reaches
  simp only [run, asked, invoke, bind, StateT.bind, configured, logged, given]
  exact ⟨rfl, rfl⟩

theorem readArguments_clause (command : Command) (text : String) :
    readArguments (.ok none) [command.name, "--", text] =
      .ok (.invoke ⟨command, .argument text, none⟩) :=
  @readArguments_arguments ⟨command, .argument text, none⟩
    (List.forall_mem_singleton.mpr trivial)

theorem reaches_by_default (command : Command) (text : String) {filter : LogFilter}
    {complaints : List String}
    (unconfigured :
      tree.isFile (Path.join (FileTree.absolute tree.workingDirectory) defaultConfig) = false)
    (filtered : buildFilter {} environment = .ok (filter, complaints)) :
    Reaches [command.name, "--", text] environment tree command text {} := by
  have configured : (loadConfiguration none : StateM FileTree _) tree =
      (.ok ({}, FileTree.absolute tree.workingDirectory), tree) := by
    simp only [loadConfiguration, bind, StateT.bind, FileHost.workingDirectory, FileHost.isFile,
      unconfigured]
    rfl
  let logging : Logging :=
    { format := .plain, filter, coloured := !environment.isSet "NO_COLOR" }
  have logged : (startLogging {} (FileTree.absolute tree.workingDirectory) environment :
      StateM FileTree _) tree = ((.ok logging, complaints), tree) := by
    rw [startLogging, filtered]
    rfl
  exact ⟨.argument text, none, {}, _, tree, logging, complaints, tree, tree,
    readArguments_clause command text, configured, logged, rfl, rfl⟩

end

/-- A check succeeds just where explaining does, and where planning does for every store that
takes all windows. Explaining fails only on a text that cannot be read or on the errors of the
check. What can be read can be formatted, and the reports on what formatting gives differ from
those on the text in nothing but the place of the clause. The command for each of these reports
just that, and all of them refuse a text that cannot be read alike. A run that reaches a command
prints what the command does, and exits with zero when the command succeeds. -/
theorem commands_agree {value aggregate : Type} (initial : aggregate)
    (fold : String → value → aggregate → aggregate) (text : String) (options : CheckOptions) :
    let checked := (checkReport text options).success = true
    (checked ↔ ∃ explained, explain text options = .ok explained) ∧
    (checked ↔ ∃ clause, Clause.read text = .ok clause ∧
      ∀ (stream : GroupedStream) (store : Store), store.TakesAll stream →
        ∃ operator, (clause.plan options stream initial fold store).outcome = .ok operator) ∧
    (∀ message, explain text options = .error message ↔
      (∃ failure, Clause.read text = .error failure ∧ message = failure.message text) ∨
      ∃ clause, Clause.read text = .ok clause ∧ hasErrors (clause.check options) = true ∧
        message = refusal (clause.check options)) ∧
    (∀ clause, Clause.read text = .ok clause → hasErrors (clause.check options) = false →
      ∃ descriptor, clause.window.lower = .ok descriptor ∧
        clause.explain = .ok ⟨clause, descriptor.measurements⟩ ∧
        explain text options =
          .ok ⟨⟨clause, descriptor.measurements⟩, descriptor, clause.check options⟩) ∧
    ((formatReport text).success = true ↔ ∃ clause, Clause.read text = .ok clause) ∧
    (∀ clause again, Clause.read text = .ok clause →
      again = clause.text ∨ again = (formatReport text).output →
      let found := clause.check options
      let moved := found.map (·.movedTo (some ⟨1, 1⟩))
      (checkReport text options).errors = found.map Diagnostic.text ++ [summary found] ∧
      checkReport again options = { checkReport text options with
        errors := moved.map Diagnostic.text ++ [summary found] } ∧
      (∀ explained, explain text options = .ok explained →
        explain again options = .ok (explained.movedTo (some ⟨1, 1⟩))) ∧
      (hasErrors found = true → explain text options = .error (refusal found) ∧
        explain again options = .error (refusal moved))) ∧
    (Command.check.report text options = checkReport text options ∧
      Command.explain.report text options = explainReport text options ∧
      Command.format.report text options = formatReport text) ∧
    ((explainReport text options).success = true ↔
      ∃ explained, explain text options = .ok explained) ∧
    (∀ explained, explain text options = .ok explained → explainReport text options =
      { events := [loweredEvent explained.descriptor], output := explained.text }) ∧
    (∀ message, explain text options = .error message → explainReport text options =
      { success := false, errors := ["Error: " ++ message] }) ∧
    (∀ clause, Clause.read text = .ok clause →
      formatReport text = { output := clause.text ++ "\n" }) ∧
    (∀ failure, Clause.read text = .error failure → ∀ command : Command,
      command.report text options =
        { success := false, errors := ["Error: " ++ failure.message text] }) ∧
    ∀ arguments environment tree command,
      Reaches arguments environment tree command text options →
        let outcome := ((run arguments environment : StateM FileTree Outcome) tree).1
        (outcome.exitCode = 0 ↔ (command.report text options).success = true) ∧
          outcome.output = (command.report text options).output := by
  intro checked
  have accepted : checked ↔ Accepted text options := checkReport_success_iff
  refine ⟨?_, ?_, ?_, ?_, formatReport_success_iff, ?_, ⟨rfl, rfl, rfl⟩,
    explainReport_success_iff,
    fun _ => explainReport_ok, fun _ => explainReport_error, fun _ => formatReport_of_read,
    fun _ => report_of_unread, ?_⟩
  · rw [accepted, explain_ok_iff]
  · simp only [accepted, plans_iff]
    rfl
  · intro message
    exact explain_error_iff
  · intro clause read clean
    exact explain_of_clean read clean
  · intro clause again read printed
    have reread : Clause.read again = .ok (clause.movedTo (some ⟨1, 1⟩)) := by
      obtain rfl | rfl := printed
      · exact read_text clause.window
      · exact read_output read
    refine ⟨?_, checkReport_again read reread, fun _ => explain_again read reread, ?_⟩
    · rw [checkReport_of_read read]
    · intro errors
      exact ⟨explain_of_errors read errors, refused_again reread errors⟩
  · intro arguments environment tree command reaches
    obtain ⟨exitCode, output⟩ := outcome_of_reaches reaches
    refine ⟨?_, output⟩
    rw [exitCode]
    cases (command.report text options).success <;> simp

end StreamWindow.CommandLine
