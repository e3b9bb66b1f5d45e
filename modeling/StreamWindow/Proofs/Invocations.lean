import Mathlib.Data.List.Perm.Basic
import Mathlib.Data.List.TakeWhile
import StreamWindow.CommandLine.Arguments
import StreamWindow.Proofs.Fallible

/-!
Invocations in all their spellings. The arguments of a command mention a configuration, a file
and clauses. They are read as an invocation exactly when they mention what it consists of, each
once and in any order, and when no path is empty.
-/

namespace StreamWindow.CommandLine

def OptionName.valued (name : OptionName) (value : String) : String :=
  "--" ++ name.long ++ "=" ++ value

inductive Mention
  | config (path : String)
  | file (path : String)
  | clause (text : String)
  deriving DecidableEq

namespace Mention

def option? : Mention → Option (OptionName × String)
  | config path => some (.config, path)
  | file path => some (.file, path)
  | clause _ => none

def Filled : Mention → Prop
  | config path => path ≠ ""
  | file path => path ≠ ""
  | clause _ => True

def kind (mention : Mention) : Option OptionName :=
  mention.option?.map Prod.fst

end Mention

inductive Spelling : Mention → List String → Prop
  | long {mention name value} : mention.option? = some (name, value) →
      Spelling mention [name.valued value]
  | longApart {mention name value} : mention.option? = some (name, value) →
      value.toList.head? ≠ some '-' ∨ value = "-" → Spelling mention ["--" ++ name.long, value]
  | short {mention name value} : mention.option? = some (name, value) →
      Spelling mention [String.ofList ('-' :: name.short :: '=' :: value.toList)]
  | shortNext {mention name value} : mention.option? = some (name, value) →
      value ≠ "" → value.toList.head? ≠ some '=' →
      Spelling mention [String.ofList ('-' :: name.short :: value.toList)]
  | shortApart {mention name value} : mention.option? = some (name, value) →
      value.toList.head? ≠ some '-' ∨ value = "-" →
      Spelling mention [String.ofList ['-', name.short], value]
  | clause {text} : text.toList.head? ≠ some '-' ∨ text = "-" → Spelling (.clause text) [text]

/-- Arguments that mention some things one after the other. Behind two dashes everything is taken
for a clause. -/
inductive Spellings : List Mention → List String → Prop
  | done : Spellings [] []
  | separated (clauses : List String) : Spellings (clauses.map .clause) ("--" :: clauses)
  | step {mention mentions first rest} : Spelling mention first → Spellings mentions rest →
      Spellings (mention :: mentions) (first ++ rest)

namespace OptionName

theorem find?_of_injective {key : Type} [BEq key] [LawfulBEq key] {f : OptionName → key}
    (injective : Function.Injective f) {name : OptionName} {allowed : List OptionName}
    (known : name ∈ allowed) : allowed.find? (fun other => f other == f name) = some name := by
  induction allowed with
  | nil => contradiction
  | cons first allowed ih =>
      rw [List.find?_cons]
      by_cases same : first = name
      · simp [same]
      · rw [beq_eq_false_iff_ne.mpr (injective.ne same)]
        exact ih ((List.mem_cons.mp known).resolve_left (Ne.symm same))

theorem long_injective : Function.Injective fun name : OptionName => name.long.toList := by
  intro first second same
  cases first <;> cases second <;> first | rfl | exact absurd same (by decide)

theorem short_injective : Function.Injective short := by
  intro first second same
  cases first <;> cases second <;> first | rfl | contradiction

theorem long_plain (name : OptionName) : ∀ char ∈ name.long.toList, (char != '=') = true := by
  cases name <;> simp [long]

end OptionName

section

variable {name : OptionName} {allowed : List OptionName} {argument value : String}

theorem shape_of_long {rest : List Char} (begins : argument.toList = '-' :: '-' :: rest)
    (more : rest ≠ []) : shape allowed argument =
      match allowed.find? (·.long.toList == rest.takeWhile (· != '=')),
        rest.dropWhile (· != '=') with
      | some option, [] => .option option none
      | some .help, _ => .unknown
      | some option, _ :: value => .option option (some (String.ofList value))
      | none, _ => .unknown := by
  unfold shape
  split
  · next same =>
      cases begins.symm.trans same
      contradiction
  · next same =>
      cases begins.symm.trans same
      rfl
  · next other same =>
      cases begins.symm.trans same
      exact (other rfl).elim
  · next other => exact absurd begins (other _ _)

theorem shape_long (known : name ∈ allowed) (valued : name ≠ .help) :
    shape allowed (name.valued value) = .option name (some value) := by
  have begins : (name.valued value).toList =
      '-' :: '-' :: (name.long.toList ++ '=' :: value.toList) := by
    simp [OptionName.valued]
  rw [shape_of_long begins (by simp), List.takeWhile_append_of_pos name.long_plain,
    List.dropWhile_append_of_pos name.long_plain]
  simp only [List.takeWhile_cons, List.dropWhile_cons, bne_self_eq_false, Bool.false_eq_true,
    if_false, List.append_nil, OptionName.find?_of_injective OptionName.long_injective known]
  cases name with
  | help => contradiction
  | config => simp
  | file => simp

theorem shape_bare (known : name ∈ allowed) :
    shape allowed ("--" ++ name.long) = .option name none := by
  have begins : ("--" ++ name.long).toList = '-' :: '-' :: name.long.toList := by simp
  have more : name.long.toList ≠ [] := by
    cases name <;> decide
  rw [shape_of_long begins more, List.takeWhile_eq_self_iff.mpr name.long_plain,
    List.dropWhile_eq_nil_iff.mpr name.long_plain,
    OptionName.find?_of_injective OptionName.long_injective known]

theorem shape_short {rest : List Char} (known : name ∈ allowed) (valued : name ≠ .help) :
    shape allowed (String.ofList ('-' :: name.short :: rest)) =
      .option name (match rest with
        | [] => none
        | '=' :: value => some (String.ofList value)
        | value => some (String.ofList value)) := by
  have found := OptionName.find?_of_injective OptionName.short_injective known
  have letter : name.short ≠ '-' := by
    cases name <;> decide
  simp only [shape, String.toList_ofList]
  split
  · next same => simp [letter] at same
  · next same => simp [letter] at same
  · next same =>
      obtain ⟨rfl, rfl⟩ := (List.cons.inj (List.cons.inj same).2)
      rw [found]
      cases name with
      | help => contradiction
      | config => split <;> simp_all
      | file => split <;> simp_all
  · next apart => simp at apart

theorem shape_plain (plain : value.toList.head? ≠ some '-' ∨ value = "-") :
    shape allowed value = .plain := by
  rcases plain with plain | rfl
  · rw [shape]
    split
    · next same => simp [same] at plain
    · next same => simp [same] at plain
    · next same => simp [same] at plain
    · rfl
  · rfl

theorem value?_apart (plain : value.toList.head? ≠ some '-' ∨ value = "-")
    (arguments : List String) : value? none (value :: arguments) = some (value, arguments) := by
  rw [value?, if_neg]
  rintro ⟨dashed, different⟩
  exact plain.elim (· dashed) different

end

def Given.mention (given : Given) : Mention → Except UsageError Given
  | .config path => given.withOption .config path
  | .file path => given.withOption .file path
  | .clause text => given.withClause text

section

variable {given : Given} {mention : Mention} {name : OptionName} {value : String}

theorem valued_of_option? (asked : mention.option? = some (name, value)) : name ≠ .help := by
  cases mention <;> cases asked <;> simp

theorem mention_of_option? (asked : mention.option? = some (name, value)) :
    given.mention mention = given.withOption name value := by
  cases mention <;> cases asked <;> rfl

theorem readGiven_option {argument : String} {joined : Option String}
    {arguments rest : List String} (valued : name ≠ .help)
    (shaped : shape [.config, .file, .help] argument = .option name joined)
    (found : value? joined arguments = some (value, rest)) :
    readGiven given (argument :: arguments) =
      given.withOption name value >>= fun given => readGiven given rest := by
  rw [readGiven, shaped]
  cases name with
  | help => contradiction
  | config =>
      simp only
      split
      · next missing => simp [missing] at found
      · next same =>
          cases same.symm.trans found
          rfl
  | file =>
      simp only
      split
      · next missing => simp [missing] at found
      · next same =>
          cases same.symm.trans found
          rfl

/-- However something is mentioned, it is taken in before what follows is read. -/
theorem readGiven_spelling {first : List String} (spelled : Spelling mention first)
    (rest : List String) : readGiven given (first ++ rest) =
      given.mention mention >>= fun given => readGiven given rest := by
  have all (name : OptionName) : name ∈ [.config, .file, .help] := by
    cases name <;> simp
  cases spelled with
  | long asked =>
      rw [mention_of_option? asked]
      exact readGiven_option (valued_of_option? asked)
        (shape_long (all _) (valued_of_option? asked)) rfl
  | longApart asked plain =>
      rw [mention_of_option? asked]
      exact readGiven_option (valued_of_option? asked) (shape_bare (all _))
        (value?_apart plain rest)
  | short asked =>
      rw [mention_of_option? asked]
      refine readGiven_option (valued_of_option? asked)
        (shape_short (all _) (valued_of_option? asked)) ?_
      simp [value?]
  | shortNext asked filled plain =>
      rw [mention_of_option? asked]
      refine readGiven_option (valued_of_option? asked)
        (shape_short (all _) (valued_of_option? asked)) ?_
      split
      · next empty => simp [filled] at empty
      · next same => simp [same] at plain
      · simp [value?]
  | shortApart asked plain =>
      rw [mention_of_option? asked]
      exact readGiven_option (valued_of_option? asked)
        (shape_short (all _) (valued_of_option? asked)) (value?_apart plain rest)
  | clause plain =>
      rw [List.singleton_append, readGiven, shape_plain plain]
      rfl

theorem foldlM_clauses (clauses : List String) :
    (clauses.map Mention.clause).foldlM Given.mention given =
      clauses.foldlM Given.withClause given := by
  rw [List.foldlM_map]
  rfl

theorem readGiven_spellings {mentions : List Mention} {arguments : List String}
    (spelled : Spellings mentions arguments) :
    readGiven given arguments = some <$> mentions.foldlM Given.mention given := by
  induction spelled generalizing given with
  | done =>
      rw [readGiven]
      rfl
  | separated clauses =>
      have separator : shape [.config, .file, .help] "--" = .separator := rfl
      rw [readGiven, separator, foldlM_clauses]
  | step spelled _ ih =>
      rw [readGiven_spelling spelled, List.foldlM_cons, map_bind]
      simp only [ih]

end

namespace Given

def mentions (given : Given) : List Mention :=
  (given.config.map .config).toList ++ (given.file.map .file).toList ++
    (given.clause.map .clause).toList

variable {given other : Given} {mention : Mention}

theorem config_mem_iff {path : String} :
    .config path ∈ given.mentions ↔ given.config = some path := by
  simp [mentions]

theorem file_mem_iff {path : String} : .file path ∈ given.mentions ↔ given.file = some path := by
  simp [mentions]

theorem clause_mem_iff {text : String} :
    .clause text ∈ given.mentions ↔ given.clause = some text := by
  simp [mentions]

theorem eq_of_perm (same : given.mentions.Perm other.mentions) : given = other := by
  have config : given.config = other.config :=
    Option.ext fun path => by rw [← config_mem_iff, same.mem_iff, config_mem_iff]
  have file : given.file = other.file :=
    Option.ext fun path => by rw [← file_mem_iff, same.mem_iff, file_mem_iff]
  have clause : given.clause = other.clause :=
    Option.ext fun text => by rw [← clause_mem_iff, same.mem_iff, clause_mem_iff]
  change Given.mk given.config given.file given.clause = other
  rw [config, file, clause]

def kinds (given : Given) : List (Option OptionName) :=
  given.mentions.map Mention.kind

theorem kinds_nodup (given : Given) : given.kinds.Nodup := by
  obtain ⟨config, file, clause⟩ := given
  cases config <;> cases file <;> cases clause <;>
    simp [kinds, mentions, Mention.kind, Mention.option?]

theorem config_kind_iff : some .config ∈ given.kinds ↔ given.config ≠ none := by
  simp [kinds, mentions, Mention.kind, Mention.option?, Option.ne_none_iff_exists']

theorem file_kind_iff : some .file ∈ given.kinds ↔ given.file ≠ none := by
  simp [kinds, mentions, Mention.kind, Mention.option?, Option.ne_none_iff_exists']

theorem clause_kind_iff : none ∈ given.kinds ↔ given.clause ≠ none := by
  simp [kinds, mentions, Mention.kind, Mention.option?, Option.ne_none_iff_exists']

def adding (given : Given) : Mention → Given
  | .config path => { given with config := some path }
  | .file path => { given with file := some path }
  | .clause text => { given with clause := some text }

theorem mentions_adding (fresh : mention.kind ∉ given.kinds) :
    (given.adding mention).mentions.Perm (mention :: given.mentions) := by
  cases mention with
  | config path =>
      have unset : given.config = none := not_not.mp (mt config_kind_iff.mpr fresh)
      simp [adding, mentions, unset]
  | file path =>
      have unset : given.file = none := not_not.mp (mt file_kind_iff.mpr fresh)
      simp [adding, mentions, unset, List.perm_middle]
  | clause text =>
      have unset : given.clause = none := not_not.mp (mt clause_kind_iff.mpr fresh)
      rw [adding, mentions, mentions, unset, Option.map_none, Option.toList_none, List.append_nil]
      exact List.perm_append_singleton (Mention.clause text) _

theorem set_ok_iff {option : OptionName} {before : Option String} {value : String}
    {change : Option String → Given} {next : Given} :
    change <$> option.set before value = .ok next ↔
      value ≠ "" ∧ before = none ∧ next = change (some value) := by
  rw [OptionName.set]
  by_cases empty : value = ""
  · simp [empty]
  · cases before with
    | some earlier => simp [empty]
    | none => simp [empty, eq_comm]

theorem mention_ok_iff {next : Given} : given.mention mention = .ok next ↔
    mention.Filled ∧ mention.kind ∉ given.kinds ∧ next = given.adding mention := by
  cases mention with
  | config path =>
      have kind : (Mention.config path).kind = some .config := rfl
      simp only [Given.mention, withOption, bind_pure_comp, set_ok_iff, kind, config_kind_iff,
        not_not, Mention.Filled, adding]
  | file path =>
      have kind : (Mention.file path).kind = some .file := rfl
      simp only [Given.mention, withOption, bind_pure_comp, set_ok_iff, kind, file_kind_iff,
        not_not, Mention.Filled, adding]
  | clause text =>
      have kind : (Mention.clause text).kind = none := rfl
      simp only [Given.mention, withClause, kind, clause_kind_iff, Mention.Filled, adding]
      cases given.clause with
      | none => simp [eq_comm]
      | some earlier => simp

theorem fresh_of_perm {mentions : List Mention}
    (same : other.mentions.Perm (mention :: mentions ++ given.mentions)) :
    mention.kind ∉ given.kinds := by
  have different := (same.map Mention.kind).nodup other.kinds_nodup
  rw [List.cons_append, List.map_cons, List.nodup_cons, List.map_append,
    List.mem_append] at different
  exact fun again => different.1 (.inr again)

theorem mentions_ok_iff {mentions : List Mention} {last : Given} :
    mentions.foldlM Given.mention given = .ok last ↔
      (∀ mention ∈ mentions, mention.Filled) ∧
        last.mentions.Perm (mentions ++ given.mentions) := by
  induction mentions generalizing given with
  | nil =>
      have none : List.foldlM Given.mention given [] = Except.ok (ε := UsageError) given := rfl
      rw [none, Except.ok.injEq]
      constructor
      · rintro rfl
        exact ⟨by simp, .refl _⟩
      · rintro ⟨_, same⟩
        exact (eq_of_perm same).symm
  | cons mention mentions ih =>
      simp only [List.foldlM_cons, bind_eq_ok_iff, mention_ok_iff, ih, List.forall_mem_cons]
      constructor
      · rintro ⟨_, ⟨filled, fresh, rfl⟩, others, same⟩
        refine ⟨⟨filled, others⟩, same.trans ?_⟩
        exact ((mentions_adding fresh).append_left mentions).trans List.perm_middle
      · rintro ⟨⟨filled, others⟩, same⟩
        have fresh := fresh_of_perm same
        refine ⟨_, ⟨filled, fresh, rfl⟩, others, same.trans ?_⟩
        exact List.perm_middle.symm.trans ((mentions_adding fresh).append_left mentions).symm

end Given

namespace ClauseSource

def mention : ClauseSource → Mention
  | argument clause => .clause clause
  | file path => .file path

def arguments : ClauseSource → List String
  | argument clause => ["--", clause]
  | file path => [OptionName.file.valued path]

end ClauseSource

namespace Invocation

def mentions (invocation : Invocation) : List Mention :=
  (invocation.config.map .config).toList ++ [invocation.source.mention]

def arguments (invocation : Invocation) : List String :=
  (invocation.config.map OptionName.config.valued).toList ++ invocation.source.arguments

def given (invocation : Invocation) : Given where
  config := invocation.config
  file := match invocation.source with
    | .argument _ => none
    | .file path => some path
  clause := match invocation.source with
    | .argument clause => some clause
    | .file _ => none

theorem given_mentions (invocation : Invocation) :
    invocation.given.mentions = invocation.mentions := by
  obtain ⟨command, source, config⟩ := invocation
  cases source <;> simp [given, mentions, Given.mentions, ClauseSource.mention]

theorem arguments_spelled (invocation : Invocation) :
    Spellings invocation.mentions invocation.arguments := by
  obtain ⟨command, source, config⟩ := invocation
  have last : Spellings [source.mention] source.arguments := by
    cases source with
    | argument clause => exact .separated [clause]
    | file path =>
        have asked : (Mention.file path).option? = some (.file, path) := rfl
        exact .step (.long asked) .done
  cases config with
  | none => exact last
  | some path =>
      have asked : (Mention.config path).option? = some (.config, path) := rfl
      exact .step (.long asked) last

end Invocation

theorem Given.source_ok_iff {given : Given} {source : ClauseSource} :
    given.source = .ok source ↔
      given.mentions = (given.config.map .config).toList ++ [source.mention] := by
  obtain ⟨config, file, clause⟩ := given
  rw [Given.source, Given.mentions, List.append_assoc, List.append_cancel_left_eq]
  cases file <;> cases clause <;> cases source <;> simp [ClauseSource.mention]

section

variable {command : Command} {mentions : List Mention} {arguments : List String}

theorem shape_name (command : Command) (allowed : List OptionName) :
    shape allowed command.name = .plain := by
  cases command <;> rfl

theorem readArguments_name (command : Command) (config : Except UsageError (Option String))
    (arguments : List String) :
    readArguments config (command.name :: arguments) = do
      match ← readGiven {} arguments with
      | none => return .help (.command command)
      | some given => return .invoke ⟨command, ← given.source, given.config.or (← config)⟩ := by
  rw [readArguments, shape_name]
  cases command <;> rfl

/-- The arguments of a command are an invocation if they mention just what it consists of. -/
theorem readArguments_eq_invoke_iff (spelled : Spellings mentions arguments)
    {invocation : Invocation} :
    readArguments (.ok none) (command.name :: arguments) = .ok (.invoke invocation) ↔
      invocation.command = command ∧ (∀ mention ∈ mentions, mention.Filled) ∧
        invocation.mentions.Perm mentions := by
  rw [readArguments_name, readGiven_spellings spelled]
  have taken (last : Given) : mentions.foldlM Given.mention {} = .ok last ↔
      (∀ mention ∈ mentions, mention.Filled) ∧ last.mentions.Perm mentions := by
    simpa [Given.mentions] using @Given.mentions_ok_iff {} mentions last
  simp only [bind_map_left, bind_eq_ok_iff, taken]
  constructor
  · rintro ⟨given, ⟨filled, same⟩, source, found, _, ⟨⟩, result⟩
    obtain rfl := Request.invoke.inj (Except.ok.inj result)
    refine ⟨rfl, filled, ?_⟩
    rw [Invocation.mentions, Option.or_none, ← Given.source_ok_iff.mp found]
    exact same
  · rintro ⟨rfl, filled, same⟩
    refine ⟨invocation.given, ⟨filled, ?_⟩, invocation.source, ?_, none, rfl, ?_⟩
    · rw [invocation.given_mentions]
      exact same
    · rw [Given.source_ok_iff, invocation.given_mentions]
      rfl
    · rw [Option.or_none]
      rfl

theorem readArguments_arguments {invocation : Invocation}
    (filled : ∀ mention ∈ invocation.mentions, mention.Filled) :
    readArguments (.ok none) (invocation.command.name :: invocation.arguments) =
      .ok (.invoke invocation) :=
  (readArguments_eq_invoke_iff invocation.arguments_spelled).mpr ⟨rfl, filled, .refl _⟩

def Request.withDefault (path : String) : Request → Request
  | invoke ⟨command, source, config⟩ => invoke ⟨command, source, config.or (some path)⟩
  | help topic => help topic

/-- A configuration in front of the command is the default for the one behind it. -/
theorem readArguments_config {path : String} (filled : path ≠ "") (command : Command)
    (arguments : List String) :
    readArguments (.ok none) (OptionName.config.valued path :: command.name :: arguments) =
      Request.withDefault path <$> readArguments (.ok none) (command.name :: arguments) := by
  have joined : shape [.config, .help] (OptionName.config.valued path) =
      .option .config (some path) := shape_long (by simp) (by simp)
  have set : OptionName.config.set none path = .ok (some path) := by
    simp [OptionName.set, filled]
  have taken : readArguments (.ok none) (OptionName.config.valued path :: command.name ::
      arguments) = readArguments (.ok (some path)) (command.name :: arguments) := by
    rw [readArguments, joined]
    simp only [bind, Except.bind]
    split
    · next missing => contradiction
    · next found =>
        cases found
        rw [set]
        rfl
  rw [taken, readArguments_name, readArguments_name, map_bind]
  refine bind_congr fun found => ?_
  cases found with
  | none => rfl
  | some given =>
      simp only [map_bind]
      refine bind_congr fun source => ?_
      change Except.ok _ = Except.ok _
      rw [Option.or_none]
      rfl

end

end StreamWindow.CommandLine
