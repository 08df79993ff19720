import WorkerVitals.Proofs.Settings.Values

/-! Command lines of distinct options, each spelled in one of its ways, and the environment behind
them. Every option takes its text from the command line if it is there, else from its variable; the
settings are read exactly when all these texts are values of their options. -/
namespace WorkerVitals.Settings

/-- An option on the command line: with its value attached, with its value as an argument of its own
that does not look like an option, or as a flag. -/
inductive Item where
  | attached (opt : Opt) (text : String) (valued : opt.takesValue = true)
  | apart (opt : Opt) (text : String) (valued : opt.takesValue = true)
    (plain : text = "-" ∨ text.toList.head? ≠ some '-')
  | flag

namespace Item

def opt : Item → Opt
  | .attached opt .. | .apart opt .. => opt
  | .flag => .jsonLogs

def text : Item → String
  | .attached _ text _ | .apart _ text .. => text
  | .flag => "true"

def pair (item : Item) : Opt × String := (item.opt, item.text)

def arguments : Item → List String
  | .attached opt text _ => ["--" ++ opt.name ++ "=" ++ text]
  | .apart opt text .. => ["--" ++ opt.name, text]
  | .flag => ["--json-logs"]

end Item

def commandLine (items : List Item) : List String := items.flatMap Item.arguments

theorem Argument.of_name (opt : Opt) : Argument.of ("--" ++ opt.name) = .long opt.name none := by
  cases opt <;> decide

theorem Argument.of_attached (opt : Opt) (text : String) :
    Argument.of ("--" ++ opt.name ++ "=" ++ text) = .long opt.name (some text) := by
  have named : ∀ c ∈ opt.name.toList, (c != '=') = true := by cases opt <;> simp [Opt.name]
  have nonempty : opt.name.toList ≠ [] := by cases opt <;> simp [Opt.name]
  have characters : ("--" ++ opt.name ++ "=" ++ text).toList =
      '-' :: '-' :: (opt.name.toList ++ '=' :: text.toList) := by simp
  obtain ⟨first, later, name⟩ := List.exists_cons_of_ne_nil nonempty
  have long : Argument.of ("--" ++ opt.name ++ "=" ++ text) =
      .ofLong (opt.name.toList ++ '=' :: text.toList) := by
    unfold Argument.of
    rw [characters, name]
    rfl
  rw [long, ofLong, List.takeWhile_append_of_pos named, List.dropWhile_append_of_pos named]
  simp

theorem Argument.of_plain {text : String} (plain : text = "-" ∨ text.toList.head? ≠ some '-') :
    Argument.of text = .word text := by
  rcases plain with rfl | plain
  · decide
  · unfold Argument.of
    split
    · rename_i two
      simp [two] at plain
    · rename_i rest long
      simp [long] at plain
    · rename_i letter rest short
      simp [short] at plain
    · rfl

theorem Meaning.ofName?_name (opt : Opt) : Meaning.ofName? opt.name = some (.option opt) := by
  cases opt <;> decide

namespace Scan

/-- Keeps the texts of items in turn. -/
def keepAll (given : Given) : List Item → Except Usage Given
  | [] => pure given
  | item :: rest => do keepAll (← keep given item.opt item.text) rest

theorem settle_kept (given : Given) : ({ given } : Scan).settle = pure given := rfl

theorem settle_waiting (given : Given) (opt : Opt) (text : String) :
    ({ given, pending := some ⟨opt, some text⟩ } : Scan).settle = keep given opt text := rfl

/-- A scan settles what is pending and then keeps the text of one item after the other; the text of
an item that stands apart is pending until the next one. -/
theorem arguments_commandLine (scan : Scan) (items : List Item) :
    scan.arguments (commandLine items) = scan.settle >>= fun given => keepAll given items := by
  induction items generalizing scan with
  | nil => simp [commandLine, arguments, keepAll]
  | cons item rest ih =>
    rw [commandLine, List.flatMap_cons, ← commandLine]
    cases item with
    | attached opt text valued =>
      have step : scan.arguments (Item.arguments (.attached opt text valued) ++ commandLine rest) =
          (do
            let given ← keep (← scan.settle) opt text
            ({ given } : Scan).arguments (commandLine rest)) := by
        simp [Item.arguments, arguments, Argument.of_attached, Meaning.ofName?_name, meet, valued]
      simp only [step, ih, settle_kept, pure_bind]
      rfl
    | apart opt text valued plain =>
      have step :
          scan.arguments (Item.arguments (.apart opt text valued plain) ++ commandLine rest) =
          (do
            let given ← scan.settle
            ({ given, pending := some ⟨opt, some text⟩ } : Scan).arguments (commandLine rest)) := by
        simp [Item.arguments, arguments, Argument.of_name, Argument.of_plain plain,
          Meaning.ofName?_name, meet, valued, word]
        rfl
      simp only [step, ih, settle_waiting]
      rfl
    | flag =>
      have step : scan.arguments (Item.flag.arguments ++ commandLine rest) =
          (do
            let given ← keep (← scan.settle) .jsonLogs "true"
            ({ given } : Scan).arguments (commandLine rest)) := by
        have named : Argument.of "--json-logs" = .long Opt.jsonLogs.name none := by decide
        simp [Item.arguments, arguments, named, Meaning.ofName?_name, meet, Opt.takesValue]
      simp only [step, ih, settle_kept, pure_bind]
      rfl

theorem keepAll_ofTexts {texts : Texts} (accepted : texts.Accepted) {items : List Item}
    (distinct : (items.map Item.opt).Nodup) (fresh : ∀ item ∈ items, texts item.opt = none) :
    keepAll (.ofTexts texts) items = (texts.read (items.map Item.pair)).map Given.ofTexts := by
  induction items generalizing texts with
  | nil => rfl
  | cons item rest ih =>
    obtain ⟨absent, distinct⟩ := List.nodup_cons.mp distinct
    have first : (Given.ofTexts texts).has item.opt = false := by
      rw [Given.has_ofTexts accepted, fresh item List.mem_cons_self]
      rfl
    by_cases accepts : item.opt.Accepts item.text
    · have later := ih (accepted.update accepts) distinct fun other member => by
        have different : other.opt ≠ item.opt :=
          fun same => absent (same ▸ List.mem_map_of_mem member)
        rw [Function.update_of_ne different]
        exact fresh other (List.mem_cons_of_mem _ member)
      simpa [keepAll, keep, first, Given.supply_ofTexts, Item.pair, Texts.read, accepts, bind,
        Except.bind] using later
    · simp [keepAll, keep, first, Given.supply_ofTexts, Item.pair, Texts.read, accepts, bind,
        Except.bind, Except.map]

end Scan

/-- The texts that the items of a command line stand for. -/
def itemTexts (items : List Item) : Texts := fun opt => (items.map Item.pair).lookup opt

/-- The texts that variables have. -/
def variableTexts (environment : Environment) : Texts :=
  fun opt => environment.lookup opt.variableName

/-- Where each option has its text from: the command line, or else its variable. -/
def sources (items : List Item) (environment : Environment) : Texts :=
  (variableTexts environment).behind (items.map Item.pair)

/-- What is read, in this order: the items, and the variables of the options not among them. -/
def reading (items : List Item) (environment : Environment) : List (Opt × String) :=
  items.map Item.pair ++ fallbacks environment (itemTexts items) Opt.all

theorem itemTexts_eq_none_iff {items : List Item} {opt : Opt} :
    itemTexts items opt = none ↔ opt ∉ items.map Item.opt := by
  rw [itemTexts, lookup_eq_none_iff, List.map_map]
  rfl

theorem behind_reading (items : List Item) (environment : Environment) :
    Texts.behind (fun _ => none) (reading items environment) = sources items environment := by
  have all : Opt.all.Nodup := by decide
  funext opt
  rw [Texts.behind, reading, List.lookup_append, sources, Texts.behind, Option.or_none]
  cases given : (items.map Item.pair).lookup opt with
  | some text => rfl
  | none => exact lookup_fallbacks environment _ all opt.mem_all given

section Distinct

variable {items : List Item} (distinct : (items.map Item.opt).Nodup) (environment : Environment)
include distinct

theorem nodup_pairs : ((items.map Item.pair).map Prod.fst).Nodup := by
  rwa [List.map_map]

theorem nodup_reading : ((reading items environment).map Prod.fst).Nodup := by
  have all : Opt.all.Nodup := by decide
  rw [reading, List.map_append, List.nodup_append]
  refine ⟨nodup_pairs distinct, nodup_fallbacks environment _ all, ?_⟩
  rintro opt given other completed rfl
  obtain ⟨pair, member, rfl⟩ := List.mem_map.mp completed
  have absent := ((mem_fallbacks_iff environment _).mp member).2.1
  exact lookup_eq_none_iff.mp absent given

/-- Reading the settings is reading these texts one after the other. -/
theorem ofArguments_commandLine :
    ofArguments (commandLine items) environment =
      (Texts.read (fun _ => none) (reading items environment)).map ofTexts := by
  have nothing : Texts.Accepted fun _ => none := by rintro _ _ ⟨⟩
  have all : Opt.all.Nodup := by decide
  have scanned : ({} : Scan).arguments (commandLine items) =
      (Texts.read (fun _ => none) (items.map Item.pair)).map Given.ofTexts := by
    rw [Scan.arguments_commandLine, ← Scan.keepAll_ofTexts nothing distinct fun _ _ => rfl]
    rfl
  rw [ofArguments, scanned, reading, Texts.read_append]
  cases read : Texts.read (fun _ => none) (items.map Item.pair) with
  | error usage => rfl
  | ok texts =>
    have given : texts = itemTexts items := by
      rw [((Texts.read_eq_ok_iff (nodup_pairs distinct)).mp read).2]
      funext opt
      exact Option.or_none
    have completed := complete_ofTexts environment (nothing.read read) all
    rw [given] at completed ⊢
    simp only [Except.map, bind, Except.bind, pure, Except.pure, completed]
    cases Texts.read (itemTexts items) (fallbacks environment (itemTexts items) Opt.all) with
    | error usage => rfl
    | ok result => exact congrArg Except.ok (settings_ofTexts result)

theorem ofArguments_eq_ok_iff {settings : Settings} :
    ofArguments (commandLine items) environment = .ok settings ↔
      (∀ pair ∈ reading items environment, pair.1.Accepts pair.2) ∧
        settings = ofTexts (sources items environment) := by
  rw [ofArguments_commandLine distinct, ← behind_reading]
  constructor
  · intro found
    cases read : Texts.read (fun _ => none) (reading items environment) with
    | error usage =>
      rw [read] at found
      cases found
    | ok texts =>
      obtain ⟨accepted, rfl⟩ := (Texts.read_eq_ok_iff (nodup_reading distinct environment)).mp read
      rw [read] at found
      exact ⟨accepted, (Except.ok.inj found).symm⟩
  · rintro ⟨accepted, rfl⟩
    rw [(Texts.read_eq_ok_iff (nodup_reading distinct environment)).mpr ⟨accepted, rfl⟩]
    rfl

end Distinct

theorem accepts_reading_iff (items : List Item) (environment : Environment) :
    (∀ pair ∈ reading items environment, pair.1.Accepts pair.2) ↔
      (∀ item ∈ items, item.opt.Accepts item.text) ∧
        ∀ opt text, opt ∉ items.map Item.opt →
          environment.lookup opt.variableName = some text → opt.Accepts text := by
  simp only [reading, List.mem_append, or_imp, forall_and, mem_fallbacks_iff, Opt.mem_all, true_and,
    itemTexts_eq_none_iff, List.forall_mem_map, Item.pair, Prod.forall, and_imp]

section Order

variable {items others : List Item} (distinct : (items.map Item.opt).Nodup)
  (same : (others.map Item.pair).Perm (items.map Item.pair))
include distinct same

theorem distinct_of_perm : (others.map Item.opt).Nodup := by
  have pairs := (same.map Prod.fst).nodup_iff.mpr (nodup_pairs distinct)
  rwa [List.map_map] at pairs

theorem itemTexts_perm : itemTexts others = itemTexts items := by
  funext opt
  exact lookup_perm (nodup_pairs distinct) same opt

theorem sources_perm (environment : Environment) :
    sources others environment = sources items environment := by
  funext opt
  have given := congrFun (itemTexts_perm distinct same) opt
  rw [itemTexts, itemTexts] at given
  rw [sources, sources, Texts.behind, Texts.behind, given]

theorem reading_perm (environment : Environment) :
    (reading others environment).Perm (reading items environment) := by
  rw [reading, reading, itemTexts_perm distinct same]
  exact same.append_right _

end Order

theorem reading_congr {items : List Item} {environment other : Environment}
    (same : ∀ opt, opt ∉ items.map Item.opt →
      other.lookup opt.variableName = environment.lookup opt.variableName) :
    reading items other = reading items environment := by
  unfold reading fallbacks
  congr 1
  refine List.filterMap_congr fun opt _ => ?_
  unfold fallback?
  split
  · rfl
  · rename_i absent
    rw [same opt (itemTexts_eq_none_iff.mp (by simpa using absent))]

/-- The fault that is told is that of the first text read that is no value of its option. -/
theorem ofArguments_eq_error_iff {items : List Item} (distinct : (items.map Item.opt).Nodup)
    (environment : Environment) {usage : Usage} :
    ofArguments (commandLine items) environment = .error usage ↔
      ∃ pair, (reading items environment).find? (fun pair => ¬pair.1.Accepts pair.2) = some pair ∧
        usage = pair.1.fault := by
  rw [ofArguments_commandLine distinct, ← Texts.read_eq_error_iff]
  cases Texts.read (fun _ => none) (reading items environment) <;> simp [Except.map]

-- So of several faults the order decides which one is told.
example :
    ofArguments ["--stat-file=", "--max-samples-per-metric=x"] [] = .error .invalidValue ∧
      ofArguments ["--max-samples-per-metric=x", "--stat-file="] [] = .error .valueValidation := by
  decide +kernel

/-- Settings are read from distinct options exactly when each text on the command line, and each
variable of an option that is not there, is a value of its option. Then each field has the value from
the command line, or else from its variable, or else the default. So how the options are spelled does
not count at all, nor in which order they stand, save for which of several faults is told; and a
variable does not when its option is on the command line. -/
theorem ofArguments_reads_sources {items : List Item} (distinct : (items.map Item.opt).Nodup)
    (environment : Environment) :
    ((∃ settings, ofArguments (commandLine items) environment = .ok settings) ↔
        (∀ item ∈ items, item.opt.Accepts item.text) ∧
          ∀ opt text, opt ∉ items.map Item.opt →
            environment.lookup opt.variableName = some text → opt.Accepts text) ∧
      (∀ settings, ofArguments (commandLine items) environment = .ok settings →
        settings = ofTexts (sources items environment)) ∧
      (∀ others : List Item, others.map Item.pair = items.map Item.pair →
        ofArguments (commandLine others) environment =
          ofArguments (commandLine items) environment) ∧
      (∀ others : List Item, (others.map Item.pair).Perm (items.map Item.pair) → ∀ settings,
        ofArguments (commandLine others) environment = .ok settings ↔
          ofArguments (commandLine items) environment = .ok settings) ∧
      ∀ other : Environment, (∀ opt, opt ∉ items.map Item.opt →
          other.lookup opt.variableName = environment.lookup opt.variableName) →
        ofArguments (commandLine items) other = ofArguments (commandLine items) environment := by
  refine ⟨?_, ?_, ?_, ?_, ?_⟩
  · simp only [ofArguments_eq_ok_iff distinct, accepts_reading_iff, exists_and_left, exists_eq,
      and_true]
  · intro settings found
    exact ((ofArguments_eq_ok_iff distinct environment).mp found).2
  · intro others same
    have options := distinct_of_perm distinct (.of_eq same)
    rw [ofArguments_commandLine distinct, ofArguments_commandLine options, reading, reading,
      itemTexts_perm distinct (.of_eq same), same]
  · intro others same settings
    rw [ofArguments_eq_ok_iff distinct, ofArguments_eq_ok_iff (distinct_of_perm distinct same),
      sources_perm distinct same]
    simp only [(reading_perm distinct same environment).mem_iff]
  · intro other same
    rw [ofArguments_commandLine distinct, ofArguments_commandLine distinct, reading_congr same]

/-- A line in which values stand in both ways around the flag, and one looks like an option. -/
def Item.mixed : List Item :=
  [.attached .maxBandwidthMbps "1e3" rfl, .flag, .apart .workerId "-" rfl (by decide),
    .attached .idleMillis "-5" rfl, .apart .maxSamples "+7" rfl (by decide)]

/-- The variable that is behind an option may be anything, the other one may not. -/
theorem ofArguments_mixed :
    (Item.mixed.map Item.opt).Nodup ∧
      ofArguments (commandLine Item.mixed) [("WORKER_TELEMETRY_MAX_BANDWIDTH_MBPS", "fast"),
          ("WORKER_TELEMETRY_INTERFACE", "eth1")] =
        .ok { workerId := some "-", interface := "eth1", maxBandwidthMbps := 1000, idleMillis := -5
              maxSamples := 7, jsonLogs := true } ∧
      ¬∃ settings, ofArguments (commandLine Item.mixed)
          [("WORKER_TELEMETRY_NETWORK_IN_MAX_UTILIZATION", "high")] = .ok settings := by
  have distinct : (Item.mixed.map Item.opt).Nodup := by decide
  obtain ⟨succeeds, reads, -, -, ignores⟩ :=
    ofArguments_reads_sources distinct [("WORKER_TELEMETRY_INTERFACE", "eth1")]
  obtain ⟨fails, -⟩ := ofArguments_reads_sources distinct
    [("WORKER_TELEMETRY_NETWORK_IN_MAX_UTILIZATION", "high")]
  refine ⟨distinct, ?_, ?_⟩
  · obtain ⟨settings, found⟩ := succeeds.mpr ⟨by decide +kernel, by
      rintro (_ | _) text - <;> simp +decide [List.lookup_cons, Opt.variableName, Opt.Accepts]⟩
    have overridden : ∀ opt, opt ∉ Item.mixed.map Item.opt →
        [("WORKER_TELEMETRY_MAX_BANDWIDTH_MBPS", "fast"),
          ("WORKER_TELEMETRY_INTERFACE", "eth1")].lookup opt.variableName =
        [("WORKER_TELEMETRY_INTERFACE", "eth1")].lookup opt.variableName := by
      intro opt absent
      cases opt with
      | maxBandwidthMbps => exact absurd (by decide) absent
      | _ => decide
    rw [ignores _ overridden, found, reads settings found]
    decide +kernel
  · rw [fails]
    rintro ⟨-, accepted⟩
    exact absurd (accepted .networkInMax "high" (by decide) (by decide)) (by decide)

end WorkerVitals.Settings
