import Mathlib.Logic.Function.Basic
import WorkerVitals.Proofs.Lookup
import WorkerVitals.Settings.CommandLine

namespace WorkerVitals.Settings

namespace Opt

/-- A text is a value of an option. -/
def Accepts (opt : Opt) (text : String) : Prop :=
  match opt with
  | .workerId | .interface => True
  | .statFile => text ≠ ""
  | .maxBandwidthMbps => (Decimal.float? text.toList).isSome
  | .networkInMax | .networkOutMax | .idleMillis | .reducedBelowMillis | .behindMillis =>
    (Text.signed? text.toList).isSome
  | .maxSamples | .maxRounds => (Text.word? text.toList).isSome
  | .jsonLogs => text = "true" ∨ text = "false"

instance (opt : Opt) (text : String) : Decidable (opt.Accepts text) := by
  cases opt <;> unfold Accepts <;> infer_instance

/-- What is wrong with a text that is no value of an option. -/
def fault : Opt → Usage
  | .statFile | .jsonLogs => .invalidValue
  | _ => .valueValidation

end Opt

/-- A text for each option that has one. -/
abbrev Texts := Opt → Option String

namespace Texts

def Accepted (texts : Texts) : Prop := ∀ opt, ∀ text ∈ texts opt, opt.Accepts text

/-- The texts with others in front of them. -/
def behind (texts : Texts) (pairs : List (Opt × String)) : Texts :=
  fun opt => (pairs.lookup opt).or (texts opt)

/-- The texts after others were read in turn, up to the first that is no value of its option. -/
def read (texts : Texts) : List (Opt × String) → Except Usage Texts
  | [] => .ok texts
  | (opt, text) :: rest =>
    if opt.Accepts text then read (Function.update texts opt (some text)) rest
    else .error opt.fault

theorem Accepted.update {texts : Texts} (accepted : texts.Accepted) {opt : Opt} {text : String}
    (accepts : opt.Accepts text) : Accepted (Function.update texts opt (some text)) := by
  intro other value present
  by_cases same : other = opt
  · subst same
    rw [Function.update_self] at present
    exact Option.some.inj present ▸ accepts
  · rw [Function.update_of_ne same] at present
    exact accepted other value present

theorem Accepted.read {texts result : Texts} (accepted : texts.Accepted)
    {pairs : List (Opt × String)} (read : texts.read pairs = .ok result) : result.Accepted := by
  induction pairs generalizing texts with
  | nil => exact Except.ok.inj read ▸ accepted
  | cons pair rest ih =>
    rw [Texts.read] at read
    split at read
    · rename_i accepts
      exact ih (accepted.update accepts) read
    · cases read

theorem read_append (texts : Texts) (front back : List (Opt × String)) :
    texts.read (front ++ back) = (texts.read front).bind fun texts => texts.read back := by
  induction front generalizing texts with
  | nil => rfl
  | cons pair rest ih =>
    simp only [List.cons_append, read]
    split
    · exact ih _
    · rfl

theorem behind_update {texts : Texts} {pairs : List (Opt × String)} {opt : Opt}
    (absent : opt ∉ pairs.map Prod.fst) (text : String) :
    behind (Function.update texts opt (some text)) pairs = texts.behind ((opt, text) :: pairs) := by
  funext other
  rw [behind, behind, List.lookup_cons]
  by_cases same : other = opt
  · simp [same, lookup_eq_none_iff.mpr absent]
  · have missed : (other == opt) = false := beq_eq_false_iff_ne.mpr same
    simp [missed, Function.update_of_ne same]

theorem read_eq_ok_iff {texts result : Texts} {pairs : List (Opt × String)}
    (distinct : (pairs.map Prod.fst).Nodup) :
    texts.read pairs = .ok result ↔
      (∀ pair ∈ pairs, pair.1.Accepts pair.2) ∧ result = texts.behind pairs := by
  induction pairs generalizing texts with
  | nil =>
    have nothing : texts.behind [] = texts := rfl
    simp [read, nothing, eq_comm]
  | cons pair rest ih =>
    obtain ⟨absent, distinct⟩ := List.nodup_cons.mp distinct
    by_cases accepts : pair.1.Accepts pair.2
    · simp [read, accepts, ih distinct, behind_update absent]
    · simp [read, accepts]

/-- The first text that is no value of its option is the one that reading stops at. -/
theorem read_eq_error_iff {texts : Texts} {pairs : List (Opt × String)} {usage : Usage} :
    texts.read pairs = .error usage ↔
      ∃ pair, pairs.find? (fun pair => ¬pair.1.Accepts pair.2) = some pair ∧
        usage = pair.1.fault := by
  induction pairs generalizing texts with
  | nil => simp [read]
  | cons pair rest ih =>
    by_cases accepts : pair.1.Accepts pair.2 <;> simp [read, accepts, ih, eq_comm]

end Texts

namespace Given

/-- What is given when texts are the values of their options. -/
def ofTexts (texts : Texts) : Given where
  workerId := texts .workerId
  statFile := texts .statFile
  interface := texts .interface
  maxBandwidthMbps := (texts .maxBandwidthMbps).bind (Decimal.float? ·.toList)
  networkInMax := (texts .networkInMax).bind (Text.signed? ·.toList)
  networkOutMax := (texts .networkOutMax).bind (Text.signed? ·.toList)
  idleMillis := (texts .idleMillis).bind (Text.signed? ·.toList)
  reducedBelowMillis := (texts .reducedBelowMillis).bind (Text.signed? ·.toList)
  behindMillis := (texts .behindMillis).bind (Text.signed? ·.toList)
  maxSamples := (texts .maxSamples).bind (Text.word? ·.toList)
  maxRounds := (texts .maxRounds).bind (Text.word? ·.toList)
  jsonLogs := (texts .jsonLogs).map (· == "true")

theorem has_ofTexts {texts : Texts} (accepted : texts.Accepted) (opt : Opt) :
    (ofTexts texts).has opt = (texts opt).isSome := by
  cases found : texts opt with
  | none => cases opt <;> simp [has, ofTexts, found]
  | some text =>
    have accepts := accepted opt text found
    cases opt with
    | workerId | statFile | interface | jsonLogs => simp [has, ofTexts, found]
    | _ => simpa [has, ofTexts, found, Opt.Accepts] using accepts

theorem supply_ofTexts (texts : Texts) (opt : Opt) (text : String) :
    (ofTexts texts).supply opt text =
      if opt.Accepts text then .ok (ofTexts (Function.update texts opt (some text)))
      else .error opt.fault := by
  cases opt with
  | workerId | interface => simp [supply, ofTexts, Opt.Accepts]
  | statFile =>
    by_cases empty : text = "" <;> simp [supply, ofTexts, Opt.Accepts, Opt.fault, empty]
  | maxBandwidthMbps =>
    cases value : Decimal.float? text.toList <;>
      simp [supply, parsed, Functor.map, Except.map, ofTexts, Opt.Accepts, Opt.fault, value]
  | networkInMax | networkOutMax | idleMillis | reducedBelowMillis | behindMillis =>
    cases value : Text.signed? text.toList <;>
      simp [supply, parsed, Functor.map, Except.map, ofTexts, Opt.Accepts, Opt.fault, value]
  | maxSamples | maxRounds =>
    cases value : Text.word? text.toList <;>
      simp [supply, parsed, Functor.map, Except.map, ofTexts, Opt.Accepts, Opt.fault, value]
  | jsonLogs =>
    by_cases yes : text = "true"
    · simp [supply, bool, Functor.map, Except.map, ofTexts, Opt.Accepts, yes]
    · by_cases no : text = "false" <;>
        simp [supply, bool, Functor.map, Except.map, ofTexts, Opt.Accepts, Opt.fault, yes, no]

end Given

/-- The settings that texts give: the value of an option that has a text, and otherwise the default
or none. -/
def ofTexts (texts : Texts) : Settings where
  workerId := texts .workerId
  statFile := (texts .statFile).getD "/proc/net/dev"
  interface := (texts .interface).getD "eth0"
  maxBandwidthMbps := ((texts .maxBandwidthMbps).bind (Decimal.float? ·.toList)).getD 125
  networkInMax := ((texts .networkInMax).bind (Text.signed? ·.toList)).getD 100
  networkOutMax := ((texts .networkOutMax).bind (Text.signed? ·.toList)).getD 100
  idleMillis := ((texts .idleMillis).bind (Text.signed? ·.toList)).getD 1000
  reducedBelowMillis := (texts .reducedBelowMillis).bind (Text.signed? ·.toList)
  behindMillis := (texts .behindMillis).bind (Text.signed? ·.toList)
  maxSamples := ((texts .maxSamples).bind (Text.word? ·.toList)).getD 10
  maxRounds := (texts .maxRounds).bind (Text.word? ·.toList)
  jsonLogs := (texts .jsonLogs).any (· == "true")

theorem settings_ofTexts (texts : Texts) : (Given.ofTexts texts).settings = ofTexts texts := by
  cases flag : texts .jsonLogs <;> simp [Given.settings, Given.ofTexts, ofTexts, flag]

section Fallbacks

variable (environment : Environment) (texts : Texts)

/-- The text that the variable of an option has, unless the option has a text already. -/
def fallback? (opt : Opt) : Option (Opt × String) :=
  if (texts opt).isSome then none else (environment.lookup opt.variableName).map (opt, ·)

def fallbacks (opts : List Opt) : List (Opt × String) := opts.filterMap (fallback? environment texts)

theorem fallback?_eq_some_iff {opt : Opt} {pair : Opt × String} :
    fallback? environment texts opt = some pair ↔ pair.1 = opt ∧ texts opt = none ∧
      environment.lookup opt.variableName = some pair.2 := by
  cases present : texts opt with
  | none =>
    simp only [fallback?, present, Option.isSome_none, Bool.false_eq_true, if_false,
      Option.map_eq_some_iff, true_and]
    constructor
    · rintro ⟨text, looked, rfl⟩
      exact ⟨rfl, looked⟩
    · rintro ⟨rfl, looked⟩
      exact ⟨pair.2, looked, rfl⟩
  | some value => simp [fallback?, present]

theorem mem_fallbacks_iff {opts : List Opt} {pair : Opt × String} :
    pair ∈ fallbacks environment texts opts ↔ pair.1 ∈ opts ∧ texts pair.1 = none ∧
      environment.lookup pair.1.variableName = some pair.2 := by
  rw [fallbacks, List.mem_filterMap]
  constructor
  · rintro ⟨opt, member, found⟩
    obtain ⟨rfl, absent⟩ := (fallback?_eq_some_iff environment texts).mp found
    exact ⟨member, absent⟩
  · rintro ⟨member, absent⟩
    exact ⟨pair.1, member, (fallback?_eq_some_iff environment texts).mpr ⟨rfl, absent⟩⟩

theorem nodup_fallbacks {opts : List Opt} (distinct : opts.Nodup) :
    ((fallbacks environment texts opts).map Prod.fst).Nodup := by
  rw [List.Nodup, List.pairwise_map, fallbacks, List.pairwise_filterMap]
  refine distinct.imp fun different first found second foundToo => ?_
  rw [((fallback?_eq_some_iff environment texts).mp found).1,
    ((fallback?_eq_some_iff environment texts).mp foundToo).1]
  exact different

theorem fallbacks_update {opts : List Opt} {opt : Opt} (absent : opt ∉ opts) (text : String) :
    fallbacks environment (Function.update texts opt (some text)) opts =
      fallbacks environment texts opts := by
  unfold fallbacks
  refine List.filterMap_congr fun other member => ?_
  have different : other ≠ opt := fun same => absent (same ▸ member)
  rw [fallback?, Function.update_of_ne different, fallback?]

theorem lookup_fallbacks {opts : List Opt} (distinct : opts.Nodup) {opt : Opt} (member : opt ∈ opts)
    (absent : texts opt = none) :
    (fallbacks environment texts opts).lookup opt = environment.lookup opt.variableName := by
  ext text
  rw [lookup_eq_some_iff (nodup_fallbacks environment texts distinct), mem_fallbacks_iff]
  simp [member, absent]

/-- What is given is completed by reading the variables of the options that are not. -/
theorem complete_ofTexts {texts : Texts} (accepted : texts.Accepted) {opts : List Opt}
    (distinct : opts.Nodup) :
    (Given.ofTexts texts).complete environment opts =
      (texts.read (fallbacks environment texts opts)).map Given.ofTexts := by
  induction opts generalizing texts with
  | nil => rfl
  | cons opt rest ih =>
    obtain ⟨absent, distinct⟩ := List.nodup_cons.mp distinct
    rw [Given.complete, Given.has_ofTexts accepted, fallbacks, List.filterMap_cons, ← fallbacks]
    cases present : texts opt with
    | some value => simpa [fallback?, present] using ih accepted distinct
    | none =>
      cases looked : environment.lookup opt.variableName with
      | none => simpa [fallback?, present, looked] using ih accepted distinct
      | some text =>
        by_cases accepts : opt.Accepts text
        · have later := ih (accepted.update accepts) distinct
          rw [fallbacks_update environment texts absent] at later
          simpa [fallback?, present, looked, Given.supply_ofTexts, accepts, Texts.read, bind,
            Except.bind] using later
        · simp [fallback?, present, looked, Given.supply_ofTexts, accepts, Texts.read, bind,
            Except.bind, Except.map]

end Fallbacks

end WorkerVitals.Settings
