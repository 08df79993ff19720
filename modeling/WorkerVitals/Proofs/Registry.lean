import Mathlib.Data.Finset.Card
import WorkerVitals.Proofs.Snapshot.NameMap
import WorkerVitals.Registry

namespace WorkerVitals.Registry

variable {W : Type}

theorem mem_metrics_iff (registry : Registry W) (metric : Metric W) :
    metric ∈ registry.metrics ↔ registry.get? metric.kind = some metric := by
  constructor
  · intro member
    obtain ⟨kind, -, found⟩ := List.mem_filterMap.mp member
    obtain rfl := registry.placed kind metric found
    exact found
  · intro found
    exact List.mem_filterMap.mpr ⟨metric.kind, Kind.mem_all _, found⟩

theorem kinds_metrics (registry : Registry W) :
    registry.metrics.map Metric.kind = Kind.all.filter fun kind => (registry.get? kind).isSome := by
  unfold metrics
  induction Kind.all with
  | nil => rfl
  | cons kind rest ih =>
    cases found : registry.get? kind with
    | none => simp [found, ih]
    | some metric => simp [found, ih, registry.placed kind metric found]

theorem nodup_kinds_metrics (registry : Registry W) :
    (registry.metrics.map Metric.kind).Nodup := by
  rw [kinds_metrics]
  have distinct : Kind.all.Nodup := by decide
  exact distinct.filter _

theorem mem_kinds_metrics_iff (registry : Registry W) (kind : Kind) :
    kind ∈ registry.metrics.map Metric.kind ↔ ∃ metric, registry.get? kind = some metric := by
  rw [kinds_metrics, List.mem_filter, Option.isSome_iff_exists]
  exact and_iff_right (Kind.mem_all kind)

/-- The short names of registered metrics stand in order, as the metrics do. -/
theorem sorted_metrics {α : Type} (registry : Registry W) (value : Metric W → α) :
    (registry.metrics.map fun metric => (metric.kind.shortName, value metric)).Pairwise
      fun a b => a.1 < b.1 := by
  have ordered : Kind.all.Pairwise fun a b => a.shortName < b.shortName := by decide
  have kinds : (registry.metrics.map Metric.kind).Pairwise fun a b => a.shortName < b.shortName := by
    rw [kinds_metrics]
    exact ordered.filter _
  -- The order is one of the short names only, so that it does not matter what the names map to.
  rw [List.pairwise_map] at kinds ⊢
  exact kinds

/-- A map with an entry for each metric has nothing under other names. -/
theorem get?_ofList_metrics_eq_some_iff {α : Type} (registry : Registry W) (value : Metric W → α)
    {name : String} {found : α} :
    (NameMap.ofList (registry.metrics.map fun metric =>
      (metric.kind.shortName, value metric))).get? name = some found ↔
      ∃ kind metric, registry.get? kind = some metric ∧ name = kind.shortName ∧
        found = value metric := by
  rw [← NameMap.mem_entries_iff, NameMap.entries_ofList (registry.sorted_metrics value),
    List.mem_map]
  constructor
  · rintro ⟨metric, member, same⟩
    obtain ⟨rfl, rfl⟩ := Prod.mk.inj same
    exact ⟨metric.kind, metric, (registry.mem_metrics_iff metric).mp member, rfl, rfl⟩
  · rintro ⟨kind, metric, present, rfl, rfl⟩
    obtain rfl := registry.placed kind metric present
    exact ⟨metric, (registry.mem_metrics_iff metric).mpr present, rfl⟩

/-- It has that of a kind under its short name. -/
theorem get?_ofList_metrics {α : Type} (registry : Registry W) (value : Metric W → α)
    (kind : Kind) :
    (NameMap.ofList (registry.metrics.map fun metric =>
      (metric.kind.shortName, value metric))).get? kind.shortName =
      (registry.get? kind).map value := by
  apply Option.ext
  intro found
  rw [get?_ofList_metrics_eq_some_iff, Option.map_eq_some_iff]
  constructor
  · rintro ⟨other, metric, present, same, rfl⟩
    obtain rfl := Kind.shortName_injective same
    exact ⟨metric, present, rfl⟩
  · rintro ⟨metric, present, rfl⟩
    exact ⟨kind, metric, present, rfl, rfl⟩

theorem ext_get? {registry other : Registry W}
    (same : ∀ kind, registry.get? kind = other.get? kind) : registry = other := by
  obtain ⟨slots, placed⟩ := registry
  obtain ⟨others, alsoPlaced⟩ := other
  obtain rfl : slots = others := funext same
  rfl

theorem getByShortName?_shortName (registry : Registry W) (kind : Kind) :
    registry.getByShortName? kind.shortName = registry.get? kind := by
  rw [getByShortName?, Kind.ofShortName?_shortName, Option.bind_some]

theorem getByShortName?_of_nameless (registry : Registry W) {name : String}
    (nameless : ∀ kind : Kind, name ≠ kind.shortName) : registry.getByShortName? name = none := by
  have unknown : Kind.ofShortName? name = none := by
    apply List.find?_eq_none.mpr
    intro kind _ same
    exact nameless kind (beq_iff_eq.mp same).symm
  rw [getByShortName?, unknown, Option.bind_none]

theorem get?_register (registry : Registry W) (metric : Metric W) (kind : Kind) :
    (registry.register metric).1.get? kind =
      if kind = metric.kind then some metric else registry.get? kind := rfl

/-- Metrics registered one after the other where there was none, and what was logged of it. -/
def registerAll (metrics : List (Metric W)) : Registry W × List Event :=
  metrics.foldl
    (fun registered metric => ((registered.1.register metric).1,
      registered.2 ++ (registered.1.register metric).2)) (empty, [])

/-- The last metric of a kind. -/
def lastOf (metrics : List (Metric W)) (kind : Kind) : Option (Metric W) :=
  (metrics.filter fun metric => metric.kind = kind).getLast?

theorem registerAll_concat (earlier : List (Metric W)) (metric : Metric W) :
    registerAll (earlier ++ [metric]) = (((registerAll earlier).1.register metric).1,
      (registerAll earlier).2 ++ ((registerAll earlier).1.register metric).2) := by
  simp [registerAll]

theorem lastOf_concat (earlier : List (Metric W)) (metric : Metric W) (kind : Kind) :
    lastOf (earlier ++ [metric]) kind =
      if kind = metric.kind then some metric else lastOf earlier kind := by
  by_cases same : kind = metric.kind
  · simp [lastOf, same]
  · simp [lastOf, same, Ne.symm same]

theorem get?_registerAll (metrics : List (Metric W)) (kind : Kind) :
    (registerAll metrics).1.get? kind = lastOf metrics kind := by
  induction metrics using List.reverseRecOn with
  | nil => rfl
  | append_singleton earlier metric ih =>
    rw [registerAll_concat, get?_register, lastOf_concat, ih]

theorem isSome_lastOf_iff (metrics : List (Metric W)) (kind : Kind) :
    (lastOf metrics kind).isSome = true ↔ kind ∈ metrics.map Metric.kind := by
  induction metrics using List.reverseRecOn with
  | nil => simp [lastOf]
  | append_singleton earlier metric ih =>
    rw [lastOf_concat, List.map_append, List.mem_append, ← ih]
    by_cases same : kind = metric.kind
    · simp [same]
    · simp [same]

/-- There are as many metrics as kinds were registered. -/
theorem size_registerAll (metrics : List (Metric W)) :
    (registerAll metrics).1.size = (metrics.map Metric.kind).toFinset.card := by
  have distinct := (registerAll metrics).1.nodup_kinds_metrics
  have same : ((registerAll metrics).1.metrics.map Metric.kind).toFinset =
      (metrics.map Metric.kind).toFinset := by
    apply Finset.ext
    intro kind
    rw [List.mem_toFinset, List.mem_toFinset, mem_kinds_metrics_iff, get?_registerAll,
      ← Option.isSome_iff_exists, isSome_lastOf_iff]
  rw [size, ← List.length_map Metric.kind, ← List.toFinset_card_of_nodup distinct, same]

theorem length_events_registerAll (metrics : List (Metric W)) :
    (registerAll metrics).2.length + (registerAll metrics).1.size = metrics.length := by
  rw [size_registerAll]
  induction metrics using List.reverseRecOn with
  | nil => rfl
  | append_singleton earlier metric ih =>
    have kinds : ((earlier ++ [metric]).map Metric.kind).toFinset =
        insert metric.kind (earlier.map Metric.kind).toFinset := by
      apply Finset.ext
      intro kind
      simp
    rw [registerAll_concat, kinds, List.length_append, List.length_append, List.length_singleton,
      register, get?_registerAll]
    by_cases known : metric.kind ∈ earlier.map Metric.kind
    · rw [if_pos ((isSome_lastOf_iff earlier metric.kind).mpr known),
        Finset.insert_eq_of_mem (List.mem_toFinset.mpr known), List.length_singleton]
      omega
    · have unknown : metric.kind ∉ (earlier.map Metric.kind).toFinset :=
        fun member => known (List.mem_toFinset.mp member)
      rw [if_neg fun found => known ((isSome_lastOf_iff earlier metric.kind).mp found),
        Finset.card_insert_of_notMem unknown, List.length_nil]
      omega

theorem of_mem_events_registerAll {metrics : List (Metric W)} {event : Event}
    (logged : event ∈ (registerAll metrics).2) :
    ∃ kind ∈ metrics.map Metric.kind, event = .replaced kind := by
  induction metrics using List.reverseRecOn with
  | nil => cases logged
  | append_singleton earlier metric ih =>
    rw [registerAll_concat] at logged
    rcases List.mem_append.mp logged with before | now
    · obtain ⟨kind, member, same⟩ := ih before
      exact ⟨kind, by simp [List.mem_map.mp member], same⟩
    · unfold register at now
      split at now
      · exact ⟨metric.kind, by simp, List.mem_singleton.mp now⟩
      · cases now

/-- What a registry shows of the metrics that were the last of their kinds. -/
structure Shows (registry : Registry W) (last : Kind → Option (Metric W)) : Prop where
  found : ∀ kind, registry.get? kind = last kind
  listed : registry.metrics = [Kind.cpu, .memory, .networkIn, .networkOut].filterMap last
  empty : registry.isEmpty = true ↔ registry.size = 0
  ranged : ∀ name ceiling, registry.ceilings.get? name = some ceiling ↔
    ∃ kind metric, last kind = some metric ∧ name = kind.shortName ∧ ceiling = metric.ceiling
  named : ∀ kind, registry.getByShortName? kind.shortName = last kind
  nameless : ∀ name, (∀ kind : Kind, name ≠ kind.shortName) →
    registry.getByShortName? name = none

/-- All that a registry shows follows from what is registered of each kind. -/
theorem shows_get? (registry : Registry W) : registry.Shows registry.get? where
  found _ := rfl
  listed := rfl
  empty := by rw [isEmpty, size, List.isEmpty_iff, List.length_eq_zero_iff]
  ranged _ _ := registry.get?_ofList_metrics_eq_some_iff Metric.ceiling
  named := registry.getByShortName?_shortName
  nameless _ := registry.getByShortName?_of_nameless

/-- However metrics are registered, what counts is the last one of each kind: it is found by its
kind and by its short name, and listed once in the order of the kinds. The other calls are those
that were warned of. -/
theorem registerAll_shows_last (metrics : List (Metric W)) :
    (registerAll metrics).1.Shows (lastOf metrics) ∧
      (registerAll metrics).1.size = (metrics.map Metric.kind).toFinset.card ∧
      (registerAll metrics).2.length + (registerAll metrics).1.size = metrics.length ∧
      (∀ event ∈ (registerAll metrics).2, ∃ kind ∈ metrics.map Metric.kind,
        event = .replaced kind) ∧
      ∀ others : List (Metric W), (∀ kind, lastOf others kind = lastOf metrics kind) →
        (registerAll others).1 = (registerAll metrics).1 := by
  have found : (registerAll metrics).1.get? = lastOf metrics := funext (get?_registerAll metrics)
  refine ⟨?_, size_registerAll metrics, length_events_registerAll metrics, ?_, ?_⟩
  · rw [← found]
    exact shows_get? _
  · exact fun event logged => of_mem_events_registerAll logged
  · intro others same
    apply ext_get?
    intro kind
    rw [get?_registerAll, get?_registerAll, same]

/-- A metric under some ceiling that never comes to an outcome. -/
def silent (kind : Kind) (ceiling : Ceiling) : Metric Unit :=
  { kind, ceiling, capture := fun world => ({ outcome := none }, world) }

/-- A kind registered twice is replaced once, wherever other kinds are registered. -/
theorem registerAll_shows_last_replaced :
    let high : Ceiling := ⟨80, by decide, by decide⟩
    let low : Ceiling := ⟨50, by decide, by decide⟩
    let metrics := [silent .networkOut high, silent .cpu high, silent .networkOut low]
    let others := [silent .networkOut low, silent .cpu high]
    (∀ kind, lastOf others kind = lastOf metrics kind) ∧
      (registerAll others).1 = (registerAll metrics).1 ∧
      (registerAll metrics).1.metrics = [silent .cpu high, silent .networkOut low] ∧
      (registerAll metrics).2 = [.replaced .networkOut] := by
  intro high low metrics others
  have same (kind : Kind) : lastOf others kind = lastOf metrics kind := by cases kind <;> rfl
  obtain ⟨shows, -, -, -, agree⟩ := registerAll_shows_last metrics
  exact ⟨same, agree others same, shows.listed, rfl⟩

end WorkerVitals.Registry
