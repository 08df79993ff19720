import Mathlib.Logic.Relation
import WorkerVitals.Proofs.Snapshot.NameMap
import WorkerVitals.Snapshot.Basic

namespace WorkerVitals

variable {α : Type}

namespace NameMap

def erase (map : NameMap α) (name : String) : NameMap α :=
  ⟨map.entries.filter fun entry => entry.1 != name, map.sorted.filter _⟩

theorem mem_keys_of_mem_erase {map : NameMap α} {name other : String}
    (member : other ∈ (map.erase name).keys) : other ∈ map.keys := by
  obtain ⟨entry, present, same⟩ := List.mem_map.mp member
  exact List.mem_map.mpr ⟨entry, (List.mem_filter.mp present).1, same⟩

theorem mem_keys_insert_iff (map : NameMap α) (name other : String) (value : α) :
    other ∈ (map.insert name value).keys ↔ other = name ∨ other ∈ map.keys := by
  simp only [mem_keys_iff, get?_insert]
  by_cases same : other = name <;> simp [same]

end NameMap

namespace Snapshot

/-- The ceiling of the metric with a name: the first number of its range, if there is one. -/
def ceiling? (snapshot : Snapshot) (name : String) : Option Int64 :=
  (snapshot.operatingRange.bind fun ranges => ranges.get? name).bind List.head?

/-- The metric with a name has a positive ceiling. -/
def Bounded (snapshot : Snapshot) (name : String) : Prop :=
  ∃ ceiling, snapshot.ceiling? name = some ceiling ∧ 0 < ceiling

def Named (snapshot : Snapshot) : Prop := ∃ worker, snapshot.workerId = some worker ∧ worker ≠ ""

theorem bounded_iff {snapshot : Snapshot} {ranges : NameMap (List Int64)}
    (present : snapshot.operatingRange = some ranges) (name : String) :
    snapshot.Bounded name ↔ (ranges.get? name).any opensPositive = true := by
  cases found : ranges.get? name with
  | none => simp [Bounded, ceiling?, present, found]
  | some range => cases range <;> simp [Bounded, ceiling?, present, found, opensPositive]

theorem not_bounded {snapshot : Snapshot} (absent : snapshot.operatingRange = none)
    (name : String) : ¬snapshot.Bounded name := by
  simp [Bounded, ceiling?, absent]

/-- With metrics present the maps count for the ceilings of the metrics alone. -/
theorem isValid_iff {snapshot : Snapshot} {stats : NameMap (List Float)}
    (present : snapshot.metricStats = some stats) :
    snapshot.isValid = true ↔ snapshot.Named ∧ snapshot.lastUpdateTime.isSome = true ∧
      ∀ name ∈ stats.keys, snapshot.Bounded name := by
  have named : snapshot.workerId.any (!·.isEmpty) = true ↔ snapshot.Named := by
    simp [Named, Option.any_eq_true]
  unfold isValid
  rw [Bool.and_eq_true, Bool.and_eq_true, named, and_assoc]
  refine and_congr_right fun _ => and_congr_right fun _ => ?_
  cases ranges : snapshot.operatingRange with
  | none =>
    simp [present, not_bounded ranges, NameMap.isEmpty, NameMap.keys,
      List.eq_nil_iff_forall_not_mem]
  | some _ => simp [present, bounded_iff ranges]

/-- One change to the maps of a snapshot that leaves the ceilings of its metrics alone. -/
inductive Edit : Snapshot → Snapshot → Prop where
  | removeMetric {snapshot : Snapshot} {stats : NameMap (List Float)} (name : String)
      (present : snapshot.metricStats = some stats) :
      Edit snapshot { snapshot with metricStats := some (stats.erase name) }
  | replaceSamples {snapshot : Snapshot} {stats : NameMap (List Float)} {name : String}
      (present : snapshot.metricStats = some stats) (listed : name ∈ stats.keys)
      (samples : List Float) :
      Edit snapshot { snapshot with metricStats := some (stats.insert name samples) }
  | addRange {snapshot : Snapshot} {ranges : NameMap (List Int64)} {name : String}
      (present : snapshot.operatingRange = some ranges) (absent : name ∉ ranges.keys)
      (range : List Int64) :
      Edit snapshot { snapshot with operatingRange := some (ranges.insert name range) }
  | supplyRanges {snapshot : Snapshot} (absent : snapshot.operatingRange = none)
      (ranges : NameMap (List Int64)) :
      Edit snapshot { snapshot with operatingRange := some ranges }
  | changeRest {snapshot : Snapshot} {ranges : NameMap (List Int64)} {name : String}
      {ceiling : Int64} {rest : List Int64} (present : snapshot.operatingRange = some ranges)
      (found : ranges.get? name = some (ceiling :: rest)) (other : List Int64) :
      Edit snapshot { snapshot with operatingRange := some (ranges.insert name (ceiling :: other)) }

/-- What is asked of a snapshot with these metrics is asked of the other one as well. -/
structure Eases (before after : Snapshot) : Prop where
  workerId_eq : after.workerId = before.workerId
  time_eq : after.lastUpdateTime = before.lastUpdateTime
  fewer : ∀ stats, before.metricStats = some stats → ∃ left, after.metricStats = some left ∧
    ∀ name ∈ left.keys, name ∈ stats.keys
  kept : ∀ name ceiling, before.ceiling? name = some ceiling → after.ceiling? name = some ceiling

namespace Eases

theorem refl (snapshot : Snapshot) : Eases snapshot snapshot where
  workerId_eq := rfl
  time_eq := rfl
  fewer stats present := ⟨stats, present, fun _ member => member⟩
  kept _ _ found := found

theorem trans {before between after : Snapshot} (first : Eases before between)
    (second : Eases between after) : Eases before after where
  workerId_eq := second.workerId_eq.trans first.workerId_eq
  time_eq := second.time_eq.trans first.time_eq
  fewer := by
    intro stats present
    obtain ⟨left, between, fewer⟩ := first.fewer stats present
    obtain ⟨rest, after, fewest⟩ := second.fewer left between
    exact ⟨rest, after, fun name member => fewer name (fewest name member)⟩
  kept name ceiling found := second.kept name ceiling (first.kept name ceiling found)

theorem of_stats {snapshot : Snapshot} {stats left : NameMap (List Float)}
    (present : snapshot.metricStats = some stats) (fewer : ∀ name ∈ left.keys, name ∈ stats.keys) :
    Eases snapshot { snapshot with metricStats := some left } where
  workerId_eq := rfl
  time_eq := rfl
  fewer := by
    intro given same
    obtain rfl : stats = given := Option.some.inj (present.symm.trans same)
    exact ⟨left, rfl, fewer⟩
  kept _ _ found := found

theorem of_ranges {snapshot : Snapshot} (ranges : NameMap (List Int64))
    (kept : ∀ name ceiling, snapshot.ceiling? name = some ceiling →
      (ranges.get? name).bind List.head? = some ceiling) :
    Eases snapshot { snapshot with operatingRange := some ranges } where
  workerId_eq := rfl
  time_eq := rfl
  fewer stats present := ⟨stats, present, fun _ member => member⟩
  kept := kept

theorem of_insert {snapshot : Snapshot} {ranges : NameMap (List Int64)}
    (present : snapshot.operatingRange = some ranges) {name : String} {range : List Int64}
    (same : ∀ ceiling, snapshot.ceiling? name = some ceiling → range.head? = some ceiling) :
    Eases snapshot { snapshot with operatingRange := some (ranges.insert name range) } := by
  refine of_ranges _ fun other ceiling found => ?_
  rw [NameMap.get?_insert]
  split
  · rename_i here
    exact same ceiling (here ▸ found)
  · simpa [ceiling?, present] using found

theorem valid {before after : Snapshot} (eases : Eases before after)
    {stats : NameMap (List Float)} (present : before.metricStats = some stats)
    (valid : before.isValid = true) : after.isValid = true := by
  obtain ⟨⟨worker, named, nonempty⟩, dated, bounded⟩ := (isValid_iff present).mp valid
  obtain ⟨left, remaining, fewer⟩ := eases.fewer stats present
  refine (isValid_iff remaining).mpr ⟨⟨worker, eases.workerId_eq.trans named, nonempty⟩, ?_, ?_⟩
  · rw [eases.time_eq]
    exact dated
  · intro name member
    obtain ⟨ceiling, found, positive⟩ := bounded name (fewer name member)
    exact ⟨ceiling, eases.kept name ceiling found, positive⟩

end Eases

theorem Edit.eases {before after : Snapshot} (edit : Edit before after) : Eases before after := by
  cases edit with
  | removeMetric name present => exact .of_stats present fun _ => NameMap.mem_keys_of_mem_erase
  | replaceSamples present listed samples =>
    refine .of_stats present fun name member => ?_
    rcases (NameMap.mem_keys_insert_iff _ _ _ _).mp member with rfl | before
    · exact listed
    · exact before
  | addRange present absent range =>
    refine .of_insert present fun ceiling found => ?_
    obtain ⟨_, listed, -⟩ := Option.bind_eq_some_iff.mp (show Option.bind _ _ = some _ from found)
    simp only [present, Option.bind_some] at listed
    exact absurd ((NameMap.mem_keys_iff _ _).mpr ⟨_, listed⟩) absent
  | supplyRanges absent ranges =>
    refine .of_ranges ranges fun name ceiling found => ?_
    simp [ceiling?, absent] at found
  | changeRest present same other =>
    refine .of_insert present fun ceiling found => ?_
    simpa [ceiling?, present, same] using found

/-- So does any number of edits. -/
theorem eases_of_edits {before after : Snapshot} (edits : Relation.ReflTransGen Edit before after) :
    Eases before after := by
  induction edits with
  | refl => exact .refl before
  | tail _ edit ih => exact ih.trans edit.eases

/-- Nothing that counts for the validity of snapshots with metrics tells these two apart. -/
structure Agree (one other : Snapshot) (ones others : NameMap (List Float)) : Prop where
  named : one.Named ↔ other.Named
  dated : one.lastUpdateTime.isSome = other.lastUpdateTime.isSome
  listed : ∀ name, name ∈ ones.keys ↔ name ∈ others.keys
  bounded : ∀ name ∈ ones.keys, one.Bounded name ↔ other.Bounded name

/-- A valid snapshot with metrics stays valid under edits that leave the ceilings alone. Snapshots
with metrics that agree on the worker, the time, the names and the signs of their ceilings are both
valid or both not. A metric that is added without a positive ceiling makes any of them invalid. -/
theorem validity_edits :
    (∀ before after stats, before.metricStats = some stats → before.isValid = true →
        Relation.ReflTransGen Edit before after → after.isValid = true) ∧
      (∀ one other ones others, one.metricStats = some ones → other.metricStats = some others →
        Agree one other ones others → one.isValid = other.isValid) ∧
      ∀ (snapshot : Snapshot) stats name samples, snapshot.metricStats = some stats →
        (∀ ceiling, snapshot.ceiling? name = some ceiling → ceiling ≤ 0) →
          isValid { snapshot with metricStats := some (stats.insert name samples) } = false := by
  refine ⟨?_, ?_, ?_⟩
  · exact fun before after stats present valid edits => (eases_of_edits edits).valid present valid
  · intro one other ones others first second agree
    rw [Bool.eq_iff_iff, isValid_iff first, isValid_iff second, agree.named, agree.dated]
    refine and_congr_right fun _ => and_congr_right fun _ => forall_congr' fun name => ?_
    rw [← agree.listed]
    exact imp_congr_right (agree.bounded name)
  · intro snapshot stats name samples present unbounded
    rw [Bool.eq_false_iff]
    intro valid
    obtain ⟨-, -, bounded⟩ := (isValid_iff rfl).mp valid
    obtain ⟨ceiling, found, positive⟩ :=
      bounded name ((NameMap.mem_keys_insert_iff _ _ _ _).mpr (.inl rfl))
    exact absurd positive (Int64.not_lt.mpr (unbounded ceiling found))

def twoMetrics : Snapshot where
  workerId := some "w"
  lastUpdateTime := some 7
  metricStats := some (.ofList [("C", [1]), ("NI", [2, 3])])
  operatingRange := some (.ofList [("C", [80, 0]), ("NI", [90, 0])])

/-- The same worker without its first metric, with a range for another, and with a shorter range. -/
def oneMetric : Snapshot where
  workerId := some "w"
  lastUpdateTime := some 7
  metricStats := some ((NameMap.ofList [("C", [1]), ("NI", [2, 3])]).erase "C")
  operatingRange := some (((NameMap.ofList [("C", [80, 0]), ("NI", [90, 0])]).insert "M" []).insert
    "NI" [90])

theorem edits_twoMetrics : Relation.ReflTransGen Edit twoMetrics oneMetric := by
  have absent : "M" ∉ (NameMap.ofList [("C", [(80 : Int64), 0]), ("NI", [90, 0])]).keys := by
    decide +kernel
  have found : ((NameMap.ofList [("C", [(80 : Int64), 0]), ("NI", [90, 0])]).insert "M" []).get?
      "NI" = some (90 :: [0]) := by decide +kernel
  exact .head (.removeMetric "C" rfl) (.head (.addRange rfl absent []) (.single
    (.changeRest rfl found [])))

theorem validity_edits_twoMetrics :
    twoMetrics.isValid = true ∧ oneMetric.isValid = true ∧
      twoMetrics.isValid = isValid { twoMetrics with
        metricStats := some (.ofList [("C", [-1]), ("NI", [])]) } ∧
      isValid { twoMetrics with
        metricStats := some ((NameMap.ofList [("C", [1]), ("NI", [2, 3])]).insert "M" [5]) } =
          false := by
  obtain ⟨edits, agreement, spoiled⟩ := validity_edits
  have valid : twoMetrics.isValid = true := by decide +kernel
  refine ⟨valid, edits _ _ _ rfl valid edits_twoMetrics, ?_, ?_⟩
  · have listed : (NameMap.ofList [("C", [(1 : Float)]), ("NI", [2, 3])]).keys =
      (NameMap.ofList [("C", [(-1 : Float)]), ("NI", [])]).keys := by decide +kernel
    exact agreement _ _ _ _ rfl rfl ⟨Iff.rfl, rfl, fun name => by rw [listed], fun _ _ => Iff.rfl⟩
  · have unbounded : twoMetrics.ceiling? "M" = none := by decide +kernel
    exact spoiled twoMetrics _ "M" [5] rfl (by simp [unbounded])

end Snapshot

end WorkerVitals
