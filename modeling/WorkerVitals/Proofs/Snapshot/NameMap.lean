import WorkerVitals.Metric.Kind
import WorkerVitals.Proofs.Lookup
import WorkerVitals.Snapshot.NameMap

namespace WorkerVitals

namespace NameMap

variable {α : Type}

private theorem lookup_cons_ite (key name : String) (value : α) (rest : List (String × α)) :
    ((key, value) :: rest).lookup name = if name = key then some value else rest.lookup name := by
  by_cases same : name = key
  · simp [same]
  · have missed : (name == key) = false := beq_eq_false_iff_ne.mpr same
    simp [List.lookup_cons, missed, same]

theorem lookup_insertEntry {name other : String} {value : α} {entries : List (String × α)}
    (sorted : entries.Pairwise fun a b => a.1 < b.1) :
    (insertEntry name value entries).lookup other =
      if other = name then some value else entries.lookup other := by
  induction entries with
  | nil => exact lookup_cons_ite name other value []
  | cons head rest ih =>
    obtain ⟨first, later⟩ := List.pairwise_cons.1 sorted
    obtain ⟨key, old⟩ := head
    simp only [insertEntry]
    split
    · exact lookup_cons_ite name other value _
    · rename_i notBefore
      split
      · rename_i after
        have different : key ≠ name := String.ne_of_lt after
        simp only [lookup_cons_ite, ih later]
        by_cases here : other = key
        · simp [here, different]
        · simp [here]
      · rename_i notAfter
        have same : name = key :=
          String.le_antisymm (String.not_lt.1 notAfter) (String.not_lt.1 notBefore)
        subst same
        simp only [lookup_cons_ite]
        by_cases here : other = name <;> simp [here]

@[simp] theorem get?_empty (name : String) : (empty : NameMap α).get? name = none := rfl

@[simp] theorem get?_insert (map : NameMap α) (name other : String) (value : α) :
    (map.insert name value).get? other = if other = name then some value else map.get? other :=
  lookup_insertEntry map.sorted

private theorem get?_foldl_insert (entries : List (String × α)) (map : NameMap α) (name : String) :
    (entries.foldl (fun map (name, value) => map.insert name value) map).get? name =
      (entries.reverse.lookup name).or (map.get? name) := by
  induction entries generalizing map with
  | nil => rfl
  | cons entry rest ih =>
    obtain ⟨key, value⟩ := entry
    rw [List.foldl_cons, ih, List.reverse_cons, List.lookup_append, Option.or_assoc, get?_insert,
      lookup_cons_ite]
    by_cases same : name = key <;> simp [same]

theorem get?_ofList (entries : List (String × α)) (name : String) :
    (ofList entries).get? name = entries.reverse.lookup name := by
  rw [ofList, get?_foldl_insert, get?_empty, Option.or_none]

theorem nodup_names (map : NameMap α) : (map.entries.map Prod.fst).Nodup :=
  List.pairwise_map.mpr (map.sorted.imp fun before => String.ne_of_lt before)

theorem nodup_entries (map : NameMap α) : map.entries.Nodup :=
  map.sorted.imp fun before same => String.ne_of_lt before (congrArg Prod.fst same)

theorem mem_entries_iff (map : NameMap α) (name : String) (value : α) :
    (name, value) ∈ map.entries ↔ map.get? name = some value :=
  (lookup_eq_some_iff map.nodup_names).symm

theorem ext_get? {map other : NameMap α} (same : ∀ name, map.get? name = other.get? name) :
    map = other := by
  apply ext
  refine List.Perm.eq_of_pairwise (fun a b _ _ before after => ?_) map.sorted other.sorted ?_
  · exact absurd before (String.lt_asymm after)
  · refine (List.perm_ext_iff_of_nodup map.nodup_entries other.nodup_entries).mpr ?_
    rintro ⟨name, value⟩
    rw [mem_entries_iff, mem_entries_iff, same]

theorem ofList_perm {map : NameMap α} {entries : List (String × α)}
    (same : entries.Perm map.entries) : ofList entries = map :=
  ext_get? fun name => by
    rw [get?_ofList, get?, lookup_perm map.nodup_names ((List.reverse_perm _).trans same)]

theorem ofList_entries (map : NameMap α) : ofList map.entries = map := ofList_perm (.refl _)

theorem entries_ofList {entries : List (String × α)}
    (sorted : entries.Pairwise fun a b => a.1 < b.1) : (ofList entries).entries = entries :=
  congrArg NameMap.entries (ofList_entries ⟨entries, sorted⟩)

theorem mem_values_iff (map : NameMap α) (value : α) :
    value ∈ map.values ↔ ∃ name, map.get? name = some value := by
  simp [values, ← mem_entries_iff]

theorem mem_keys_iff (map : NameMap α) (name : String) :
    name ∈ map.keys ↔ ∃ value, map.get? name = some value := by
  simp [keys, ← mem_entries_iff]

end NameMap

namespace Kind

@[simp] theorem ofShortName?_shortName (kind : Kind) : ofShortName? kind.shortName = some kind := by
  cases kind <;> decide

theorem shortName_injective {a b : Kind} (same : a.shortName = b.shortName) : a = b := by
  have found := congrArg ofShortName? same
  simpa using found

/-- A map with the values of kinds under their short names has nothing under other names. -/
theorem get?_ofList_shortNames_eq_some_iff {α : Type} (value? : Kind → Option α) {name : String}
    {value : α} :
    (NameMap.ofList (all.filterMap fun kind =>
      (value? kind).map fun value => (kind.shortName, value))).get? name = some value ↔
        ∃ kind, name = kind.shortName ∧ value? kind = some value := by
  have ordered : all.Pairwise fun a b => a.shortName < b.shortName := by decide
  have sorted : (all.filterMap fun kind =>
      (value? kind).map fun value => (kind.shortName, value)).Pairwise fun a b => a.1 < b.1 := by
    refine List.pairwise_filterMap.mpr (ordered.imp ?_)
    intro a b before _ found _ later
    obtain ⟨_, _, rfl⟩ := Option.map_eq_some_iff.mp found
    obtain ⟨_, _, rfl⟩ := Option.map_eq_some_iff.mp later
    exact before
  rw [← NameMap.mem_entries_iff, NameMap.entries_ofList sorted, List.mem_filterMap]
  constructor
  · rintro ⟨kind, -, found⟩
    obtain ⟨_, present, same⟩ := Option.map_eq_some_iff.mp found
    obtain ⟨rfl, rfl⟩ := Prod.mk.inj same
    exact ⟨kind, rfl, present⟩
  · rintro ⟨kind, rfl, present⟩
    exact ⟨kind, kind.mem_all, by rw [present, Option.map_some]⟩

end Kind

end WorkerVitals
