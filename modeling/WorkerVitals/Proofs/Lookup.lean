import Mathlib.Data.List.Basic

namespace WorkerVitals

variable {κ α : Type} [BEq κ] [LawfulBEq κ] {pairs : List (κ × α)}

theorem lookup_eq_some_iff (distinct : (pairs.map Prod.fst).Nodup) {key : κ} {value : α} :
    pairs.lookup key = some value ↔ (key, value) ∈ pairs := by
  induction pairs with
  | nil => simp
  | cons pair rest ih =>
    obtain ⟨absent, distinct⟩ := List.nodup_cons.mp distinct
    rw [List.lookup_cons, List.mem_cons]
    by_cases same : key = pair.1
    · have missing : (pair.1, value) ∉ rest :=
        fun member => absent (List.mem_map.mpr ⟨_, member, rfl⟩)
      simp [same, missing, Prod.ext_iff, eq_comm]
    · have missed : (key == pair.1) = false := beq_eq_false_iff_ne.mpr same
      simp [missed, ih distinct, Prod.ext_iff, same]

theorem lookup_eq_none_iff {key : κ} : pairs.lookup key = none ↔ key ∉ pairs.map Prod.fst := by
  rw [List.lookup_eq_none_iff, List.mem_map]
  constructor
  · rintro missed ⟨pair, member, rfl⟩
    exact bne_iff_ne.mp (missed pair member) rfl
  · exact fun absent pair member => bne_iff_ne.mpr fun same => absent ⟨pair, member, same.symm⟩

theorem lookup_perm (distinct : (pairs.map Prod.fst).Nodup) {others : List (κ × α)}
    (same : others.Perm pairs) (key : κ) : others.lookup key = pairs.lookup key := by
  ext value
  rw [lookup_eq_some_iff distinct, lookup_eq_some_iff ((same.map _).nodup_iff.mpr distinct),
    same.mem_iff]

end WorkerVitals
