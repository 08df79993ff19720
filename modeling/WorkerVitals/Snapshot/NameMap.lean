/-! Finite maps from names. The entries stand in the order of their names, which compares code
points and so agrees with the order of the bytes in UTF-8; two maps with the same values are
therefore equal. -/
namespace WorkerVitals

structure NameMap (α : Type) where
  entries : List (String × α)
  sorted : entries.Pairwise fun a b => a.1 < b.1

namespace NameMap

variable {α : Type}

@[ext] theorem ext {a b : NameMap α} (same : a.entries = b.entries) : a = b := by
  cases a; cases b; simp_all

instance [DecidableEq α] : DecidableEq (NameMap α) := fun a b =>
  if same : a.entries = b.entries then isTrue (ext same)
  else isFalse fun equal => same (congrArg entries equal)

def empty : NameMap α := ⟨[], .nil⟩

def isEmpty (map : NameMap α) : Bool := map.entries.isEmpty

/-- Puts a value in its place among entries in order, instead of the one with the same name. -/
def insertEntry (name : String) (value : α) : List (String × α) → List (String × α)
  | [] => [(name, value)]
  | (other, old) :: rest =>
    if name < other then (name, value) :: (other, old) :: rest
    else if other < name then (other, old) :: insertEntry name value rest
    else (name, value) :: rest

theorem mem_insertEntry {name : String} {value : α} {entries : List (String × α)}
    {entry : String × α} (member : entry ∈ insertEntry name value entries) :
    entry = (name, value) ∨ entry ∈ entries := by
  induction entries with
  | nil => simpa [insertEntry] using member
  | cons head rest ih =>
    simp only [insertEntry] at member
    split at member
    · simpa using member
    · split at member
      · rcases List.mem_cons.1 member with here | there
        · exact .inr (by simp [here])
        · exact (ih there).imp id (List.mem_cons_of_mem _)
      · rcases List.mem_cons.1 member with here | there
        · exact .inl here
        · exact .inr (List.mem_cons_of_mem _ there)

theorem sorted_insertEntry {name : String} {value : α} {entries : List (String × α)}
    (sorted : entries.Pairwise fun a b => a.1 < b.1) :
    (insertEntry name value entries).Pairwise fun a b => a.1 < b.1 := by
  induction entries with
  | nil => simp [insertEntry]
  | cons head rest ih =>
    obtain ⟨first, later⟩ := List.pairwise_cons.1 sorted
    simp only [insertEntry]
    split
    · rename_i before
      refine List.pairwise_cons.2 ⟨fun entry member => ?_, sorted⟩
      rcases List.mem_cons.1 member with here | there
      · rw [here]; exact before
      · exact String.lt_trans before (first entry there)
    · rename_i notBefore
      split
      · rename_i after
        refine List.pairwise_cons.2 ⟨fun entry member => ?_, ih later⟩
        rcases mem_insertEntry member with here | there
        · rw [here]; exact after
        · exact first entry there
      · rename_i notAfter
        have same : name = head.1 := String.le_antisymm (String.not_lt.1 notAfter) (String.not_lt.1 notBefore)
        refine List.pairwise_cons.2 ⟨fun entry member => ?_, later⟩
        rw [same]; exact first entry member

def insert (map : NameMap α) (name : String) (value : α) : NameMap α :=
  ⟨insertEntry name value map.entries, sorted_insertEntry map.sorted⟩

/-- The map of a list of entries; the last value of a name wins. -/
def ofList (entries : List (String × α)) : NameMap α :=
  entries.foldl (fun map (name, value) => map.insert name value) empty

def get? (map : NameMap α) (name : String) : Option α := map.entries.lookup name

def keys (map : NameMap α) : List String := map.entries.map (·.1)

def values (map : NameMap α) : List α := map.entries.map (·.2)

end NameMap

end WorkerVitals
