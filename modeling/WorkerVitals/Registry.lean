import WorkerVitals.Metric.Basic
import WorkerVitals.Snapshot.NameMap

namespace WorkerVitals

structure Registry (W : Type) where
  slots : Kind → Option (Metric W)
  placed : ∀ kind metric, slots kind = some metric → metric.kind = kind

namespace Registry

variable {W : Type}

def empty : Registry W := ⟨fun _ => none, by simp⟩

instance : Inhabited (Registry W) := ⟨empty⟩

/-- The metric of a kind. -/
def get? (registry : Registry W) (kind : Kind) : Option (Metric W) := registry.slots kind

/-- Puts a metric in the place of its kind; one that was there is replaced with a warning. -/
def register (registry : Registry W) (metric : Metric W) : Registry W × List Event :=
  ({ slots := fun kind => if kind = metric.kind then some metric else registry.slots kind
     placed := by
       intro kind found isFound
       split at isFound
       · rename_i same
         rw [same, ← Option.some.inj isFound]
       · exact registry.placed kind found isFound },
   if (registry.get? metric.kind).isSome then [.replaced metric.kind] else [])

def getByShortName? (registry : Registry W) (name : String) : Option (Metric W) :=
  (Kind.ofShortName? name).bind registry.get?

/-- The registered metrics in the order of their kinds. -/
def metrics (registry : Registry W) : List (Metric W) := Kind.all.filterMap registry.get?

def size (registry : Registry W) : Nat := registry.metrics.length

def isEmpty (registry : Registry W) : Bool := registry.metrics.isEmpty

/-- The ceiling of each registered metric by its short name. -/
def ceilings (registry : Registry W) : NameMap Ceiling :=
  .ofList (registry.metrics.map fun metric => (metric.kind.shortName, metric.ceiling))

end Registry

end WorkerVitals
