import WorkerVitals.Proofs.Json.Finite

namespace WorkerVitals.Json

variable {α β σ : Type}

/-- All values that a reader gives have a property. -/
def Yields (read : Reader α) (property : α → Prop) : Prop :=
  ∀ tokens value rest, read tokens = .ok (value, rest) → property value

theorem bind_eq_ok {first : Except Rejection α} {next : α → Except Rejection β} {result : β}
    (passed : (first >>= next) = .ok result) :
    ∃ value, first = .ok value ∧ next value = .ok result := by
  cases first with
  | error reason => cases passed
  | ok value => exact ⟨value, rfl, passed⟩

theorem map_eq_ok {first : Except Rejection α} {next : α → β} {result : β}
    (passed : first.map next = .ok result) : ∃ value, first = .ok value ∧ next value = result := by
  cases first with
  | error reason => cases passed
  | ok value => exact ⟨value, rfl, Except.ok.inj passed⟩

/-- Every number that is read is finite. -/
theorem yields_readFloat : Yields readFloat fun x => x.isFinite = true := by
  intro tokens x rest read
  unfold readFloat at read
  split at read
  · obtain ⟨number, value, read⟩ := bind_eq_ok read
    cases read
    exact Numeral.isFinite_value value
  · cases read

section Values

variable {read : Reader α} {property : α → Prop} (each : Yields read property)
include each

theorem yields_readOption : Yields (readOption read) fun value => ∀ x ∈ value, property x := by
  intro tokens value rest found
  unfold readOption at found
  split at found
  · cases found
    rintro _ ⟨⟩
  · obtain ⟨⟨first, after⟩, given, same⟩ := map_eq_ok found
    cases same
    rintro _ ⟨⟩
    exact each _ _ _ given

theorem yields_readItems : Yields (readItems read) fun values => ∀ x ∈ values, property x := by
  intro tokens
  fun_induction readItems read tokens with
  | case1 => rintro _ _ ⟨⟩
  | case2 token rest ih =>
    intro values after found
    obtain ⟨⟨first, _⟩, given, found⟩ := bind_eq_ok found
    have one := each _ _ _ given
    dsimp only at found
    split at found
    · cases found
    · cases found
      simpa using one
    · obtain ⟨⟨later, _⟩, more, found⟩ := bind_eq_ok found
      cases found
      exact List.forall_mem_cons.mpr ⟨one, ih _ _ more⟩
    · cases found

theorem yields_readList : Yields (readList read) fun values => ∀ x ∈ values, property x := by
  intro tokens values rest found
  unfold readList at found
  split at found
  · cases found
    simp
  · exact yields_readItems each _ _ _ found
  · cases found

end Values

section Members

variable {read : String → σ → Reader σ} {invariant : σ → Prop}
  (each : ∀ name state, invariant state → Yields (read name state) invariant)
include each

theorem yields_foldMembers (limit : Nat) {state : σ} (held : invariant state) :
    Yields (foldMembers read limit state) invariant := by
  induction limit generalizing state with
  | zero => rintro _ _ _ ⟨⟩
  | succ limit ih =>
    intro tokens value rest found
    rw [foldMembers] at found
    obtain ⟨⟨name, _⟩, -, found⟩ := bind_eq_ok found
    obtain ⟨⟨next, _⟩, given, found⟩ := bind_eq_ok found
    have kept := each name state held _ _ _ given
    dsimp only at found
    split at found
    · cases found
    · cases found
      exact kept
    · exact ih kept _ _ _ found
    · cases found

/-- What each member keeps holds after all members of an object. -/
theorem yields_readMembers {state : σ} (held : invariant state) :
    Yields (readMembers read state) invariant := by
  intro tokens value rest found
  unfold readMembers at found
  split at found
  · cases found
    exact held
  · exact yields_foldMembers each _ held _ _ _ found

end Members

end WorkerVitals.Json
