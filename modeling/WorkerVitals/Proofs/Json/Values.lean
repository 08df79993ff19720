import Mathlib.Data.List.Forall2
import WorkerVitals.Proofs.Json.Reading
import WorkerVitals.Proofs.Json.Tree

namespace WorkerVitals.Json

variable {α : Type}

/-- A string and the text that it stands for. -/
inductive TextOf : Tree → String → Prop where
  | string {content : List Piece} {text : String} (stands : Stands content text.toList) :
      TextOf (.string content) text

inductive IntOf : Tree → Int64 → Prop where
  | number {numeral : Numeral} {n : Int64} (whole : numeral.Whole n) : IntOf (.number numeral) n

/-- Any numeral stands for a binary64 number, unless it is too large. -/
inductive FloatOf : Tree → Float → Prop where
  | number {numeral : Numeral} {number : Number} (value : numeral.value = .ok number) :
      FloatOf (.number numeral) number.toFloat

inductive NullableOf (of : Tree → α → Prop) : Tree → Option α → Prop where
  | null : NullableOf of .null none
  | some {tree : Tree} {value : α} (given : of tree value) : NullableOf of tree (some value)

theorem NullableOf.eq_none {of : Tree → α → Prop} {value : Option α}
    (given : NullableOf of .null value) (nothing : ∀ value, ¬of .null value) : value = none := by
  cases given with
  | null => rfl
  | some given => exact absurd given (nothing _)

inductive ListOf (of : Tree → α → Prop) : Tree → List α → Prop where
  | list {items : List Tree} {values : List α} (each : items.Forall₂ of values) :
      ListOf of (.list items) values

/-- A reader makes of a value what it stands for. -/
def ReadsAs (read : Reader α) (of : Tree → α → Prop) : Prop :=
  ∀ {tree : Tree} {value : α}, of tree value → Reads read tree.tokens (.ok value)

/-- Values that have one token each, which does not end a list. -/
def OneToken (of : Tree → α → Prop) : Prop :=
  ∀ {tree : Tree} {value : α}, of tree value → ∃ token, tree.tokens = [token] ∧ token ≠ .closeList

theorem readsAs_text : ReadsAs readString TextOf := by
  rintro _ text ⟨stands⟩
  rw [Tree.tokens, stands.token_eq]
  exact reads_string text

theorem readsAs_int : ReadsAs readInt IntOf := by
  rintro _ n ⟨whole⟩
  rw [Tree.tokens]
  exact reads_whole whole

theorem readsAs_float : ReadsAs readFloat FloatOf := by
  rintro _ _ ⟨value⟩ rest
  rw [Tree.tokens, List.singleton_append, readFloat, value]
  rfl

theorem oneToken_int : OneToken IntOf := by
  rintro _ n ⟨_⟩
  exact ⟨_, rfl, nofun⟩

theorem oneToken_float : OneToken FloatOf := by
  rintro _ _ ⟨_⟩
  exact ⟨_, rfl, nofun⟩

theorem readsAs_nullable {read : Reader α} {of : Tree → α → Prop} (reads : ReadsAs read of)
    (nothing : ∀ value, ¬of .null value) : ReadsAs (readOption read) (NullableOf of) := by
  rintro tree _ (_ | given)
  · exact reads_none read
  · obtain ⟨first, later, begins, -, null⟩ := tree.tokens_begin
    have present : first ≠ .null := by
      intro same
      obtain rfl := null same
      exact nothing _ given
    have option := (begins ▸ reads given).some present
    exact begins ▸ option

theorem exists_rows {β γ : Type} {related : β → γ → Prop} {first : List β} {second : List γ}
    (each : first.Forall₂ related second) :
    ∃ rows : List (β × γ), rows.map Prod.fst = first ∧ rows.map Prod.snd = second ∧
      ∀ row ∈ rows, related row.1 row.2 := by
  induction each with
  | nil => exact ⟨[], rfl, rfl, by simp⟩
  | @cons a b _ _ here _ ih =>
    obtain ⟨rows, rfl, rfl, related⟩ := ih
    exact ⟨(a, b) :: rows, rfl, rfl, List.forall_mem_cons.mpr ⟨here, related⟩⟩

theorem readsAs_list {read : Reader α} {of : Tree → α → Prop} (reads : ReadsAs read of)
    (one : OneToken of) : ReadsAs (readList read) (ListOf of) := by
  rintro _ _ ⟨each⟩
  obtain ⟨rows, rfl, rfl, given⟩ := exists_rows each
  have single {row : Tree × α} (member : row ∈ rows) :
      row.1.tokens = [row.1.tokens.headD .null] ∧ row.1.tokens.headD .null ≠ .closeList := by
    obtain ⟨token, same, proper⟩ := one (given row member)
    rw [same]
    exact ⟨rfl, proper⟩
  have list : Reads (readList read) (listTokens (rows.map fun row => row.1.tokens.headD .null))
      (rows.mapM fun row => .ok row.2) :=
    reads_items (fun row member => (single member).2)
      fun row member => (single member).1 ▸ reads (given row member)
  have tokens : (Tree.list (rows.map Prod.fst)).tokens =
      listTokens (rows.map fun row => row.1.tokens.headD .null) := by
    rw [Tree.tokens_list, listTokens, List.map_map, List.map_map]
    congr 3
    exact List.map_congr_left fun row member => (single member).1
  have values : (rows.mapM fun row => (.ok row.2 : Except Rejection α)) = .ok (rows.map Prod.snd) :=
    List.mapM_pure
  rwa [tokens, ← values]

end WorkerVitals.Json
