import WorkerVitals.Proofs.Text.Layout

namespace WorkerVitals.Text

inductive LineEnd where
  | feed
  | returned

def LineEnd.chars : LineEnd → List Char
  | .feed => ['\n']
  | .returned => ['\r', '\n']

/-- Lines with their ends; that of the last one may be left out. -/
def writeLines (closed : Bool) : List (List Char × LineEnd) → List Char
  | [] => []
  | [(line, ending)] => if closed then line ++ ending.chars else line
  | (line, ending) :: next :: rest => line ++ ending.chars ++ writeLines closed (next :: rest)

section Search

variable {α : Type} {find : List Char → Option α}

/-- A search that does not mind a carriage return finds the same in a line with its end. -/
private theorem findSome?_lines_cons (returnless : ∀ line, find (dropReturn line) = find line)
    {line : List Char} (feedless : '\n' ∉ line) (ending : LineEnd) {rest : List Char}
    {others : List (List Char × LineEnd)}
    (later : ∀ skipped, ((lines rest).drop skipped).findSome? find =
      (others.drop skipped).findSome? fun other => find other.1) (skipped : Nat) :
    ((lines (line ++ ending.chars ++ rest)).drop skipped).findSome? find =
      (((line, ending) :: others).drop skipped).findSome? fun other => find other.1 := by
  obtain ⟨read, cut, found⟩ : ∃ read, lines (line ++ ending.chars ++ rest) = read :: lines rest ∧
      find read = find line := by
    cases ending with
    | feed =>
      refine ⟨dropReturn line, ?_, returnless line⟩
      rw [← lines_feed feedless, List.append_assoc]
      rfl
    | returned =>
      refine ⟨line, ?_, rfl⟩
      have feedless : '\n' ∉ line ++ ['\r'] := by simpa using feedless
      have cut := lines_feed feedless rest
      rw [dropReturn_concat] at cut
      rw [← cut, List.append_assoc, List.append_assoc]
      rfl
  rw [cut]
  cases skipped with
  | zero =>
    have rest := later 0
    rw [List.drop_zero, List.drop_zero] at rest ⊢
    rw [List.findSome?_cons, List.findSome?_cons, found, rest]
  | succ skipped => exact later skipped

theorem findSome?_lines_writeLines (returnless : ∀ line, find (dropReturn line) = find line)
    (empty : find [] = none) {written : List (List Char × LineEnd)}
    (feedless : ∀ line ∈ written, '\n' ∉ line.1) (closed : Bool) (skipped : Nat) :
    ((lines (writeLines closed written)).drop skipped).findSome? find =
      (written.drop skipped).findSome? fun line => find line.1 := by
  induction written generalizing skipped with
  | nil => simp [writeLines, lines_nil]
  | cons line rest ih =>
    obtain ⟨here, feedless⟩ := List.forall_mem_cons.mp feedless
    cases rest with
    | cons next rest => exact findSome?_lines_cons returnless here line.2 (ih feedless) skipped
    | nil =>
      cases closed with
      | true =>
        have none (skipped : Nat) : ((lines []).drop skipped).findSome? find =
            (([] : List (List Char × LineEnd)).drop skipped).findSome? fun line => find line.1 := by
          simp [lines_nil]
        have ended := findSome?_lines_cons returnless here line.2 none skipped
        rwa [List.append_nil] at ended
      | false =>
        -- An empty line without an end is no line.
        by_cases nothing : line.1 = []
        · cases skipped with
          | zero => simp [writeLines, nothing, lines_nil, empty]
          | succ skipped => simp [writeLines, nothing, lines_nil]
        · have only : lines line.1 = [line.1] := lines_feedless nothing here
          cases skipped with
          | zero => simp [writeLines, only]
          | succ skipped => simp [writeLines, only]

end Search

def writeWords (written : List (List Char × List Char)) : List Char :=
  written.flatMap fun (gap, word) => gap ++ word

/-- Written words are the fields of the text when only the first gap is empty, if any. -/
theorem fields_writeWords {written : List (List Char × List Char)}
    (blank : ∀ entry ∈ written, ∀ c ∈ entry.1, isBlank c)
    (solid : ∀ entry ∈ written, entry.2 ≠ [] ∧ ∀ c ∈ entry.2, ¬isBlank c)
    (apart : ∀ entry ∈ written.tail, entry.1 ≠ []) {after : List Char}
    (trailing : ∀ c ∈ after, isBlank c) :
    Fields (writeWords written ++ after) (written.map Prod.snd) := by
  induction written with
  | nil => exact .none trailing
  | cons entry rest ih =>
    obtain ⟨gap, word⟩ := entry
    obtain ⟨gapBlank, blank⟩ := List.forall_mem_cons.mp blank
    obtain ⟨⟨nonempty, wordSolid⟩, solid⟩ := List.forall_mem_cons.mp solid
    have later := ih blank solid fun entry member => apart entry (List.mem_of_mem_tail member)
    have text : writeWords ((gap, word) :: rest) ++ after =
        gap ++ word ++ (writeWords rest ++ after) := by
      simp [writeWords]
    rw [text]
    refine .word gapBlank nonempty wordSolid ?_ later
    intro c first
    cases rest with
    | nil => exact trailing c (List.mem_of_mem_head? first)
    | cons next rest =>
      have nextBlank := blank next List.mem_cons_self
      obtain ⟨d, more, gap⟩ := List.exists_cons_of_ne_nil (apart next List.mem_cons_self)
      rw [gap] at nextBlank
      have same : d = c := by simpa [writeWords, gap] using first
      exact same ▸ nextBlank d List.mem_cons_self

end WorkerVitals.Text
