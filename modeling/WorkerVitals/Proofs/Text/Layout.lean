import Mathlib.Data.List.TakeWhile
import WorkerVitals.Text.Line

namespace WorkerVitals.Text

section Cut

variable {keep : Char → Bool} {front back text : List Char} {c : Char}

theorem takeWhile_cut (kept : ∀ c ∈ front, keep c) (stopped : ∀ c ∈ back.head?, ¬keep c) :
    (front ++ back).takeWhile keep = front := by
  rw [List.takeWhile_append_of_pos kept]
  cases back with
  | nil => simp
  | cons c rest => rw [List.takeWhile_cons_of_neg (stopped c rfl), List.append_nil]

theorem dropWhile_cut (kept : ∀ c ∈ front, keep c) (stopped : ∀ c ∈ back.head?, ¬keep c) :
    (front ++ back).dropWhile keep = back := by
  rw [List.dropWhile_append_of_pos kept]
  cases back with
  | nil => rfl
  | cons c rest => exact List.dropWhile_cons_of_neg (stopped c rfl)

private theorem kept_takeWhile : ∀ c ∈ text.takeWhile keep, keep c :=
  fun _ member => List.mem_takeWhile_imp member

private theorem stopped_dropWhile : ∀ c ∈ (text.dropWhile keep).head?, ¬keep c := by
  intro c first
  have stops := List.head?_dropWhile_not keep text
  rw [Option.mem_def.mp first] at stops
  simpa using stops

private theorem ne_separator {separator : Char} (absent : separator ∉ front) :
    ∀ c ∈ front, (c != separator) = true := by
  intro c member
  exact bne_iff_ne.mpr (fun same => absent (same ▸ member))

theorem takeWhile_separator {separator : Char} (absent : separator ∉ front) (back : List Char) :
    (front ++ separator :: back).takeWhile (· != separator) = front :=
  takeWhile_cut (ne_separator absent) (by simp)

theorem dropWhile_separator {separator : Char} (absent : separator ∉ front) (back : List Char) :
    (front ++ separator :: back).dropWhile (· != separator) = separator :: back :=
  dropWhile_cut (ne_separator absent) (by simp)

theorem dropWhile_separatorless {separator : Char} (absent : separator ∉ front) :
    front.dropWhile (· != separator) = [] :=
  List.dropWhile_eq_nil_iff.mpr (ne_separator absent)

end Cut

/-- A text and its lines. A line end is a line feed with the carriage return before it, if there is
one, and only the last line may lack it. -/
inductive Lines : List Char → List (List Char) → Prop
  | none : Lines [] []
  | unended (nonempty : line ≠ []) (feedless : '\n' ∉ line) : Lines line [line]
  | fed (feedless : '\n' ∉ line) (plain : line.getLast? ≠ some '\r') (later : Lines rest others) :
      Lines (line ++ '\n' :: rest) (line :: others)
  | returned (feedless : '\n' ∉ line) (later : Lines rest others) :
      Lines (line ++ '\r' :: '\n' :: rest) (line :: others)

theorem lines_feed {line : List Char} (feedless : '\n' ∉ line) (rest : List Char) :
    lines (line ++ '\n' :: rest) = dropReturn line :: lines rest := by
  have dropped := dropWhile_separator feedless rest
  rw [lines]
  split
  · rename_i none
    exact absurd (dropped.symm.trans none) (List.cons_ne_nil _ _)
  · rename_i found
    obtain ⟨-, rfl⟩ := List.cons.inj (dropped.symm.trans found)
    rw [takeWhile_separator feedless]

theorem lines_feedless {line : List Char} (nonempty : line ≠ []) (feedless : '\n' ∉ line) :
    lines line = [line] := by
  have dropped := dropWhile_separatorless feedless
  rw [lines]
  split
  · simp [nonempty]
  · rename_i found
    exact absurd (found.symm.trans dropped) (List.cons_ne_nil _ _)

theorem lines_nil : lines [] = [] := by
  rw [lines]; rfl

theorem dropReturn_of_plain {line : List Char} (plain : line.getLast? ≠ some '\r') :
    dropReturn line = line := if_neg plain

theorem dropReturn_concat (line : List Char) : dropReturn (line ++ ['\r']) = line := by
  simp [dropReturn]

theorem Lines.lines_eq {text : List Char} {found : List (List Char)} (layout : Lines text found) :
    lines text = found := by
  induction layout with
  | none => exact lines_nil
  | unended nonempty feedless => exact lines_feedless nonempty feedless
  | fed feedless plain _ ih => rw [lines_feed feedless, dropReturn_of_plain plain, ih]
  | @returned line rest others feedless _ ih =>
    have feedless : '\n' ∉ line ++ ['\r'] := by simpa using feedless
    rw [List.append_cons, lines_feed feedless, dropReturn_concat, ih]

private theorem Lines.ended {line rest : List Char} {others : List (List Char)}
    (feedless : '\n' ∉ line) (later : Lines rest others) :
    Lines (line ++ '\n' :: rest) (dropReturn line :: others) := by
  by_cases plain : line.getLast? = some '\r'
  · obtain ⟨front, rfl⟩ := List.getLast?_eq_some_iff.mp plain
    have feedless : '\n' ∉ front := fun member => feedless (List.mem_append_left _ member)
    rw [dropReturn_concat, List.append_assoc]
    exact .returned feedless later
  · rw [dropReturn_of_plain plain]
    exact .fed feedless plain later

/-- A text is a line without a line feed, or such a line, a line feed and a text. -/
@[elab_as_elim]
private theorem feed_induction {motive : List Char → Prop}
    (feedless : ∀ text, '\n' ∉ text → motive text)
    (fed : ∀ line rest, '\n' ∉ line → motive rest → motive (line ++ '\n' :: rest))
    (text : List Char) : motive text := by
  by_cases member : '\n' ∈ text
  · obtain ⟨line, rest, same, absent⟩ := List.eq_append_cons_of_mem member
    have shorter : rest.length < text.length := by
      simp only [same, List.length_append, List.length_cons]
      omega
    rw [same]
    exact fed line rest absent (feed_induction feedless fed rest)
  · exact feedless text member
termination_by text.length

theorem lines_layout (text : List Char) : Lines text (lines text) := by
  induction text using feed_induction with
  | feedless text feedless =>
    by_cases empty : text = []
    · rw [empty, lines_nil]
      exact .none
    · rw [lines_feedless empty feedless]
      exact .unended empty feedless
  | fed line rest feedless ih =>
    rw [lines_feed feedless]
    exact .ended feedless ih

theorem lines_append_feed (front back : List Char) :
    lines (front ++ '\n' :: back) = lines (front ++ ['\n']) ++ lines back := by
  induction front using feed_induction with
  | feedless front feedless =>
    rw [lines_feed feedless, lines_feed feedless, lines_nil, List.singleton_append]
  | fed line rest feedless ih =>
    rw [List.append_assoc, List.append_assoc, List.cons_append, List.cons_append,
      lines_feed feedless, lines_feed feedless, ih, List.cons_append]

/-- A text, the blanks at its ends, and the core between them. -/
def Trimmed (text core : List Char) : Prop :=
  ∃ before after, text = before ++ core ++ after ∧ (∀ c ∈ before, isBlank c) ∧
    (∀ c ∈ after, isBlank c) ∧ (∀ c ∈ core.head?, ¬isBlank c) ∧ ∀ c ∈ core.getLast?, ¬isBlank c

/-- A text and its fields: words free of blanks, with blanks around and between them. -/
inductive Fields : List Char → List (List Char) → Prop
  | none (blank : ∀ c ∈ text, isBlank c) : Fields text []
  | word (blank : ∀ c ∈ before, isBlank c) (nonempty : word ≠ []) (solid : ∀ c ∈ word, ¬isBlank c)
      (apart : ∀ c ∈ rest.head?, isBlank c) (later : Fields rest words) :
      Fields (before ++ word ++ rest) (word :: words)

private theorem trim_of_core {core : List Char} (leading : ∀ c ∈ core.head?, ¬isBlank c)
    (trailing : ∀ c ∈ core.getLast?, ¬isBlank c) {before after : List Char}
    (blankBefore : ∀ c ∈ before, isBlank c) (blankAfter : ∀ c ∈ after, isBlank c) :
    trim (before ++ core ++ after) = core := by
  cases core with
  | nil =>
    have blank : (before ++ after).dropWhile isBlank = [] :=
      List.dropWhile_eq_nil_iff.mpr (List.forall_mem_append.mpr ⟨blankBefore, blankAfter⟩)
    simp [trim, blank]
  | cons c rest =>
    have front : (before ++ (c :: rest) ++ after).dropWhile isBlank = (c :: rest) ++ after := by
      rw [List.append_assoc]
      exact dropWhile_cut blankBefore (by simpa using leading)
    have back : ((c :: rest) ++ after).reverse.dropWhile isBlank = (c :: rest).reverse := by
      rw [List.reverse_append]
      refine dropWhile_cut (by simpa using blankAfter) ?_
      rw [List.head?_reverse]
      exact trailing
    rw [trim, front, back, List.reverse_reverse]

theorem trimmed_trim (text : List Char) : Trimmed text (trim text) := by
  let solid := text.dropWhile isBlank
  let blanks := solid.reverse.takeWhile isBlank
  have parts : trim text ++ blanks.reverse = solid := by
    have parts := List.takeWhile_append_dropWhile (p := isBlank) (l := solid.reverse)
    rw [trim, ← List.reverse_append, parts, List.reverse_reverse]
  refine ⟨text.takeWhile isBlank, blanks.reverse, ?_, kept_takeWhile, ?_, ?_, ?_⟩
  · rw [List.append_assoc, parts, List.takeWhile_append_dropWhile]
  · intro c member
    exact kept_takeWhile c (List.mem_reverse.mp member)
  · intro c first
    have leads : c ∈ solid.head? := by
      rw [← parts, List.head?_append, Option.mem_def.mp first]
      rfl
    exact stopped_dropWhile c leads
  · intro c last
    rw [trim, List.getLast?_reverse] at last
    exact stopped_dropWhile c last

theorem trim_eq_iff {text core : List Char} : trim text = core ↔ Trimmed text core := by
  constructor
  · intro same
    exact same ▸ trimmed_trim text
  · rintro ⟨before, after, rfl, blankBefore, blankAfter, leading, trailing⟩
    exact trim_of_core leading trailing blankBefore blankAfter

private theorem solid_iff {c : Char} : (!isBlank c) = true ↔ ¬isBlank c := by simp

private theorem fields_blank {text : List Char} (blank : ∀ c ∈ text, isBlank c) :
    fields text = [] := by
  have none := List.dropWhile_eq_nil_iff.mpr blank
  rw [fields]
  split
  · rfl
  · rename_i found
    exact absurd (found.symm.trans none) (List.cons_ne_nil _ _)

private theorem fields_solid {text rest : List Char} {first : Char}
    (found : text.dropWhile isBlank = first :: rest) :
    fields text = (first :: rest.takeWhile fun d => !isBlank d) ::
      fields (rest.dropWhile fun d => !isBlank d) := by
  rw [fields]
  split
  · rename_i none
    exact absurd (found.symm.trans none) (List.cons_ne_nil _ _)
  · rename_i same
    obtain ⟨rfl, rfl⟩ := List.cons.inj (found.symm.trans same)
    rfl

theorem Fields.fields_eq {text : List Char} {words : List (List Char)}
    (layout : Fields text words) : fields text = words := by
  induction layout with
  | none blank => exact fields_blank blank
  | @word before word rest words blank nonempty solid apart _ ih =>
    obtain ⟨first, more, rfl⟩ := List.exists_cons_of_ne_nil nonempty
    obtain ⟨firstSolid, moreSolid⟩ := List.forall_mem_cons.mp solid
    have found : (before ++ (first :: more) ++ rest).dropWhile isBlank =
        first :: (more ++ rest) := by
      rw [List.append_assoc]
      exact dropWhile_cut blank (by simpa using firstSolid)
    have kept : ∀ c ∈ more, (!isBlank c) = true := fun c member => solid_iff.mpr (moreSolid c member)
    have stopped : ∀ c ∈ rest.head?, ¬(!isBlank c) = true := by simpa using apart
    rw [fields_solid found, takeWhile_cut kept stopped, dropWhile_cut kept stopped, ih]

theorem fields_layout (text : List Char) : Fields text (fields text) := by
  induction text using fields.induct with
  | case1 text stop =>
    have blank := List.dropWhile_eq_nil_iff.mp stop
    rw [fields_blank blank]
    exact .none blank
  | case2 text first rest stop ih =>
    let more := rest.takeWhile fun d => !isBlank d
    have parts : text = text.takeWhile isBlank ++ (first :: more) ++
        rest.dropWhile fun d => !isBlank d := by
      rw [List.append_assoc, List.cons_append, List.takeWhile_append_dropWhile, ← stop,
        List.takeWhile_append_dropWhile]
    have heads : first ∈ (text.dropWhile isBlank).head? := by
      rw [stop]
      rfl
    have leads : ¬isBlank first := stopped_dropWhile first heads
    have solid : ∀ c ∈ first :: more, ¬isBlank c := by
      refine List.forall_mem_cons.mpr ⟨leads, ?_⟩
      intro c member
      exact solid_iff.mp (kept_takeWhile c member)
    have apart : ∀ c ∈ (rest.dropWhile fun d => !isBlank d).head?, isBlank c := by
      intro c head
      simpa using stopped_dropWhile c head
    have blank : ∀ c ∈ text.takeWhile isBlank, isBlank c := kept_takeWhile
    have layout := Fields.word blank (List.cons_ne_nil first more) solid apart ih
    rw [fields_solid stop]
    rwa [← parts] at layout

theorem fields_eq_iff {text : List Char} {words : List (List Char)} :
    fields text = words ↔ Fields text words :=
  ⟨fun same => same ▸ fields_layout text, Fields.fields_eq⟩

theorem Fields.append_blank {text : List Char} {words : List (List Char)}
    (layout : Fields text words) {c : Char} (blank : isBlank c) : Fields (text ++ [c]) words := by
  induction layout with
  | none others =>
    refine .none ?_
    intro d member
    rcases List.mem_append.mp member with before | here
    · exact others d before
    · exact List.mem_singleton.mp here ▸ blank
  | @word before word rest words others nonempty solid apart _ ih =>
    rw [List.append_assoc]
    refine .word others nonempty solid ?_ ih
    intro d first
    cases rest with
    | nil => exact Option.some.inj first ▸ blank
    | cons e more => exact apart d first

theorem fields_append_blank (text : List Char) {c : Char} (blank : isBlank c) :
    fields (text ++ [c]) = fields text :=
  ((fields_layout text).append_blank blank).fields_eq

end WorkerVitals.Text
