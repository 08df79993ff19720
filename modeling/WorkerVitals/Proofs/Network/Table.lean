import WorkerVitals.Network.Table
import WorkerVitals.Proofs.Text.Layout
import WorkerVitals.Proofs.Text.Numeral

namespace WorkerVitals.Network.Table

/-- A row of an interface: its name between blanks, the first colon of the line, and fields. -/
def Row (interface line : List Char) (row : List (List Char)) : Prop :=
  ∃ label rest, line = label ++ ':' :: rest ∧ ':' ∉ label ∧
    Text.Trimmed label interface ∧ Text.Fields rest row

def RowAt (content interface : List Char) (index : Nat) (row : List (List Char)) : Prop :=
  ∃ lines line, Text.Lines content lines ∧ 2 ≤ index ∧ lines[index]? = some line ∧
    Row interface line row

/-- A row of an interface with none above it. -/
def FirstRow (content interface : List Char) (row : List (List Char)) : Prop :=
  ∃ index, RowAt content interface index row ∧
    ∀ earlier < index, ∀ other, ¬RowAt content interface earlier other

/-- What a table says of an interface. Only the first row counts, and its received bytes are
judged before its transmitted ones. -/
inductive Decides (content interface path : String) : Except Fault Counters → Prop
  | absent (rowless : ∀ index row, ¬RowAt content.toList interface.toList index row) :
      Decides content interface path (.error (.interfaceNotFound interface path))
  | empty (first : FirstRow content.toList interface.toList []) :
      Decides content interface path (.error (.fieldUnreadable path "rx_bytes" ""))
  | received (first : FirstRow content.toList interface.toList row) (there : row[0]? = some raw)
      (malformed : ¬Text.IsWord raw) :
      Decides content interface path (.error (.fieldUnreadable path "rx_bytes" (.ofList raw)))
  | short (first : FirstRow content.toList interface.toList row) (there : row[0]? = some raw)
      (numeral : Text.IsWord raw) (short : row.length < 9) :
      Decides content interface path
        (.error (.fieldUnreadable path "tx_bytes" (.ofList ([' '].intercalate row))))
  | transmitted (first : FirstRow content.toList interface.toList row) (there : row[0]? = some other)
      (numeral : Text.IsWord other) (last : row[8]? = some raw) (malformed : ¬Text.IsWord raw) :
      Decides content interface path (.error (.fieldUnreadable path "tx_bytes" (.ofList raw)))
  | read {counts : Counters} (first : FirstRow content.toList interface.toList row)
      (there : row[0]? = some received) (receives : Text.Denotes received counts.received.toNat)
      (last : row[8]? = some transmitted)
      (transmits : Text.Denotes transmitted counts.transmitted.toNat) :
      Decides content interface path (.ok counts)

section Search

variable {content interface line : List Char} {row : List (List Char)}

theorem splitColon?_eq_some_iff {label rest : List Char} :
    splitColon? line = some (label, rest) ↔ line = label ++ ':' :: rest ∧ ':' ∉ label := by
  constructor
  · intro cut
    by_cases member : ':' ∈ line
    · obtain ⟨front, back, rfl, absent⟩ := List.eq_append_cons_of_mem member
      simp only [splitColon?, Text.dropWhile_separator absent, Text.takeWhile_separator absent,
        Option.some.injEq, Prod.mk.injEq] at cut
      obtain ⟨rfl, rfl⟩ := cut
      exact ⟨rfl, absent⟩
    · simp [splitColon?, Text.dropWhile_separatorless member] at cut
  · rintro ⟨rfl, absent⟩
    simp only [splitColon?, Text.dropWhile_separator absent, Text.takeWhile_separator absent]

theorem matchRow?_eq_some_iff : matchRow? interface line = some row ↔ Row interface line row := by
  constructor
  · intro found
    obtain ⟨⟨label, rest⟩, cut, kept⟩ := Option.bind_eq_some_iff.mp found
    obtain ⟨same, absent⟩ := splitColon?_eq_some_iff.mp cut
    by_cases named : Text.trim label = interface
    · simp only [named, if_true, Option.some.injEq] at kept
      exact ⟨label, rest, same, absent, Text.trim_eq_iff.mp named, Text.fields_eq_iff.mp kept⟩
    · simp [named] at kept
  · rintro ⟨label, rest, same, absent, named, layout⟩
    have cut := splitColon?_eq_some_iff.mpr ⟨same, absent⟩
    simp [matchRow?, cut, Text.trim_eq_iff.mpr named, layout.fields_eq]

theorem rowAt_iff {index : Nat} : RowAt content interface index row ↔
    ∃ after line, index = headerLines + after ∧
      ((Text.lines content).drop headerLines)[after]? = some line ∧
      matchRow? interface line = some row := by
  simp only [List.getElem?_drop, matchRow?_eq_some_iff]
  constructor
  · rintro ⟨lines, line, layout, late, there, found⟩
    obtain ⟨after, rfl⟩ := Nat.exists_eq_add_of_le late
    rw [← layout.lines_eq] at there
    exact ⟨after, line, rfl, there, found⟩
  · rintro ⟨after, line, rfl, there, found⟩
    exact ⟨Text.lines content, line, Text.lines_layout content, Nat.le_add_right .., there, found⟩

theorem findRow?_eq_none_iff :
    findRow? content interface = none ↔ ∀ index row, ¬RowAt content interface index row := by
  rw [findRow?, List.findSome?_eq_none_iff]
  constructor
  · intro unmatched index row found
    obtain ⟨after, line, rfl, there, matched⟩ := rowAt_iff.mp found
    exact absurd (matched.symm.trans (unmatched line (List.mem_of_getElem? there)))
      (Option.some_ne_none _)
  · intro rowless line member
    obtain ⟨after, there⟩ := List.mem_iff_getElem?.mp member
    refine Option.eq_none_iff_forall_ne_some.mpr ?_
    intro row matched
    exact rowless _ row (rowAt_iff.mpr ⟨after, line, rfl, there, matched⟩)

/-- The row that is found is the first one. -/
theorem findRow?_eq_some_iff :
    findRow? content interface = some row ↔ FirstRow content interface row := by
  rw [findRow?, List.findSome?_eq_some_iff]
  constructor
  · rintro ⟨front, line, back, parts, matched, unmatched⟩
    refine ⟨headerLines + front.length,
      rowAt_iff.mpr ⟨front.length, line, rfl, by simp [parts], matched⟩, ?_⟩
    intro earlier before other found
    obtain ⟨after, line, rfl, there, matched⟩ := rowAt_iff.mp found
    rw [parts, List.getElem?_append_left (by omega)] at there
    exact absurd (matched.symm.trans (unmatched line (List.mem_of_getElem? there)))
      (Option.some_ne_none _)
  · rintro ⟨index, found, none⟩
    obtain ⟨after, line, rfl, there, matched⟩ := rowAt_iff.mp found
    obtain ⟨inside, rfl⟩ := List.getElem?_eq_some_iff.mp there
    let rows := (Text.lines content).drop headerLines
    have parts : rows = rows.take after ++ rows[after] :: rows.drop (after + 1) := by
      rw [← List.drop_eq_getElem_cons inside, List.take_append_drop]
    refine ⟨_, _, _, parts, matched, ?_⟩
    intro other member
    obtain ⟨earlier, before, rfl⟩ := List.mem_take_iff_getElem.mp member
    refine Option.eq_none_iff_forall_ne_some.mpr ?_
    intro row matched
    have there := List.getElem?_eq_getElem (Nat.lt_of_lt_of_le before (Nat.min_le_right ..))
    refine none (headerLines + earlier) (by omega) row ?_
    exact rowAt_iff.mpr ⟨earlier, _, rfl, there, matched⟩

end Search

section Read

variable {content interface path : String} {column : Column} {row : List (List Char)}
  {raw : List Char}

theorem Column.read_short (short : row.length ≤ column.position) : column.read path row =
    .error (.fieldUnreadable path column.name (.ofList ([' '].intercalate row))) := by
  rw [Column.read, List.getElem?_eq_none short]

theorem Column.read_malformed (there : row[column.position]? = some raw)
    (malformed : ¬Text.IsWord raw) :
    column.read path row = .error (.fieldUnreadable path column.name (.ofList raw)) := by
  simp only [Column.read, there, Text.word?_eq_none_iff.mpr malformed]

theorem Column.read_numeral {count : UInt64} (there : row[column.position]? = some raw)
    (numeral : Text.Denotes raw count.toNat) : column.read path row = .ok count := by
  simp only [Column.read, there, Text.word?_eq_some_iff.mpr numeral]

theorem counters_of_rowless (rowless : findRow? content.toList interface.toList = none) :
    counters content interface path = .error (.interfaceNotFound interface path) := by
  rw [counters, rowless]

theorem counters_of_row (found : findRow? content.toList interface.toList = some row) :
    counters content interface path = (do
      let received ← receivedColumn.read path row
      let transmitted ← transmittedColumn.read path row
      return ⟨received, transmitted⟩) := by
  rw [counters, found]

/-- A verdict of the grammar is what is read. -/
theorem Decides.counters_eq {result : Except Fault Counters}
    (verdict : Decides content interface path result) :
    counters content interface path = result := by
  cases verdict with
  | absent rowless => exact counters_of_rowless (findRow?_eq_none_iff.mpr rowless)
  | empty first =>
    rw [counters_of_row (findRow?_eq_some_iff.mpr first), Column.read_short (Nat.zero_le _)]
    rfl
  | received first there malformed =>
    rw [counters_of_row (findRow?_eq_some_iff.mpr first), Column.read_malformed there malformed]
    rfl
  | short first there numeral short =>
    obtain ⟨count, denotes⟩ := numeral.exists_count
    rw [counters_of_row (findRow?_eq_some_iff.mpr first), Column.read_numeral there denotes,
      Column.read_short (Nat.le_of_lt_succ short)]
    rfl
  | transmitted first there numeral last malformed =>
    obtain ⟨count, denotes⟩ := numeral.exists_count
    rw [counters_of_row (findRow?_eq_some_iff.mpr first), Column.read_numeral there denotes,
      Column.read_malformed last malformed]
    rfl
  | read first there receives last transmits =>
    rw [counters_of_row (findRow?_eq_some_iff.mpr first), Column.read_numeral there receives,
      Column.read_numeral last transmits]
    rfl

/-- The grammar has a verdict on every text. -/
theorem exists_decides (content interface path : String) :
    ∃ result, Decides content interface path result := by
  cases found : findRow? content.toList interface.toList with
  | none => exact ⟨_, .absent (findRow?_eq_none_iff.mp found)⟩
  | some row =>
    have first := findRow?_eq_some_iff.mp found
    rcases row with _ | ⟨raw, others⟩
    · exact ⟨_, .empty first⟩
    · by_cases numeral : Text.IsWord raw
      · cases last : (raw :: others)[8]? with
        | none =>
          exact ⟨_, .short first rfl numeral
            (Nat.lt_succ_of_le (List.getElem?_eq_none_iff.mp last))⟩
        | some other =>
          by_cases also : Text.IsWord other
          · obtain ⟨received, receives⟩ := numeral.exists_count
            obtain ⟨transmitted, transmits⟩ := also.exists_count
            exact ⟨.ok ⟨received, transmitted⟩, .read first rfl receives last transmits⟩
          · exact ⟨_, .transmitted first rfl numeral last also⟩
      · exact ⟨_, .received first rfl numeral⟩

theorem counters_eq_iff {result : Except Fault Counters} :
    counters content interface path = result ↔ Decides content interface path result := by
  constructor
  · rintro rfl
    obtain ⟨result, verdict⟩ := exists_decides content interface path
    exact verdict.counters_eq ▸ verdict
  · exact Decides.counters_eq

/-- A name with a colon in it, or with a blank at an end, has no row in any table. -/
theorem findRow?_of_unnamable {content interface : List Char}
    (unnamable : ':' ∈ interface ∨ (∃ c ∈ interface.head?, Text.isBlank c) ∨
      ∃ c ∈ interface.getLast?, Text.isBlank c) : findRow? content interface = none := by
  refine findRow?_eq_none_iff.mpr ?_
  rintro index row ⟨_, _, _, _, _, label, rest, _, absent, trimmed, _⟩
  obtain ⟨before, after, rfl, _, _, leading, trailing⟩ := trimmed
  rcases unnamable with colon | ⟨c, first, blank⟩ | ⟨c, last, blank⟩
  · exact absent (List.mem_append_left _ (List.mem_append_right _ colon))
  · exact leading c first blank
  · exact trailing c last blank

theorem findRow?_append_feed {content interface : List Char} {row : List (List Char)}
    (found : findRow? (content ++ ['\n']) interface = some row) (more : List Char) :
    findRow? (content ++ '\n' :: more) interface = some row := by
  rw [findRow?] at found ⊢
  rw [Text.lines_append_feed, List.drop_append, List.findSome?_append, found, Option.some_or]

/-- The grammar is exactly what is read from a table. No name with a colon or an outer blank is ever
found, and no text after the line that decides changes the verdict. -/
theorem counters_decide_grammar (content interface path : String) :
    (∀ result, counters content interface path = result ↔
      Decides content interface path result) ∧
    (':' ∈ interface.toList ∨ (∃ c ∈ interface.toList.head?, Text.isBlank c) ∨
        (∃ c ∈ interface.toList.getLast?, Text.isBlank c) →
      counters content interface path = .error (.interfaceNotFound interface path)) ∧
    (counters (content ++ "\n") interface path ≠ .error (.interfaceNotFound interface path) →
      ∀ more, counters (content ++ "\n" ++ more) interface path =
        counters (content ++ "\n") interface path) := by
  refine ⟨fun result => counters_eq_iff, ?_, ?_⟩
  · intro unnamable
    exact counters_of_rowless (findRow?_of_unnamable unnamable)
  · intro decided more
    have feed : (content ++ "\n").toList = content.toList ++ ['\n'] := String.toList_append ..
    have whole : (content ++ "\n" ++ more).toList = content.toList ++ '\n' :: more.toList := by
      rw [String.toList_append, feed, List.append_assoc, List.singleton_append]
    cases found : findRow? (content ++ "\n").toList interface.toList with
    | none => exact absurd (counters_of_rowless found) decided
    | some row =>
      have kept : findRow? (content ++ "\n" ++ more).toList interface.toList = some row := by
        rw [feed] at found
        rw [whole]
        exact findRow?_append_feed found more.toList
      rw [counters_of_row kept, counters_of_row found]

/-- A row with a malformed number decides, whatever well-formed row comes after it. -/
theorem counters_decide_grammar_malformed :
    counters "one\ntwo\neth0: 1x 2\neth0: 1 2 3 4 5 6 7 8 9" "eth0" "net" =
        .error (.fieldUnreadable "net" "rx_bytes" "1x") ∧
      counters "one\ntwo\na:b: 1 2" "a:b" "net" = .error (.interfaceNotFound "a:b" "net") := by
  have verdict : counters "one\ntwo\neth0: 1x 2\n" "eth0" "net" =
      .error (.fieldUnreadable "net" "rx_bytes" "1x") := by cbv
  obtain ⟨-, -, kept⟩ := counters_decide_grammar "one\ntwo\neth0: 1x 2" "eth0" "net"
  obtain ⟨-, absent, -⟩ := counters_decide_grammar "one\ntwo\na:b: 1 2" "a:b" "net"
  refine ⟨?_, absent (.inl (by decide))⟩
  rw [← verdict]
  refine kept ?_ "eth0: 1 2 3 4 5 6 7 8 9"
  intro unfound
  cases verdict.symm.trans unfound

end Read

end WorkerVitals.Network.Table
