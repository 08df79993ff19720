import WorkerVitals.Proofs.Lookup
import WorkerVitals.Proofs.Network.Table
import WorkerVitals.Proofs.Text.Writing

namespace WorkerVitals.Network.Table

/-- Blanks within a line. -/
structure Gap where
  chars : List Char
  blank : ∀ c ∈ chars, Text.isBlank c
  feedless : '\n' ∉ chars

/-- A counter in a row, with the blanks before it and some leading zeros. -/
structure Cell where
  gap : Gap
  zeros : Nat
  count : UInt64

def Cell.numeral (cell : Cell) : List Char :=
  List.replicate cell.zeros '0' ++ Text.decimal cell.count.toNat

def Cell.written (cell : Cell) : List Char × List Char := (cell.gap.chars, cell.numeral)

/-- A row as it is laid out: a name between blanks, and counters that stand apart. -/
structure Listing where
  name : String
  before : Gap
  after : Gap
  cells : List Cell
  trailing : Gap
  colonless : ':' ∉ name.toList
  feedless : '\n' ∉ name.toList
  leading : ∀ c ∈ name.toList.head?, ¬Text.isBlank c
  closing : ∀ c ∈ name.toList.getLast?, ¬Text.isBlank c
  wide : 9 ≤ cells.length
  apart : ∀ cell ∈ cells.tail, cell.gap.chars ≠ []

namespace Listing

def numerals (listing : Listing) : List (List Char) := listing.cells.map Cell.numeral

def line (listing : Listing) : List Char :=
  listing.before.chars ++ listing.name.toList ++ listing.after.chars ++ ':' ::
    (Text.writeWords (listing.cells.map Cell.written) ++ listing.trailing.chars)

/-- The first and the ninth counter. -/
def counts (listing : Listing) : Counters where
  received := (listing.cells.get ⟨0, Nat.lt_of_lt_of_le (by decide) listing.wide⟩).count
  transmitted := (listing.cells.get ⟨8, listing.wide⟩).count

end Listing

/-- A line of a table below its header. -/
inductive Entry where
  | row (listing : Listing)
  /-- A line without a colon, which may be blank. -/
  | filler (line : List Char) (colonless : ':' ∉ line) (feedless : '\n' ∉ line)

namespace Entry

def line : Entry → List Char
  | .row listing => listing.line
  | .filler line .. => line

def listing? : Entry → Option Listing
  | .row listing => some listing
  | .filler .. => none

end Entry

structure Layout where
  first : List Char × Text.LineEnd
  second : List Char × Text.LineEnd
  firstFeedless : '\n' ∉ first.1
  secondFeedless : '\n' ∉ second.1
  entries : List (Entry × Text.LineEnd)
  /-- The last line has its end. -/
  closed : Bool

namespace Layout

def lines (layout : Layout) : List (List Char × Text.LineEnd) :=
  layout.first :: layout.second :: layout.entries.map fun entry => (entry.1.line, entry.2)

def text (layout : Layout) : String := .ofList (Text.writeLines layout.closed layout.lines)

def listings (layout : Layout) : List Listing :=
  layout.entries.filterMap fun entry => entry.1.listing?

end Layout

section Match

variable {interface label rest line : List Char}

theorem matchRow?_colon (absent : ':' ∉ label) :
    matchRow? interface (label ++ ':' :: rest) =
      if Text.trim label = interface then some (Text.fields rest) else none := by
  simp [matchRow?, splitColon?_eq_some_iff.mpr ⟨rfl, absent⟩]

theorem matchRow?_colonless (absent : ':' ∉ line) : matchRow? interface line = none := by
  simp [matchRow?, splitColon?, Text.dropWhile_separatorless absent]

theorem matchRow?_dropReturn (interface line : List Char) :
    matchRow? interface (Text.dropReturn line) = matchRow? interface line := by
  by_cases returned : line.getLast? = some '\r'
  · obtain ⟨front, rfl⟩ := List.getLast?_eq_some_iff.mp returned
    rw [Text.dropReturn_concat]
    by_cases colon : ':' ∈ front
    · obtain ⟨label, rest, rfl, absent⟩ := List.eq_append_cons_of_mem colon
      have blank : Text.isBlank '\r' := by decide
      rw [List.append_assoc, List.cons_append, matchRow?_colon absent, matchRow?_colon absent,
        Text.fields_append_blank rest blank]
    · have absent : ':' ∉ front ++ ['\r'] := by simpa using colon
      rw [matchRow?_colonless colon, matchRow?_colonless absent]
  · rw [Text.dropReturn_of_plain returned]

end Match

theorem Gap.colonless (gap : Gap) : ':' ∉ gap.chars := by
  intro member
  exact absurd (gap.blank ':' member) (by decide)

namespace Cell

variable (cell : Cell)

theorem written_solid : cell.written.2 ≠ [] ∧ ∀ c ∈ cell.written.2, ¬Text.isBlank c := by
  constructor
  · exact fun empty => Text.decimal_ne_nil _ (List.append_eq_nil_iff.mp empty).2
  · exact fun c member => Text.isDigit_not_blank (Text.isDigit_zeros_decimal member)

theorem written_feedless : '\n' ∉ cell.written.1 ++ cell.written.2 := by
  intro member
  rcases List.mem_append.mp member with gap | digit
  · exact cell.gap.feedless gap
  · exact absurd (Text.isDigit_zeros_decimal digit) (by decide)

end Cell

namespace Listing

variable (listing : Listing)

theorem line_feedless : '\n' ∉ listing.line := by
  intro member
  simp only [line, List.mem_append, List.mem_cons] at member
  rcases member with ((before | name) | after) | colon | words | trailing
  · exact listing.before.feedless before
  · exact listing.feedless name
  · exact listing.after.feedless after
  · cases colon
  · obtain ⟨written, listed, there⟩ := List.mem_flatMap.mp words
    obtain ⟨cell, -, rfl⟩ := List.mem_map.mp listed
    exact cell.written_feedless there
  · exact listing.trailing.feedless trailing

theorem label_colonless :
    ':' ∉ listing.before.chars ++ listing.name.toList ++ listing.after.chars := by
  intro member
  rw [List.mem_append, List.mem_append] at member
  rcases member with (before | name) | after
  · exact listing.before.colonless before
  · exact listing.colonless name
  · exact listing.after.colonless after

theorem fields_cells : Text.fields
    (Text.writeWords (listing.cells.map Cell.written) ++ listing.trailing.chars) =
      listing.numerals := by
  have blank : ∀ word ∈ listing.cells.map Cell.written, ∀ c ∈ word.1, Text.isBlank c :=
    List.forall_mem_map.mpr fun cell _ => cell.gap.blank
  have solid : ∀ word ∈ listing.cells.map Cell.written,
      word.2 ≠ [] ∧ ∀ c ∈ word.2, ¬Text.isBlank c :=
    List.forall_mem_map.mpr fun cell _ => cell.written_solid
  have apart : ∀ word ∈ (listing.cells.map Cell.written).tail, word.1 ≠ [] := by
    rw [← List.map_tail]
    exact List.forall_mem_map.mpr listing.apart
  rw [(Text.fields_writeWords blank solid apart listing.trailing.blank).fields_eq, List.map_map]
  rfl

theorem matchRow?_line (interface : String) :
    matchRow? interface.toList listing.line =
      if interface == listing.name then some listing.numerals else none := by
  have named : Text.trim (listing.before.chars ++ listing.name.toList ++ listing.after.chars) =
      listing.name.toList :=
    Text.trim_eq_iff.mpr ⟨_, _, rfl, listing.before.blank, listing.after.blank, listing.leading,
      listing.closing⟩
  have same : listing.name.toList = interface.toList ↔ (interface == listing.name) = true := by
    rw [String.toList_inj, beq_iff_eq, eq_comm]
  rw [line, matchRow?_colon listing.label_colonless, named, fields_cells]
  simp only [same]

theorem getElem?_numerals {place : Nat} (within : place < listing.cells.length) :
    listing.numerals[place]? = some (listing.cells.get ⟨place, within⟩).numeral := by
  rw [numerals, List.getElem?_map, List.getElem?_eq_getElem within]
  rfl

theorem read_numerals (path : String) :
    receivedColumn.read path listing.numerals = .ok listing.counts.received ∧
      transmittedColumn.read path listing.numerals = .ok listing.counts.transmitted := by
  constructor
  · exact Column.read_numeral (listing.getElem?_numerals _) (Text.denotes_zeros_decimal ..)
  · exact Column.read_numeral (listing.getElem?_numerals _) (Text.denotes_zeros_decimal ..)

end Listing

theorem Entry.line_feedless (entry : Entry) : '\n' ∉ entry.line := by
  cases entry with
  | row listing => exact listing.line_feedless
  | filler line colonless feedless => exact feedless

namespace Layout

variable (layout : Layout)

theorem lines_feedless : ∀ line ∈ layout.lines, '\n' ∉ line.1 := by
  intro line member
  simp only [lines, List.mem_cons, List.mem_map] at member
  rcases member with rfl | rfl | ⟨entry, -, rfl⟩
  · exact layout.firstFeedless
  · exact layout.secondFeedless
  · exact entry.1.line_feedless

theorem findSome?_matchRow? (entries : List (Entry × Text.LineEnd)) (interface : String) :
    (entries.findSome? fun entry => matchRow? interface.toList entry.1.line) =
      ((entries.filterMap fun entry => entry.1.listing?).map fun listing =>
        (listing.name, listing.numerals)).lookup interface := by
  induction entries with
  | nil => rfl
  | cons entry rest ih =>
    obtain ⟨entry, ending⟩ := entry
    rw [List.findSome?_cons, ih, List.filterMap_cons]
    cases entry with
    | row listing =>
      simp only [Entry.line, Entry.listing?, listing.matchRow?_line, List.map_cons,
        List.lookup_cons]
      cases interface == listing.name <;> rfl
    | filler line colonless feedless =>
      simp only [Entry.line, Entry.listing?, matchRow?_colonless colonless]

/-- The rows of a table are searched as a list of names with numerals. -/
theorem findRow?_text (interface : String) :
    findRow? layout.text.toList interface.toList =
      (layout.listings.map fun listing => (listing.name, listing.numerals)).lookup interface := by
  have returnless := matchRow?_dropReturn interface.toList
  have empty : matchRow? interface.toList [] = none := rfl
  have searched := Text.findSome?_lines_writeLines returnless empty layout.lines_feedless
    layout.closed headerLines
  rw [findRow?, text, String.toList_ofList, searched, lines, headerLines, List.drop_succ_cons,
    List.drop_succ_cons, List.drop_zero, List.findSome?_map]
  exact findSome?_matchRow? layout.entries interface

end Layout

/-- However a table is laid out, each interface listed in it is read with its own first and ninth
counter, and every other name is not found. -/
theorem counters_rendered (layout : Layout)
    (distinct : (layout.listings.map Listing.name).Nodup) (path : String) :
    (∀ listing ∈ layout.listings, counters layout.text listing.name path = .ok listing.counts) ∧
      ∀ name ∉ layout.listings.map Listing.name,
        counters layout.text name path = .error (.interfaceNotFound name path) := by
  have names : (layout.listings.map fun listing => (listing.name, listing.numerals)).map Prod.fst =
      layout.listings.map Listing.name := by
    rw [List.map_map]
    rfl
  constructor
  · intro listing member
    have found : findRow? layout.text.toList listing.name.toList = some listing.numerals := by
      rw [layout.findRow?_text, lookup_eq_some_iff (names ▸ distinct)]
      exact List.mem_map.mpr ⟨listing, member, rfl⟩
    obtain ⟨received, transmitted⟩ := listing.read_numerals path
    rw [counters_of_row found, received, transmitted]
    rfl
  · intro name absent
    have unfound : findRow? layout.text.toList name.toList = none := by
      rw [layout.findRow?_text, lookup_eq_none_iff, names]
      exact absent
    exact counters_of_rowless unfound

/-- A row of nine counters, of which the first has leading zeros and the last is as large as can be. -/
def spaced (name : String) (colonless : ':' ∉ name.toList) (feedless : '\n' ∉ name.toList)
    (leading : ∀ c ∈ name.toList.head?, ¬Text.isBlank c)
    (closing : ∀ c ∈ name.toList.getLast?, ¬Text.isBlank c) : Listing :=
  let none : Gap := ⟨[], List.forall_mem_nil _, by decide⟩
  let space : Gap := ⟨[' '], List.forall_mem_singleton.mpr (by decide), by decide⟩
  { name
    before := space
    after := none
    cells := ⟨none, 2, 7⟩ :: (List.replicate 7 ⟨space, 0, 1⟩ ++ [⟨space, 0, 18446744073709551615⟩])
    trailing := none
    colonless
    feedless
    leading
    closing
    wide := by decide
    apart := by decide }

/-- Neither a name that only the header has nor one that extends a listed one is found. -/
theorem counters_rendered_twoRows :
    let lo := spaced "lo" (by decide) (by decide) (by simp; decide) (by simp; decide)
    let lo0 := spaced "lo0" (by decide) (by decide) (by simp; decide) (by simp; decide)
    let layout : Layout :=
      { first := ("eth0: bytes".toList, .feed)
        second := ([], .returned)
        firstFeedless := by decide
        secondFeedless := by decide
        entries := [(.row lo, .returned), (.filler [' '] (by decide) (by decide), .feed),
          (.row lo0, .feed)]
        closed := false }
    layout.text.toList =
        "eth0: bytes\n\r\n lo:007 1 1 1 1 1 1 1 18446744073709551615\r\n \n".toList ++
          " lo0:007 1 1 1 1 1 1 1 18446744073709551615".toList ∧
      (layout.listings.map Listing.name).Nodup ∧
      counters layout.text "lo" "net" = .ok ⟨7, 18446744073709551615⟩ ∧
      counters layout.text "eth0" "net" = .error (.interfaceNotFound "eth0" "net") ∧
      counters layout.text "lo00" "net" = .error (.interfaceNotFound "lo00" "net") := by
  intro lo lo0 layout
  have distinct : (layout.listings.map Listing.name).Nodup := by decide
  obtain ⟨listed, unlisted⟩ := counters_rendered layout distinct "net"
  refine ⟨?_, distinct, listed lo ?_, unlisted "eth0" (by decide), unlisted "lo00" (by decide)⟩
  · rw [Layout.text, String.toList_ofList]
    simp [layout, lo, lo0, spaced, Layout.lines, Listing.line, Entry.line, Text.writeLines,
      Text.LineEnd.chars, Text.writeWords, Cell.written, Cell.numeral, Text.decimal, Text.digitChar]
  · exact List.mem_filterMap.mpr ⟨(.row lo, .returned), List.mem_cons_self, rfl⟩

end WorkerVitals.Network.Table
