import Mathlib.Data.List.TakeWhile
import WorkerVitals.Proofs.Json.Quoting
import WorkerVitals.Proofs.Text.Numeral

namespace WorkerVitals.Json

/-- Nothing, or a text that begins with white space or a mark that stands after names and values. -/
inductive Delimited : List Char → Prop where
  | finish : Delimited []
  | space (rest : List Char) : Delimited (' ' :: rest)
  | tab (rest : List Char) : Delimited ('\t' :: rest)
  | newline (rest : List Char) : Delimited ('\n' :: rest)
  | carriage (rest : List Char) : Delimited ('\r' :: rest)
  | comma (rest : List Char) : Delimited (',' :: rest)
  | colon (rest : List Char) : Delimited (':' :: rest)
  | closeList (rest : List Char) : Delimited (']' :: rest)
  | closeObject (rest : List Char) : Delimited ('\x7d' :: rest)

/-- A text has some tokens, whatever delimited text follows. -/
def Spells (text : List Char) (spelled : List Token) : Prop :=
  ∀ rest, Delimited rest → tokens (text ++ rest) = spelled ++ tokens rest

section Numerals

variable {rest : List Char} (delimited : Delimited rest)
include delimited

theorem takeDigits_append (text : List Char) : takeDigits (text ++ rest) = takeDigits text := by
  induction text with
  | nil => cases delimited <;> rfl
  | cons c text ih => by_cases digit : Text.isDigit c <;> simp_all [takeDigits]

theorem dropDigits_append (text : List Char) :
    dropDigits (text ++ rest) = dropDigits text ++ rest := by
  induction text with
  | nil => cases delimited <;> rfl
  | cons c text ih => by_cases digit : Text.isDigit c <;> simp_all [dropDigits]

theorem exponentSign_append (text : List Char) :
    exponentSign (text ++ rest) = ((exponentSign text).1, (exponentSign text).2 ++ rest) := by
  cases text with
  | nil => cases delimited <;> rfl
  | cons c text =>
    rw [List.cons_append]
    by_cases minus : c = '-'
    · subst minus; rfl
    · by_cases plus : c = '+'
      · subst plus; rfl
      · simp [exponentSign, minus, plus]

theorem Numeral.scanExponent_append {numeral found : Numeral} {text after : List Char}
    (scanned : numeral.scanExponent text = .found found after) :
    numeral.scanExponent (text ++ rest) = .found found (after ++ rest) := by
  cases text with
  | nil =>
    cases scanned
    cases delimited <;> rfl
  | cons mark text =>
    simp only [scanExponent, List.cons_append, exponentSign_append delimited,
      takeDigits_append delimited, dropDigits_append delimited] at scanned ⊢
    split at scanned
    · rename_i exponent
      rw [if_pos exponent]
      split at scanned
      · cases scanned
      · rename_i digits
        rw [if_neg digits]
        cases scanned
        rfl
    · rename_i plain
      rw [if_neg plain]
      cases scanned
      rfl

theorem Numeral.scanFraction_append {numeral found : Numeral} {text after : List Char}
    (scanned : numeral.scanFraction text = .found found after) :
    numeral.scanFraction (text ++ rest) = .found found (after ++ rest) := by
  cases text with
  | nil =>
    cases scanned
    cases delimited <;> rfl
  | cons c text =>
    by_cases point : c = '.'
    · subst point
      simp only [scanFraction, List.cons_append, takeDigits_append delimited,
        dropDigits_append delimited] at scanned ⊢
      split at scanned
      · cases scanned
      · rename_i digits
        rw [if_neg digits]
        exact scanExponent_append delimited scanned
    · have plain (tail : List Char) : numeral.scanFraction (c :: tail) =
          numeral.scanExponent (c :: tail) := by simp [scanFraction, point]
      rw [plain] at scanned
      rw [List.cons_append, plain]
      exact scanExponent_append delimited scanned

theorem Numeral.scanWhole_append {negative : Bool} {found : Numeral} {text after : List Char}
    (scanned : scanWhole negative text = .found found after) :
    scanWhole negative (text ++ rest) = .found found (after ++ rest) := by
  unfold scanWhole at scanned ⊢
  rw [takeDigits_append delimited, dropDigits_append delimited]
  split at scanned
  · cases scanned
  · cases scanned
  · rename_i whole none zero
    exact scanFraction_append delimited scanned

/-- A numeral ends where it did when delimited text is put after it. -/
theorem Numeral.scan_append {found : Numeral} {text after : List Char}
    (scanned : scan text = .found found after) :
    scan (text ++ rest) = .found found (after ++ rest) := by
  cases text with
  | nil => cases scanned
  | cons c text =>
    by_cases minus : c = '-'
    · subst minus
      exact scanWhole_append delimited scanned
    · have plain (tail : List Char) : scan (c :: tail) = scanWhole false (c :: tail) := by
        simp [scan, minus]
      rw [plain] at scanned
      rw [List.cons_append, plain]
      exact scanWhole_append delimited scanned

end Numerals

theorem tokens_space {c : Char} (space : isSpace c) (text : List Char) :
    tokens (c :: text) = tokens text := by rw [tokens, if_pos space]

private theorem isSpace_cases {c : Char} (space : isSpace c) :
    c = ' ' ∨ c = '\t' ∨ c = '\n' ∨ c = '\r' := by simpa [isSpace, or_assoc] using space

theorem tokens_numeral {c : Char} (start : c = '-' ∨ Text.isDigit c) {text after : List Char}
    {numeral : Numeral} (scanned : Numeral.scan (c :: text) = .found numeral after) :
    tokens (c :: text) = .number numeral :: tokens after := by
  have solid : ¬isSpace c := by
    intro space
    revert start
    rcases isSpace_cases space with rfl | rfl | rfl | rfl <;> decide
  have unquoted : ¬c = '"' := by
    rintro rfl
    revert start
    decide
  rw [tokens, if_neg solid, if_neg unquoted, if_pos start]
  split
  · rename_i same
    cases scanned.symm.trans same
    rfl
  · rename_i same
    cases scanned.symm.trans same

theorem tokens_mark {c : Char} {token : Token} (mark : punctuation? c = some token)
    (rest : List Char) : tokens (c :: rest) = token :: tokens rest := by
  have other : ¬isSpace c ∧ ¬c = '"' ∧ ¬(c = '-' ∨ Text.isDigit c) := by
    unfold punctuation? at mark
    split at mark
    -- All marks are closed characters; of any other character the hypothesis is false.
    any_goals decide
    cases mark
  rw [tokens, if_neg other.1, if_neg other.2.1, if_neg other.2.2, mark]

theorem tokens_word {c : Char} {word : List Char} {token : Token}
    (begins : keyword? c = some (word, token)) (rest : List Char) :
    tokens (c :: (word ++ rest)) = token :: tokens rest := by
  unfold keyword? at begins
  split at begins <;> cases begins
  all_goals
    rw [tokens, if_neg (by decide), if_neg (by decide), if_neg (by decide)]
    rfl

private theorem textToken_ne_number (content : List Piece) (ending : Ending) (numeral : Numeral) :
    textToken content ending ≠ .number numeral := by
  unfold textToken
  split
  · simp
  · split <;> simp

private theorem ne_number_of_punctuation {c : Char} {token : Token}
    (mark : punctuation? c = some token) (numeral : Numeral) : token ≠ .number numeral := by
  rintro rfl
  unfold punctuation? at mark
  split at mark <;> cases mark

private theorem ne_number_of_keyword {c : Char} {word : List Char} {token : Token}
    (begins : keyword? c = some (word, token)) (numeral : Numeral) : token ≠ .number numeral := by
  rintro rfl
  unfold keyword? at begins
  split at begins <;> cases begins

/-- A text begins with a space, with a numeral, or with a token that is no number. -/
theorem tokens_cons_cases (c : Char) (text : List Char) :
    (isSpace c ∧ tokens (c :: text) = tokens text) ∨
      ((c = '-' ∨ Text.isDigit c) ∧ ∃ numeral after,
        Numeral.scan (c :: text) = .found numeral after ∧
          tokens (c :: text) = .number numeral :: tokens after) ∨
      ∃ token later, tokens (c :: text) = token :: later ∧ ∀ numeral, token ≠ .number numeral := by
  by_cases space : isSpace c
  · exact .inl ⟨space, tokens_space space text⟩
  · by_cases start : c = '-' ∨ Text.isDigit c
    · cases scanned : Numeral.scan (c :: text) with
      | found numeral after =>
        exact .inr (.inl ⟨start, numeral, after, rfl, tokens_numeral start scanned⟩)
      | broken read skip =>
        have unquoted : ¬c = '"' := by
          rintro rfl
          revert start
          decide
        rw [tokens, if_neg space, if_neg unquoted, if_pos start]
        split
        · rename_i found
          cases scanned.symm.trans found
        · exact .inr (.inr ⟨_, _, rfl, by simp⟩)
    · refine .inr (.inr ?_)
      rw [tokens, if_neg space]
      split
      · split <;> exact ⟨_, _, rfl, textToken_ne_number _ _⟩
      · split
        · rename_i mark
          exact ⟨_, _, rfl, ne_number_of_punctuation mark⟩
        · rename_i begins
          split
          · exact ⟨_, _, rfl, ne_number_of_keyword begins⟩
          · exact ⟨_, _, rfl, by simp⟩
        · exact ⟨_, _, rfl, by simp⟩

theorem tokens_append_of_nil {text : List Char} (blank : tokens text = []) (rest : List Char) :
    tokens (text ++ rest) = tokens rest := by
  induction text with
  | nil => rfl
  | cons c text ih =>
    rcases tokens_cons_cases c text with
      ⟨space, same⟩ | ⟨-, numeral, after, -, same⟩ | ⟨token, later, same, -⟩
    · rw [List.cons_append, tokens_space space, ih (same.symm.trans blank)]
    · cases same.symm.trans blank
    · cases same.symm.trans blank

/-- A text that is one number stays that number. -/
theorem spells_number {text : List Char} {numeral : Numeral}
    (one : tokens text = [.number numeral]) : Spells text [.number numeral] := by
  intro rest delimited
  induction text with
  | nil => simp [tokens] at one
  | cons c text ih =>
    rcases tokens_cons_cases c text with
      ⟨space, same⟩ | ⟨start, found, after, scanned, same⟩ | ⟨token, later, same, different⟩
    · rw [List.cons_append, tokens_space space, ih (same.symm.trans one)]
    · obtain ⟨kept, blank⟩ := List.cons.inj (same.symm.trans one)
      have longer := tokens_numeral start (Numeral.scan_append delimited scanned)
      rw [tokens_append_of_nil blank, kept] at longer
      exact longer
    · obtain ⟨kept, -⟩ := List.cons.inj (same.symm.trans one)
      exact absurd kept (different numeral)

theorem spells_writeString (content : String) :
    Spells (writeString content) [.text (.ok content)] :=
  fun rest _ => tokens_writeString content rest

theorem spells_writeNull : Spells writeNull [.null] := fun rest _ => tokens_word rfl rest

def Numeral.ofInt (n : Int) : Numeral := ⟨n < 0, Text.decimal n.natAbs, [], none⟩

theorem Numeral.scanWhole_decimal (negative : Bool) (value : Nat) :
    scanWhole negative (Text.decimal value) =
      .found ⟨negative, Text.decimal value, [], none⟩ [] := by
  have taken : takeDigits (Text.decimal value) = Text.decimal value :=
    List.takeWhile_eq_self_iff.mpr fun _ member => Text.isDigit_decimal member
  have dropped : dropDigits (Text.decimal value) = [] :=
    List.dropWhile_eq_nil_iff.mpr fun _ member => Text.isDigit_decimal member
  unfold scanWhole
  rw [taken, dropped]
  split
  · rename_i none
    exact absurd none (Text.decimal_ne_nil value)
  · rename_i second more zeros
    obtain rfl := Text.decimal_eq_zero_cons zeros
    have single : Text.decimal 0 = ['0'] := by rw [Text.decimal]; rfl
    cases single.symm.trans zeros
  · rfl

theorem spells_writeInt (n : Int) : Spells (writeInt n) [.number (.ofInt n)] := by
  apply spells_number
  unfold writeInt Text.decimalInt Numeral.ofInt
  split
  · rename_i negative
    rw [tokens_numeral (.inl rfl) (Numeral.scanWhole_decimal true n.natAbs), tokens]
    simp [negative]
  · rename_i natural
    cases digits : Text.decimal n.natAbs with
    | nil => exact absurd digits (Text.decimal_ne_nil _)
    | cons c more =>
      have digit : Text.isDigit c := Text.isDigit_decimal (digits ▸ List.mem_cons_self)
      have scanned : Numeral.scan (c :: more) = .found ⟨false, c :: more, [], none⟩ [] := by
        have unsigned : c ≠ '-' := by rintro rfl; cases digit
        rw [← digits, ← Numeral.scanWhole_decimal false, digits]
        simp [Numeral.scan, unsigned]
      rw [tokens_numeral (.inr digit) scanned, tokens]
      simp [natural]

/-- Groups of tokens with commas between them. -/
def commas (groups : List (List Token)) : List Token := [Token.comma].intercalate groups

@[simp] theorem commas_nil : commas [] = [] := rfl

@[simp] theorem commas_singleton (group : List Token) : commas [group] = group := by simp [commas]

@[simp] theorem commas_cons_cons (first next : List Token) (groups : List (List Token)) :
    commas (first :: next :: groups) = first ++ .comma :: commas (next :: groups) := by
  simp [commas]

section Compounds

variable {α : Type} {items : List α}

theorem spells_separated {text : α → List Char} {spelled : α → List Token}
    (each : ∀ item ∈ items, Spells (text item) (spelled item)) :
    Spells (separated (items.map text)) (commas (items.map spelled)) := by
  intro rest delimited
  induction items with
  | nil => rfl
  | cons item items ih =>
    obtain ⟨first, later⟩ := List.forall_mem_cons.mp each
    cases items with
    | nil => simpa [separated] using first rest delimited
    | cons next items =>
      have comma := first (',' :: (separated ((next :: items).map text) ++ rest)) (.comma _)
      rw [tokens_mark rfl, ih later] at comma
      simpa [separated] using comma

/-- The tokens of a list whose items have one token each. -/
def listTokens (items : List Token) : List Token :=
  .openList :: (commas (items.map fun item => [item]) ++ [.closeList])

def memberTokens (name : α → String) (spelled : α → List Token) (member : α) : List Token :=
  .text (.ok (name member)) :: .colon :: spelled member

/-- The tokens of an object. -/
def objectTokens (name : α → String) (spelled : α → List Token) (members : List α) : List Token :=
  .openObject :: (commas (members.map (memberTokens name spelled)) ++ [.closeObject])

theorem spells_writeList {write : α → List Char} {token : α → Token}
    (each : ∀ item ∈ items, Spells (write item) [token item]) :
    Spells (writeList write items) (listTokens (items.map token)) := by
  intro rest delimited
  have inside := spells_separated each (']' :: rest) (.closeList rest)
  rw [tokens_mark rfl] at inside
  have opened := tokens_mark (show punctuation? '[' = some .openList from rfl)
    (separated (items.map write) ++ ']' :: rest)
  rw [inside] at opened
  simpa [writeList, listTokens, Function.comp_def] using opened

theorem spells_writeObject {name : α → String} {text : α → List Char} {spelled : α → List Token}
    (each : ∀ item ∈ items, Spells (text item) (spelled item)) :
    Spells (writeObject (items.map fun item => (name item, text item)))
      (objectTokens name spelled items) := by
  have member : ∀ item ∈ items, Spells (writeString (name item) ++ ':' :: text item)
      (memberTokens name spelled item) := by
    intro item found rest delimited
    rw [List.append_assoc, tokens_writeString, List.cons_append, tokens_mark rfl,
      each item found rest delimited]
    rfl
  intro rest delimited
  have inside := spells_separated member ('\x7d' :: rest) (.closeObject rest)
  rw [tokens_mark rfl] at inside
  have opened := tokens_mark (show punctuation? '\x7b' = some .openObject from rfl)
    (separated (items.map fun item => writeString (name item) ++ ':' :: text item) ++
      '\x7d' :: rest)
  rw [inside] at opened
  simpa [writeObject, objectTokens, Function.comp_def] using opened

end Compounds

end WorkerVitals.Json
