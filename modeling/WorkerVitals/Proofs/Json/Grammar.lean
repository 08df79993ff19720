import Mathlib.Data.List.Chain
import WorkerVitals.Proofs.Json.Spelling
import WorkerVitals.Proofs.Text.Layout

/-! How tokens may be written: each in any of the forms that the grammar allows, and any white space
between them. The tokens are found again, unless a numeral runs into what stands after it. -/
namespace WorkerVitals.Json

def Digits (text : List Char) : Prop := text ≠ [] ∧ ∀ c ∈ text, Text.isDigit c

/-- A fraction is left out, or it has a point before its digits. -/
inductive FractionText : List Char → List Char → Prop where
  | absent : FractionText [] []
  | point {digits : List Char} (written : Digits digits) : FractionText digits ('.' :: digits)

/-- An exponent is left out, or it has a letter of either case and perhaps a sign. -/
inductive ExponentText : Option (Bool × List Char) → List Char → Prop where
  | absent : ExponentText none []
  | unsigned {mark : Char} {digits : List Char} (letter : mark = 'e' ∨ mark = 'E')
      (written : Digits digits) : ExponentText (some (false, digits)) (mark :: digits)
  | plus {mark : Char} {digits : List Char} (letter : mark = 'e' ∨ mark = 'E')
      (written : Digits digits) : ExponentText (some (false, digits)) (mark :: '+' :: digits)
  | minus {mark : Char} {digits : List Char} (letter : mark = 'e' ∨ mark = 'E')
      (written : Digits digits) : ExponentText (some (true, digits)) (mark :: '-' :: digits)

/-- A numeral and its text. The whole part is one zero, or does not begin with a zero. -/
structure NumeralText (numeral : Numeral) (text : List Char) : Prop where
  whole : Digits numeral.whole
  zero : numeral.whole.head? = some '0' → numeral.whole = ['0']
  parts : ∃ fraction exponent, FractionText numeral.fraction fraction ∧
    ExponentText numeral.exponent exponent ∧
      text = (if numeral.negative then ['-'] else []) ++ (numeral.whole ++ (fraction ++ exponent))

section Numerals

theorem Digits.take {digits back : List Char} (written : Digits digits)
    (stopped : ∀ c ∈ back.head?, ¬Text.isDigit c) :
    takeDigits (digits ++ back) = digits ∧ dropDigits (digits ++ back) = back :=
  ⟨Text.takeWhile_cut written.2 stopped, Text.dropWhile_cut written.2 stopped⟩

theorem Digits.take_all {digits : List Char} (written : Digits digits) :
    takeDigits digits = digits ∧ dropDigits digits = [] := by
  have stopped : ∀ c ∈ ([] : List Char).head?, ¬Text.isDigit c := by simp
  simpa using written.take stopped

theorem Digits.exponentSign_eq {digits : List Char} (written : Digits digits) :
    exponentSign digits = (false, digits) := by
  unfold exponentSign
  split
  · cases written.2 '-' List.mem_cons_self
  · cases written.2 '+' List.mem_cons_self
  · rfl

theorem ExponentText.scan_eq {exponent : Option (Bool × List Char)} {text : List Char}
    (written : ExponentText exponent text) (numeral : Numeral) (bare : numeral.exponent = none) :
    numeral.scanExponent text = .found { numeral with exponent } [] := by
  cases written with
  | absent =>
    cases numeral
    cases bare
    rfl
  | unsigned letter digits =>
    simp [Numeral.scanExponent, letter, digits.exponentSign_eq, digits.take_all, digits.1]
  | plus letter digits =>
    simp [Numeral.scanExponent, exponentSign, letter, digits.take_all, digits.1]
  | minus letter digits =>
    simp [Numeral.scanExponent, exponentSign, letter, digits.take_all, digits.1]

theorem ExponentText.stopped {exponent : Option (Bool × List Char)} {text : List Char}
    (written : ExponentText exponent text) : ∀ c ∈ text.head?, ¬Text.isDigit c ∧ c ≠ '.' := by
  cases written with
  | absent => simp
  | unsigned letter | plus letter | minus letter =>
    rintro _ ⟨⟩
    rcases letter with rfl | rfl <;> decide

theorem FractionText.scan_eq {fraction front back : List Char}
    {exponent : Option (Bool × List Char)} (written : FractionText fraction front)
    (after : ExponentText exponent back) (negative : Bool) (whole : List Char) :
    Numeral.scanFraction ⟨negative, whole, [], none⟩ (front ++ back) =
      .found ⟨negative, whole, fraction, exponent⟩ [] := by
  cases written with
  | absent =>
    have pointless : Numeral.scanFraction ⟨negative, whole, [], none⟩ back =
        Numeral.scanExponent ⟨negative, whole, [], none⟩ back := by
      unfold Numeral.scanFraction
      split
      · exact absurd rfl (after.stopped '.' rfl).2
      · rfl
    rw [List.nil_append, pointless, after.scan_eq _ rfl]
  | point digits =>
    obtain ⟨taken, dropped⟩ := digits.take fun c first => (after.stopped c first).1
    rw [List.cons_append, Numeral.scanFraction, taken, dropped, if_neg digits.1,
      after.scan_eq _ rfl]

theorem FractionText.stopped {fraction front back : List Char}
    {exponent : Option (Bool × List Char)} (written : FractionText fraction front)
    (after : ExponentText exponent back) : ∀ c ∈ (front ++ back).head?, ¬Text.isDigit c := by
  cases written with
  | absent => exact fun c first => (after.stopped c first).1
  | point digits =>
    rintro _ ⟨⟩
    decide

/-- A numeral is found whole. -/
theorem NumeralText.scan_eq {numeral : Numeral} {text : List Char}
    (written : NumeralText numeral text) : Numeral.scan text = .found numeral [] := by
  obtain ⟨negative, whole, fraction, exponent⟩ := numeral
  obtain ⟨digits, zero, front, back, point, mark, rfl⟩ := written
  dsimp only at digits zero point mark
  obtain ⟨taken, dropped⟩ := digits.take (point.stopped mark)
  have scanned : Numeral.scanWhole negative (whole ++ (front ++ back)) =
      .found ⟨negative, whole, fraction, exponent⟩ [] := by
    unfold Numeral.scanWhole
    rw [taken, dropped]
    split
    · exact absurd rfl digits.1
    · cases zero rfl
    · exact point.scan_eq mark negative whole
  cases negative with
  | true => exact scanned
  | false =>
    rw [← scanned]
    unfold Numeral.scan
    split
    · rename_i same
      obtain ⟨first, rest, rfl⟩ := List.exists_cons_of_ne_nil digits.1
      obtain ⟨rfl, -⟩ := List.cons.inj same
      cases digits.2 '-' List.mem_cons_self
    · rfl

theorem NumeralText.begins {numeral : Numeral} {text : List Char}
    (written : NumeralText numeral text) :
    ∃ c rest, text = c :: rest ∧ (c = '-' ∨ Text.isDigit c) := by
  obtain ⟨digits, -, front, back, -, -, rfl⟩ := written
  obtain ⟨first, rest, same⟩ := List.exists_cons_of_ne_nil digits.1
  cases numeral.negative with
  | true => exact ⟨'-', _, rfl, .inl rfl⟩
  | false => exact ⟨first, _, by simp [same]; rfl, .inr (digits.2 first (same ▸ List.mem_cons_self))⟩

theorem NumeralText.spells {numeral : Numeral} {text : List Char}
    (written : NumeralText numeral text) : Spells text [.number numeral] := by
  apply spells_number
  obtain ⟨c, rest, rfl, start⟩ := written.begins
  rw [tokens_numeral start written.scan_eq, tokens]

end Numerals

/-- The pieces of a string and its text between the quotes. A character may stand for itself unless
it is a control, a quote or a backslash; any may be written as an escape. -/
inductive PiecesText : List Piece → List Char → Prop where
  | finish : PiecesText [] []
  | plain {c : Char} {content : List Piece} {text : List Char} (visible : 0x20 ≤ c.toNat)
      (unquoted : c ≠ '"') (unescaped : c ≠ '\\') (later : PiecesText content text) :
      PiecesText (.char c :: content) (c :: text)
  | letter {letter c : Char} {content : List Piece} {text : List Char}
      (stands : unescape? letter = some c) (later : PiecesText content text) :
      PiecesText (.char c :: content) ('\\' :: letter :: text)
  | unit {a b c d : Char} {code : Nat} {content : List Piece} {text : List Char}
      (number : Text.hexNumber? [a, b, c, d] = some code) (later : PiecesText content text) :
      PiecesText (.unit code :: content) ('\\' :: 'u' :: a :: b :: c :: d :: text)

/-- The characters that pieces stand for. A unit is a character of its own unless it is one half of
a pair; a high half and a low half after it make one character. -/
inductive Stands : List Piece → List Char → Prop where
  | finish : Stands [] []
  | char (c : Char) {content : List Piece} {characters : List Char}
      (later : Stands content characters) : Stands (.char c :: content) (c :: characters)
  | unit {code : Nat} {content : List Piece} {characters : List Char}
      (whole : isHigh code = false ∧ isLow code = false) (later : Stands content characters) :
      Stands (.unit code :: content) (.ofNat code :: characters)
  | pair {high low : Nat} {content : List Piece} {characters : List Char}
      (first : isHigh high = true) (second : isLow low = true) (later : Stands content characters) :
      Stands (.unit high :: .unit low :: content)
        (.ofNat (0x10000 + (high - 0xD800) * 0x400 + (low - 0xDC00)) :: characters)

/-- The token of a string with some pieces. -/
def stringToken (content : List Piece) : Token := textToken content (.closed [])

theorem PiecesText.pieces_eq {content : List Piece} {text : List Char}
    (written : PiecesText content text) (rest : List Char) :
    pieces (text ++ '"' :: rest) = (content, .closed rest) := by
  induction written with
  | finish => simp [pieces]
  | plain visible unquoted unescaped _ ih =>
    rw [List.cons_append, pieces_plain unquoted unescaped (Nat.not_lt.mpr visible), ih]
  | @letter letter _ _ _ stands _ ih =>
    have other : letter ≠ 'u' := by rintro rfl; cases stands
    rw [List.cons_append, List.cons_append, pieces.eq_def]
    simp [other, stands, ih]
  | unit number _ ih => simp [pieces, number, ih]

theorem tokens_string {content : List Piece} {text : List Char}
    (written : PiecesText content text) (rest : List Char) :
    tokens ('"' :: (text ++ '"' :: rest)) = stringToken content :: tokens rest :=
  tokens_quoted (written.pieces_eq rest)

theorem Stands.characters_eq {content : List Piece} {text : List Char} (stands : Stands content text)
    (atEnd : Rejection) : characters atEnd content = .ok text := by
  induction stands with
  | finish => rfl
  | char c _ ih => rw [characters, ih]; rfl
  | unit whole _ ih =>
    rw [characters.eq_def]
    simp [whole, ih, Except.map]
  | @pair high _ _ _ first second _ ih =>
    have notLow : isLow high = false := by
      simp only [isHigh, isLow, Bool.and_eq_true, decide_eq_true_eq, Bool.and_eq_false_iff,
        decide_eq_false_iff_not] at first ⊢
      omega
    rw [characters.eq_def]
    simp [notLow, first, second, ih, Except.map]

theorem Stands.token_eq {content : List Piece} {name : String} (stands : Stands content name.toList) :
    stringToken content = .text (.ok name) := by
  simp [stringToken, textToken, stands.characters_eq, Except.map]

/-- A token and the texts that it may be written as. -/
inductive Lexeme : Token → List Char → Prop where
  | mark {c : Char} {token : Token} (mark : punctuation? c = some token) : Lexeme token [c]
  | word {c : Char} {word : List Char} {token : Token} (begins : keyword? c = some (word, token)) :
      Lexeme token (c :: word)
  | number {numeral : Numeral} {text : List Char} (written : NumeralText numeral text) :
      Lexeme (.number numeral) text
  | string {content : List Piece} {text : List Char} (written : PiecesText content text) :
      Lexeme (stringToken content) ('"' :: (text ++ ['"']))

/-- Tokens one after the other, with any white space before, between and after them. -/
inductive Spaced : List Token → List Char → Prop where
  | finish : Spaced [] []
  | space {c : Char} {spelled : List Token} {text : List Char} (blank : c ∈ [' ', '\t', '\n', '\r'])
      (later : Spaced spelled text) : Spaced spelled (c :: text)
  | token {token : Token} {word : List Char} {spelled : List Token} {text : List Char}
      (written : Lexeme token word) (later : Spaced spelled text) :
      Spaced (token :: spelled) (word ++ text)

def Token.closes : Token → Bool
  | .comma | .colon | .closeList | .closeObject => true
  | _ => false

def Token.isNumber : Token → Bool
  | .number _ => true
  | _ => false

/-- Nothing stands right after a numeral but a mark. -/
def Apart (spelled : List Token) : Prop :=
  spelled.IsChain fun token next => token.isNumber = true → next.closes = true

theorem Lexeme.delimited {token : Token} {word : List Char} (written : Lexeme token word)
    (closes : token.closes = true) (rest : List Char) : Delimited (word ++ rest) := by
  cases written with
  | mark mark =>
    unfold punctuation? at mark
    split at mark <;> cases mark
    · cases closes
    · exact .closeObject rest
    · cases closes
    · exact .closeList rest
    · exact .comma rest
    · exact .colon rest
  | word begins =>
    unfold keyword? at begins
    split at begins <;> cases begins <;> cases closes
  | number => cases closes
  | string => cases closes

theorem Spaced.delimited {spelled : List Token} {text : List Char} (written : Spaced spelled text)
    (closes : ∀ token ∈ spelled.head?, token.closes = true) : Delimited text := by
  cases written with
  | finish => exact .finish
  | space blank _ =>
    simp only [List.mem_cons, List.not_mem_nil, or_false] at blank
    rcases blank with rfl | rfl | rfl | rfl
    · exact .space _
    · exact .tab _
    · exact .newline _
    · exact .carriage _
  | token written _ => exact written.delimited (closes _ rfl) _

/-- Spaced tokens are found again. -/
theorem Spaced.tokens_eq {spelled : List Token} {text : List Char} (written : Spaced spelled text)
    (apart : Apart spelled) : tokens text = spelled := by
  induction written with
  | finish => rw [tokens]
  | @space c _ _ blank _ ih =>
    have space : isSpace c = true := by simpa [isSpace, or_assoc] using blank
    rw [tokens_space space, ih apart]
  | @token token _ spelled _ word later ih =>
    obtain ⟨next, others⟩ := List.isChain_cons.mp apart
    rw [← ih others]
    cases word with
    | mark mark => exact tokens_mark mark _
    | word begins => exact tokens_word begins _
    | number written =>
      exact written.spells _ (later.delimited fun mark first => next mark first rfl)
    | string written =>
      simpa using tokens_string written _

section Found

theorem digits_taken {text : List Char} (found : takeDigits text ≠ []) :
    Digits (takeDigits text) ∧ text = takeDigits text ++ dropDigits text :=
  ⟨⟨found, fun _ member => List.mem_takeWhile_imp member⟩, List.takeWhile_append_dropWhile.symm⟩

theorem ExponentText.of_scan {numeral found : Numeral} {text rest : List Char}
    (bare : numeral.exponent = none) (scanned : numeral.scanExponent text = .found found rest) :
    ∃ exponent back, text = back ++ rest ∧ ExponentText exponent back ∧
      found = { numeral with exponent } := by
  have same : numeral = { numeral with exponent := none } := by rw [← bare]
  cases text with
  | nil =>
    cases scanned
    exact ⟨none, [], rfl, .absent, same⟩
  | cons mark text =>
    simp only [Numeral.scanExponent] at scanned
    split at scanned
    · rename_i letter
      split at scanned
      · cases scanned
      · rename_i some_digit
        cases scanned
        obtain ⟨written, split⟩ := digits_taken some_digit
        revert written split
        unfold exponentSign
        split
        · exact fun written split => ⟨_, mark :: '-' :: _,
            by rw [List.cons_append, List.cons_append, ← split], .minus letter written, rfl⟩
        · exact fun written split => ⟨_, mark :: '+' :: _,
            by rw [List.cons_append, List.cons_append, ← split], .plus letter written, rfl⟩
        · exact fun written split => ⟨_, mark :: _,
            by rw [List.cons_append, ← split], .unsigned letter written, rfl⟩
    · cases scanned
      exact ⟨none, [], rfl, .absent, same⟩

theorem FractionText.of_scan {negative : Bool} {whole : List Char} {found : Numeral}
    {text rest : List Char}
    (scanned : Numeral.scanFraction ⟨negative, whole, [], none⟩ text = .found found rest) :
    ∃ fraction exponent front back, text = front ++ (back ++ rest) ∧ FractionText fraction front ∧
      ExponentText exponent back ∧ found = ⟨negative, whole, fraction, exponent⟩ := by
  unfold Numeral.scanFraction at scanned
  split at scanned
  · split at scanned
    · cases scanned
    · rename_i some_digit
      obtain ⟨written, split⟩ := digits_taken some_digit
      obtain ⟨exponent, back, dropped, after, rfl⟩ := ExponentText.of_scan rfl scanned
      refine ⟨_, exponent, _, back, ?_, .point written, after, rfl⟩
      rw [List.cons_append, ← dropped, ← split]
  · obtain ⟨exponent, back, rfl, after, rfl⟩ := ExponentText.of_scan rfl scanned
    exact ⟨_, exponent, [], back, rfl, .absent, after, rfl⟩

/-- What is found as a numeral is written as one. -/
theorem NumeralText.of_scan {found : Numeral} {text rest : List Char}
    (scanned : Numeral.scan text = .found found rest) :
    ∃ front, text = front ++ rest ∧ NumeralText found front := by
  have unsigned {negative : Bool} {text : List Char}
      (scanned : Numeral.scanWhole negative text = .found found rest) :
      ∃ front, text = front ++ rest ∧
        NumeralText found ((if negative then ['-'] else []) ++ front) := by
    unfold Numeral.scanWhole at scanned
    split at scanned
    · cases scanned
    · cases scanned
    · rename_i some_digit leading
      obtain ⟨written, split⟩ := digits_taken some_digit
      obtain ⟨fraction, exponent, front, back, dropped, point, mark, rfl⟩ :=
        FractionText.of_scan scanned
      refine ⟨takeDigits text ++ (front ++ back), ?_, written, fun zero => ?_,
        front, back, point, mark, rfl⟩
      · rw [List.append_assoc, List.append_assoc, ← dropped, ← split]
      · obtain ⟨more, begins⟩ := List.head?_eq_some_iff.mp zero
        cases more with
        | nil => exact begins
        | cons second more => exact absurd begins (leading second more)
  unfold Numeral.scan at scanned
  split at scanned
  · obtain ⟨front, rfl, written⟩ := unsigned scanned
    exact ⟨'-' :: front, rfl, written⟩
  · obtain ⟨front, rfl, written⟩ := unsigned scanned
    exact ⟨front, rfl, written⟩

theorem PiecesText.of_pieces {content : List Piece} {text rest : List Char}
    (read : pieces text = (content, .closed rest)) :
    ∃ body, text = body ++ '"' :: rest ∧ PiecesText content body := by
  fun_induction pieces text generalizing content with
  | case2 =>
    cases read
    exact ⟨[], rfl, .finish⟩
  | case4 a b c d tail code number ih =>
    obtain ⟨rfl, after⟩ := Prod.mk.inj read
    obtain ⟨body, same, written⟩ := ih (Prod.ext rfl after)
    exact ⟨'\\' :: 'u' :: a :: b :: c :: d :: body, by rw [same]; rfl, .unit number written⟩
  | case7 letter tail _ _ c stands ih =>
    obtain ⟨rfl, after⟩ := Prod.mk.inj read
    obtain ⟨body, same, written⟩ := ih (Prod.ext rfl after)
    exact ⟨'\\' :: letter :: body, by rw [same]; rfl, .letter stands written⟩
  | case10 c tail quote cut _ _ escape visible ih =>
    have backslash : c ≠ '\\' := by
      intro same
      cases tail with
      | nil => exact cut same rfl
      | cons letter tail => exact escape letter tail same rfl
    obtain ⟨rfl, after⟩ := Prod.mk.inj read
    obtain ⟨body, same, written⟩ := ih (Prod.ext rfl after)
    exact ⟨c :: body, by rw [same]; rfl, .plain (Nat.not_lt.mp visible) quote backslash written⟩
  | _ => cases read

theorem dropWord_eq_ok {word text rest : List Char} (dropped : dropWord word text = .ok rest) :
    text = word ++ rest := by
  induction word generalizing text with
  | nil => exact Except.ok.inj dropped
  | cons expected word ih =>
    cases text with
    | nil => cases dropped
    | cons c text =>
      simp only [dropWord] at dropped
      split at dropped
      · rename_i same
        rw [same, ih dropped, List.cons_append]
      · cases dropped

/-- A token that is not cut off or out of place. -/
def Token.isWhole : Token → Bool
  | .brokenText .. | .brokenScalar .. | .stray => false
  | _ => true

/-- A text spells its own tokens, if none is broken. -/
theorem Spaced.of_tokens {text : List Char} (whole : ∀ token ∈ tokens text, token.isWhole = true) :
    Spaced (tokens text) text := by
  fun_induction tokens text with
  | case1 => exact .finish
  | case2 c rest space ih => exact .space (by simpa [isSpace, or_assoc] using space) (ih whole)
  | case3 rest after closed _ ih =>
    have read : pieces rest = ((pieces rest).1, .closed after) := Prod.ext rfl closed
    obtain ⟨body, same, written⟩ := PiecesText.of_pieces read
    have text : '"' :: rest = '"' :: (body ++ ['"']) ++ after := by simp [same]
    rw [text]
    exact .token (.string written) (ih (List.forall_mem_cons.mp whole).2)
  | case4 rest reason =>
    have broken := whole _ List.mem_cons_self
    unfold textToken at broken
    split at broken
    · rename_i closed
      cases closed
    · split at broken <;> cases broken
  | case5 c rest _ _ _ numeral after scanned ih =>
    obtain ⟨front, same, written⟩ := NumeralText.of_scan scanned
    rw [same]
    exact .token (.number written) (ih (List.forall_mem_cons.mp whole).2)
  | case7 c rest _ _ _ token mark ih =>
    exact .token (.mark mark) (ih (List.forall_mem_cons.mp whole).2)
  | case8 c rest _ _ _ word token begins _ after dropped ih =>
    rw [dropWord_eq_ok dropped, ← List.cons_append]
    exact .token (.word begins) (ih (List.forall_mem_cons.mp whole).2)
  | case6 | case9 | case10 => cases whole _ List.mem_cons_self

end Found

end WorkerVitals.Json
