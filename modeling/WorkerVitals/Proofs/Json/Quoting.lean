import WorkerVitals.Json.Read
import WorkerVitals.Json.Write

namespace WorkerVitals.Json

/-- The piece of a string that a written character is read as. -/
def piece (c : Char) : Piece :=
  if c.toNat < 0x20 ∧ c ∉ ['\n', '\r', '\t', '\x08', '\x0c'] then .unit c.toNat else .char c

private theorem hexNumber?_control {code : Nat} (control : code < 0x20) :
    Text.hexNumber? ['0', '0', Text.hexDigit (code / 16), Text.hexDigit (code % 16)] =
      some code := by
  have table : ∀ code < 0x20, Text.hexNumber?
      ['0', '0', Text.hexDigit (code / 16), Text.hexDigit (code % 16)] = some code := by decide
  exact table code control

theorem pieces_plain {c : Char} (quote : c ≠ '"') (backslash : c ≠ '\\')
    (plain : ¬c.toNat < 0x20) (rest : List Char) :
    pieces (c :: rest) = (.char c :: (pieces rest).1, (pieces rest).2) := by
  rw [pieces.eq_def]
  split <;> simp_all

theorem pieces_escape (c : Char) (rest : List Char) :
    pieces (escape c ++ rest) = (piece c :: (pieces rest).1, (pieces rest).2) := by
  unfold escape
  split
  · simp [pieces, unescape?, piece]
  · simp [pieces, unescape?, piece]
  · simp [pieces, unescape?, piece]
  · simp [pieces, unescape?, piece]
  · simp [pieces, unescape?, piece]
  · simp [pieces, unescape?, piece]
  · simp [pieces, unescape?, piece]
  · rename_i quote backslash newline carriage tab backspace feed
    split
    · rename_i control
      have unit : piece c = .unit c.toNat :=
        if_pos ⟨control, by simpa using ⟨newline, carriage, tab, backspace, feed⟩⟩
      simp [pieces, hexNumber?_control control, unit]
    · rename_i plain
      rw [List.singleton_append, pieces_plain quote backslash plain, piece, if_neg (plain ·.1)]

theorem pieces_flatMap_escape (content rest : List Char) :
    pieces (content.flatMap escape ++ '"' :: rest) = (content.map piece, .closed rest) := by
  induction content with
  | nil => simp [pieces]
  | cons c content ih => rw [List.flatMap_cons, List.append_assoc, pieces_escape, ih, List.map_cons]

theorem characters_map_piece (atEnd : Rejection) (content : List Char) :
    characters atEnd (content.map piece) = .ok content := by
  induction content with
  | nil => rfl
  | cons c content ih =>
    rw [List.map_cons, piece]
    split
    · rename_i control
      have low : isLow c.toNat = false := by simp [isLow]; omega
      have high : isHigh c.toNat = false := by simp [isHigh]; omega
      rw [characters.eq_def]
      simp [low, high, ih, Except.map]
    · rw [characters, ih]; rfl

/-- A string is one token once its pieces are found up to the closing quote. -/
theorem tokens_quoted {text rest : List Char} {content : List Piece}
    (read : pieces text = (content, .closed rest)) :
    tokens ('"' :: text) = textToken content (.closed rest) :: tokens rest := by
  have closed : (pieces text).2 = .closed rest := by rw [read]
  rw [tokens, if_neg (by decide), if_pos rfl]
  split
  · rename_i after same
    obtain rfl := Ending.closed.inj (closed.symm.trans same)
    rw [read]
  · rename_i reason same
    cases closed.symm.trans same

theorem tokens_writeString (content : String) (rest : List Char) :
    tokens (writeString content ++ rest) = .text (.ok content) :: tokens rest := by
  have text : writeString content ++ rest =
      '"' :: (content.toList.flatMap escape ++ '"' :: rest) := by simp [writeString]
  rw [text, tokens_quoted (pieces_flatMap_escape content.toList rest)]
  simp [textToken, characters_map_piece, Except.map]

end WorkerVitals.Json
