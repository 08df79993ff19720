import WorkerVitals.Text.Ranges

namespace WorkerVitals.Text

/-- The ranges with the Unicode property White_Space. -/
def blankRanges : CharRanges :=
  [(0x09, 0x0D), (0x20, 0x20), (0x85, 0x85), (0xA0, 0xA0), (0x1680, 0x1680),
   (0x2000, 0x200A), (0x2028, 0x2029), (0x202F, 0x202F), (0x205F, 0x205F), (0x3000, 0x3000)]

def isBlank (c : Char) : Bool := blankRanges.holds c

/-- A text without the blanks it begins and ends with. -/
def trim (text : List Char) : List Char :=
  ((text.dropWhile isBlank).reverse.dropWhile isBlank).reverse

/-- What is left of a text is never longer than the text. -/
theorem length_dropWhile_le (keep : Char → Bool) (text : List Char) :
    (text.dropWhile keep).length ≤ text.length :=
  (List.dropWhile_sublist keep).length_le

/-- The maximal runs of characters that are not blank, in order. -/
def fields (text : List Char) : List (List Char) :=
  match _ : text.dropWhile isBlank with
  | [] => []
  | c :: rest =>
    (c :: rest.takeWhile fun d => !isBlank d) :: fields (rest.dropWhile fun d => !isBlank d)
termination_by text.length
decreasing_by
  rename_i found
  have shorter := length_dropWhile_le isBlank text
  have rest_le := length_dropWhile_le (fun d => !isBlank d) rest
  rw [found, List.length_cons] at shorter
  omega

end WorkerVitals.Text
