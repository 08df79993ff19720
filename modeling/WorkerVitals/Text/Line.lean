import WorkerVitals.Text.Blank

/-! Lines of a text. A line ends at a line feed, and one carriage return just before the line
feed belongs to the line end; what follows the last line feed is a line only if it is not empty. -/
namespace WorkerVitals.Text

/-- A line without the carriage return it ends with, if it does. -/
def dropReturn (line : List Char) : List Char :=
  if line.getLast? = some '\r' then line.dropLast else line

def lines (text : List Char) : List (List Char) :=
  match _ : text.dropWhile (· != '\n') with
  | [] => if text.isEmpty then [] else [text]
  | _ :: rest => dropReturn (text.takeWhile (· != '\n')) :: lines rest
termination_by text.length
decreasing_by
  rename_i found
  have shorter := length_dropWhile_le (· != '\n') text
  rw [found, List.length_cons] at shorter
  omega

end WorkerVitals.Text
