namespace WorkerVitals.Text

/-- The parts of a text between separators, one more than there are separators. -/
def parts (separator : Char) : List Char → List (List Char)
  | [] => [[]]
  | c :: rest =>
    match parts separator rest with
    | [] => [[c]]
    | part :: later => if c = separator then [] :: part :: later else (c :: part) :: later

/-- The number of bytes of a text. -/
def byteLength (text : List Char) : Nat := text.foldr (fun c bytes => c.utf8Size + bytes) 0

/-- A text cut after so many bytes, unless that is inside a character or past the end. -/
def splitBytes? : (bytes : Nat) → List Char → Option (List Char × List Char)
  | 0, text => some ([], text)
  | _ + 1, [] => none
  | bytes + 1, c :: rest =>
    if c.utf8Size ≤ bytes + 1 then
      (splitBytes? (bytes + 1 - c.utf8Size) rest).map fun (front, back) => (c :: front, back)
    else none

/-- The part of a text between two byte places. -/
def slice? (text : List Char) (start stop : Nat) : Option (List Char) := do
  let (front, _) ← splitBytes? stop text
  let (_, part) ← splitBytes? start front
  return part

end WorkerVitals.Text
