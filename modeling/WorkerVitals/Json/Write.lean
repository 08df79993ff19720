import WorkerVitals.Decimal.Layout

namespace WorkerVitals.Json

/-- A quote, a backslash and the controls below the space are written with a backslash, those
without a letter of their own as four hexadecimal digits; all else stands for itself. -/
def escape (c : Char) : List Char :=
  match c with
  | '"' => ['\\', '"']
  | '\\' => ['\\', '\\']
  | '\n' => ['\\', 'n']
  | '\r' => ['\\', 'r']
  | '\t' => ['\\', 't']
  | '\x08' => ['\\', 'b']
  | '\x0c' => ['\\', 'f']
  | _ =>
    if c.toNat < 0x20 then ['\\', 'u', '0', '0', Text.hexDigit (c.toNat / 16),
      Text.hexDigit (c.toNat % 16)]
    else [c]

def writeString (characters : String) : List Char :=
  '"' :: characters.toList.flatMap escape ++ ['"']

def writeNull : List Char := ['n', 'u', 'l', 'l']

/-- A number that is not finite has no JSON form and is written as null. -/
def writeFloat (x : Float) : List Char :=
  if x.isFinite then Decimal.Layout.json.write (.ofFloat x) else writeNull

def writeInt (n : Int) : List Char := Text.decimalInt n

def writeOption (write : α → List Char) : Option α → List Char
  | none => writeNull
  | some value => write value

/-- Items with commas between them. -/
def separated : List (List Char) → List Char
  | [] => []
  | [item] => item
  | item :: next :: rest => item ++ ',' :: separated (next :: rest)

def writeList (write : α → List Char) (items : List α) : List Char :=
  '[' :: separated (items.map write) ++ [']']

/-- The members of an object, each a name and the text of its value. -/
def writeObject (members : List (String × List Char)) : List Char :=
  '\x7b' :: separated (members.map fun (name, value) => writeString name ++ ':' :: value) ++ ['\x7d']

end WorkerVitals.Json
