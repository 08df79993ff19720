import WorkerVitals.Text.Numeral
import WorkerVitals.Text.Visible

namespace WorkerVitals.Text

/-- A quote, a backslash and four controls are written with a backslash and one character; a
hidden character as its code point in braces. -/
def quotedChar (c : Char) : List Char :=
  match c with
  | '"' => ['\\', '"']
  | '\\' => ['\\', '\\']
  | '\n' => ['\\', 'n']
  | '\r' => ['\\', 'r']
  | '\t' => ['\\', 't']
  | '\x00' => ['\\', '0']
  | _ => if isVisible c then [c] else '\\' :: 'u' :: '\x7b' :: hexadecimal c.toNat ++ ['\x7d']

def quoted (text : List Char) : List Char := '"' :: text.flatMap quotedChar ++ ['"']

end WorkerVitals.Text
