import WorkerVitals.Pattern.CharSet
import WorkerVitals.Text.Alphabetic

/-! Which texts are patterns: branches between bars, of signs, sets and groups, each of which can be
repeated. Counted repetitions are not among them, because no text that is read here has the brace
that closes one behind the brace that opens it. -/
namespace WorkerVitals.Pattern

/-- What comes next in a pattern. -/
inductive Token where
  | close
  | bar
  | repetition
  | part (depth : Nat)
  | modes (changed : Modes)
  | group (name : Option (List Char)) (inside : Modes)

namespace Token

/-- A name begins with a letter or an underscore. -/
def isName : List Char → Bool
  | [] => false
  | first :: rest =>
    (first = '_' || Text.isAlphabetic first) &&
      rest.all fun c => "_.[]".toList.contains c || Text.isAlphanumeric c

/-- A group with a name, of which the text is what stands behind the opening angle. -/
def named? (modes : Modes) (rest : List Char) : Option (Token × List Char) :=
  match rest.dropWhile (· != '>') with
  | '>' :: after =>
    let name := rest.takeWhile (· != '>')
    if isName name then some (.group (some name) modes, after) else none
  | _ => none

/-- What an opening bracket begins: a group with or without a name, a group with modes of its own,
or other modes for what is left of the group around it. -/
def opened? (modes : Modes) (rest : List Char) : Option (Token × List Char) :=
  match modes.skip rest with
  | '?' :: 'P' :: '<' :: rest | '?' :: '<' :: rest => named? modes rest
  | '?' :: rest =>
    let belongs (c : Char) := c != ':' && c != ')'
    let flags := rest.takeWhile belongs
    if Modes.areFlags flags then
      match rest.dropWhile belongs with
      | ':' :: after => some (.group none (modes.change flags), after)
      | ')' :: after => if flags = [] then none else some (.modes (modes.change flags), after)
      | _ => none
    else none
  | rest => some (.group none modes, rest)

/-- The next token. A question mark behind a repetition belongs to it, and the point is for
characters only. -/
def read? (modes : Modes) : List Char → Option (Token × List Char)
  | [] | '\x7b' :: _ => none
  | '(' :: rest => opened? modes rest
  | ')' :: rest => some (.close, rest)
  | '|' :: rest => some (.bar, rest)
  | '[' :: rest => (CharSet.read? modes rest).map fun (depth, after) => (.part depth, after)
  | '?' :: '?' :: rest | '*' :: '?' :: rest | '+' :: '?' :: rest
  | '?' :: rest | '*' :: rest | '+' :: rest => some (.repetition, rest)
  | '^' :: rest | '$' :: rest => some (.part 0, rest)
  | '.' :: rest => if modes.unicode then some (.part 0, rest) else none
  | text => do
    let (sign, rest) ← Sign.read? modes text
    if sign.standsAlone modes then some (.part 0, rest) else none

end Token

/-- An item of a branch: other modes, which cannot be repeated, or a part with its depth. -/
inductive Item where
  | modes
  | part (depth : Nat)

def Item.depth : Item → Nat
  | .modes => 0
  | .part depth => depth

/-- What has been read of a group: the depths of the branches before the last bar, and the items
after it, the last one first. -/
structure Draft where
  branches : List Nat := []
  items : List Item := []

namespace Draft

def add (draft : Draft) (item : Item) : Draft := { draft with items := item :: draft.items }

/-- A new branch after the one that was read. -/
def branch (draft : Draft) : Draft where
  branches := gather (draft.items.map Item.depth) :: draft.branches

/-- The last item repeated, if there is one that can be. -/
def repeat? (draft : Draft) : Option Draft :=
  match draft.items with
  | .part depth :: items => some { draft with items := .part (depth + 1) :: items }
  | _ => none

def depth (draft : Draft) : Nat := gather draft.branch.branches

end Draft

/-- What reading a group gives: its depth, the names in it and before it, and what is left. -/
structure Reading where
  depth : Nat
  names : List (List Char)
  rest : List Char

/-- The rest of a group up to its closing bracket, or of the pattern to its end. Modes hold up to
the end of the group, and no two groups have the same name. Each token takes a character at
least. -/
def group? (nested : Bool) (modes : Modes) (names : List (List Char)) (draft : Draft)
    (text : List Char) : Option Reading :=
  match modes.skip text with
  | [] => if nested then none else some ⟨draft.depth, names, []⟩
  | shown =>
    match Token.read? modes shown with
    | none => none
    | some (token, rest) =>
      if _ : rest.length < text.length then
        match token with
        | .close => if nested then some ⟨draft.depth, names, rest⟩ else none
        | .bar => group? nested modes names draft.branch rest
        | .repetition =>
          match draft.repeat? with
          | none => none
          | some repeated => group? nested modes names repeated rest
        | .part depth => group? nested modes names (draft.add (.part depth)) rest
        | .modes changed => group? nested changed names (draft.add .modes) rest
        | .group name inside =>
          if name.any names.contains then none
          else
            match group? true inside (name.toList ++ names) {} rest with
            | none => none
            | some inner =>
              if _ : inner.rest.length < text.length then
                group? nested modes inner.names (draft.add (.part (inner.depth + 1))) inner.rest
              else none
      else none
termination_by text.length

/-- Whether a text is a pattern. -/
def isReadable (text : List Char) : Bool :=
  (group? false {} [] {} text).any (·.depth ≤ depthLimit)

end WorkerVitals.Pattern
