import WorkerVitals.Pattern.Sign

namespace WorkerVitals.Pattern.CharSet

/-- What has been read of a set: whether it is no more than hyphens in front, the depth of what
stands before the last operator, and the depths of the items after it. -/
structure Draft where
  front : Bool := true
  left : Option Nat := none
  items : List Nat := []

namespace Draft

/-- Operators take what is left of them together. -/
def depth (draft : Draft) : Nat :=
  match draft.left with
  | none => gather draft.items
  | some left => max left (gather draft.items) + 1

def add (draft : Draft) (depth : Nat) : Draft :=
  { draft with front := false, items := depth :: draft.items }

def addHyphen (draft : Draft) : Draft := { draft with items := 0 :: draft.items }

def operate (draft : Draft) : Draft := { front := false, left := some draft.depth }

end Draft

/-- What comes next in a set. -/
inductive Element where
  | close
  | operator
  | hyphen
  | item
  | set

def kindNames : List String :=
  ["alnum", "alpha", "ascii", "blank", "cntrl", "digit", "graph", "lower", "print", "punct",
   "space", "upper", "word", "xdigit"]

/-- A kind of characters by name, between colons and brackets: whether all others are meant. -/
def namedKind? : List Char → Option (Bool × List Char)
  | ':' :: rest =>
    let (others, rest) := match rest with
      | '^' :: rest => (true, rest)
      | rest => (false, rest)
    match rest.dropWhile (· != ':') with
    | ':' :: ']' :: after =>
      if String.ofList (rest.takeWhile (· != ':')) ∈ kindNames then some (others, after) else none
    | _ => none
  | _ => none

/-- Behind an opening bracket a circumflex negates a set, which cannot be done with bytes. -/
def open? (modes : Modes) (rest : List Char) : Option (List Char) :=
  match modes.skip rest with
  | '^' :: rest => if modes.unicode then some rest else none
  | rest => some rest

/-- What is left after a sign or a range of characters. A hyphen makes no range if a hyphen or a
closing bracket follows. -/
def item? (modes : Modes) (text : List Char) : Option (List Char) := do
  let (low, rest) ← Sign.read? modes text
  guard (low.standsInSet modes)
  match modes.skip rest with
  | '-' :: after =>
    if modes.peek after = some ']' ∨ modes.peek after = some '-' then return '-' :: after
    let (high, rest) ← Sign.read? modes (modes.skip after)
    guard (high.standsInSet modes && (← low.char?) ≤ (← high.char?))
    return rest
  | rest => return rest

/-- The next element of a set. Hyphens in front are items, and so is a closing bracket that comes
first; doubled hyphens, ampersands and tildes are operators. -/
def next? (modes : Modes) (draft : Draft) (text : List Char) : Option (Element × List Char) :=
  match text with
  | [] => none
  | '-' :: rest =>
    if draft.front then if modes.lacksCases then none else some (.hyphen, rest)
    else match rest with
      | '-' :: after => some (.operator, after)
      | _ => (item? modes text).map fun after => (.item, after)
  | ']' :: rest =>
    if draft.front ∧ draft.items = [] then if modes.lacksCases then none else some (.item, rest)
    else some (.close, rest)
  | '&' :: '&' :: rest | '~' :: '~' :: rest => some (.operator, rest)
  | '[' :: rest =>
    match namedKind? rest with
    | some (others, after) =>
      if modes.lacksCases || others && !modes.unicode then none else some (.item, after)
    | none => (open? modes rest).map fun after => (.set, after)
  | text => (item? modes text).map fun after => (.item, after)

/-- The depth of a set, whose elements up to the closing bracket are still to be read, and what is
left after it. Each element takes a character at least. -/
def elements? (modes : Modes) (draft : Draft) (text : List Char) : Option (Nat × List Char) :=
  match next? modes draft (modes.skip text) with
  | none => none
  | some (element, rest) =>
    if _ : rest.length < text.length then
      match element with
      | .close => some (draft.depth, rest)
      | .operator => elements? modes draft.operate rest
      | .hyphen => elements? modes draft.addHyphen rest
      | .item => elements? modes (draft.add 0) rest
      | .set =>
        match elements? modes {} rest with
        | none => none
        | some (depth, after) =>
          if _ : after.length < text.length then elements? modes (draft.add (depth + 1)) after
          else none
    else none
termination_by text.length

/-- The depth of a set behind its opening bracket, and what is left after it. -/
def read? (modes : Modes) (rest : List Char) : Option (Nat × List Char) := do
  let (depth, after) ← elements? modes {} (← open? modes rest)
  return (depth + 1, after)

end WorkerVitals.Pattern.CharSet
