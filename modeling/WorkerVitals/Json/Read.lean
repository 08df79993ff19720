import WorkerVitals.Json.Token

namespace WorkerVitals.Json

abbrev Reader (α : Type) := List Token → Except Rejection (α × List Token)

/-- What is wrong where a value of another shape is wanted: the value's own fault if it has one. -/
def mismatch : List Token → Rejection
  | [] => .ended
  | token :: _ =>
    match token with
    | .null | .bool _ | .openObject | .openList => .misshapen
    | .number numeral =>
      match numeral.value with
      | .ok _ => .misshapen
      | .error reason => reason
    | .text (.ok _) => .misshapen
    | .text (.error reason) => reason
    | .brokenText read _ | .brokenScalar read _ => read
    | .closeObject | .closeList | .comma | .colon | .stray => .malformed

def readString : Reader String
  | .text (.ok content) :: rest => .ok (content, rest)
  | tokens => .error (mismatch tokens)

/-- A whole number that fits 64 bits with a sign; any other number has the wrong shape. -/
def Number.toInt? : Number → Except Rejection Int64
  | .natural n => if n.toNat ≤ Nat.pow 2 63 - 1 then .ok (.ofNat n.toNat) else .error .misshapen
  | .negative n => .ok n
  | .float _ => .error .misshapen

def readInt : Reader Int64
  | .number numeral :: rest => do return (← (← numeral.value).toInt?, rest)
  | tokens => .error (mismatch tokens)

/-- The binary64 number nearest to the value. -/
def Number.toFloat : Number → Float
  | .natural n => n.toFloat
  | .negative n => -n.toInt.natAbs.toUInt64.toFloat
  | .float x => x

def readFloat : Reader Float
  | .number numeral :: rest => do return ((← numeral.value).toFloat, rest)
  | tokens => .error (mismatch tokens)

/-- Null stands for no value. -/
def readOption (read : Reader α) : Reader (Option α)
  | .null :: rest => .ok (none, rest)
  | tokens => (read tokens).map fun (value, rest) => (some value, rest)

/-- The items of a list after its opening bracket, each a single token. -/
def readItems (read : Reader α) : Reader (List α)
  | [] => .error .ended
  | token :: rest => do
    let (value, _) ← read [token]
    match rest with
    | [] => .error .ended
    | .closeList :: rest => return ([value], rest)
    | .comma :: rest =>
      let (values, rest) ← readItems read rest
      return (value :: values, rest)
    | _ :: _ => .error .malformed

/-- A list of values that take one token each. -/
def readList (read : Reader α) : Reader (List α)
  | .openList :: .closeList :: rest => .ok ([], rest)
  | .openList :: rest => readItems read rest
  | tokens => .error (mismatch tokens)

/-- The tokens after the colon that follows a member's name. -/
def readColon : List Token → Except Rejection (List Token)
  | [] => .error .ended
  | .colon :: rest => .ok rest
  | _ :: _ => .error .malformed

/-- A member's name. -/
def readName : Reader String
  | [] => .error .ended
  | .text content :: rest => content.map fun name => (name, rest)
  | .brokenText read _ :: _ => .error read
  | _ :: _ => .error .malformed

/-- Takes the members of an object one by one, `read` being given a name, the value built so far
and the tokens after the name. There are never more members than tokens. -/
def foldMembers (read : String → σ → Reader σ) : (limit : Nat) → σ → Reader σ
  | 0, _, tokens => .error (mismatch tokens)
  | limit + 1, state, tokens => do
    let (name, tokens) ← readName tokens
    let (state, tokens) ← read name state tokens
    match tokens with
    | [] => .error .ended
    | .closeObject :: rest => return (state, rest)
    | .comma :: rest => foldMembers read limit state rest
    | _ :: _ => .error .malformed

/-- The members of an object after its opening brace. -/
def readMembers (read : String → σ → Reader σ) (state : σ) : Reader σ
  | .closeObject :: rest => .ok (state, rest)
  | tokens => foldMembers read tokens.length state tokens

/-- What may come next while a value is passed over. -/
inductive Expected where
  | value
  /-- A value, or the end of the list just opened. -/
  | firstItem
  | name
  /-- A name, or the end of the object just opened. -/
  | firstName
  | colon
  /-- A comma or the end of the innermost list or object. -/
  | next
  deriving DecidableEq, Repr

/-- A list or an object that is still open. -/
inductive Frame where
  | list
  | object
  deriving DecidableEq, Repr

/-- What one token does to a value that is passed over. -/
inductive Passage where
  | finished
  | goesOn (frames : List Frame) (expected : Expected)
  | stops (reason : Rejection)
  deriving DecidableEq, Repr

/-- A value has ended inside `frames`. -/
def Passage.ended : List Frame → Passage
  | [] => .finished
  | frames => .goesOn frames .next

/-- Nothing but the form of a value is looked at: a number may be too large, an escape may stand
for half a character. -/
def Passage.ofToken (frames : List Frame) : Expected → Token → Passage
  | .firstItem, .closeList | .firstName, .closeObject => .ended frames.tail
  | .value, token | .firstItem, token =>
    match token with
    | .openList => .goesOn (.list :: frames) .firstItem
    | .openObject => .goesOn (.object :: frames) .firstName
    | .null | .bool _ | .number _ | .text _ => .ended frames
    | .brokenText _ skip | .brokenScalar _ skip => .stops skip
    | .closeObject | .closeList | .comma | .colon | .stray => .stops .malformed
  | .name, token | .firstName, token =>
    match token with
    | .text _ => .goesOn frames .colon
    | .brokenText _ skip => .stops skip
    | _ => .stops .malformed
  | .colon, .colon => .goesOn frames .value
  | .next, .comma => .goesOn frames (if frames.head? = some .object then .name else .value)
  | .next, .closeList => if frames.head? = some .list then .ended frames.tail else .stops .malformed
  | .next, .closeObject =>
    if frames.head? = some .object then .ended frames.tail else .stops .malformed
  | _, _ => .stops .malformed

/-- Passes over one value of any depth, whose open lists and objects are `frames`. -/
def pass (frames : List Frame) (expected : Expected) : List Token → Except Rejection (List Token)
  | [] => .error .ended
  | token :: rest =>
    match Passage.ofToken frames expected token with
    | .finished => .ok rest
    | .goesOn frames expected => pass frames expected rest
    | .stops reason => .error reason

/-- Passes over one value. -/
def skipValue (tokens : List Token) : Except Rejection (List Token) := pass [] .value tokens

/-- Reads a whole text as one value. -/
def readText (read : Reader α) (text : String) : Except Rejection α := do
  let (value, rest) ← read (tokens text.toList)
  if rest matches [] then return value else .error .malformed

end WorkerVitals.Json
