import WorkerVitals.Proofs.Json.Grammar

/-! JSON values of any depth and their tokens. In the tokens of a value nothing stands right after a
numeral but a mark, so that they are found in any text that spells them; and whoever passes over a
value stops right after it, whatever it contains. -/
namespace WorkerVitals.Json

/-- A JSON value. Names and strings are kept by their pieces, which need not stand for characters. -/
inductive Tree where
  | null
  | bool (b : Bool)
  | number (numeral : Numeral)
  | string (content : List Piece)
  | list (items : List Tree)
  | object (members : List (List Piece × Tree))

namespace Tree

@[induction_eliminator]
theorem induction {motive : Tree → Prop} (null : motive .null) (bool : ∀ b, motive (.bool b))
    (number : ∀ numeral, motive (.number numeral)) (string : ∀ content, motive (.string content))
    (list : ∀ items, (∀ item ∈ items, motive item) → motive (.list items))
    (object : ∀ members, (∀ member ∈ members, motive member.2) → motive (.object members))
    (tree : Tree) : motive tree :=
  @Tree.rec motive (fun items => ∀ item ∈ items, motive item)
    (fun members => ∀ member ∈ members, motive member.2) (fun member => motive member.2)
    null bool number string list object
    (by simp) (fun _ _ first later => List.forall_mem_cons.mpr ⟨first, later⟩)
    (by simp) (fun _ _ first later => List.forall_mem_cons.mpr ⟨first, later⟩)
    (fun _ _ value => value) tree

mutual

def tokens : Tree → List Token
  | .null => [.null]
  | .bool b => [.bool b]
  | .number numeral => [.number numeral]
  | .string content => [stringToken content]
  | .list items => .openList :: (commas (eachItem items) ++ [.closeList])
  | .object members => .openObject :: (commas (eachMember members) ++ [.closeObject])

def eachItem : List Tree → List (List Token)
  | [] => []
  | item :: items => item.tokens :: eachItem items

def eachMember : List (List Piece × Tree) → List (List Token)
  | [] => []
  | (name, value) :: members => (stringToken name :: .colon :: value.tokens) :: eachMember members

end

theorem eachItem_eq (items : List Tree) : eachItem items = items.map tokens := by
  induction items with
  | nil => rfl
  | cons item items ih => rw [eachItem, ih, List.map_cons]

theorem eachMember_eq (members : List (List Piece × Tree)) :
    eachMember members =
      members.map fun member => stringToken member.1 :: .colon :: member.2.tokens := by
  induction members with
  | nil => rfl
  | cons member members ih => rw [eachMember, ih, List.map_cons]

theorem tokens_list (items : List Tree) :
    (Tree.list items).tokens = .openList :: (commas (items.map tokens) ++ [.closeList]) := by
  rw [tokens, eachItem_eq]

theorem tokens_object (members : List (List Piece × Tree)) :
    (Tree.object members).tokens = .openObject :: (commas (members.map fun member =>
      stringToken member.1 :: .colon :: member.2.tokens) ++ [.closeObject]) := by
  rw [tokens, eachMember_eq]

/-- No value begins with the end of a list, and none but null begins with null. -/
theorem tokens_begin (tree : Tree) : ∃ first later, tree.tokens = first :: later ∧
    first ≠ .closeList ∧ (first = .null → tree = .null) := by
  cases tree with
  | null => exact ⟨_, _, rfl, nofun, fun _ => rfl⟩
  | bool b => exact ⟨_, _, rfl, nofun, nofun⟩
  | number numeral => exact ⟨_, _, rfl, nofun, nofun⟩
  | string content => exact ⟨_, _, rfl, nofun, nofun⟩
  | list items => exact ⟨_, _, rfl, nofun, nofun⟩
  | object members => exact ⟨_, _, rfl, nofun, nofun⟩

end Tree

section Apart

theorem Apart.cons {token : Token} {later : List Token} (apart : Apart later)
    (other : token.isNumber = false) : Apart (token :: later) := by
  refine List.isChain_cons.mpr ⟨fun _ _ number => ?_, apart⟩
  cases other.symm.trans number

theorem Apart.append {front back : List Token} (first : Apart front) (second : Apart back)
    (closes : ∀ mark ∈ back.head?, mark.closes = true) : Apart (front ++ back) :=
  List.IsChain.append first second fun _ _ mark begins _ => closes mark begins

theorem Apart.commas {groups : List (List Token)} (each : ∀ group ∈ groups, Apart group) :
    Apart (commas groups) := by
  induction groups with
  | nil => exact List.isChain_nil
  | cons group groups ih =>
    obtain ⟨first, later⟩ := List.forall_mem_cons.mp each
    cases groups with
    | nil => simpa using first
    | cons next groups =>
      rw [commas_cons_cons]
      exact first.append ((ih later).cons rfl) (by simp [Token.closes])

theorem Tree.apart (tree : Tree) : Apart tree.tokens := by
  induction tree with
  | null => exact List.isChain_singleton _
  | bool b => exact List.isChain_singleton _
  | number numeral => exact List.isChain_singleton _
  | string content => exact List.isChain_singleton _
  | list items ih =>
    rw [tokens_list]
    refine ((Apart.commas ?_).append (List.isChain_singleton _) (by simp [Token.closes])).cons rfl
    simpa using ih
  | object members ih =>
    rw [tokens_object]
    refine ((Apart.commas ?_).append (List.isChain_singleton _) (by simp [Token.closes])).cons rfl
    intro group present
    obtain ⟨member, listed, rfl⟩ := List.mem_map.mp present
    exact ((ih member listed).cons rfl).cons rfl

theorem isWhole_commas {groups : List (List Token)}
    (each : ∀ group ∈ groups, ∀ token ∈ group, token.isWhole = true) :
    ∀ token ∈ commas groups, token.isWhole = true := by
  induction groups with
  | nil => simp
  | cons group groups ih =>
    obtain ⟨first, later⟩ := List.forall_mem_cons.mp each
    cases groups with
    | nil => simpa using first
    | cons next groups =>
      rw [commas_cons_cons]
      exact List.forall_mem_append.mpr ⟨first, List.forall_mem_cons.mpr ⟨rfl, ih later⟩⟩

theorem Tree.isWhole (tree : Tree) : ∀ token ∈ tree.tokens, token.isWhole = true := by
  induction tree with
  | null => exact List.forall_mem_singleton.mpr rfl
  | bool b => exact List.forall_mem_singleton.mpr rfl
  | number numeral => exact List.forall_mem_singleton.mpr rfl
  | string content => exact List.forall_mem_singleton.mpr rfl
  | list items ih =>
    rw [tokens_list, List.forall_mem_cons, List.forall_mem_append]
    refine ⟨rfl, isWhole_commas ?_, List.forall_mem_singleton.mpr rfl⟩
    simpa using ih
  | object members ih =>
    rw [tokens_object, List.forall_mem_cons, List.forall_mem_append]
    refine ⟨rfl, isWhole_commas fun group present => ?_, List.forall_mem_singleton.mpr rfl⟩
    obtain ⟨member, listed, rfl⟩ := List.mem_map.mp present
    exact List.forall_mem_cons.mpr ⟨rfl, List.forall_mem_cons.mpr ⟨rfl, ih member listed⟩⟩

/-- A text spells a value exactly when its tokens are those of the value. -/
theorem Tree.spaced_iff {tree : Tree} {text : List Char} :
    Spaced tree.tokens text ↔ Json.tokens text = tree.tokens := by
  constructor
  · exact fun written => written.tokens_eq tree.apart
  · intro found
    rw [← found]
    exact Spaced.of_tokens fun token member => tree.isWhole token (found ▸ member)

end Apart

section Pass

/-- Going on after a value inside some open lists and objects. -/
def resume : List Frame → List Token → Except Rejection (List Token)
  | [], rest => .ok rest
  | frame :: outer, rest => pass (frame :: outer) .next rest

theorem pass_ended {frames outer : List Frame} {expected : Expected} {token : Token}
    (ended : Passage.ofToken frames expected token = .ended outer) (rest : List Token) :
    pass frames expected (token :: rest) = resume outer rest := by
  rw [pass, ended]
  cases outer <;> rfl

theorem pass_goesOn {frames inner : List Frame} {expected other : Expected} {token : Token}
    (onward : Passage.ofToken frames expected token = .goesOn inner other) (rest : List Token) :
    pass frames expected (token :: rest) = pass inner other rest := by
  rw [pass, onward]

/-- Groups with commas between them are passed over when each group is, up to the mark that ends
the list or object they are in. -/
theorem pass_commas {frame : Frame} {frames : List Frame} {expected : Expected} {close : Token}
    (comma : Passage.ofToken (frame :: frames) .next .comma = .goesOn (frame :: frames) expected)
    (closes : Passage.ofToken (frame :: frames) .next close = .ended frames)
    {first : List Token} {groups : List (List Token)}
    (each : ∀ group ∈ first :: groups, ∀ rest,
      pass (frame :: frames) expected (group ++ rest) = pass (frame :: frames) .next rest)
    (rest : List Token) :
    pass (frame :: frames) expected (commas (first :: groups) ++ close :: rest) =
      resume frames rest := by
  induction groups generalizing first with
  | nil => rw [commas_singleton, each first List.mem_cons_self, pass_ended closes]
  | cons next groups ih =>
    rw [commas_cons_cons, List.append_assoc, each first List.mem_cons_self, List.cons_append,
      pass_goesOn comma, ih fun group member => each group (List.mem_cons_of_mem _ member)]

theorem commas_begin (token : Token) (later : List Token) (groups : List (List Token)) :
    ∃ more, commas ((token :: later) :: groups) = token :: more := by
  cases groups with
  | nil => exact ⟨later, commas_singleton _⟩
  | cons next groups => exact ⟨_, commas_cons_cons _ _ _⟩

theorem pass_firstItem {token : Token} (opens : token ≠ .closeList) (frames : List Frame)
    (rest : List Token) :
    pass frames .firstItem (token :: rest) = pass frames .value (token :: rest) := by
  have same : Passage.ofToken frames .firstItem token = Passage.ofToken frames .value token := by
    cases token <;> first | rfl | exact absurd rfl opens
  rw [pass, pass, same]

theorem pass_firstName (content : List Piece) (frames : List Frame) (rest : List Token) :
    pass frames .firstName (stringToken content :: rest) =
      pass frames .name (stringToken content :: rest) :=
  (pass_goesOn rfl rest).trans (pass_goesOn rfl rest).symm

/-- A value is passed over as a whole, whatever is in it and wherever it stands. -/
theorem Tree.pass_tokens (tree : Tree) (frames : List Frame) (rest : List Token) :
    pass frames .value (tree.tokens ++ rest) = resume frames rest := by
  induction tree generalizing frames rest with
  | null => exact pass_ended rfl rest
  | bool b => exact pass_ended rfl rest
  | number numeral => exact pass_ended rfl rest
  | string content => exact pass_ended rfl rest
  | list items ih =>
    rw [tokens_list, List.cons_append, pass_goesOn rfl, List.append_assoc, List.singleton_append]
    cases items with
    | nil => exact pass_ended rfl rest
    | cons item items =>
      have each : ∀ group ∈ (item :: items).map tokens, ∀ rest,
          pass (.list :: frames) .value (group ++ rest) = pass (.list :: frames) .next rest := by
        intro group present
        obtain ⟨item, listed, rfl⟩ := List.mem_map.mp present
        exact ih item listed (.list :: frames)
      obtain ⟨token, later, begins, opens, -⟩ := item.tokens_begin
      obtain ⟨more, first⟩ := commas_begin token later (items.map tokens)
      rw [List.map_cons, begins, first, List.cons_append, pass_firstItem opens, ← List.cons_append,
        ← first, ← begins]
      exact pass_commas rfl rfl each rest
  | object members ih =>
    rw [tokens_object, List.cons_append, pass_goesOn rfl, List.append_assoc, List.singleton_append]
    cases members with
    | nil => exact pass_ended rfl rest
    | cons member members =>
      have each : ∀ group ∈ (member :: members).map fun member =>
          stringToken member.1 :: .colon :: member.2.tokens, ∀ rest,
          pass (.object :: frames) .name (group ++ rest) = pass (.object :: frames) .next rest := by
        intro group present rest
        obtain ⟨member, listed, rfl⟩ := List.mem_map.mp present
        rw [List.cons_append, pass_goesOn rfl, List.cons_append, pass_goesOn rfl,
          ih member listed]
        rfl
      obtain ⟨more, first⟩ := commas_begin (stringToken member.1) (.colon :: member.2.tokens)
        (members.map fun member => stringToken member.1 :: .colon :: member.2.tokens)
      rw [List.map_cons, first, List.cons_append, pass_firstName, ← List.cons_append, ← first]
      exact pass_commas rfl rfl each rest

theorem skipValue_tokens (tree : Tree) (rest : List Token) :
    skipValue (tree.tokens ++ rest) = .ok rest := tree.pass_tokens [] rest

end Pass

end WorkerVitals.Json
