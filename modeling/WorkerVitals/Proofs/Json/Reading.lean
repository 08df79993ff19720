import WorkerVitals.Proofs.Json.Spelling

namespace WorkerVitals.Json

variable {α β σ : Type}

/-- A value that a reader accepts, or one whose shape is refused. -/
def shaped (fits : Bool) (value : α) : Except Rejection α :=
  if fits then .ok value else .error .misshapen

@[simp] theorem map_shaped (f : α → β) (fits : Bool) (value : α) :
    (shaped fits value).map f = shaped fits (f value) := by cases fits <;> rfl

theorem foldlM_shaped (fits : β → Bool) (next : σ → β → σ) (members : List β)
    (state : σ) :
    members.foldlM (fun state member => shaped (fits member) (next state member)) state =
      shaped (members.all fits) (members.foldl next state) := by
  induction members generalizing state with
  | nil => rfl
  | cons member members ih =>
    rw [List.foldlM_cons, List.all_cons, List.foldl_cons]
    cases fits member with
    | false => rfl
    | true => exact ih _

/-- A reader makes of some tokens a value or a rejection, whatever tokens follow. -/
def Reads (read : Reader α) (spelled : List Token) (outcome : Except Rejection α) : Prop :=
  ∀ rest, read (spelled ++ rest) = outcome.map fun value => (value, rest)

theorem reads_string (content : String) : Reads readString [.text (.ok content)] (.ok content) :=
  fun _ => rfl

theorem reads_none (read : Reader α) : Reads (readOption read) [.null] (.ok none) := fun _ => rfl

theorem Reads.map {read : Reader α} {spelled : List Token} {fits : Bool} {value : α}
    (reads : Reads read spelled (shaped fits value)) (f : α → β) :
    Reads (fun tokens => (read tokens).map fun found => (f found.1, found.2)) spelled
      (shaped fits (f value)) := by
  intro rest
  dsimp only
  rw [reads rest, map_shaped, map_shaped, map_shaped]

theorem Reads.some {read : Reader α} {first : Token} {later : List Token}
    {outcome : Except Rejection α} (reads : Reads read (first :: later) outcome)
    (present : first ≠ .null) : Reads (readOption read) (first :: later) (outcome.map some) := by
  intro rest
  have unfolded : readOption read (first :: later ++ rest) =
      (read (first :: later ++ rest)).map fun found => (Option.some found.1, found.2) := by
    simp [readOption, present]
  rw [unfolded, reads]
  cases outcome <;> rfl

theorem readText_eq {read : Reader α} {spelled : List Token} {outcome : Except Rejection α}
    (reads : Reads read spelled outcome) {text : String} (found : tokens text.toList = spelled) :
    readText read text = outcome := by
  have whole := reads []
  rw [List.append_nil] at whole
  rw [readText, found, whole]
  cases outcome <;> rfl

/-- Digits are taken as long as the number that they make up fits. -/
theorem absorb_eq {significand : Nat} {digits : List Char}
    (fits : digits.foldl (fun value digit => 10 * value + Text.digitValue digit) significand <
      UInt64.size) (taken : Nat) :
    absorb significand taken digits =
      (digits.foldl (fun value digit => 10 * value + Text.digitValue digit) significand,
        taken + digits.length) := by
  induction digits generalizing significand taken with
  | nil => rfl
  | cons digit digits ih =>
    have grows (value : Nat) (digits : List Char) : value ≤
        digits.foldl (fun value digit => 10 * value + Text.digitValue digit) value := by
      induction digits generalizing value with
      | nil => exact Nat.le_refl _
      | cons digit digits ih =>
        exact Nat.le_trans (show value ≤ 10 * value + Text.digitValue digit by omega) (ih _)
    have next := Nat.lt_of_le_of_lt (grows _ digits) fits
    rw [absorb, if_pos next, ih fits, List.foldl_cons, List.length_cons, Nat.add_right_comm,
      Nat.add_assoc]

/-- A numeral for a whole number of 64 bits. A zero with a minus sign is none. -/
structure Numeral.Whole (numeral : Numeral) (n : Int64) : Prop where
  fraction : numeral.fraction = []
  exponent : numeral.exponent = none
  unsigned : numeral.negative = true → n ≠ 0
  value : n.toInt = if numeral.negative then -(Text.digitsValue numeral.whole : Int)
    else Text.digitsValue numeral.whole

theorem Numeral.Whole.value_eq {numeral : Numeral} {n : Int64} (whole : numeral.Whole n) :
    numeral.value =
      .ok (if numeral.negative then .negative n else .natural n.toInt.natAbs.toUInt64) := by
  have low := n.le_toInt
  have high := n.toInt_lt
  obtain ⟨negative, digits, fraction, exponent⟩ := numeral
  obtain ⟨rfl, rfl, unsigned, value⟩ := whole
  dsimp only at unsigned value
  have count : digits.foldl (fun value digit => 10 * value + Text.digitValue digit) 0 =
      n.toInt.natAbs := by
    change Text.digitsValue digits = _
    split at value <;> omega
  have taken : absorb 0 0 digits = (n.toInt.natAbs, digits.length) := by
    rw [absorb_eq (by rw [count]; unfold UInt64.size; omega), count, Nat.zero_add]
  cases negative with
  | true =>
    have nonzero : n.toInt ≠ 0 := fun zero => unsigned rfl (Int64.toInt_inj.mp zero)
    have small : 1 ≤ n.toInt.natAbs ∧ n.toInt.natAbs ≤ Nat.pow 2 63 := by
      rw [show Nat.pow 2 63 = 2 ^ 63 from rfl]
      omega
    have same : Int64.ofInt (-n.toInt.natAbs) = n := by
      rw [if_pos rfl] at value
      rw [show -(n.toInt.natAbs : Int) = n.toInt by omega, Int64.ofInt_toInt]
    simp only [Numeral.value, taken, if_true, small, and_self, same]
  | false => simp [Numeral.value, taken]

theorem Number.toInt?_natural {n : Int64} (natural : 0 ≤ n.toInt) :
    (Number.natural n.toInt.natAbs.toUInt64).toInt? = .ok n := by
  have high := n.toInt_lt
  have word : n.toInt.natAbs.toUInt64.toNat = n.toInt.natAbs := by
    rw [Nat.toUInt64, UInt64.toNat_ofNat', Nat.mod_eq_of_lt (by omega)]
  have same : Int64.ofNat n.toInt.natAbs = n := by
    rw [← Int64.toInt_inj, Int64.toInt_ofNat_of_lt (by omega)]
    omega
  rw [Number.toInt?, word, same, if_pos]
  rw [show Nat.pow 2 63 = 2 ^ 63 from rfl]
  omega

/-- A whole number of 64 bits is read exactly. -/
theorem reads_whole {numeral : Numeral} {n : Int64} (whole : numeral.Whole n) :
    Reads readInt [.number numeral] (.ok n) := by
  intro rest
  have number : (if numeral.negative then .negative n else
      .natural n.toInt.natAbs.toUInt64 : Number).toInt? = .ok n := by
    have value := whole.value
    split
    · rfl
    · rename_i natural
      rw [if_neg natural] at value
      exact Number.toInt?_natural (by omega)
  have read : readInt (.number numeral :: rest) = (if numeral.negative then .negative n else
      .natural n.toInt.natAbs.toUInt64 : Number).toInt?.bind fun n => .ok (n, rest) := by
    rw [readInt, whole.value_eq]
    rfl
  rw [List.singleton_append, read, number]
  rfl

theorem Numeral.whole_ofInt (n : Int64) : (Numeral.ofInt n.toInt).Whole n where
  fraction := rfl
  exponent := rfl
  unsigned negative := by
    rintro rfl
    cases negative
  value := by
    simp only [ofInt, Text.digitsValue_decimal, decide_eq_true_eq]
    split <;> omega

theorem reads_int (n : Int64) : Reads readInt [.number (.ofInt n.toInt)] (.ok n) :=
  reads_whole (Numeral.whole_ofInt n)

/-- Reading what is written for a number gives the number back. -/
def Rereads (x : Float) : Prop := readFloat (tokens (writeFloat x)) = .ok (x, [])

deriving instance DecidableEq for Token

instance (x : Float) : Decidable (Rereads x) := inferInstanceAs (Decidable (_ = _))

/-- The token of a written number; a number that is not finite is written as null. -/
def floatToken (x : Float) : Token := (tokens (writeFloat x)).headD .null

theorem Rereads.tokens_eq {x : Float} (same : Rereads x) :
    ∃ numeral number, tokens (writeFloat x) = [.number numeral] ∧ numeral.value = .ok number ∧
      number.toFloat = x := by
  unfold Rereads readFloat at same
  split at same
  · rename_i numeral rest spelled
    cases value : numeral.value with
    | error reason => rw [value] at same; cases same
    | ok number =>
      rw [value] at same
      cases same
      exact ⟨numeral, number, spelled, value, rfl⟩
  · cases same

theorem tokens_writeNull : tokens writeNull = [.null] := by
  simpa [tokens] using spells_writeNull [] .finish

/-- A written sample is one token, and only a finite one is read as a number. -/
theorem floatToken_spec {x : Float} (faithful : x.isFinite = true → Rereads x) :
    Spells (writeFloat x) [floatToken x] ∧ floatToken x ≠ .closeList ∧
      Reads readFloat [floatToken x] (shaped x.isFinite x) := by
  by_cases finite : x.isFinite
  · obtain ⟨numeral, number, spelled, value, same⟩ := (faithful finite).tokens_eq
    have token : floatToken x = .number numeral := by rw [floatToken, spelled]; rfl
    rw [token]
    refine ⟨spells_number spelled, by simp, fun rest => ?_⟩
    rw [List.singleton_append, readFloat, value, finite, ← same]
    rfl
  · have null : writeFloat x = writeNull := if_neg finite
    have token : floatToken x = .null := by rw [floatToken, null, tokens_writeNull]; rfl
    rw [token, null, Bool.eq_false_iff.mpr finite]
    exact ⟨spells_writeNull, by simp, fun _ => rfl⟩

section Items

variable {ι : Type} {read : Reader α} {token : ι → Token} {value : ι → Except Rejection α}

theorem readItems_commas {first : ι} {items : List ι}
    (each : ∀ item ∈ first :: items, Reads read [token item] (value item)) (rest : List Token) :
    readItems read (commas ((first :: items).map fun item => [token item]) ++ .closeList :: rest) =
      ((first :: items).mapM value).map fun values => (values, rest) := by
  induction items generalizing first with
  | nil =>
    have one : read [token first] = _ := each first List.mem_cons_self []
    cases given : value first <;> simp [readItems, one, given] <;> rfl
  | cons next items ih =>
    have one : read [token first] = _ := each first List.mem_cons_self []
    have later := ih fun item member => each item (List.mem_cons_of_mem _ member)
    have split : commas ((first :: next :: items).map fun item => [token item]) ++
        .closeList :: rest = token first :: .comma ::
          (commas ((next :: items).map fun item => [token item]) ++ .closeList :: rest) := by simp
    rw [split, readItems, one, List.mapM_cons]
    cases value first with
    | error reason => rfl
    | ok found =>
      have step : readItems read (commas ((next :: items).map fun item => [token item]) ++
          .closeList :: rest) >>= (fun others => .ok (found :: others.1, others.2)) =
          (((next :: items).mapM value).map fun values => (values, rest)) >>=
            fun others => .ok (found :: others.1, others.2) := by rw [later]
      refine Eq.trans step ?_
      cases (next :: items).mapM value <;> rfl

/-- A list is read when each of its items is, and refused at the first that is not. -/
theorem reads_items {items : List ι} (proper : ∀ item ∈ items, token item ≠ .closeList)
    (each : ∀ item ∈ items, Reads read [token item] (value item)) :
    Reads (readList read) (listTokens (items.map token)) (items.mapM value) := by
  intro rest
  cases items with
  | nil => rfl
  | cons first items =>
    rw [← readItems_commas each rest]
    have opens := proper first List.mem_cons_self
    cases items with
    | nil => simp [listTokens, readList, opens]
    | cons next items => simp [listTokens, readList, opens, Function.comp_def]

theorem mapM_shaped (fits : α → Bool) (items : List α) :
    items.mapM (fun item => shaped (fits item) item) = shaped (items.all fits) items := by
  induction items with
  | nil => rfl
  | cons item items ih =>
    rw [List.mapM_cons, ih, List.all_cons]
    cases fits item <;> cases items.all fits <;> rfl

theorem reads_list {token : α → Token} {fits : α → Bool} {items : List α}
    (proper : ∀ item ∈ items, token item ≠ .closeList)
    (each : ∀ item ∈ items, Reads read [token item] (shaped (fits item) item)) :
    Reads (readList read) (listTokens (items.map token)) (shaped (items.all fits) items) :=
  mapM_shaped fits items ▸ reads_items proper each

end Items

section Members

variable {read : String → σ → Reader σ} {name : β → String} {spelled : β → List Token}
  {step : σ → β → Except Rejection σ}

theorem length_le_commas (name : β → String) (spelled : β → List Token) (members : List β) :
    members.length ≤ (commas (members.map (memberTokens name spelled))).length := by
  induction members with
  | nil => exact Nat.zero_le _
  | cons member members ih =>
    cases members with
    | nil => simp [memberTokens]
    | cons next members =>
      simp [memberTokens] at ih ⊢
      omega

/-- How an object goes on after a member: it ends, or there are more members. -/
def goOn (read : String → σ → Reader σ) (limit : Nat) (state : σ) : Reader σ
  | [] => .error .ended
  | .closeObject :: rest => .ok (state, rest)
  | .comma :: rest => foldMembers read limit state rest
  | _ :: _ => .error .malformed

/-- A member is taken, and what follows it decides how the object goes on. -/
theorem foldMembers_member {member : β} {state : σ}
    (reads : Reads (read (name member) state) (.colon :: spelled member) (step state member))
    (limit : Nat) (rest : List Token) :
    foldMembers read (limit + 1) state (memberTokens name spelled member ++ rest) =
      (step state member).bind fun state => goOn read limit state rest := by
  have value := reads rest
  have unfolded : foldMembers read (limit + 1) state (memberTokens name spelled member ++ rest) =
      (read (name member) state (.colon :: spelled member ++ rest)).bind fun found =>
        goOn read limit found.1 found.2 := rfl
  rw [unfolded, value]
  cases step state member <;> rfl

theorem foldMembers_commas {first : β} {members : List β}
    (each : ∀ member ∈ first :: members, ∀ state,
      Reads (read (name member) state) (.colon :: spelled member) (step state member))
    {limit : Nat} (enough : (first :: members).length ≤ limit) (state : σ) (rest : List Token) :
    foldMembers read limit state
        (commas ((first :: members).map (memberTokens name spelled)) ++ .closeObject :: rest) =
      ((first :: members).foldlM step state).map fun state => (state, rest) := by
  induction members generalizing first limit state with
  | nil =>
    obtain ⟨limit, rfl⟩ := Nat.exists_eq_add_of_le' (show 1 ≤ limit from enough)
    have one :=
      foldMembers_member (each first List.mem_cons_self state) limit (.closeObject :: rest)
    rw [List.map_cons, List.map_nil, commas_singleton, one]
    simp only [List.foldlM_cons, List.foldlM_nil]
    cases step state first <;> rfl
  | cons next members ih =>
    obtain ⟨limit, rfl⟩ := Nat.exists_eq_add_of_le' (show 1 ≤ limit by simp at enough; omega)
    -- Each member takes one from the limit, and leaves a limit that is enough for the others.
    have inside : ∀ member ∈ next :: members, ∀ state,
        Reads (read (name member) state) (.colon :: spelled member) (step state member) :=
      fun member found => each member (List.mem_cons_of_mem _ found)
    have one := foldMembers_member (each first List.mem_cons_self state) limit (.comma ::
      (commas ((next :: members).map (memberTokens name spelled)) ++ .closeObject :: rest))
    have split : commas ((first :: next :: members).map (memberTokens name spelled)) ++
        .closeObject :: rest = memberTokens name spelled first ++ .comma ::
          (commas ((next :: members).map (memberTokens name spelled)) ++ .closeObject :: rest) := by
      simp
    rw [split, one, List.foldlM_cons]
    cases step state first with
    | error reason => rfl
    | ok state => exact ih inside (Nat.le_of_succ_le_succ enough) state

theorem readMembers_members {members : List β}
    (each : ∀ member ∈ members, ∀ state,
      Reads (read (name member) state) (.colon :: spelled member) (step state member))
    (state : σ) (rest : List Token) :
    readMembers read state ((objectTokens name spelled members).tail ++ rest) =
      (members.foldlM step state).map fun state => (state, rest) := by
  rw [objectTokens, List.tail_cons, List.append_assoc, List.singleton_append]
  cases members with
  | nil => rfl
  | cons first members =>
    have enough : (first :: members).length ≤
        (commas ((first :: members).map (memberTokens name spelled)) ++
          .closeObject :: rest).length := by
      rw [List.length_append]
      exact Nat.le_add_right_of_le (length_le_commas name spelled _)
    rw [← foldMembers_commas each enough state rest]
    cases members <;> rfl

end Members

end WorkerVitals.Json
