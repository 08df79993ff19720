import WorkerVitals.Proofs.Json.Values
import WorkerVitals.Proofs.Snapshot.RoundTrip

/-! Snapshots read from any JSON text that has their fields. The members of an object may stand in any
order and have others among them, which are passed over; only a field that stands twice is refused.
A list of the four values says the same. -/
namespace WorkerVitals.Snapshot
open Json

section Maps

variable {α : Type}

/-- An object and the map that it stands for; the last value of a name counts. -/
inductive MapOf (of : Tree → α → Prop) : Tree → NameMap α → Prop where
  | object {members : List (List Piece × Tree)} {entries : List (String × α)} {map : NameMap α}
      (each : members.Forall₂ (fun member entry =>
        Stands member.1 entry.1.toList ∧ of member.2 entry.2) entries)
      (last : ∀ name, map.get? name = entries.reverse.lookup name) : MapOf of (.object members) map

theorem readsAs_map {read : Reader α} {of : Tree → α → Prop} (reads : ReadsAs read of)
    (one : OneToken of) : ReadsAs (readMap read) (MapOf (ListOf of)) := by
  rintro _ map ⟨each, last⟩ rest
  obtain ⟨rows, rfl, rfl, given⟩ := exists_rows each
  have tokens : (Tree.object (rows.map Prod.fst)).tokens =
      objectTokens (fun row => row.2.1) (fun row => row.1.2.tokens) rows := by
    rw [Tree.tokens_object, objectTokens, List.map_map]
    congr 3
    refine List.map_congr_left fun row member => ?_
    rw [Function.comp_apply, (given row member).1.token_eq]
    rfl
  have entry : ∀ row ∈ rows, ∀ kept : NameMap (List α),
      Reads (readEntry read row.2.1 kept) (.colon :: row.1.2.tokens)
        (shaped true (kept.insert row.2.1 row.2.2)) :=
    fun row member kept => reads_readEntry (readsAs_list reads one (given row member).2) _ kept
  have object := readMembers_members entry NameMap.empty rest
  have whole : rows.foldl (fun kept row => kept.insert row.2.1 row.2.2) NameMap.empty = map := by
    refine NameMap.ext_get? fun name => ?_
    rw [last, ← NameMap.get?_ofList, NameMap.ofList, List.foldl_map]
  have all : (rows.all fun _ => true) = true := by simp
  rw [foldlM_shaped, whole, all] at object
  rw [tokens]
  exact object

end Maps

/-- A value that is acceptable for a field, and a snapshot that has what it stands for. -/
def Field.Fits : Field → Tree → Snapshot → Prop
  | .workerId, tree, snapshot => NullableOf TextOf tree snapshot.workerId
  | .lastUpdateTime, tree, snapshot => NullableOf IntOf tree snapshot.lastUpdateTime
  | .metricStats, tree, snapshot => NullableOf (MapOf (ListOf FloatOf)) tree snapshot.metricStats
  | .operatingRange, tree, snapshot =>
    NullableOf (MapOf (ListOf IntOf)) tree snapshot.operatingRange

theorem reads_fits {field : Field} {tree : Tree} {snapshot : Snapshot}
    (fits : field.Fits tree snapshot) (draft : Draft) :
    Reads (draft.readField field) tree.tokens (.ok (draft.put snapshot field)) := by
  cases field with
  | workerId =>
    have option : Reads (readOption readString) tree.tokens (shaped true snapshot.workerId) :=
      readsAs_nullable readsAs_text nofun fits
    exact option.map fun value => { draft with workerId := some value }
  | lastUpdateTime =>
    have option : Reads (readOption readInt) tree.tokens (shaped true snapshot.lastUpdateTime) :=
      readsAs_nullable readsAs_int nofun fits
    exact option.map fun value => { draft with lastUpdateTime := some value }
  | metricStats =>
    have option : Reads (readOption (readMap readFloat)) tree.tokens
        (shaped true snapshot.metricStats) :=
      readsAs_nullable (readsAs_map readsAs_float oneToken_float) nofun fits
    exact option.map fun value => { draft with metricStats := some value }
  | operatingRange =>
    have option : Reads (readOption (readMap readInt)) tree.tokens
        (shaped true snapshot.operatingRange) :=
      readsAs_nullable (readsAs_map readsAs_int oneToken_int) nofun fits
    exact option.map fun value => { draft with operatingRange := some value }

/-- Values that are acceptable one by one make up a snapshot. -/
theorem exists_fits {values : Field → Tree}
    (each : ∀ field : Field, ∃ snapshot, field.Fits (values field) snapshot) :
    ∃ snapshot, ∀ field : Field, field.Fits (values field) snapshot := by
  choose given fits using each
  refine ⟨{ workerId := (given .workerId).workerId
            lastUpdateTime := (given .lastUpdateTime).lastUpdateTime
            metricStats := (given .metricStats).metricStats
            operatingRange := (given .operatingRange).operatingRange }, fun field => ?_⟩
  cases field with
  | workerId => exact fits .workerId
  | lastUpdateTime => exact fits .lastUpdateTime
  | metricStats => exact fits .metricStats
  | operatingRange => exact fits .operatingRange

section Draft

theorem has_put (draft : Draft) (snapshot : Snapshot) (field other : Field) :
    (draft.put snapshot field).has other = (decide (other = field) || draft.has other) := by
  cases field <;> cases other <;> rfl

/-- Takes over a field from a snapshot, unless it was taken over before. -/
def Draft.receive (draft : Draft) (given : Field × Snapshot) : Except Rejection Draft :=
  if draft.has given.1 then .error .misshapen else .ok (draft.put given.2 given.1)

theorem foldlM_receive (given : List (Field × Snapshot)) (draft : Draft) :
    given.foldlM Draft.receive draft =
      if (given.map Prod.fst).Nodup ∧ ∀ field ∈ given.map Prod.fst, draft.has field = false then
        .ok (given.foldl (fun draft one => draft.put one.2 one.1) draft)
      else .error .misshapen := by
  induction given generalizing draft with
  | nil => simp; rfl
  | cons one given ih =>
    rw [List.foldlM_cons, Draft.receive]
    cases taken : draft.has one.1 with
    | true => simp [taken]; rfl
    | false =>
      have same : ((one :: given).map Prod.fst).Nodup ∧
          (∀ field ∈ (one :: given).map Prod.fst, draft.has field = false) ↔
          (given.map Prod.fst).Nodup ∧
            ∀ field ∈ given.map Prod.fst, (draft.put one.2 one.1).has field = false := by
        simp only [List.map_cons, List.nodup_cons, List.forall_mem_cons, taken, true_and, has_put,
          Bool.or_eq_false_iff, decide_eq_false_iff_not]
        constructor
        · rintro ⟨⟨absent, distinct⟩, free⟩
          refine ⟨distinct, fun field member => ⟨?_, free field member⟩⟩
          rintro rfl
          exact absent member
        · rintro ⟨distinct, free⟩
          exact ⟨⟨fun member => (free one.1 member).1 rfl, distinct⟩,
            fun field member => (free field member).2⟩
      rw [if_congr same rfl rfl]
      exact ih (draft.put one.2 one.1)

theorem foldl_put (fields : List Field) (snapshot : Snapshot) (draft : Draft) :
    fields.foldl (fun (draft : Draft) field => draft.put snapshot field) draft =
      { workerId := if .workerId ∈ fields then some snapshot.workerId else draft.workerId
        lastUpdateTime :=
          if .lastUpdateTime ∈ fields then some snapshot.lastUpdateTime else draft.lastUpdateTime
        metricStats :=
          if .metricStats ∈ fields then some snapshot.metricStats else draft.metricStats
        operatingRange :=
          if .operatingRange ∈ fields then some snapshot.operatingRange
          else draft.operatingRange } := by
  induction fields generalizing draft with
  | nil => simp
  | cons field fields ih =>
    rw [List.foldl_cons, ih]
    cases field <;> simp [Draft.put]

/-- What was taken over from one snapshot makes it up again, if it has nothing else. -/
theorem snapshot_foldl_put {fields : List Field} {snapshot : Snapshot}
    (missing : ∀ field ∉ fields, Field.Fits field .null snapshot) :
    (fields.foldl (fun (draft : Draft) field => draft.put snapshot field) {}).snapshot =
      snapshot := by
  have filled {α : Type} {field : Field} {value : Option α}
      (absent : field ∉ fields → value = none) :
      (if field ∈ fields then some value else none).join = value := by
    split
    · rfl
    · rename_i out
      rw [absent out]
      rfl
  rw [foldl_put, Draft.snapshot]
  congr 1
  · exact filled fun out => (missing .workerId out).eq_none nofun
  · exact filled fun out => (missing .lastUpdateTime out).eq_none nofun
  · exact filled fun out => (missing .metricStats out).eq_none nofun
  · exact filled fun out => (missing .operatingRange out).eq_none nofun

end Draft

/-- A member of an object: its name, the pieces that it is written with, and its value. -/
structure Member where
  name : String
  spelled : List Piece
  stands : Stands spelled name.toList
  value : Tree

def objectOf (members : List Member) : Tree :=
  .object (members.map fun member => (member.spelled, member.value))

def known (members : List Member) : List (Field × Tree) :=
  members.filterMap fun member => (Field.ofName? member.name).map fun field => (field, member.value)

theorem Field.ofName?_eq_some_iff {name : String} {field : Field} :
    Field.ofName? name = some field ↔ name = field.name := by
  constructor
  · intro found
    have same := List.find?_some found
    exact (beq_iff_eq.mp same).symm
  · rintro rfl
    cases field <;> decide

theorem mem_known_iff {members : List Member} {field : Field} {tree : Tree} :
    (field, tree) ∈ known members ↔
      ∃ member ∈ members, member.name = field.name ∧ member.value = tree := by
  simp only [known, List.mem_filterMap, Option.map_eq_some_iff, Prod.mk.injEq]
  constructor
  · rintro ⟨member, listed, found, named, rfl, rfl⟩
    exact ⟨member, listed, Field.ofName?_eq_some_iff.mp named, rfl⟩
  · rintro ⟨member, listed, named, rfl⟩
    exact ⟨member, listed, field, Field.ofName?_eq_some_iff.mpr named, rfl, rfl⟩

/-- These values are the fields of a snapshot; one that is not given is none, as if it were null. -/
structure Holds (given : List (Field × Tree)) (snapshot : Snapshot) : Prop where
  present : ∀ one ∈ given, one.1.Fits one.2 snapshot
  missing : ∀ field ∉ given.map Prod.fst, Field.Fits field .null snapshot

/-- The value of a field, which is null if none is given. -/
def valueIn (given : List (Field × Tree)) (field : Field) : Tree := (given.lookup field).getD .null

/-- The list of the four values in the order of the fields. -/
def listOf (given : List (Field × Tree)) : Tree := .list (Field.all.map (valueIn given))

section Objects

variable {members : List Member} {pick : Field × Tree → Snapshot}

theorem tokens_objectOf (members : List Member) :
    (objectOf members).tokens =
      objectTokens Member.name (fun member => member.value.tokens) members := by
  rw [objectOf, Tree.tokens_object, objectTokens, List.map_map]
  congr 3
  refine List.map_congr_left fun member _ => ?_
  rw [Function.comp_apply, member.stands.token_eq]
  rfl

/-- Takes over a member that is a field, from the snapshot picked for it. -/
def Draft.accept (pick : Field × Tree → Snapshot) (draft : Draft) (member : Member) :
    Except Rejection Draft :=
  match Field.ofName? member.name with
  | some field => draft.receive (field, pick (field, member.value))
  | none => .ok draft

theorem reads_accept {member : Member}
    (fits : ∀ field : Field, member.name = field.name →
      field.Fits member.value (pick (field, member.value))) (draft : Draft) :
    Reads (Draft.readMember member.name draft) (.colon :: member.value.tokens)
      (draft.accept pick member) := by
  intro rest
  unfold Draft.readMember Draft.accept
  cases named : Field.ofName? member.name with
  | none =>
    have skipped := skipValue_tokens member.value rest
    change (skipValue (member.value.tokens ++ rest)).bind _ = _
    rw [skipped]
    rfl
  | some field =>
    have read := reads_fits (fits field (Field.ofName?_eq_some_iff.mp named)) draft rest
    dsimp only [Draft.receive]
    split
    · rfl
    · exact read

theorem foldlM_accept (members : List Member) (draft : Draft) :
    members.foldlM (Draft.accept pick) draft =
      ((known members).map fun one => (one.1, pick one)).foldlM Draft.receive draft := by
  rw [known, List.map_filterMap, List.foldlM_filterMap]
  congr 1
  funext draft member
  rw [Draft.accept]
  cases Field.ofName? member.name <;> rfl

/-- An object is read by taking over its fields in turn, and refused when one stands twice. -/
theorem ofJson_objectOf (fits : ∀ one ∈ known members, one.1.Fits one.2 (pick one)) {text : String}
    (written : Spaced (objectOf members).tokens text.toList) :
    ofJson text = if ((known members).map Prod.fst).Nodup then
      .ok ((known members).foldl (fun (draft : Draft) one => draft.put (pick one) one.1) {}).snapshot
      else .error .misshapen := by
  have object := reads_object fun member (listed : member ∈ members) =>
    reads_accept fun field named =>
      fits (field, member.value) (mem_known_iff.mpr ⟨member, listed, named, rfl⟩)
  have fields : ((known members).map fun one => (one.1, pick one)).map Prod.fst =
      (known members).map Prod.fst := List.map_map
  have free : ∀ field : Field, ({} : Draft).has field = false := by intro field; cases field <;> rfl
  rw [foldlM_accept, foldlM_receive, fields, ← tokens_objectOf, List.foldl_map] at object
  rw [ofJson, readText_eq object (Tree.spaced_iff.mp written)]
  simp only [free, implies_true, and_true]
  split <;> rfl

end Objects

section Lists

variable {values : Field → Tree} {snapshot : Snapshot}

theorem readFields_first (fits : ∀ field : Field, field.Fits (values field) snapshot) (draft : Draft)
    (field : Field) (fields : List Field) (rest : List Token) :
    readFields draft (field :: fields) true ((values field).tokens ++ rest) =
      readFields (draft.put snapshot field) fields false rest := by
  have value := reads_fits (fits field) draft rest
  obtain ⟨first, later, begins, proper, -⟩ := (values field).tokens_begin
  rw [begins] at value ⊢
  rw [List.cons_append] at value ⊢
  have step : readFields draft (field :: fields) true (first :: (later ++ rest)) =
      (draft.readField field (first :: (later ++ rest))).bind fun found =>
        readFields found.1 fields false found.2 := by
    cases first <;> first | rfl | exact absurd rfl proper
  rw [step, value]
  rfl

theorem readFields_later (fits : ∀ field : Field, field.Fits (values field) snapshot)
    (fields : List Field) (draft : Draft) (rest : List Token) :
    readFields draft fields false
        (fields.flatMap (fun field => .comma :: (values field).tokens) ++ .closeList :: rest) =
      .ok (fields.foldl (fun draft field => draft.put snapshot field) draft, rest) := by
  induction fields generalizing draft with
  | nil => rfl
  | cons field fields ih =>
    have value := reads_fits (fits field) draft
      (fields.flatMap (fun field => .comma :: (values field).tokens) ++ .closeList :: rest)
    rw [List.flatMap_cons, List.cons_append, List.cons_append, List.append_assoc]
    have step (tokens : List Token) : readFields draft (field :: fields) false (.comma :: tokens) =
        (draft.readField field tokens).bind fun found =>
          readFields found.1 fields false found.2 := rfl
    rw [step, value]
    exact ih _

theorem reads_fields (fits : ∀ field : Field, field.Fits (values field) snapshot) :
    Reads read (Tree.list (Field.all.map values)).tokens (.ok snapshot) := by
  intro rest
  have split : (Tree.list (Field.all.map values)).tokens ++ rest =
      .openList :: ((values .workerId).tokens ++
        ([.lastUpdateTime, .metricStats, .operatingRange].flatMap
          (fun field => .comma :: (values field).tokens) ++ .closeList :: rest)) := by
    simp [Tree.tokens_list, Field.all]
  have opened (tokens : List Token) : read (.openList :: tokens) =
      (readFields {} Field.all true tokens).map fun found => (found.1.snapshot, found.2) := rfl
  have taken :
      (Field.all.foldl (fun (draft : Draft) field => draft.put snapshot field) {}).snapshot =
        snapshot :=
    snapshot_foldl_put fun field missing => by cases field <;> simp [Field.all] at missing
  rw [split, opened, Field.all, readFields_first fits, readFields_later fits]
  exact congrArg (fun found => Except.ok (found, rest)) taken

end Lists

theorem Holds.fits {given : List (Field × Tree)} {snapshot : Snapshot} (holds : Holds given snapshot)
    (field : Field) : field.Fits (valueIn given field) snapshot := by
  unfold valueIn
  cases found : given.lookup field with
  | none => exact holds.missing field (lookup_eq_none_iff.mp found)
  | some tree =>
    obtain ⟨front, back, rfl, -⟩ := List.lookup_eq_some_iff.mp found
    exact holds.present (field, tree) (by simp)

theorem exists_holds {given : List (Field × Tree)} (distinct : (given.map Prod.fst).Nodup)
    (acceptable : ∀ one ∈ given, ∃ snapshot, one.1.Fits one.2 snapshot) :
    ∃ snapshot, Holds given snapshot := by
  have each (field : Field) : ∃ snapshot, field.Fits (valueIn given field) snapshot := by
    unfold valueIn
    cases found : given.lookup field with
    | none => exact ⟨{}, by cases field <;> exact .null⟩
    | some tree => exact acceptable (field, tree) ((lookup_eq_some_iff distinct).mp found)
  obtain ⟨snapshot, fits⟩ := exists_fits each
  refine ⟨snapshot, fun one member => ?_, fun field missing => ?_⟩
  · have value := fits one.1
    rwa [valueIn, (lookup_eq_some_iff distinct).mpr member] at value
  · have value := fits field
    rwa [valueIn, lookup_eq_none_iff.mpr missing] at value

/-- Members with acceptable values make up one snapshot if no field stands twice. It is read from any
text of an object with these fields, in any order, spelled in any way, and with any other members
among them, and from any text of the list of the four values. An object in which a field stands
twice is refused for its shape. -/
theorem ofJson_members (members : List Member)
    (acceptable : ∀ one ∈ known members, ∃ snapshot, one.1.Fits one.2 snapshot) :
    (((known members).map Prod.fst).Nodup →
      (∃ snapshot, Holds (known members) snapshot) ∧
        ∀ snapshot, Holds (known members) snapshot →
          (∀ (others : List Member) (text : String), (known others).Perm (known members) →
            Spaced (objectOf others).tokens text.toList → ofJson text = .ok snapshot) ∧
          ∀ text : String, Spaced (listOf (known members)).tokens text.toList →
            ofJson text = .ok snapshot) ∧
      (¬((known members).map Prod.fst).Nodup →
        ∀ text : String, Spaced (objectOf members).tokens text.toList →
          ofJson text = .error .misshapen) := by
  refine ⟨fun distinct => ⟨exists_holds distinct acceptable, fun snapshot holds => ⟨?_, ?_⟩⟩, ?_⟩
  · intro others text same written
    have once : ((known others).map Prod.fst).Nodup := (same.map _).nodup_iff.mpr distinct
    have absent : ∀ field ∉ (known others).map Prod.fst, Field.Fits field .null snapshot :=
      fun field out => holds.missing field fun member => out ((same.map _).mem_iff.mpr member)
    have whole := snapshot_foldl_put absent
    rw [List.foldl_map] at whole
    rw [ofJson_objectOf (fun one member => holds.present one (same.mem_iff.mp member)) written,
      if_pos once, whole]
  · exact fun text written => readText_eq (reads_fields holds.fits) (Tree.spaced_iff.mp written)
  · intro twice text written
    have each (one : Field × Tree) : ∃ snapshot : Snapshot,
        one ∈ known members → one.1.Fits one.2 snapshot := by
      by_cases member : one ∈ known members
      · exact (acceptable one member).imp fun _ fits _ => fits
      · exact ⟨{}, fun listed => absurd listed member⟩
    choose pick fits using each
    rw [ofJson_objectOf fits written, if_neg twice]

def repeatedSamples : Tree :=
  .object [([.char 'C'], .list [.number ⟨false, ['1'], [], none⟩]),
    ([.char 'C'], .list [.number ⟨false, ['2'], ['5'], none⟩])]

theorem mapOf_repeatedSamples : MapOf (ListOf FloatOf) repeatedSamples (.ofList [("C", [2.5])]) := by
  have first : FloatOf (.number ⟨false, ['1'], [], none⟩) (Number.toFloat (.natural 1)) :=
    .number (by decide +kernel)
  have second : FloatOf (.number ⟨false, ['2'], ['5'], none⟩) (Number.toFloat (.float 2.5)) :=
    .number (by decide +kernel)
  have name : Stands [.char 'C'] "C".toList := .char 'C' .finish
  let entries : List (String × List Float) :=
    [("C", [Number.toFloat (.natural 1)]), ("C", [Number.toFloat (.float 2.5)])]
  have last (name : String) : (NameMap.ofList [("C", [(2.5 : Float)])]).get? name =
      entries.reverse.lookup name := by
    rw [NameMap.get?_ofList]
    by_cases here : name = "C"
    · rw [here]
      rfl
    · have missed : (name == "C") = false := beq_eq_false_iff_ne.mpr here
      simp [entries, List.lookup_cons, missed]
  exact .object (.cons ⟨name, .list (.cons first .nil)⟩
    (.cons ⟨name, .list (.cons second .nil)⟩ .nil)) last

/-- A member that is no field, with a number that is too large and halves of characters. -/
def unknownMember : Member where
  name := "x"
  spelled := [.char 'x']
  stands := .char 'x' .finish
  value := .list [.number ⟨false, ['1'], [], some (false, ['9', '9', '9'])⟩, .string [.unit 0xD800],
    .object [([.unit 0xDC00], .null)]]

theorem stands_chars (characters : List Char) : Stands (characters.map .char) characters := by
  induction characters with
  | nil => exact .finish
  | cons c characters ih => exact .char c ih

def escapedMember : Member where
  name := "metricStats"
  spelled := .unit 0x6D :: "etricStats".toList.map .char
  stands := .unit (by decide) (stands_chars "etricStats".toList)
  value := repeatedSamples

def workerMember (value : Tree) : Member where
  name := "workerId"
  spelled := "workerId".toList.map .char
  stands := stands_chars "workerId".toList
  value := value

def sampled : Snapshot where
  workerId := some "w"
  metricStats := some (.ofList [("C", [2.5])])

theorem holds_sampled :
    Holds [(.metricStats, repeatedSamples), (.workerId, .string [.char 'w'])] sampled where
  present := by
    have text : TextOf (.string [.char 'w']) "w" := .string (.char 'w' .finish)
    exact List.forall_mem_cons.mpr
      ⟨.some mapOf_repeatedSamples, List.forall_mem_singleton.mpr (.some text)⟩
  missing := by
    intro field absent
    cases field with
    | lastUpdateTime => exact .null
    | operatingRange => exact .null
    | workerId => simp at absent
    | metricStats => simp at absent

/-- The samples and the worker, with a member before them that is no field. -/
def spelledObject : String :=
  " \x7b\"x\" : [1e999,\"\\ud800\", \x7b\"\\uDC00\":null\x7d ],\t" ++
    "\"\\u006detricStats\":\x7b\"C\":[1],\"C\":[2.5]\x7d,\r\n\"workerId\":\"w\"\x7d "

def turnedObject : String :=
  "\x7b\"workerId\":\"w\",\"\\u006detricStats\":\x7b\"C\":[1],\"C\":[2.5]\x7d\x7d"

def spelledList : String := "[\"w\",null,\x7b\"C\":[1],\"C\":[2.5]\x7d,null]"

def doubledObject : String := "\x7b\"workerId\":\"w\",\"workerId\":null\x7d"

theorem ofJson_members_sampled :
    (ofJson spelledObject = .ok sampled ∧ ofJson turnedObject = .ok sampled ∧
      ofJson spelledList = .ok sampled) ∧ ofJson doubledObject = .error .misshapen := by
  have named : Field.Fits .workerId (.string [.char 'w']) sampled :=
    .some (.string (.char 'w' .finish))
  constructor
  · obtain ⟨once, -⟩ := ofJson_members
      [unknownMember, escapedMember, workerMember (.string [.char 'w'])]
      fun one member => ⟨sampled, holds_sampled.present one member⟩
    obtain ⟨-, read⟩ := once (by decide)
    obtain ⟨objects, lists⟩ := read sampled holds_sampled
    refine ⟨objects _ _ (.refl _) (Tree.spaced_iff.mpr (by decide +kernel)),
      objects [workerMember (.string [.char 'w']), escapedMember] _ (.swap _ _ _)
        (Tree.spaced_iff.mpr (by decide +kernel)),
      lists _ (Tree.spaced_iff.mpr (by decide +kernel))⟩
  · have acceptable : ∀ one ∈ known [workerMember (.string [.char 'w']), workerMember .null],
        ∃ snapshot, one.1.Fits one.2 snapshot :=
      List.forall_mem_cons.mpr ⟨⟨sampled, named⟩, List.forall_mem_singleton.mpr ⟨{}, .null⟩⟩
    obtain ⟨-, twice⟩ := ofJson_members _ acceptable
    exact twice (by decide) _ (Tree.spaced_iff.mpr (by decide +kernel))

end WorkerVitals.Snapshot
