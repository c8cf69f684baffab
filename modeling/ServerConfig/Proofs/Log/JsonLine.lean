import ServerConfig.Proofs.Json.Rendering
import ServerConfig.Proofs.Log.Members

/-!
# Records on one line

The JSON text of a record is one line, and its object has the members that every
record has, the extras in order and the text of the error.  A datum is a JSON
value if it is the datum of one.  Main statement: the line can be decoded again,
and nothing is lost but the kinds of the extras that are no JSON values.
-/

namespace ServerConfig

/-! ## JSON values as data -/

namespace Datum

mutual

theorem toJson?_ofJson : (json : Json) → (ofJson json).toJson? = some json
  | .null => rfl
  | .bool _ => rfl
  | .integer _ => rfl
  | .float _ => rfl
  | .string _ => rfl
  | .array items => by
      rw [ofJson, toJson?, itemsToJson?_ofJsonItems items, Option.map_some]
  | .object members => by
      rw [ofJson, toJson?, entriesToJson?_ofJsonMembers members,
        Option.map_some]

theorem itemsToJson?_ofJsonItems :
    (items : List Json) → itemsToJson? (ofJsonItems items) = some items
  | [] => rfl
  | item :: rest => by
      rw [ofJsonItems, itemsToJson?, toJson?_ofJson item,
        itemsToJson?_ofJsonItems rest]
      rfl

theorem entriesToJson?_ofJsonMembers :
    (members : List (String × Json)) →
      entriesToJson? (ofJsonMembers members) = some members
  | [] => rfl
  | (_, value) :: rest => by
      rw [ofJsonMembers, entriesToJson?, toJson?_ofJson value,
        entriesToJson?_ofJsonMembers rest]
      rfl

end

mutual

theorem eq_ofJson : (datum : Datum) → {json : Json} →
    datum.toJson? = some json → datum = ofJson json
  | .null, _, found => by cases found; rfl
  | .bool _, _, found => by cases found; rfl
  | .integer _, _, found => by cases found; rfl
  | .float _, _, found => by cases found; rfl
  | .string _, _, found => by cases found; rfl
  | .moment _, _, found => by cases found
  | .set _, _, found => by cases found
  | .array items, _, found => by
      obtain ⟨values, read, rfl⟩ := Option.map_eq_some_iff.mp found
      rw [ofJson, ← eq_ofJsonItems items read]
  | .table entries, _, found => by
      obtain ⟨members, read, rfl⟩ := Option.map_eq_some_iff.mp found
      rw [ofJson, ← eq_ofJsonMembers entries read]

theorem eq_ofJsonItems : (items : List Datum) → {values : List Json} →
    itemsToJson? items = some values → items = ofJsonItems values
  | [], _, found => by cases found; rfl
  | item :: rest, _, found => by
      obtain ⟨value, first, found⟩ := Option.bind_eq_some_iff.mp found
      obtain ⟨values, later, found⟩ := Option.bind_eq_some_iff.mp found
      cases found
      rw [ofJsonItems, ← eq_ofJson item first, ← eq_ofJsonItems rest later]

theorem eq_ofJsonMembers : (entries : List (String × Datum)) →
    {members : List (String × Json)} →
    entriesToJson? entries = some members → entries = ofJsonMembers members
  | [], _, found => by cases found; rfl
  | (_, value) :: rest, _, found => by
      obtain ⟨json, first, found⟩ := Option.bind_eq_some_iff.mp found
      obtain ⟨members, later, found⟩ := Option.bind_eq_some_iff.mp found
      cases found
      rw [ofJsonMembers, ← eq_ofJson value first,
        ← eq_ofJsonMembers rest later]

end

theorem ofJson_injective {json other : Json}
    (same : ofJson json = ofJson other) : json = other := by
  have values := congrArg toJson? same
  rw [toJson?_ofJson, toJson?_ofJson] at values
  exact Option.some.inj values

/-- A datum is a JSON value exactly if it is the datum of that value. -/
theorem toJson?_eq_some_iff {datum : Datum} {json : Json} :
    datum.toJson? = some json ↔ datum = ofJson json := by
  constructor
  · exact eq_ofJson datum
  · rintro rfl
    exact toJson?_ofJson json

mutual

theorem isWritable_ofJson_eq :
    (json : Json) → (ofJson json).isWritable = json.isWritable
  | .null => rfl
  | .bool _ => rfl
  | .integer _ => rfl
  | .float _ => rfl
  | .string _ => rfl
  | .array items => areWritable_ofJsonItems items
  | .object members => entriesWritable_ofJsonMembers members

theorem areWritable_ofJsonItems :
    (items : List Json) →
      areWritable (ofJsonItems items) = Json.areWritable items
  | [] => rfl
  | item :: rest => by
      rw [ofJsonItems, areWritable, Json.areWritable,
        isWritable_ofJson_eq item, areWritable_ofJsonItems rest]

theorem entriesWritable_ofJsonMembers :
    (members : List (String × Json)) →
      entriesWritable (ofJsonMembers members) = Json.membersWritable members
  | [] => rfl
  | (_, value) :: rest => by
      rw [ofJsonMembers, entriesWritable, Json.membersWritable,
        isWritable_ofJson_eq value, entriesWritable_ofJsonMembers rest]

end

end Datum

theorem Json.membersWritable_iff {members : List (String × Json)} :
    membersWritable members = true ↔
      ∀ entry ∈ members, entry.2.isWritable = true := by
  induction members with
  | nil => simp [membersWritable]
  | cons first rest ih =>
      rw [membersWritable, Bool.and_eq_true, ih, List.forall_mem_cons]

namespace Log

/-! ## Values of extras -/

variable {record : Record} {time : Timestamp} {datum : Datum}
  {json other : Json}

/-- The value that a datum is logged as: itself if it is a JSON value, or else
its text. -/
inductive LoggedAs : Datum → Json → Prop where
  | value {json : Json} : LoggedAs (.ofJson json) json
  | text {datum : Datum} :
      (∀ json, datum ≠ .ofJson json) → LoggedAs datum (.string datum.text)

/-- No integer in a datum exceeds the digit limit, and if the datum is a JSON
value, it is a well-formed one. -/
def Loggable (datum : Datum) : Prop :=
  datum.isWritable = true ∧
    ∀ json, datum = .ofJson json → json.WellFormed

theorem LoggedAs.unique (logged : LoggedAs datum json)
    (again : LoggedAs datum other) : json = other := by
  cases logged with
  | value =>
      generalize same : Datum.ofJson json = datum at again
      cases again with
      | value => exact Datum.ofJson_injective same
      | text none => exact absurd same.symm (none json)
  | text none =>
      cases again with
      | value => exact absurd rfl (none other)
      | text => rfl

theorem loggedAs_extraValue (loggable : Loggable datum) :
    LoggedAs datum (extraValue datum) := by
  rw [extraValue]
  cases found : datum.toJson? with
  | none =>
      refine .text fun json same => ?_
      rw [same, Datum.toJson?_ofJson] at found
      cases found
  | some json =>
      obtain rfl := Datum.toJson?_eq_some_iff.mp found
      have writable := loggable.1
      rw [Datum.isWritable_ofJson_eq] at writable
      simp only [writable, if_true]
      exact .value

theorem LoggedAs.wellFormed (logged : LoggedAs datum json)
    (loggable : Loggable datum) :
    json.WellFormed ∧ json.isWritable = true := by
  cases logged with
  | value =>
      rw [← Datum.isWritable_ofJson_eq]
      exact ⟨loggable.2 json rfl, loggable.1⟩
  | text => exact ⟨.string, rfl⟩

/-! ## Lines -/

/-- The extras have names of their own, and those that are written can be
logged. -/
structure Record.Regular (record : Record) : Prop where
  distinct : record.extras.names.Nodup
  apart : ∀ name ∈ record.extras.names,
    name ∉ ["timestamp", "level", "logger"]
  loggable : ∀ extra ∈ record.extras,
    isWritten extra.1 = true → Loggable extra.2

/-- The extras that are written, with the values that they are logged as. -/
def Record.LogsExtras (record : Record) (members : Json.Members) : Prop :=
  List.Forall₂
    (fun extra entry => entry.1 = extra.1 ∧ LoggedAs extra.2 entry.2)
    (record.extras.filter fun extra => isWritten extra.1) members

/-- The member for the error of a record. -/
def Record.failureMembers (record : Record) : Json.Members :=
  record.failure.toList.map fun failure =>
    ("exc_info", .string failure.toText)

theorem Record.LogsExtras.unique {members others : Json.Members}
    (logged : record.LogsExtras members) (again : record.LogsExtras others) :
    members = others := by
  refine List.right_unique_forall₂' (fun extra entry other => ?_) logged again
  rintro ⟨name, value⟩ ⟨sameName, sameValue⟩
  exact Prod.ext (name.trans sameName.symm) (value.unique sameValue)

theorem Record.Regular.loggable_of_mem (regular : record.Regular)
    {extra : String × Datum}
    (member : extra ∈ record.extras.filter fun extra => isWritten extra.1) :
    Loggable extra.2 := by
  obtain ⟨known, written⟩ := List.mem_filter.mp member
  exact regular.loggable extra known written

theorem Record.Regular.logsExtras (regular : record.Regular) :
    record.LogsExtras record.writtenExtras := by
  rw [Record.LogsExtras, Record.writtenExtras, List.forall₂_map_right_iff,
    List.forall₂_same]
  exact fun extra member =>
    ⟨rfl, loggedAs_extraValue (regular.loggable_of_mem member)⟩

theorem Record.Regular.isWritable (regular : record.Regular) :
    record.isWritable .json = true := by
  rw [Record.isWritable, List.all_eq_true]
  exact fun extra member => (regular.loggable_of_mem member).1

theorem exc_info_fresh :
    "exc_info" ∉
      Entries.names (record.coreMembers time ++ record.writtenExtras) := by
  rw [Entries.names, List.map_append, List.mem_append]
  rintro (core | extra)
  · exact absurd core (by rw [← Entries.names, names_coreMembers]; decide)
  · exact absurd (mem_names_writtenExtras.mp extra).1 (by decide)

/-- No extra takes the place of a member that every record has. -/
theorem Record.Regular.nodup_names (regular : record.Regular)
    (time : Timestamp) :
    (Entries.names
      (record.coreMembers time ++ record.writtenExtras)).Nodup := by
  rw [Entries.names, List.map_append]
  refine (nodup_coreMembers record time).append
    (nodup_writtenExtras regular.distinct) fun name core extra => ?_
  obtain ⟨written, known⟩ := mem_names_writtenExtras.mp extra
  -- The message needs no protection: extras of its name are not written.
  have early : name ∈ ["timestamp", "level", "logger"] ++ ["message"] := core
  rcases List.mem_append.mp early with replaced | message
  · exact regular.apart name known replaced
  · rw [List.mem_singleton.mp message] at written
    exact absurd written (by decide)

theorem Record.Regular.members_eq (regular : record.Regular)
    (time : Timestamp) :
    record.members time =
      record.coreMembers time ++ record.writtenExtras ++
        record.failureMembers := by
  rw [Record.members, Entries.foldl_insert (regular.nodup_names time),
    Record.failureMembers]
  cases record.failure with
  | none => exact (List.append_nil _).symm
  | some failure => exact Entries.insert_of_notMem exc_info_fresh

private theorem Record.Regular.members_wellFormed (regular : record.Regular)
    (time : Timestamp) :
    (Json.object (record.members time)).WellFormed ∧
      (Json.object (record.members time)).isWritable = true := by
  have value : ∀ entry ∈ record.members time,
      entry.2.WellFormed ∧ entry.2.isWritable = true := by
    rw [regular.members_eq, Record.failureMembers, Record.writtenExtras]
    simp only [List.forall_mem_append, List.forall_mem_map]
    refine ⟨⟨?_, fun extra member => ?_⟩, fun _ _ => ⟨.string, rfl⟩⟩
    · simp only [Record.coreMembers, List.forall_mem_cons]
      exact ⟨⟨.string, rfl⟩, ⟨.string, rfl⟩, ⟨.string, rfl⟩, ⟨.string, rfl⟩,
        List.forall_mem_nil _⟩
    · have loggable := regular.loggable_of_mem member
      exact (loggedAs_extraValue loggable).wellFormed loggable
  exact ⟨.object (nodup_members record time) fun entry member =>
      (value entry member).1,
    Json.membersWritable_iff.mpr fun entry member => (value entry member).2⟩

/-- A regular record is written on one line, and decoding the line gives the
members of every record, then the extras in order and the text of the error. -/
theorem jsonLine_decodes (regular : record.Regular) (time : Timestamp) :
    ∃ members, record.LogsExtras members ∧
      record.isWritable .json = true ∧
      (∀ c ∈ (record.jsonLine time).toList, c ≠ '\n' ∧ c ≠ '\r') ∧
      ∀ depth,
        (Json.object (record.coreMembers time ++ members ++
          record.failureMembers)).nesting ≤ depth →
        Json.readWithin? depth (record.jsonLine time) =
          some (.object (record.coreMembers time ++ members ++
            record.failureMembers)) := by
  obtain ⟨wellFormed, writable⟩ := regular.members_wellFormed time
  refine ⟨record.writtenExtras, regular.logsExtras, regular.isWritable, ?_,
    fun depth shallow => ?_⟩
  · rw [Record.jsonLine, String.toList_ofList]
    exact (Json.inline_render wellFormed).no_break
  · rw [← regular.members_eq] at shallow ⊢
    exact Json.readWithin?_render wellFormed ⟨writable, shallow⟩

/-- A value with every kind of number, and with characters that are escaped. -/
def nestedValue : Json :=
  .object
    [("list", .array [.integer (-5), .float (.finite false (2 ^ 52) (-53)),
      .bool true, .null, .array []]),
     ("tab\t", .string "\u0001 \"\\\" \u2028")]

/-- Two extras are not written, and one is no JSON value. -/
def nestedRecord : Record where
  level := Level.warning
  logger := ""
  message := "first\r\nsecond"
  extras := [("nested", .ofJson nestedValue), ("_hidden", .null),
    ("module", .string "m"), ("tags", .set [.string "x"])]
  failure := some ⟨"ValueError", "bad\nline"⟩

theorem nestedRecord_decodes :
    nestedRecord.Regular ∧
      (∀ c ∈ (nestedRecord.jsonLine ⟨"", "now"⟩).toList,
        c ≠ '\n' ∧ c ≠ '\r') ∧
      Json.read? (nestedRecord.jsonLine ⟨"", "now"⟩) = some (.object
        [("timestamp", .string "now"), ("level", .string "WARNING"),
         ("logger", .string "root"), ("message", .string "first\r\nsecond"),
         ("nested", nestedValue), ("tags", .string "\x7b'x'\x7d"),
         ("exc_info", .string "ValueError: bad\nline")]) := by
  have noJson : ∀ json, Datum.set [.string "x"] ≠ .ofJson json := by
    intro json same
    have found := Datum.toJson?_eq_some_iff.mpr same
    cases found
  have half : Binary64.WellFormed (.finite false (2 ^ 52) (-53)) :=
    ⟨by decide, by decide, by decide, by decide⟩
  have nested : nestedValue.WellFormed := by
    refine .object (by decide) (List.forall_mem_cons.mpr ⟨.array ?_,
      List.forall_mem_cons.mpr ⟨.string, List.forall_mem_nil _⟩⟩)
    simp only [List.forall_mem_cons]
    exact ⟨.integer, .float half, .bool, .null,
      .array (List.forall_mem_nil _), List.forall_mem_nil _⟩
  have regular : nestedRecord.Regular := by
    refine ⟨by decide, by decide, fun extra known written => ?_⟩
    have members : nestedRecord.extras =
      [("nested", .ofJson nestedValue), ("_hidden", .null),
        ("module", .string "m"), ("tags", .set [.string "x"])] := rfl
    rw [members] at known
    simp only [List.mem_cons, List.not_mem_nil, or_false] at known
    rcases known with rfl | rfl | rfl | rfl
    · exact ⟨rfl, fun json same => (Datum.ofJson_injective same) ▸ nested⟩
    · exact absurd written (by decide)
    · exact absurd written (by decide)
    · exact ⟨rfl, fun json same => (noJson json same).elim⟩
  obtain ⟨members, logged, _, oneLine, decodes⟩ :=
    jsonLine_decodes regular ⟨"", "now"⟩
  have written : nestedRecord.LogsExtras
      [("nested", nestedValue), ("tags", .string "\x7b'x'\x7d")] :=
    .cons ⟨rfl, .value⟩ (.cons ⟨rfl, .text noJson⟩ .nil)
  obtain rfl := logged.unique written
  refine ⟨regular, oneLine, ?_⟩
  exact decodes Json.depthLimit (by decide)

end Log

end ServerConfig
