import ServerConfig.Log.Root

/-!
# The object of a record

The object starts with the members that every record has, each name once, and
extras are inserted into it.  Main statement: such a member keeps its value
unless there is an extra of its name with another value; only the name of the
message is one that extras are not written under.
-/

namespace ServerConfig.Log

variable {record : Record} {time : Timestamp} {name : String} {value : Json}

theorem names_coreMembers (record : Record) (time : Timestamp) :
    (record.coreMembers time).names =
      ["timestamp", "level", "logger", "message"] :=
  rfl

theorem nodup_coreMembers (record : Record) (time : Timestamp) :
    (record.coreMembers time).names.Nodup := by
  rw [names_coreMembers]
  decide

/-- The object has each name once. -/
theorem nodup_members (record : Record) (time : Timestamp) :
    (record.members time).names.Nodup := by
  have extended :=
    @Entries.nodup_foldl_insert _ record.writtenExtras _
      (nodup_coreMembers record time)
  rw [Record.members]
  split
  · exact extended
  · exact Entries.nodup_insert extended

/-- Extras are written in order, with each name once. -/
theorem nodup_writtenExtras (distinct : record.extras.names.Nodup) :
    record.writtenExtras.names.Nodup := by
  have kept : record.writtenExtras.names.Sublist record.extras.names := by
    rw [Entries.names, Record.writtenExtras, List.map_map]
    exact List.filter_sublist.map Prod.fst
  exact distinct.sublist kept

theorem mem_writtenExtras :
    (name, value) ∈ record.writtenExtras ↔
      isWritten name = true ∧
        ∃ datum, (name, datum) ∈ record.extras ∧ extraValue datum = value := by
  simp only [Record.writtenExtras, List.mem_map, List.mem_filter,
    Prod.exists, Prod.mk.injEq]
  constructor
  · rintro ⟨_, datum, ⟨member, written⟩, rfl, same⟩
    exact ⟨written, datum, member, same⟩
  · rintro ⟨written, datum, member, same⟩
    exact ⟨name, datum, ⟨member, written⟩, rfl, same⟩

theorem mem_names_writtenExtras :
    name ∈ record.writtenExtras.names ↔
      isWritten name = true ∧ name ∈ record.extras.names := by
  simp only [Entries.names, List.mem_map, Prod.exists, exists_and_right,
    exists_eq_right, mem_writtenExtras, exists_and_left]
  rw [exists_comm]
  simp

/-- A look-up finds an extra before the members that every record has. -/
theorem lookup_members (distinct : record.extras.names.Nodup)
    (other : name ≠ "exc_info") :
    (record.members time).lookup name =
      (record.writtenExtras.lookup name).or
        ((record.coreMembers time).lookup name) := by
  have extended := @Entries.lookup_foldl_insert _ _
    (record.coreMembers time) (nodup_writtenExtras distinct) name
  rw [Record.members]
  split
  · exact extended
  · rw [Entries.lookup_insert, if_neg other, extended]

theorem mem_members_of_extra (distinct : record.extras.names.Nodup)
    {datum : Datum} (extra : (name, datum) ∈ record.extras)
    (written : isWritten name = true) :
    (name, extraValue datum) ∈ record.members time := by
  have other : name ≠ "exc_info" := by
    rintro rfl
    exact absurd written (by decide)
  have found : record.writtenExtras.lookup name = some (extraValue datum) := by
    rw [Entries.lookup_eq_some_iff (nodup_writtenExtras distinct),
      mem_writtenExtras]
    exact ⟨written, datum, extra, rfl⟩
  rw [← Entries.lookup_eq_some_iff (nodup_members record time),
    lookup_members distinct other, found]
  rfl

/-- The message has a name that extras are not written under; the names of the
other members are free. -/
theorem core_names (core : (name, value) ∈ record.coreMembers time) :
    name ≠ "exc_info" ∧ (isWritten name = true ↔ name ≠ "message") := by
  have member : name ∈ (record.coreMembers time).names :=
    List.mem_map_of_mem core
  rw [names_coreMembers] at member
  clear core
  revert name
  decide

theorem mem_members_of_core (distinct : record.extras.names.Nodup)
    (core : (name, value) ∈ record.coreMembers time)
    (apart : isWritten name = true → name ∉ record.extras.names) :
    (name, value) ∈ record.members time := by
  have absent : record.writtenExtras.lookup name = none := by
    rw [← Option.not_isSome_iff_eq_none, Entries.isSome_lookup_iff]
    intro known
    obtain ⟨written, extra⟩ := mem_names_writtenExtras.mp known
    exact apart written extra
  rw [← Entries.lookup_eq_some_iff (nodup_members record time),
    lookup_members distinct (core_names core).1, absent, Option.none_or,
    Entries.lookup_eq_some_iff (nodup_coreMembers record time)]
  exact core

/-- In the object of a record every name comes once.  A member that every
record has keeps its value exactly if no extra of its name has another value;
if there is such an extra, its value is the one in the object.  No extra changes
the message. -/
theorem core_members_kept (distinct : record.extras.names.Nodup)
    (time : Timestamp) :
    (record.members time).names.Nodup ∧
      ∀ name value, (name, value) ∈ record.coreMembers time →
        ((name, value) ∈ record.members time ↔
          name = "message" ∨
            ∀ datum, (name, datum) ∈ record.extras →
              extraValue datum = value) ∧
        ∀ datum, (name, datum) ∈ record.extras → name ≠ "message" →
          (name, extraValue datum) ∈ record.members time := by
  have unique := nodup_members record time
  refine ⟨unique, fun name value core => ?_⟩
  obtain ⟨_, free⟩ := core_names core
  have replaced (datum : Datum) (extra : (name, datum) ∈ record.extras)
      (other : name ≠ "message") :
      (name, extraValue datum) ∈ record.members time :=
    mem_members_of_extra distinct extra (free.mpr other)
  refine ⟨⟨fun kept => ?_, fun same => ?_⟩, replaced⟩
  · by_cases message : name = "message"
    · exact .inl message
    · refine .inr fun datum extra => ?_
      exact Entries.value_unique unique (replaced datum extra message) kept
  · by_cases taken : isWritten name = true ∧ name ∈ record.extras.names
    · obtain ⟨written, known⟩ := taken
      obtain ⟨⟨_, datum⟩, extra, rfl⟩ := List.mem_map.mp known
      rw [← same.resolve_left (free.mp written) datum extra]
      exact mem_members_of_extra distinct extra written
    · exact mem_members_of_core distinct core fun written known =>
        taken ⟨written, known⟩

/-- Two extras have names of members that every record has. -/
def forgedRecord : Record where
  level := Level.info
  logger := ""
  message := "m"
  extras := [("level", .string "FAKE"), ("message", .string "other")]

theorem forgedRecord_members :
    ("timestamp", .string "now") ∈ forgedRecord.members ⟨"", "now"⟩ ∧
      ("level", .string "FAKE") ∈ forgedRecord.members ⟨"", "now"⟩ ∧
      ("message", .string "m") ∈ forgedRecord.members ⟨"", "now"⟩ := by
  have distinct : forgedRecord.extras.names.Nodup := by
    decide
  obtain ⟨_, core⟩ := core_members_kept distinct ⟨"", "now"⟩
  refine ⟨?_, ?_, ?_⟩
  · refine (core "timestamp" (.string "now") (.head _)).1.mpr ?_
    exact .inr (by simp [forgedRecord])
  · exact (core "level" (.string "INFO") (.tail _ (.head _))).2
      (.string "FAKE") (.head _) (by decide)
  · refine (core "message" (.string "m") ?_).1.mpr (.inl rfl)
    simp [Record.coreMembers, forgedRecord]

/-- The extra has no reserved name, and it takes the place of the level. -/
theorem extra_forges_level :
    (({} : Root).configure "INFO" .json).log
        { level := Level.info
          template := "m"
          extras := [("level", .string "FAKE")] }
        ⟨"", "now"⟩ .error =
      .ok ("\x7b\"timestamp\": \"now\", \"level\": \"FAKE\", " ++
        "\"logger\": \"root\", \"message\": \"m\"\x7d\n") ∧
      ¬ ∀ (record : Record) (time : Timestamp),
        record.extras.names.Nodup →
          ∀ core ∈ record.coreMembers time, core ∈ record.members time := by
  refine ⟨rfl, fun kept => ?_⟩
  have level := kept forgedRecord ⟨"", "now"⟩ (by decide)
    ("level", .string "INFO") (.tail _ (.head _))
  rw [← Entries.lookup_eq_some_iff (nodup_members _ _)] at level
  have same : Json.string "FAKE" = .string "INFO" := Option.some.inj level
  injection same with text
  exact absurd text (by decide)

end ServerConfig.Log
