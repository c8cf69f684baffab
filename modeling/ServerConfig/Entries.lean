/-!
# Ordered entries

Mappings whose order is visible are lists of names with values, in the order of
the first insertion of each name.
-/

namespace ServerConfig

/-- Names with values, in order. -/
abbrev Entries (α : Type) := List (String × α)

namespace Entries

/-- Set the value of a name: a new name comes last, a known one keeps its
place. -/
def insert {α : Type} (name : String) (value : α) : Entries α → Entries α
  | [] => [(name, value)]
  | (other, old) :: rest =>
      if other = name then (other, value) :: rest
      else (other, old) :: insert name value rest

/-- The entries read in order: of equal names the first gives the place and the
last the value. -/
def ofList {α : Type} (read : List (String × α)) : Entries α :=
  read.foldl (fun entries entry => insert entry.1 entry.2 entries) []

def names {α : Type} (entries : Entries α) : List String :=
  entries.map Prod.fst

theorem lookup_cons {α : Type} (name first : String) (value : α) (rest : Entries α) :
    List.lookup name ((first, value) :: rest) =
      if name = first then some value else rest.lookup name := by
  rw [List.lookup_cons]
  by_cases same : name = first
  · simp [same]
  · have unequal : (name == first) = false := by simpa using same
    simp [unequal, same]

theorem lookup_insert {α : Type} (name other : String) (value : α) (entries : Entries α) :
    (insert name value entries).lookup other =
      if other = name then some value else entries.lookup other := by
  induction entries with
  | nil => simp [insert, lookup_cons]
  | cons entry rest ih =>
      obtain ⟨first, old⟩ := entry
      by_cases known : first = name
      · subst known
        by_cases same : other = first <;> simp [insert, lookup_cons, same]
      · by_cases same : other = first
        · subst same
          simp [insert, known]
        · simp [insert, lookup_cons, known, same, ih]

theorem lookup_eq_of_perm {α : Type} {entries other : Entries α}
    (permuted : entries.Perm other)
    (distinct : entries.names.Nodup) (name : String) :
    entries.lookup name = other.lookup name := by
  induction permuted with
  | nil => rfl
  | cons entry _ ih =>
      rw [lookup_cons, lookup_cons, ih (List.nodup_cons.mp distinct).2]
  | swap first second rest =>
      rw [lookup_cons, lookup_cons, lookup_cons, lookup_cons]
      by_cases firstNamed : name = first.1
      · by_cases secondNamed : name = second.1
        · have same : second.1 = first.1 := secondNamed.symm.trans firstNamed
          have fresh := (List.nodup_cons.mp distinct).1
          exact (fresh (List.mem_cons.mpr (.inl same))).elim
        · rw [if_pos firstNamed, if_pos firstNamed, if_neg secondNamed]
      · rw [if_neg firstNamed, if_neg firstNamed]
  | trans permuted _ ih ihToo =>
      exact (ih distinct).trans
        (ihToo ((permuted.map Prod.fst).nodup_iff.mp distinct))

/-- Entries under other names do not matter for a look-up. -/
theorem lookup_filter {α : Type} {keep : String × α → Bool} {name : String}
    (kept : ∀ value, keep (name, value) = true) (entries : Entries α) :
    (entries.filter keep).lookup name = entries.lookup name := by
  induction entries with
  | nil => rfl
  | cons entry rest ih =>
      rw [lookup_cons, List.filter_cons]
      split
      · rw [lookup_cons, ih]
      · rename_i dropped
        have differs : name ≠ entry.1 := by
          rintro rfl
          exact dropped (kept entry.2)
        rw [if_neg differs, ih]

theorem isSome_lookup_iff {α : Type} (name : String) (entries : Entries α) :
    (entries.lookup name).isSome ↔ name ∈ entries.names := by
  rw [List.lookup_isSome_iff, names, List.mem_map]
  constructor
  · rintro ⟨entry, member, same⟩
    exact ⟨entry, member, (eq_of_beq same).symm⟩
  · rintro ⟨entry, member, rfl⟩
    exact ⟨entry, member, beq_self_eq_true _⟩

theorem mem_names_of_lookup {α : Type} {name : String} {value : α}
    {entries : Entries α} (found : entries.lookup name = some value) :
    name ∈ entries.names := by
  rw [← isSome_lookup_iff, found]
  rfl

theorem insert_of_notMem {α : Type} {name : String} {value : α}
    {entries : Entries α} (fresh : name ∉ entries.names) :
    insert name value entries = entries ++ [(name, value)] := by
  induction entries with
  | nil => rfl
  | cons entry rest ih =>
      obtain ⟨other, old⟩ := entry
      simp only [names, List.map_cons, List.mem_cons, not_or] at fresh
      rw [insert, if_neg (Ne.symm fresh.1), ih fresh.2, List.cons_append]

theorem foldl_insert {α : Type} {read : List (String × α)} {entries : Entries α}
    (distinct : (names (entries ++ read)).Nodup) :
    read.foldl (fun entries entry => insert entry.1 entry.2 entries) entries =
      entries ++ read := by
  induction read generalizing entries with
  | nil => simp
  | cons entry rest ih =>
      have fresh : entry.1 ∉ entries.names := by
        intro known
        simp only [names, List.map_append, List.nodup_append] at distinct
        exact distinct.2.2 _ known _ (List.mem_map_of_mem List.mem_cons_self) rfl
      rw [List.foldl_cons, insert_of_notMem fresh, ih]
      · simp
      · simpa using distinct

/-- In entries in which every name comes once, a look-up finds each of them. -/
theorem lookup_eq_some_iff {α : Type} {entries : Entries α}
    (distinct : entries.names.Nodup) {name : String} {value : α} :
    entries.lookup name = some value ↔ (name, value) ∈ entries := by
  induction entries with
  | nil => simp
  | cons entry rest ih =>
      obtain ⟨first, other⟩ := entry
      obtain ⟨fresh, distinct⟩ := List.nodup_cons.mp distinct
      rw [lookup_cons, List.mem_cons, Prod.mk.injEq]
      by_cases same : name = first
      · subst same
        have absent : (name, value) ∉ rest := fun member =>
          fresh (List.mem_map.mpr ⟨_, member, rfl⟩)
        simp [absent, eq_comm]
      · simp [same, ih distinct]

theorem value_unique {α : Type} {entries : Entries α}
    (distinct : entries.names.Nodup) {name : String} {value other : α}
    (member : (name, value) ∈ entries) (again : (name, other) ∈ entries) :
    value = other := by
  rw [← lookup_eq_some_iff distinct] at member again
  exact Option.some.inj (member.symm.trans again)

private theorem mem_names_insert {α : Type} {name other : String} {value : α}
    {entries : Entries α} :
    other ∈ (insert name value entries).names ↔
      other = name ∨ other ∈ entries.names := by
  rw [← isSome_lookup_iff, ← isSome_lookup_iff, lookup_insert]
  by_cases same : other = name <;> simp [same]

theorem nodup_insert {α : Type} {name : String} {value : α}
    {entries : Entries α} (distinct : entries.names.Nodup) :
    (insert name value entries).names.Nodup := by
  induction entries with
  | nil => simp [insert, names]
  | cons entry rest ih =>
      obtain ⟨first, old⟩ := entry
      rw [insert]
      split
      · exact distinct
      · rename_i other
        obtain ⟨fresh, later⟩ := List.nodup_cons.mp distinct
        refine List.nodup_cons.mpr ⟨fun known => ?_, ih later⟩
        rcases mem_names_insert.mp known with same | known
        · exact other same
        · exact fresh known

theorem nodup_foldl_insert {α : Type} {read : List (String × α)}
    {entries : Entries α} (distinct : entries.names.Nodup) :
    (names (read.foldl (fun entries entry => insert entry.1 entry.2 entries)
      entries)).Nodup := by
  induction read generalizing entries with
  | nil => exact distinct
  | cons entry rest ih => exact ih (nodup_insert distinct)

/-- Of entries inserted into others, each keeps its value and hides the value
that its name had before. -/
theorem lookup_foldl_insert {α : Type} {read : List (String × α)}
    {entries : Entries α} (distinct : (names read).Nodup) (name : String) :
    (read.foldl (fun entries entry => insert entry.1 entry.2 entries)
      entries).lookup name = (read.lookup name).or (entries.lookup name) := by
  induction read generalizing entries with
  | nil => rfl
  | cons entry rest ih =>
      obtain ⟨first, value⟩ := entry
      obtain ⟨fresh, distinct⟩ := List.nodup_cons.mp distinct
      rw [List.foldl_cons, ih distinct, lookup_insert, lookup_cons]
      by_cases same : name = first
      · subst same
        have absent : rest.lookup name = none := by
          rw [← Option.not_isSome_iff_eq_none, isSome_lookup_iff]
          exact fresh
        simp [absent]
      · simp [same]

/-- Entries in which every name comes once are read as they are. -/
theorem ofList_of_nodup {α : Type} {read : List (String × α)}
    (distinct : (names read).Nodup) : ofList read = read := by
  have fresh : (names ([] ++ read)).Nodup := distinct
  exact foldl_insert fresh

end Entries

end ServerConfig
