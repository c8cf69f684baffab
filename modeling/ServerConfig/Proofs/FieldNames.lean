import Mathlib.Data.List.Nodup
import ServerConfig.Settings

/-!
# Names of settings

A setting is known by its key, by its name and by the variable that overrides
it.  No two settings share any of these, and no key is a name, so a look-up by
one of them finds what was meant for the setting.
-/

namespace ServerConfig.Field

theorem mem_all (field : Field) : field ∈ all := by
  cases field <;> decide

theorem key_injective (field other : Field) (same : field.key = other.key) :
    field = other :=
  List.inj_on_of_nodup_map (by decide +kernel : (all.map key).Nodup)
    field.mem_all other.mem_all same

theorem name_injective (field other : Field) (same : field.name = other.name) :
    field = other :=
  List.inj_on_of_nodup_map (by decide +kernel : (all.map name).Nodup)
    field.mem_all other.mem_all same

theorem variableNames_nodup : (all.map variableName).Nodup := by
  decide +kernel

theorem nodup_all : all.Nodup :=
  variableNames_nodup.of_map _

theorem variableName_injective (field other : Field)
    (same : field.variableName = other.variableName) : field = other :=
  List.inj_on_of_nodup_map variableNames_nodup field.mem_all other.mem_all same

theorem name_ne_key (field other : Field) : field.name ≠ other.key := by
  have distinct : ∀ field ∈ all, ∀ other ∈ all, field.name ≠ other.key := by
    decide +kernel
  exact distinct field field.mem_all other other.mem_all

end ServerConfig.Field
