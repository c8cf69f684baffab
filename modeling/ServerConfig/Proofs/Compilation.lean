import Mathlib.Data.List.Forall2
import ServerConfig.Whitelist

/-!
# Compiled whitelists

Compiling a whitelist reads its entries one by one.  It succeeds with one
network for each entry, or fails at the first entry that denotes no network.
-/

namespace ServerConfig.Whitelist

/-- Whether a text is an address or a network. -/
def isEntry (entry : String) : Bool :=
  match readEntry (some entry) with
  | .ok _ => true
  | .error _ => false

/-- Compiling succeeds with one network for each entry, in order. -/
theorem compile_eq_ok_iff {entries : List (Option String)}
    {networks : Whitelist} :
    compile entries = .ok networks ↔
      List.Forall₂ (fun entry network => readEntry entry = .ok network)
        entries networks := by
  induction entries generalizing networks with
  | nil =>
      rw [compile, List.forall₂_nil_left_iff, Except.ok.injEq]
      exact eq_comm
  | cons entry rest ih =>
      rw [List.forall₂_cons_left_iff]
      constructor
      · intro compiled
        rw [compile] at compiled
        cases read : readEntry entry with
        | error failure => simp [read] at compiled
        | ok network =>
            cases later : compile rest with
            | error failure => simp [read, later] at compiled
            | ok others =>
                simp only [read, later, Except.ok.injEq] at compiled
                exact ⟨network, others, rfl, ih.mp later, compiled.symm⟩
      · rintro ⟨network, others, read, later, rfl⟩
        simp only [compile, read, ih.mpr later]

/-- An entry that cannot be read is its own culprit. -/
theorem entry_of_readEntry_error {entry : Option String} {failure : Malformed}
    (read : readEntry entry = .error failure) : failure.entry = entry := by
  unfold readEntry at read
  cases parsed :
      Net.Network.parse (Text.trim (entry.getD "").toList) with
  | error cause =>
      simp only [parsed, Except.mapError, Except.error.injEq] at read
      rw [← read]
  | ok network => simp [parsed, Except.mapError] at read

/-- Every text of a compiled whitelist is an address or a network. -/
theorem find?_of_compile_ok {texts : List String} {networks : Whitelist}
    (compiled : compile (texts.map some) = .ok networks) :
    texts.find? (!isEntry ·) = none := by
  induction texts generalizing networks with
  | nil => rfl
  | cons text rest ih =>
      rw [compile_eq_ok_iff, List.map_cons, List.forall₂_cons_left_iff]
        at compiled
      obtain ⟨network, others, read, later, _⟩ := compiled
      have entry : isEntry text = true := by simp [isEntry, read]
      rw [List.find?_cons_of_neg (by simp [entry])]
      exact ih (compile_eq_ok_iff.mpr later)

/-- The culprit of a failure is the first text that is neither an address nor
a network. -/
theorem find?_of_compile_error {texts : List String} {failure : Malformed}
    (compiled : compile (texts.map some) = .error failure) :
    ∃ culprit, failure.entry = some culprit ∧
      texts.find? (!isEntry ·) = some culprit := by
  induction texts with
  | nil => cases compiled
  | cons text rest ih =>
      rw [List.map_cons, compile] at compiled
      cases read : readEntry (some text) with
      | error cause =>
          simp only [read, Except.error.injEq] at compiled
          refine ⟨text, ?_, ?_⟩
          · rw [← compiled]
            exact entry_of_readEntry_error read
          · exact List.find?_cons_of_pos (by simp [isEntry, read])
      | ok network =>
          have entry : isEntry text = true := by simp [isEntry, read]
          rw [List.find?_cons_of_neg (by simp [entry])]
          cases later : compile (rest.map some) with
          | error cause =>
              simp only [read, later, Except.error.injEq] at compiled
              rw [compiled] at later
              exact ih later
          | ok others => simp [read, later] at compiled

end ServerConfig.Whitelist
