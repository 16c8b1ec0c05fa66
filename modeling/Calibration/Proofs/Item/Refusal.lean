/-
# Items that refuse to be written

Only an item of a plugin's own type can refuse to be written: its writer fails.  A record refuses if one of its
serializable entries does, at whatever depth (`Refuses`), and a row of entries cannot be written exactly if one of those
that would be written refuses (`writeEntries_fails_iff`).
-/

import Calibration.Item.Write
import Calibration.Proofs.Outcome

namespace Calibration
namespace Item

/-- The item refuses to be written: by its own writer, or by a serializable entry. -/
inductive Refuses : Item → Prop
  | custom {c : Custom} {fault : DictError} (h : c.write = .error fault) : Refuses (custom c)
  | entry {name : String} {stamp : Time.Timestamp} {entries : List (String × Item)} {scope : TypeScope} {key : String}
      {item : Item} (hmem : (key, item) ∈ entries) (hs : item.isSerializable) (h : Refuses item) :
      Refuses (record name stamp entries scope)

/-- One of the entries that would be written refuses. -/
def AnyRefuses (entries : List (String × Item)) : Prop := ∃ p ∈ entries, p.2.isSerializable ∧ p.2.Refuses

/-- Of a row of entries the first one refuses or one of the others. -/
theorem anyRefuses_cons_iff {key : String} {item : Item} {rest : List (String × Item)} :
    AnyRefuses ((key, item) :: rest) ↔ (item.isSerializable ∧ item.Refuses) ∨ AnyRefuses rest := by
  simp only [AnyRefuses, List.mem_cons, exists_eq_or_imp]

mutual

/-- **An item cannot be written exactly if it refuses.**  Only an item of a plugin's own type can, by itself or among
the entries of a record. -/
theorem write_fails_iff : (item : Item) → ((∃ fault, item.write = .error fault) ↔ item.Refuses)
  | bool .. | int .. | double .. | string .. | blob _ => ⟨nofun, nofun⟩
  | intArray _ | doubleArray _ | stringArray _ | xyz _ => ⟨nofun, nofun⟩
  | record name stamp entries scope => by
    have hentries : (∃ fault, (record name stamp entries scope).write = .error fault) ↔
        ∃ fault, writeEntries entries = .error fault := by
      rw [write]
      cases writeEntries entries with
      | error fault => exact ⟨fun _ => ⟨fault, rfl⟩, fun _ => ⟨fault, rfl⟩⟩
      | ok content => exact ⟨nofun, nofun⟩
    rw [hentries, writeEntries_fails_iff entries]
    constructor
    · rintro ⟨⟨key, item⟩, hmem, hs, h⟩
      exact .entry hmem hs h
    · rintro ⟨⟩
      exact ⟨_, ‹_›, ‹_›, ‹_›⟩
  | custom c => by
    rw [write]
    exact ⟨fun ⟨_, h⟩ => .custom h, fun h => by cases h with | custom h => exact ⟨_, h⟩⟩

/-- **Entries cannot be written exactly if one of those that would be written refuses.**  The two inductions go hand
in hand, as items and entries hold each other. -/
theorem writeEntries_fails_iff : (entries : List (String × Item)) →
    ((∃ fault, writeEntries entries = .error fault) ↔ AnyRefuses entries)
  | [] => ⟨nofun, fun ⟨_, hmem, _⟩ => nomatch hmem⟩
  | (key, item) :: rest => by
    rw [anyRefuses_cons_iff, ← write_fails_iff item, ← writeEntries_fails_iff rest, writeEntries]
    split
    · next hs =>
      cases item.write with
      | error fault => exact ⟨fun _ => .inl ⟨hs, fault, rfl⟩, fun _ => ⟨fault, rfl⟩⟩
      | ok content =>
        cases writeEntries rest with
        | error fault => exact ⟨fun _ => .inr ⟨fault, rfl⟩, fun _ => ⟨fault, rfl⟩⟩
        | ok more => exact ⟨nofun, fun h => h.elim (fun h => nomatch h.2) nofun⟩
    · next hs => exact ⟨.inr, fun h => h.resolve_left fun h => hs h.1⟩

end

end Item
end Calibration
