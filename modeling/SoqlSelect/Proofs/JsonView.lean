import SoqlSelect.Filter
import SoqlSelect.Proofs.Members

/-!
# Values and their JSON view

The JSON view of a value forgets that a text was an instant, and which keys of an object came again. The
main statement says that nothing else is lost: a value without instants and repeated keys, at any depth,
is read back from its view.
-/

namespace SoqlSelect

namespace Value

/-! ### All values in a value -/

mutual

/-- Holds of the value and of all values in it. -/
def everywhere (p : Value → Bool) : Value → Bool
  | .array items => p (.array items) && itemsEverywhere p items
  | .object entries => p (.object entries) && entriesEverywhere p entries
  | v => p v

def itemsEverywhere (p : Value → Bool) : List Value → Bool
  | [] => true
  | item :: rest => everywhere p item && itemsEverywhere p rest

def entriesEverywhere (p : Value → Bool) : Entries → Bool
  | [] => true
  | (_, value) :: rest => everywhere p value && entriesEverywhere p rest

end

theorem itemsEverywhere_iff {p : Value → Bool} {items : List Value} :
    itemsEverywhere p items = true ↔ ∀ item ∈ items, item.everywhere p = true := by
  induction items with
  | nil => simp [itemsEverywhere]
  | cons item rest ih => simp [itemsEverywhere, ih]

theorem entriesEverywhere_iff {p : Value → Bool} {entries : Entries} :
    entriesEverywhere p entries = true ↔ ∀ entry ∈ entries, entry.2.everywhere p = true := by
  induction entries with
  | nil => simp [entriesEverywhere]
  | cons entry rest ih => simp [entriesEverywhere, ih]

/-- The value is no instant, and no object with a repeated key. -/
def isPlain : Value → Bool
  | .date _ => false
  | .object entries => (entries.map (·.1)).Nodup
  | _ => true

theorem map_fst_entriesToJson (entries : Entries) :
    (entriesToJson entries).map (·.1) = entries.map (·.1) := by
  rw [entriesToJson_eq_map, List.map_map]
  rfl

theorem toJson_object {entries : Entries} (h : (entries.map (·.1)).Nodup) :
    (Value.object entries).toJson = .object (entriesToJson entries) := by
  rw [toJson, Members.merge_eq_self]
  rw [map_fst_entriesToJson]
  exact h

-- The induction is over the value together with the lists of values and entries in it.
mutual

theorem ofJson_toJson : (v : Value) → v.everywhere isPlain = true → ofJson v.toJson = v
  | .null, _ => rfl
  | .bool _, _ => rfl
  | .number _, _ => rfl
  | .string _, _ => rfl
  | .date _, h => by cases h
  | .array items, h => by
    have hitems : itemsEverywhere isPlain items = true := by simpa [everywhere, isPlain] using h
    rw [toJson, ofJson, itemsOfJson_itemsToJson items hitems]
  | .object entries, h => by
    obtain ⟨hkeys, hentries⟩ := Bool.and_eq_true_iff.mp h
    have hkeys : (entries.map (·.1)).Nodup := of_decide_eq_true hkeys
    rw [toJson_object hkeys, ofJson, entriesOfJson_entriesToJson entries hentries]

theorem itemsOfJson_itemsToJson : (items : List Value) → itemsEverywhere isPlain items = true →
    itemsOfJson (itemsToJson items) = items
  | [], _ => rfl
  | item :: rest, h => by
    obtain ⟨hitem, hrest⟩ := Bool.and_eq_true_iff.mp h
    rw [itemsToJson, itemsOfJson, ofJson_toJson item hitem, itemsOfJson_itemsToJson rest hrest]

theorem entriesOfJson_entriesToJson : (entries : Entries) → entriesEverywhere isPlain entries = true →
    entriesOfJson (entriesToJson entries) = entries
  | [], _ => rfl
  | (key, value) :: rest, h => by
    obtain ⟨hvalue, hrest⟩ := Bool.and_eq_true_iff.mp h
    rw [entriesToJson, entriesOfJson, ofJson_toJson value hvalue,
      entriesOfJson_entriesToJson rest hrest]

end

end Value

/-- The filter of plain entries is read back from their JSON view. -/
theorem Filter.ofJson_toJson {f : Filter} (h : (Value.object f.entries).everywhere Value.isPlain = true) :
    Filter.ofJson (Value.object f.entries).toJson = .ok f := by
  obtain ⟨hkeys, hentries⟩ := Bool.and_eq_true_iff.mp h
  have hkeys : (f.entries.map (·.1)).Nodup := of_decide_eq_true hkeys
  rw [Value.toJson_object hkeys, Filter.ofJson, Value.entriesOfJson_entriesToJson _ hentries]

end SoqlSelect
