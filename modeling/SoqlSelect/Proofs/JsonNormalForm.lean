import SoqlSelect.Proofs.JsonView

/-!
# Values read from their JSON view

A value that is read from its JSON view is in normal form: texts stand for instants, and every key of an
object comes once. The rules of the normal form are stated without the view, for values of any depth. The
main statement says that the value read from the view is the one that the rules give, that a value is its
own normal form exactly if it has no instants and no repeated keys, and that reading JSON data loses
nothing.
-/

namespace SoqlSelect

/-! ### JSON data with distinct names -/

namespace Json

mutual

/-- No object in the data has a name twice. -/
def isDistinct : Json → Bool
  | .array items => itemsDistinct items
  | .object members => (members.map (·.1)).Nodup && membersDistinct members
  | _ => true

def itemsDistinct : List Json → Bool
  | [] => true
  | item :: rest => isDistinct item && itemsDistinct rest

def membersDistinct : List (String × Json) → Bool
  | [] => true
  | (_, value) :: rest => isDistinct value && membersDistinct rest

end

theorem membersDistinct_iff {members : List (String × Json)} :
    membersDistinct members = true ↔ ∀ member ∈ members, member.2.isDistinct = true := by
  induction members with
  | nil => simp [membersDistinct]
  | cons member rest ih => simp [membersDistinct, ih]

end Json

namespace Value

/- A name that is given twice would be merged by the view, and so would not come back. -/
mutual

theorem toJson_ofJson : (j : Json) → j.isDistinct = true → (ofJson j).toJson = j
  | .null, _ => rfl
  | .bool _, _ => rfl
  | .number _, _ => rfl
  | .string _, _ => rfl
  | .array items, h => by rw [ofJson, toJson, itemsToJson_itemsOfJson items h]
  | .object members, h => by
    obtain ⟨hnames, hmembers⟩ := Bool.and_eq_true_iff.mp h
    have hnames : (members.map (·.1)).Nodup := of_decide_eq_true hnames
    rw [ofJson, toJson, entriesToJson_entriesOfJson members hmembers, Members.merge_eq_self hnames]

theorem itemsToJson_itemsOfJson : (items : List Json) → Json.itemsDistinct items = true →
    itemsToJson (itemsOfJson items) = items
  | [], _ => rfl
  | item :: rest, h => by
    obtain ⟨hitem, hrest⟩ := Bool.and_eq_true_iff.mp h
    rw [itemsOfJson, itemsToJson, toJson_ofJson item hitem, itemsToJson_itemsOfJson rest hrest]

theorem entriesToJson_entriesOfJson : (members : List (String × Json)) →
    Json.membersDistinct members = true → entriesToJson (entriesOfJson members) = members
  | [], _ => rfl
  | (name, value) :: rest, h => by
    obtain ⟨hvalue, hrest⟩ := Bool.and_eq_true_iff.mp h
    rw [entriesOfJson, entriesToJson, toJson_ofJson value hvalue, entriesToJson_entriesOfJson rest hrest]

end

mutual

theorem isDistinct_toJson : (v : Value) → v.toJson.isDistinct = true
  | .null => rfl
  | .bool _ => rfl
  | .number _ => rfl
  | .string _ => rfl
  | .date _ => rfl
  | .array items => by
    rw [toJson, Json.isDistinct]
    exact itemsDistinct_itemsToJson items
  | .object entries => by
    rw [toJson, Json.isDistinct, Bool.and_eq_true_iff]
    refine ⟨decide_eq_true (Members.nodup_merge _), Json.membersDistinct_iff.mpr fun member hm => ?_⟩
    have hmembers := Json.membersDistinct_iff.mp (membersDistinct_entriesToJson entries)
    exact hmembers member (Members.mem_of_mem_merge hm)

theorem itemsDistinct_itemsToJson : (items : List Value) →
    Json.itemsDistinct (itemsToJson items) = true
  | [] => rfl
  | item :: rest => by
    rw [itemsToJson, Json.itemsDistinct, isDistinct_toJson item, itemsDistinct_itemsToJson rest]
    rfl

theorem membersDistinct_entriesToJson : (entries : Entries) →
    Json.membersDistinct (entriesToJson entries) = true
  | [] => rfl
  | (key, value) :: rest => by
    rw [entriesToJson, Json.membersDistinct, isDistinct_toJson value, membersDistinct_entriesToJson rest]
    rfl

end

mutual

theorem everywhere_isPlain_ofJson : (j : Json) → (ofJson j).everywhere isPlain = j.isDistinct
  | .null => rfl
  | .bool _ => rfl
  | .number _ => rfl
  | .string _ => rfl
  | .array items => itemsEverywhere_isPlain_ofJson items
  | .object members => by
    have hnames : (entriesOfJson members).map (·.1) = members.map (·.1) := by
      rw [entriesOfJson_eq_map, List.map_map]
      rfl
    rw [ofJson, everywhere, isPlain, hnames, Json.isDistinct, entriesEverywhere_isPlain_ofJson members]

theorem itemsEverywhere_isPlain_ofJson : (items : List Json) →
    itemsEverywhere isPlain (itemsOfJson items) = Json.itemsDistinct items
  | [] => rfl
  | item :: rest => by
    rw [itemsOfJson, itemsEverywhere, Json.itemsDistinct, everywhere_isPlain_ofJson item,
      itemsEverywhere_isPlain_ofJson rest]

theorem entriesEverywhere_isPlain_ofJson : (members : List (String × Json)) →
    entriesEverywhere isPlain (entriesOfJson members) = Json.membersDistinct members
  | [] => rfl
  | (name, value) :: rest => by
    rw [entriesOfJson, entriesEverywhere, Json.membersDistinct, everywhere_isPlain_ofJson value,
      entriesEverywhere_isPlain_ofJson rest]

end

/-! ### The value that is read from the view -/

/-- The value that is read from the JSON view. -/
def viaJson (v : Value) : Value := ofJson v.toJson

@[simp] theorem toJson_viaJson (v : Value) : v.viaJson.toJson = v.toJson :=
  toJson_ofJson v.toJson (isDistinct_toJson v)

@[simp] theorem viaJson_viaJson (v : Value) : v.viaJson.viaJson = v.viaJson :=
  congrArg ofJson (toJson_viaJson v)

/- Messages show values by their JSON view, so they are the same. -/
@[simp] theorem shown_viaJson (v : Value) : v.viaJson.shown = v.shown :=
  congrArg Json.text (toJson_viaJson v)

theorem viaJson_eq_self_iff (v : Value) : v.viaJson = v ↔ v.everywhere isPlain = true := by
  constructor
  · intro h
    rw [← h, viaJson, everywhere_isPlain_ofJson]
    exact isDistinct_toJson v
  · exact ofJson_toJson v

def entryViaJson (entry : String × Value) : String × Value := (entry.1, entry.2.viaJson)

@[simp] theorem viaJson_array (items : List Value) :
    (Value.array items).viaJson = .array (items.map viaJson) := by
  rw [viaJson, toJson, ofJson, itemsToJson_eq_map, itemsOfJson_eq_map, List.map_map]
  rfl

theorem entriesOfJson_viaJson (entries : Entries) :
    entriesOfJson (entriesToJson entries) = entries.map entryViaJson := by
  rw [entriesToJson_eq_map, entriesOfJson_eq_map, List.map_map]
  rfl

theorem viaJson_object (entries : Entries) :
    (Value.object entries).viaJson = .object ((Members.merge entries).map entryViaJson) := by
  rw [viaJson, toJson, ofJson, entriesToJson_eq_map, Members.merge_map, ← entriesToJson_eq_map,
    entriesOfJson_viaJson]

/-! ### Rules of the normal form -/

/-- The second value is the normal form of the first. An instant becomes its text, and the items of an
array keep their places. The keys of an object come once each, in the order in which they come first, and
each has the normal form of the value that comes last. -/
inductive NormalForm : Value → Value → Prop
  | null : NormalForm .null .null
  | bool (b : Bool) : NormalForm (.bool b) (.bool b)
  | number (n : Number) : NormalForm (.number n) (.number n)
  | string (s : String) : NormalForm (.string s) (.string s)
  | date (t : Instant) : NormalForm (.date t) (.string t.text)
  | array {items items' : List Value} : items.length = items'.length →
      (∀ (i : Nat) (v w : Value), items[i]? = some v → items'[i]? = some w → NormalForm v w) →
      NormalForm (.array items) (.array items')
  | object {entries entries' : Entries} :
      entries'.map (·.1) = (entries.map (·.1)).eraseDups →
      (∀ (key : String) (v w : Value), Members.get? key entries.reverse = some v →
        Members.get? key entries' = some w → NormalForm v w) →
      NormalForm (.object entries) (.object entries')

theorem map_fst_entryViaJson (entries : Entries) :
    (entries.map entryViaJson).map (·.1) = entries.map (·.1) := by
  rw [List.map_map]
  rfl

@[simp] theorem get?_entryViaJson (key : String) (entries : Entries) :
    Members.get? key (entries.map entryViaJson) = (Members.get? key entries).map viaJson := by
  induction entries with
  | nil => rfl
  | cons entry rest ih =>
    rw [List.map_cons, Members.get?_cons, Members.get?_cons, ih]
    unfold entryViaJson
    split <;> rfl

theorem get?_merge_viaJson (key : String) (entries : Entries) :
    Members.get? key ((Members.merge entries).map entryViaJson) =
      (Members.get? key entries.reverse).map viaJson := by
  rw [get?_entryViaJson, Members.get?_merge]

-- The induction is over the value together with the lists of values and entries in it.
mutual

theorem normalForm_viaJson : (v : Value) → NormalForm v v.viaJson
  | .null => .null
  | .bool b => .bool b
  | .number n => .number n
  | .string s => .string s
  | .date t => .date t
  | .array items => by
    rw [viaJson_array]
    refine .array (List.length_map _).symm fun i v w hv hw => ?_
    rw [List.getElem?_map, hv] at hw
    rw [← Option.some.inj hw]
    exact normalForm_items items v (List.mem_of_getElem? hv)
  | .object entries => by
    rw [viaJson_object]
    refine .object ?_ fun key v w hv hw => ?_
    · rw [map_fst_entryViaJson, Members.map_fst_merge]
    · rw [get?_merge_viaJson, hv] at hw
      rw [← Option.some.inj hw]
      exact normalForm_entries entries (key, v) (List.mem_reverse.mp (Members.mem_of_get? hv))

theorem normalForm_items : (items : List Value) → ∀ item ∈ items, NormalForm item item.viaJson
  | [] => by simp
  | item :: rest =>
    List.forall_mem_cons.mpr ⟨normalForm_viaJson item, normalForm_items rest⟩

theorem normalForm_entries : (entries : Entries) → ∀ entry ∈ entries, NormalForm entry.2 entry.2.viaJson
  | [] => by simp
  | (_, value) :: rest =>
    List.forall_mem_cons.mpr ⟨normalForm_viaJson value, normalForm_entries rest⟩

end

theorem viaJson_eq_of_normalForm {v w : Value} (h : NormalForm v w) : v.viaJson = w := by
  induction h with
  | null => rfl
  | bool b => rfl
  | number n => rfl
  | string s => rfl
  | date t => rfl
  | @array items items' hlength _ ih =>
    rw [viaJson_array]
    congr 1
    apply List.ext_getElem (by rw [List.length_map, hlength])
    intro i hi hi'
    rw [List.length_map] at hi
    rw [List.getElem_map]
    exact ih i _ _ (List.getElem?_eq_getElem hi) (List.getElem?_eq_getElem hi')
  | @object entries entries' hkeys _ ih =>
    have hnames : ((Members.merge entries).map entryViaJson).map (·.1) = entries'.map (·.1) := by
      rw [map_fst_entryViaJson, Members.map_fst_merge, hkeys]
    have hnodup : (((Members.merge entries).map entryViaJson).map (·.1)).Nodup := by
      rw [map_fst_entryViaJson]
      exact Members.nodup_merge entries
    rw [viaJson_object]
    congr 1
    apply Members.eq_of_get? hnames hnodup
    intro key hkey
    obtain ⟨w, hw⟩ := Members.exists_get?_of_mem (hnames ▸ hkey)
    obtain ⟨_, hmerged⟩ := Members.exists_get?_of_mem hkey
    rw [get?_merge_viaJson] at hmerged ⊢
    obtain ⟨v, hv, _⟩ := Option.map_eq_some_iff.mp hmerged
    rw [hv, hw, Option.map_some, ih key v w hv hw]

/-- JSON data without repeated names is the view of the value that is read from it. The value that is read
from the view of a value is its normal form, and what is shown of it is the same. Only a value without
instants and repeated keys, at any depth, is its own normal form, and so is every normal form. -/
theorem json_view_gives_normal_form :
    (∀ j : Json, j.isDistinct = true → (ofJson j).toJson = j) ∧
    ∀ v : Value, v.viaJson.viaJson = v.viaJson ∧ v.viaJson.shown = v.shown ∧
      (v.viaJson = v ↔ v.everywhere isPlain = true) ∧ ∀ w, NormalForm v w ↔ v.viaJson = w := by
  refine ⟨toJson_ofJson, fun v => ⟨v.viaJson_viaJson, v.shown_viaJson, v.viaJson_eq_self_iff, ?_⟩⟩
  intro w
  constructor
  · exact viaJson_eq_of_normalForm
  · rintro rfl
    exact normalForm_viaJson v

/- A key comes again in the inner object, and the outer key that comes again replaces it. -/
theorem json_view_gives_normal_form_repeated_keys :
    let t : Instant := ⟨0, 0, by decide, by decide⟩
    let inner : Value := .object [("x", .null), ("y", .array [.date t]), ("x", .bool true)]
    let v : Value := .object [("b", .string "first"), ("a", .null), ("b", inner)]
    let j : Json := .object [("b", .object [("x", .bool true),
      ("y", .array [.string "1970-01-01T00:00:00.000Z"])]), ("a", .null)]
    j.isDistinct = true ∧ (ofJson j).toJson = j ∧ v.viaJson = ofJson j ∧ v.viaJson ≠ v ∧
      NormalForm v (ofJson j) := by
  intro t inner v j
  have hdistinct : j.isDistinct = true := by decide +kernel
  obtain ⟨hread, hvalues⟩ := json_view_gives_normal_form
  obtain ⟨_, _, hself, hform⟩ := hvalues v
  have htext : t.text = "1970-01-01T00:00:00.000Z" := by decide +kernel
  have hjson : v.toJson = j := by
    simp [v, inner, j, toJson, entriesToJson, itemsToJson, Members.merge, Members.put, htext]
  have hview : v.viaJson = ofJson j := congrArg ofJson hjson
  have hplain : ¬ v.everywhere isPlain = true := by decide +kernel
  exact ⟨hdistinct, hread j hdistinct, hview, fun h => hplain (hself.mp h), (hform _).mpr hview⟩

end Value

end SoqlSelect
