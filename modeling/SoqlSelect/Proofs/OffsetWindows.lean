import Mathlib.Data.List.Basic
import SoqlSelect.Proofs.IsoForm

/-!
# The windows of offsets

The hours and the minutes of an offset are the first and the next two bytes behind the sign, without the
colon. A digit beyond ASCII has more bytes than one, so that a window may end inside of it. The main
statement says what the check of an offset means for its digits.
-/

namespace SoqlSelect

/-! ### Digits in bytes -/

theorem isDigit_iff_toNat {c : Char} : c.isDigit = true ↔ 48 ≤ c.toNat ∧ c.toNat ≤ 57 := by
  simp only [Char.isDigit, Bool.and_eq_true, decide_eq_true_eq, ge_iff_le]
  exact Iff.and UInt32.le_iff_toNat_le UInt32.le_iff_toNat_le

namespace IsoText

theorem isDigit_of_ascii {c : Char} (h : Text.isDecimalDigit c = true) (ha : c.toNat < 128) :
    c.isDigit = true := by
  rw [isDigit_iff_toNat]
  simp only [Text.isDecimalDigit, List.any_eq_true, Bool.and_eq_true, decide_eq_true_eq] at h
  obtain ⟨z, hz, hlow, hhigh⟩ := h
  -- All runs of digits but the first begin beyond ASCII.
  have hzero : ∀ z ∈ Text.digitZeros, z = 48 ∨ 128 ≤ z := by decide
  have := hzero z hz
  omega

theorem utf8Size_of_isDigit {c : Char} (h : c.isDigit = true) : c.utf8Size = 1 := by
  rw [Char.utf8Size_eq_one_iff, UInt32.le_iff_toNat_le]
  have hrange := isDigit_iff_toNat.mp h
  exact Nat.le_trans hrange.2 (by decide)

theorem isDigit_iff_utf8Size {c : Char} (h : Text.isDecimalDigit c = true) :
    c.isDigit = true ↔ c.utf8Size = 1 := by
  refine ⟨utf8Size_of_isDigit, fun hsize => isDigit_of_ascii h ?_⟩
  have hval := UInt32.le_iff_toNat_le.mp (Char.utf8Size_eq_one_iff.mp hsize)
  exact Nat.lt_succ_of_le hval

theorem Digits.exists_pair {ds : List Char} (h : Digits 2 ds) : ∃ a b, ds = [a, b] ∧
    (a.isDigit = true ↔ a.utf8Size = 1) ∧ (b.isDigit = true ↔ b.utf8Size = 1) := by
  obtain ⟨a, b, rfl⟩ := List.length_eq_two.mp h.1
  exact ⟨a, b, rfl, isDigit_iff_utf8Size (h.2 a (by simp)), isDigit_iff_utf8Size (h.2 b (by simp))⟩

/-! ### Windows -/

theorem takeBytes?_two (a b : Char) (cs : List Char) : Text.takeBytes? 2 (a :: b :: cs) =
    if a.utf8Size = 1 then if b.utf8Size = 1 then some [a, b] else none
    else if a.utf8Size = 2 then some [a] else none := by
  have ha := a.utf8Size_pos
  have hb := b.utf8Size_pos
  by_cases hone : a.utf8Size = 1
  · by_cases hone' : b.utf8Size = 1
    · simp [Text.takeBytes?, hone, hone']
    · have hlarge : ¬ b.utf8Size ≤ 1 := by omega
      simp [Text.takeBytes?, hone, hone', hlarge]
  · by_cases htwo : a.utf8Size = 2
    · simp [Text.takeBytes?, htwo]
    · have hlarge : ¬ a.utf8Size ≤ 2 := by omega
      simp [Text.takeBytes?, hone, htwo, hlarge]

theorem takeBytes?_of_isDigit {ds : List Char} (h : Digits 2 ds) (hd : ∀ c ∈ ds, c.isDigit = true) :
    Text.takeBytes? 2 ds = some ds := by
  obtain ⟨a, b, rfl, ha, hb⟩ := h.exists_pair
  rw [takeBytes?_two, if_pos (ha.mp (hd a (by simp))), if_pos (hb.mp (hd b (by simp)))]

/- A window of two bytes has both digits or is no number. -/
theorem number?_takeBytes? {h : List Char} (hh : Digits 2 h) (cs : List Char) :
    (Text.takeBytes? 2 (h ++ cs)).bind number? = number? h := by
  obtain ⟨a, b, rfl, ha, hb⟩ := hh.exists_pair
  rw [List.cons_append, List.cons_append, takeBytes?_two]
  by_cases hone : a.utf8Size = 1
  · by_cases hone' : b.utf8Size = 1
    · simp [hone, hone']
    · have hnot : b.isDigit = false := Bool.eq_false_iff.mpr fun hd => hone' (hb.mp hd)
      simp [hone, hone', number?, hnot]
  · have hnot : a.isDigit = false := Bool.eq_false_iff.mpr fun hd => hone (ha.mp hd)
    by_cases htwo : a.utf8Size = 2
    · simp [htwo, number?, hnot]
    · simp [hone, htwo, number?, hnot]

theorem dropBytes?_digits {ds : List Char} (h : ∀ c ∈ ds, c.isDigit = true) (cs : List Char) :
    Text.dropBytes? ds.length (ds ++ cs) = some cs := by
  induction ds with
  | nil => cases cs <;> rfl
  | cons d ds ih =>
    have hd : d.utf8Size = 1 := utf8Size_of_isDigit (h d (by simp))
    have hrest := ih fun c hc => h c (by simp [hc])
    simp [Text.dropBytes?, hd, hrest]

theorem isDigit_of_number? {ds : List Char} {n : Nat} (h : number? ds = some n) :
    ∀ c ∈ ds, c.isDigit = true := by
  unfold number? at h
  split at h
  · rename_i hds
    exact List.all_eq_true.mp (Bool.and_eq_true_iff.mp hds).2
  · cases h

/-! ### Offsets -/

theorem Digits.filter_colon {n : Nat} {ds : List Char} (h : Digits n ds) :
    ds.filter (· ≠ ':') = ds := by
  refine List.filter_eq_self.mpr fun c hc => ?_
  have hne : c ≠ ':' := ne_of_class (h.2 c hc) (by decide)
  simp [hne]

theorem filter_colon_append {n k : Nat} {h m : List Char} (hh : Digits n h) (hm : Digits k m) :
    (h ++ m).filter (· ≠ ':') = h ++ m := by
  rw [List.filter_append, hh.filter_colon, hm.filter_colon]

theorem filter_colon_between {n k : Nat} {h m : List Char} (hh : Digits n h) (hm : Digits k m) :
    (h ++ ':' :: m).filter (· ≠ ':') = h ++ m := by
  rw [List.filter_append, List.filter_cons_of_neg (by simp), hh.filter_colon, hm.filter_colon]

/-- The part is a number up to the limit. -/
def InRange (limit : Nat) (ds : List Char) : Prop := ∃ n, number? ds = some n ∧ n ≤ limit

theorem hasOffset_sign {t : IsoText} {sign : Char} {cs : List Char} (hs : IsSign sign)
    (ho : t.offset = sign :: cs) : t.hasOffset = true ↔
      (∃ h, (Text.byteWindow? 0 2 (cs.filter (· ≠ ':'))).bind number? = some h ∧ h ≤ 23) ∧
        ∃ m, (Text.byteWindow? 2 2 (cs.filter (· ≠ ':'))).elim (some 0) number? = some m ∧ m ≤ 59 := by
  have hz : sign ≠ 'Z' := by rcases hs with rfl | rfl <;> decide
  unfold hasOffset
  split
  · rename_i hnil
    rw [hnil] at ho
    cases ho
  · rename_i huniversal
    rw [huniversal] at ho
    exact absurd (List.cons.inj ho).1.symm hz
  · rename_i head rest _ hcons
    obtain ⟨-, rfl⟩ := List.cons.inj (hcons.symm.trans ho)
    generalize rest.filter (· ≠ ':') = ds
    dsimp only
    cases (Text.byteWindow? 0 2 ds).bind number? with
    | none => simp
    | some h =>
      cases Text.byteWindow? 2 2 ds with
      | none => simp
      | some window => cases hm : number? window <;> simp [hm]

theorem hasOffset_parts {t : IsoText} {sign : Char} {cs h m : List Char} (hs : IsSign sign)
    (ho : t.offset = sign :: cs) (hcs : cs.filter (· ≠ ':') = h ++ m) (hh : Digits 2 h) :
    t.hasOffset = true ↔
      InRange 23 h ∧ ∃ k, (Text.takeBytes? 2 m).elim (some 0) number? = some k ∧ k ≤ 59 := by
  have hhours : Text.byteWindow? 0 2 (h ++ m) = Text.takeBytes? 2 (h ++ m) := by
    simp [Text.byteWindow?, Text.dropBytes?]
  rw [hasOffset_sign hs ho, hcs, hhours, number?_takeBytes? hh]
  refine and_congr_right ?_
  rintro ⟨n, hn, _⟩
  have hdigits : ∀ c ∈ h, c.isDigit = true := isDigit_of_number? hn
  have hdrop := dropBytes?_digits hdigits m
  rw [hh.1] at hdrop
  simp [Text.byteWindow?, hdrop]

end IsoText

end SoqlSelect
