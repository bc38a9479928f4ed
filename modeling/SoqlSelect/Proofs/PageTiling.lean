import Mathlib.Logic.ExistsUnique
import SoqlSelect.Proofs.EffectivePaging

/-!
# Pages and rows

The pages of one size lie side by side: the window of a page begins where the window of the page before
it ends. Where the number of rows to skip would not fit into 64 bits, it stays at the greatest number
there is. The main statement says that every row before that number is on one page and no other, and
that the clause of a page shows its window.
-/

namespace SoqlSelect

open Text Text.Reader

namespace Window

/-- The row is in the window. Rows count from zero. -/
def Covers (w : Window) (row : Nat) : Prop :=
  w.skip.toNat ≤ row ∧ row < w.skip.toNat + w.limit.toNat

/-! ### Reading a window -/

/-- A limit and the rows to skip, which are none where there is no offset. -/
def rowsReader : Reader (Nat × Nat) := do
  string "LIMIT "
  let limit ← numberReader
  let offset ← optionally (string " OFFSET " *> numberReader)
  return (limit, offset.getD 0)

def rows? (clause : String) : Option (Nat × Nat) := run? rowsReader clause.toList

theorem takes_rowsReader (limit : Nat) (offset : Option Nat) :
    Takes rowsReader ("LIMIT ".toList ++ (Nat.toDigits 10 limit ++ clauseText offsetText offset))
      (limit, offset.getD 0) [] := by
  refine Takes.bind (takes_string "LIMIT " _) ?_
  refine Takes.bind (a := limit) ?_ ?_
  · rw [List.append_nil]
    exact takes_numberReader (leadsBlank_offset offset)
  · exact (takes_offset offset).bind_pure fun offset => (limit, offset.getD 0)

theorem toList_clause {w : Window} (h : w.active = decide (0 < w.limit)) (hpos : 0 < w.limit) :
    w.clause.toList =
      "LIMIT ".toList ++ (Nat.toDigits 10 w.limit.toNat ++ clauseText offsetText w.offset?) := by
  have hlimit : w.limit? = some w.limit.toNat := if_pos hpos
  have hbehind := behind_clause h
  rw [hlimit] at hbehind
  unfold behind at hbehind
  split at hbehind
  · cases hbehind
  · exact (List.cons.inj hbehind).2

theorem getD_offset? {w : Window} (hpos : 0 < w.limit) : w.offset?.getD 0 = w.skip.toNat := by
  unfold offset?
  by_cases hskip : 0 < w.skip
  · rw [if_pos ⟨hpos, hskip⟩]
    rfl
  · rw [if_neg fun hboth => hskip hboth.2, eq_zero_of_not_pos hskip]
    rfl

theorem rows?_clause {w : Window} (h : w.active = decide (0 < w.limit)) (hpos : 0 < w.limit) :
    rows? w.clause = some (w.limit.toNat, w.skip.toNat) := by
  have hread := run?_of_takes (takes_rowsReader w.limit.toNat w.offset?)
  rw [getD_offset? hpos, ← toList_clause h hpos] at hread
  exact hread

end Window

/-! ### Windows of pages -/

namespace Paging

theorem window_withPage (p : Paging) {page size : UInt64} (hpage : 0 < page) (hsize : 0 < size) :
    (p.withPage page size).window =
      { skip := saturatingMul (page - 1) size, limit := size, active := true } :=
  window_of_page (pageAndSize_eq_some.mpr ⟨rfl, rfl, hpage, hsize⟩)

theorem skip_withPage (p : Paging) {page size : UInt64} (hpage : 0 < page) (hsize : 0 < size) :
    (p.withPage page size).window.skip.toNat =
      min ((page.toNat - 1) * size.toNat) 0xFFFFFFFFFFFFFFFF := by
  rw [window_withPage p hpage hsize, toNat_saturatingMul, toNat_sub_one hpage]

/- The rows behind the last one that can be skipped are left out: there all pages begin at the same row. -/
theorem covers_withPage (p : Paging) {page size : UInt64} (hpage : 0 < page) (hsize : 0 < size)
    {row : Nat} (hrow : row < 0xFFFFFFFFFFFFFFFF) :
    (p.withPage page size).window.Covers row ↔ page.toNat = row / size.toNat + 1 := by
  have hpage' : 0 < page.toNat := UInt64.lt_iff_toNat_lt.mp hpage
  have hsize' : 0 < size.toNat := UInt64.lt_iff_toNat_lt.mp hsize
  have hlimit : (p.withPage page size).window.limit = size := by
    rw [window_withPage p hpage hsize]
  have hdiv : row / size.toNat = page.toNat - 1 ↔
      (page.toNat - 1) * size.toNat ≤ row ∧ row < (page.toNat - 1) * size.toNat + size.toNat := by
    rw [Nat.div_eq_iff hsize']
    omega
  unfold Window.Covers
  rw [skip_withPage p hpage hsize, hlimit]
  omega

theorem existsUnique_page (p : Paging) {size : UInt64} (hsize : 0 < size) {row : Nat}
    (hrow : row < 0xFFFFFFFFFFFFFFFF) :
    ∃! page : UInt64, 0 < page ∧ (p.withPage page size).window.Covers row := by
  have hfits : row / size.toNat + 1 < UInt64.size := by
    have := Nat.div_le_self row size.toNat
    simp only [UInt64.size]
    omega
  have hnumber : (UInt64.ofNat (row / size.toNat + 1)).toNat = row / size.toNat + 1 :=
    UInt64.toNat_ofNat_of_lt hfits
  have hpos : 0 < UInt64.ofNat (row / size.toNat + 1) := by
    rw [UInt64.lt_iff_toNat_lt, hnumber]
    exact Nat.succ_pos _
  refine ⟨UInt64.ofNat (row / size.toNat + 1), ⟨hpos, ?_⟩, ?_⟩
  · exact (covers_withPage p hpos hsize hrow).mpr hnumber
  · rintro page ⟨hpage, hcovers⟩
    rw [← UInt64.toNat_inj, hnumber]
    exact (covers_withPage p hpage hsize hrow).mp hcovers

/-- Whatever else is asked for, pages of one size tile the rows: each row is on one page and no other.
A page has its size as the limit and skips the rows of all pages before it, up to the greatest number of
64 bits, and both numbers are read from its clause. -/
theorem pages_tile_rows (p : Paging) (size : UInt64) (hsize : 0 < size) :
    (∀ row, row < 0xFFFFFFFFFFFFFFFF →
      ∃! page : UInt64, 0 < page ∧ (p.withPage page size).window.Covers row) ∧
    ∀ page : UInt64, 0 < page →
      (p.withPage page size).window.limit = size ∧
      (p.withPage page size).window.active = true ∧
      (p.withPage page size).window.skip.toNat =
        min ((page.toNat - 1) * size.toNat) 0xFFFFFFFFFFFFFFFF ∧
      Window.rows? (p.withPage page size).window.clause =
        some (size.toNat, min ((page.toNat - 1) * size.toNat) 0xFFFFFFFFFFFFFFFF) := by
  refine ⟨fun row hrow => existsUnique_page p hsize hrow, fun page hpage => ?_⟩
  have hwindow := window_withPage p hpage hsize
  have hlimit : (p.withPage page size).window.limit = size := by rw [hwindow]
  have hskip := skip_withPage p hpage hsize
  have hread := Window.rows?_clause (p.withPage page size).active_window (hlimit.symm ▸ hsize)
  rw [hlimit, hskip] at hread
  exact ⟨hlimit, by rw [hwindow], hskip, hread⟩

theorem pages_tile_rows_half_of_all :
    let p : Paging := { skip := some 7, limit := some 1, sort := some "Name" }
    let size : UInt64 := 0x8000000000000000
    0 < size ∧
      (∃! page : UInt64, 0 < page ∧ (p.withPage page size).window.Covers 0xFFFFFFFFFFFFFFFE) ∧
      (p.withPage 3 size).window.skip.toNat = 0xFFFFFFFFFFFFFFFF ∧
      Window.rows? (p.withPage 2 size).window.clause =
        some (0x8000000000000000, 0x8000000000000000) := by
  intro p size
  have hsize : 0 < size := by decide
  obtain ⟨hrows, hpages⟩ := pages_tile_rows p size hsize
  obtain ⟨_, _, hskip, _⟩ := hpages 3 (by decide)
  obtain ⟨_, _, _, hread⟩ := hpages 2 (by decide)
  have hnumber : size.toNat = 0x8000000000000000 := rfl
  rw [hnumber] at hskip hread
  exact ⟨hsize, hrows _ (by decide), by simpa using hskip, by simpa using hread⟩

end Paging

end SoqlSelect
