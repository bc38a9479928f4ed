import SoqlSelect.Json.Basic

/-!
# Paging

A statement may ask for a stretch of its rows, either by the number of rows to skip and to take or by a
page of a given size, and for rows in ascending order of a field. Pages count from one.
-/

namespace SoqlSelect

structure Paging where
  skip : Option UInt64 := none
  limit : Option UInt64 := none
  page : Option UInt64 := none
  pageSize : Option UInt64 := none
  sort : Option String := none
deriving DecidableEq

/-- A stretch of rows. It is in force when it is active. -/
structure Window where
  skip : UInt64 := 0
  limit : UInt64 := 0
  active : Bool := false
deriving DecidableEq

/-- The product, or the greatest number of 64 bits if the product is greater. -/
def saturatingMul (a b : UInt64) : UInt64 :=
  UInt64.ofNat (min (a.toNat * b.toNat) 0xFFFFFFFFFFFFFFFF)

@[simp] theorem toNat_saturatingMul (a b : UInt64) :
    (saturatingMul a b).toNat = min (a.toNat * b.toNat) 0xFFFFFFFFFFFFFFFF := by
  have h : min (a.toNat * b.toNat) 0xFFFFFFFFFFFFFFFF < UInt64.size := by
    have := Nat.min_le_right (a.toNat * b.toNat) 0xFFFFFFFFFFFFFFFF
    simp only [UInt64.size]
    omega
  exact UInt64.toNat_ofNat_of_lt h

namespace Window

/-- The clause for the window (`to_soql`): the limit and the offset, each unless it is zero. -/
def clause (w : Window) : String :=
  if w.active then
    String.intercalate " " <|
      (if 0 < w.limit then ["LIMIT " ++ Nat.repr w.limit.toNat] else []) ++
      (if 0 < w.skip then ["OFFSET " ++ Nat.repr w.skip.toNat] else [])
  else ""

end Window

namespace Paging

/-- The field to sort by, if one is named (`sort_field`). -/
def sortField (p : Paging) : Option String :=
  p.sort.filter (· ≠ "")

/-- The page and its size, if both are positive. -/
def pageAndSize (p : Paging) : Option (UInt64 × UInt64) :=
  match p.page, p.pageSize with
  | some page, some size => if 0 < page ∧ 0 < size then some (page, size) else none
  | _, _ => none

/-- The window that is asked for (`normalize`). A page takes precedence. -/
def window (p : Paging) : Window :=
  match p.pageAndSize with
  | some (page, size) =>
    { skip := saturatingMul (page - 1) size, limit := size, active := true }
  | none =>
    let limit := p.limit.getD 0
    { skip := p.skip.getD 0, limit, active := 0 < limit }

/-! ### Steps -/

def withSkip (p : Paging) (n : UInt64) : Paging := { p with skip := some n }

def withLimit (p : Paging) (n : UInt64) : Paging := { p with limit := some n }

def withPage (p : Paging) (page size : UInt64) : Paging :=
  { p with page := some page, pageSize := some size }

def withSort (p : Paging) (field : String) : Paging := { p with sort := some field }

/-! ### JSON view -/

/-- The members that are set. -/
def toJson (p : Paging) : Json :=
  let count (name : String) (n : Option UInt64) : List (String × Json) :=
    n.toList.map fun n => (name, .number (Number.ofUInt64 n))
  .object <|
    count "skip" p.skip ++ count "limit" p.limit ++ count "page" p.page ++
      count "pageSize" p.pageSize ++ p.sort.toList.map fun s => ("sort", .string s)

end Paging

end SoqlSelect
