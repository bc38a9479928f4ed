/-!
# Characters

The classes of characters that texts are read by: blanks, decimal digits, hexadecimal digits and sets of
code points. A class is a table of a Unicode property or is computed from one. At the end, the stretches
of a text that a number of UTF-8 bytes picks out.
-/

namespace SoqlSelect

/-- Characters that a class tells apart are different. -/
theorem ne_of_class {p : Char → Bool} {c d : Char} (hc : p c = true) (hd : p d = false) : c ≠ d := by
  intro h
  rw [h, hd] at hc
  exact Bool.false_ne_true hc

namespace Text

/-! ### Blanks

A text of blank characters only counts as empty wherever a name is asked for. -/

/-- The characters with the Unicode property `White_Space`. -/
def isBlank (c : Char) : Bool :=
  let n := c.toNat
  (9 ≤ n && n ≤ 13) || n == 0x20 || n == 0x85 || n == 0xA0 || n == 0x1680 ||
    (0x2000 ≤ n && n ≤ 0x200A) || n == 0x2028 || n == 0x2029 || n == 0x202F || n == 0x205F ||
    n == 0x3000

/-- No character of the text is more than blank. -/
def isAllBlank (s : String) : Bool :=
  s.toList.all isBlank

/-- The text without its leading blank characters. -/
def trimStart (cs : List Char) : List Char :=
  cs.dropWhile isBlank

/-- The text without its trailing blank characters. -/
def trimEnd (cs : List Char) : List Char :=
  (cs.reverse.dropWhile isBlank).reverse

/-- Every white-space character of the core library is blank. -/
theorem isBlank_of_isWhitespace {c : Char} (h : c.isWhitespace = true) : isBlank c = true := by
  simp only [Char.isWhitespace, Bool.or_eq_true, decide_eq_true_eq] at h
  rcases h with ((h | h) | h) | h <;> subst h <;> decide

/-! ### Decimal digits

The Unicode general category `Nd` consists of runs of ten consecutive code points, zero to nine, one
run for each way of writing the digits. A run is given by its zero. -/

/-- The code point of the zero of each run of decimal digits, in ascending order. -/
def digitZeros : List Nat :=
  [0x30, 0x660, 0x6F0, 0x7C0, 0x966, 0x9E6, 0xA66, 0xAE6, 0xB66, 0xBE6, 0xC66, 0xCE6, 0xD66,
    0xDE6, 0xE50, 0xED0, 0xF20, 0x1040, 0x1090, 0x17E0, 0x1810, 0x1946, 0x19D0, 0x1A80, 0x1A90,
    0x1B50, 0x1BB0, 0x1C40, 0x1C50, 0xA620, 0xA8D0, 0xA900, 0xA9D0, 0xA9F0, 0xAA50, 0xABF0,
    0xFF10, 0x104A0, 0x10D30, 0x10D40, 0x11066, 0x110F0, 0x11136, 0x111D0, 0x112F0, 0x11450,
    0x114D0, 0x11650, 0x116C0, 0x116D0, 0x116DA, 0x11730, 0x118E0, 0x11950, 0x11BF0, 0x11C50,
    0x11D50, 0x11DA0, 0x11F50, 0x16130, 0x16A60, 0x16AC0, 0x16B50, 0x16D70, 0x1CCF0, 0x1D7CE,
    0x1D7D8, 0x1D7E2, 0x1D7EC, 0x1D7F6, 0x1E140, 0x1E2F0, 0x1E4F0, 0x1E5F1, 0x1E950, 0x1FBF0]

/-- The characters of the Unicode general category `Nd`. -/
def isDecimalDigit (c : Char) : Bool :=
  digitZeros.any fun z => z ≤ c.toNat && c.toNat ≤ z + 9

theorem isDecimalDigit_of_isDigit {c : Char} (h : c.isDigit = true) : isDecimalDigit c = true := by
  simp only [Char.isDigit, Bool.and_eq_true, decide_eq_true_eq, ge_iff_le] at h
  have h₀ : 0x30 ≤ c.toNat := UInt32.le_iff_toNat_le.mp h.1
  have h₉ : c.toNat ≤ 0x39 := UInt32.le_iff_toNat_le.mp h.2
  simp [isDecimalDigit, digitZeros, h₀, h₉]

/-! ### Sets of code points

A Unicode property is written down as the ranges of its code points in hexadecimal, as in
`"41-5A 61-7A AA"`, several to a line. -/

/-- The value of a hexadecimal digit of either case. -/
def hexDigit? (c : Char) : Option Nat :=
  if c.isDigit then some (c.toNat - '0'.toNat)
  else if 'a' ≤ c && c ≤ 'f' then some (c.toNat - 'a'.toNat + 10)
  else if 'A' ≤ c && c ≤ 'F' then some (c.toNat - 'A'.toNat + 10)
  else none

/-- The number written by hexadecimal digits, if there is nothing but such digits. -/
def hexNumber? (cs : List Char) : Option Nat :=
  cs.foldlM (fun n c => (hexDigit? c).map (16 * n + ·)) 0

/-- A set of code points as closed ranges. -/
abbrev CodePoints := List (Nat × Nat)

namespace CodePoints

/-- The range that a word such as `41-5A` or `AA` stands for. -/
def range? (word : String) : Option (Nat × Nat) :=
  let cs := word.toList
  match hexNumber? (cs.takeWhile (· ≠ '-')), hexNumber? ((cs.dropWhile (· ≠ '-')).drop 1) with
  | some low, some high => some (low, if cs.contains '-' then high else low)
  | _, _ => none

/-- The set written on the lines. -/
def ofLines (lines : List String) : CodePoints :=
  lines.flatMap fun line => (line.splitOn " ").filterMap range?

/-- Whether the set has the character. -/
def contains (set : CodePoints) (c : Char) : Bool :=
  set.any fun (low, high) => low ≤ c.toNat && c.toNat ≤ high

end CodePoints

/-! ### Byte windows

A stretch of the UTF-8 bytes of a text is a text again only if it begins and ends between characters. -/

/-- The text after its first `n` bytes, if a character ends there. -/
def dropBytes? : Nat → List Char → Option (List Char)
  | 0, cs => some cs
  | _ + 1, [] => none
  | n + 1, c :: cs => if c.utf8Size ≤ n + 1 then dropBytes? (n + 1 - c.utf8Size) cs else none

/-- The text of the first `n` bytes, if a character ends there. -/
def takeBytes? : Nat → List Char → Option (List Char)
  | 0, _ => some []
  | _ + 1, [] => none
  | n + 1, c :: cs =>
    if c.utf8Size ≤ n + 1 then (takeBytes? (n + 1 - c.utf8Size) cs).map (c :: ·) else none

/-- The text of the `n` bytes from the byte `start` on. -/
def byteWindow? (start n : Nat) (cs : List Char) : Option (List Char) :=
  (dropBytes? start cs).bind (takeBytes? n)

end Text

end SoqlSelect
