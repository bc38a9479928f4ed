import SoqlSelect.Proofs.InstantReading

/-!
# Kinds of literals

Behind a sign and digits, the first character of a literal tells its kind: a letter in a word, the hyphen
behind a year in a date, a quote in a string, and a point, the letter of an exponent or nothing in a number.
The main statement says which values have the same literal: values of one kind, and an instant and the
string of its text.
-/

namespace SoqlSelect

/-! ### Marks -/

inductive LiteralKind
  | null
  | bool
  | number
  | date
  | quoted
deriving DecidableEq

namespace LiteralKind

/- What stands behind a sign and digits. -/
def mark? (cs : List Char) : Option Char :=
  ((cs.dropWhile fun c => c == '+' || c == '-').dropWhile Text.isDecimalDigit).head?

def ofMark : Option Char → LiteralKind
  | some 'n' => .null
  | some 't' => .bool
  | some 'f' => .bool
  | some '-' => .date
  | some '\x27' => .quoted
  | _ => .number

/-- The kind that a literal shows. -/
def ofText (text : String) : LiteralKind := ofMark (mark? text.toList)

theorem mark?_sign {sign : Char} (hsign : sign = '+' ∨ sign = '-') (cs : List Char) :
    mark? (sign :: cs) = mark? cs := by
  rcases hsign with rfl | rfl <;> rfl

theorem mark?_digits {ds rest : List Char} (hne : ds ≠ [])
    (hds : ∀ c ∈ ds, Text.isDecimalDigit c = true)
    (hrest : ∀ c ∈ rest.head?, Text.isDecimalDigit c = false) : mark? (ds ++ rest) = rest.head? := by
  have hsign : (ds ++ rest).dropWhile (fun c => c == '+' || c == '-') = ds ++ rest := by
    obtain ⟨d, others, rfl⟩ := List.exists_cons_of_ne_nil hne
    have hd := hds d List.mem_cons_self
    have hplus : d ≠ '+' := ne_of_class hd (by decide)
    have hminus : d ≠ '-' := ne_of_class hd (by decide)
    simp [hplus, hminus]
  have hend : rest.dropWhile Text.isDecimalDigit = rest := by
    cases rest with
    | nil => rfl
    | cons c rest => simp [hrest c rfl]
  rw [mark?, hsign, List.dropWhile_append_of_pos hds, hend]

/-! ### Numbers -/

theorem ofMark_magnitude {cs : List Char} (h : Number.MagnitudeForm cs) :
    ofMark (mark? cs) = .number := by
  obtain ⟨hwhole, hfraction, hexponent⟩ := h
  have hdigits := fun c hc => Text.isDecimalDigit_of_isDigit (hwhole.2 c hc)
  cases hfraction with
  | digits hds =>
    rw [mark?_digits hwhole.1 hdigits (by simp; decide)]
    rfl
  | none =>
    cases hexponent with
    | digits hsign hds =>
      rw [mark?_digits hwhole.1 hdigits (by simp; decide)]
      rfl
    | none =>
      rw [mark?_digits hwhole.1 hdigits (by simp)]
      rfl

theorem ofText_number (n : Number) : ofText n.text = .number := by
  have hform := n.textForm_text
  unfold ofText
  generalize n.text.toList = cs at hform
  cases hform with
  | plain h => exact ofMark_magnitude h
  | negative h =>
    rw [mark?_sign (.inr rfl)]
    exact ofMark_magnitude h

/-! ### Dates -/

theorem ofMark_year {year rest : List Char} (hne : year ≠ [])
    (hyear : ∀ c ∈ year, Text.isDecimalDigit c = true) :
    ofMark (mark? (year ++ '-' :: rest)) = .date := by
  rw [mark?_digits hne hyear (by simp; decide)]
  rfl

theorem ofText_isoDate {s : String} (h : isIsoDate s = true) : ofText s = .date := by
  obtain ⟨t, hform, _⟩ := (isIsoDate_iff_form s).mp h
  unfold ofText
  generalize s.toList = cs at hform
  cases hform with
  | month hy _ => exact ofMark_year hy.ne_nil hy.2
  | day hy _ _ =>
    rw [List.append_assoc]
    exact ofMark_year hy.ne_nil hy.2
  | time hy _ _ _ _ _ _ =>
    simp only [List.append_assoc]
    exact ofMark_year hy.ne_nil hy.2

theorem ofText_instant (t : Instant) : ofText t.text = .date := by
  have hdigits (n : Nat) : ∀ c ∈ Instant.padded 4 n, Text.isDecimalDigit c = true :=
    fun c hc => Text.isDecimalDigit_of_isDigit (isDigit_of_mem_padded hc)
  rw [ofText, Instant.text, String.toList_ofList, Instant.chars_eq, Instant.yearText]
  split
  · exact ofMark_year (padded_ne_nil 4 _) (hdigits _)
  · rw [List.cons_append, mark?_sign (by split <;> simp)]
    exact ofMark_year (padded_ne_nil 4 _) (hdigits _)

/-! ### Strings -/

theorem ofText_quote (s : String) : ofText (Literal.quote s) = .quoted := by
  rw [ofText, Literal.toList_quote]
  have hquote : Text.isDecimalDigit '\x27' = false := by decide
  simp [mark?, hquote, ofMark]

end LiteralKind

/-! ### Values -/

namespace Value

/- A value, its literal and the kind of its literal. -/
inductive HasLiteral : LiteralKind → Value → String → Prop
  | null : HasLiteral .null .null "null"
  | bool (b : Bool) : HasLiteral .bool (.bool b) (if b then "true" else "false")
  | number (n : Number) : HasLiteral .number (.number n) n.text
  | quoted {s : String} : isIsoDate s = false → HasLiteral .quoted (.string s) (Literal.quote s)
  | bareString {s : String} : isIsoDate s = true → HasLiteral .date (.string s) s
  | date (t : Instant) : HasLiteral .date (.date t) t.text

theorem exists_hasLiteral {v : Value} (h : v.isCompound = false) :
    ∃ kind text, v.literal?.map Literal.text = some text ∧ HasLiteral kind v text := by
  cases v with
  | null => exact ⟨_, _, rfl, .null⟩
  | bool b => exact ⟨_, _, rfl, .bool b⟩
  | number n => exact ⟨_, _, rfl, .number n⟩
  | string s =>
    cases hs : isIsoDate s with
    | true => exact ⟨.date, s, by simp [literal?, hs, Literal.text], .bareString hs⟩
    | false => exact ⟨.quoted, Literal.quote s, by simp [literal?, hs, Literal.text], .quoted hs⟩
  | date t => exact ⟨_, _, rfl, .date t⟩
  | array items => cases h
  | object entries => cases h

theorem HasLiteral.ofText {kind : LiteralKind} {v : Value} {text : String}
    (h : HasLiteral kind v text) : LiteralKind.ofText text = kind := by
  cases h with
  | null => decide
  | bool b => cases b <;> decide
  | number n => exact LiteralKind.ofText_number n
  | quoted _ => exact LiteralKind.ofText_quote _
  | bareString hs => exact LiteralKind.ofText_isoDate hs
  | date t => exact LiteralKind.ofText_instant t

/-- The values that share their literal. An instant and a string share it if the string is the text of the
instant and taken for a date. -/
inductive SharesLiteral : Value → Value → Prop
  | null : SharesLiteral .null .null
  | bool (b : Bool) : SharesLiteral (.bool b) (.bool b)
  | number {m n : Number} : m.text = n.text → SharesLiteral (.number m) (.number n)
  | string (s : String) : SharesLiteral (.string s) (.string s)
  | date {t u : Instant} : t.SameMillisecond u → SharesLiteral (.date t) (.date u)
  | dateString {t : Instant} : isIsoDate t.text = true → SharesLiteral (.date t) (.string t.text)
  | stringDate {t : Instant} : isIsoDate t.text = true → SharesLiteral (.string t.text) (.date t)

theorem HasLiteral.sharesLiteral {kind : LiteralKind} {a b : Value} {text text' : String}
    (ha : HasLiteral kind a text) (hb : HasLiteral kind b text') (h : text = text') :
    SharesLiteral a b := by
  cases ha with
  | null =>
    cases hb
    exact .null
  | bool b =>
    cases hb with
    | bool c =>
      obtain rfl : b = c := by
        cases b <;> cases c
        · rfl
        · exact absurd h (by decide)
        · exact absurd h (by decide)
        · rfl
      exact .bool b
  | number m =>
    cases hb
    exact .number h
  | quoted _ =>
    cases hb
    rw [Literal.quote_inj h]
    exact .string _
  | bareString hs =>
    cases hb with
    | bareString _ =>
      rw [h]
      exact .string _
    | date u =>
      subst h
      exact .stringDate hs
  | date t =>
    cases hb with
    | bareString hs =>
      subst h
      exact .dateString hs
    | date u => exact .date (Instant.text_eq_iff.mp h)

theorem SharesLiteral.text_eq {a b : Value} (h : SharesLiteral a b) :
    a.literal?.map Literal.text = b.literal?.map Literal.text := by
  cases h with
  | null => rfl
  | bool b => rfl
  | number h => exact congrArg some h
  | string s => rfl
  | date h => exact congrArg some (Instant.text_eq_iff.mpr h)
  | dateString h => simp [literal?, h]
  | stringDate h => simp [literal?, h]

/-- Literals of different kinds are different texts: two values with the same literal are both null, equal
truth values, numbers with the same text, equal strings, instants in the same millisecond, or an instant
and the string of its text. -/
theorem literal_eq_iff_sharesLiteral {a b : Value} (ha : a.isCompound = false)
    (hb : b.isCompound = false) :
    a.literal?.map Literal.text = b.literal?.map Literal.text ↔ SharesLiteral a b := by
  refine ⟨fun h => ?_, SharesLiteral.text_eq⟩
  obtain ⟨kind, text, hatext, ha⟩ := exists_hasLiteral ha
  obtain ⟨kind', text', hbtext, hb⟩ := exists_hasLiteral hb
  have htext : text = text' := by
    rw [hatext, hbtext] at h
    exact Option.some.inj h
  have hkind : kind = kind' := by rw [← ha.ofText, htext, hb.ofText]
  subst hkind
  exact ha.sharesLiteral hb htext

theorem literal_eq_iff_sharesLiteral_leap_day :
    let t : Instant := ⟨1709251199, 999999999, by decide, by decide⟩
    let s := "2024-02-29T23:59:59.999Z"
    ((Value.date t).isCompound = false ∧ (Value.string s).isCompound = false) ∧
      (Value.date t).literal?.map Literal.text = (Value.string s).literal?.map Literal.text ∧
      SharesLiteral (.date t) (.string s) := by
  intro t s
  have htext : (Value.date t).literal?.map Literal.text = (Value.string s).literal?.map Literal.text := by
    decide +kernel
  exact ⟨⟨rfl, rfl⟩, htext, (literal_eq_iff_sharesLiteral rfl rfl).mp htext⟩

end Value

end SoqlSelect
