import SoqlSelect.Literal

/-!
# Reading string literals

A scanner takes a string literal from the front of a text: a backslash takes the next character with
it, and the first quote that is not taken in this way ends the literal. The main statement says that
the scanner stops exactly where a quoted string stops, whatever the string holds and whatever follows,
and that undoing the escapes gives the string back.
-/

namespace SoqlSelect.Literal

/-! ### Scanner -/

/-- Where a scanner stands: outside of all string literals, inside one, or behind a backslash that
takes the next character with it. -/
inductive Mode
  | outside
  | inside
  | escaped
deriving DecidableEq

def Mode.next : Mode → Char → Mode
  | .outside, c => if c = '\x27' then .inside else .outside
  | .inside, c => if c = '\x27' then .outside else if c = '\\' then .escaped else .inside
  | .escaped, _ => .inside

/-- The characters up to and with the first that brings the scanner outside, and the rest. -/
def scanBody? (mode : Mode) : List Char → Option (List Char × List Char)
  | [] => none
  | c :: cs =>
    if mode.next c = .outside then some ([c], cs)
    else (scanBody? (mode.next c) cs).map fun (body, rest) => (c :: body, rest)

/-- The string literal at the front of a text, and the rest. -/
def scan? : List Char → Option (List Char × List Char)
  | [] => none
  | c :: cs =>
    if c = '\x27' then (scanBody? .inside cs).map fun (body, rest) => (c :: body, rest) else none

/-- What stands between the quotes of a literal. -/
def inner (literal : List Char) : List Char :=
  (literal.drop 1).dropLast

/-- Undoes the escapes of a backslash and of a quote. Every other escape stays as it is written. -/
def unescape : List Char → List Char
  | [] => []
  | '\\' :: '\\' :: cs => '\\' :: unescape cs
  | '\\' :: '\x27' :: cs => '\x27' :: unescape cs
  | '\\' :: c :: cs => '\\' :: c :: unescape cs
  | c :: cs => c :: unescape cs

/-! ### Rules of escaping -/

/-- The ways in which a string and its escaped form go together, one step at a time. -/
inductive Escaping : List Char → List Char → Prop
  | nil : Escaping [] []
  | plain {c : Char} {cs es : List Char} :
      c ≠ '\\' → c ≠ '\x27' → Escaping cs es → Escaping (c :: cs) (c :: es)
  | quote {cs es : List Char} : Escaping cs es → Escaping ('\x27' :: cs) ('\\' :: '\x27' :: es)
  | backslash {cs es : List Char} : Escaping cs es → Escaping ('\\' :: cs) ('\\' :: '\\' :: es)
  | wildcard {d : Char} {cs es : List Char} :
      d = '%' ∨ d = '_' → Escaping cs es → Escaping ('\\' :: d :: cs) ('\\' :: d :: es)

theorem escape_cons_plain {c : Char} (cs : List Char) (hb : c ≠ '\\') (hq : c ≠ '\x27') :
    escape (c :: cs) = c :: escape cs := by
  simp only [escape, escapeChar, if_neg hb, if_neg hq, List.singleton_append]

theorem escape_cons_wildcard {d : Char} (cs : List Char) (hd : d = '%' ∨ d = '_') :
    escape ('\\' :: d :: cs) = '\\' :: d :: escape cs := by
  have hb : d ≠ '\\' := by rcases hd with rfl | rfl <;> decide
  have hq : d ≠ '\x27' := by rcases hd with rfl | rfl <;> decide
  have he : escapeChar '\\' (d :: cs).head? = ['\\'] := by simp [escapeChar, hd]
  rw [escape, escape_cons_plain cs hb hq, he, List.singleton_append]

theorem escape_cons_backslash (cs : List Char) (h : ¬(cs.head? = some '%' ∨ cs.head? = some '_')) :
    escape ('\\' :: cs) = '\\' :: '\\' :: escape cs := by
  simp only [escape, escapeChar, if_true, if_neg h, List.cons_append, List.nil_append]

theorem escaping_escape (cs : List Char) : Escaping cs (escape cs) := by
  -- The step over an escaped wildcard takes two characters, so the tail is carried along.
  suffices h : Escaping cs (escape cs) ∧ Escaping cs.tail (escape cs.tail) from h.1
  induction cs with
  | nil => exact ⟨.nil, .nil⟩
  | cons c cs ih =>
    refine ⟨?_, ih.1⟩
    by_cases hb : c = '\\'
    · subst hb
      by_cases hn : cs.head? = some '%' ∨ cs.head? = some '_'
      · cases cs with
        | nil => simp at hn
        | cons d ds =>
          have hd : d = '%' ∨ d = '_' := by simpa using hn
          rw [escape_cons_wildcard ds hd]
          exact .wildcard hd ih.2
      · rw [escape_cons_backslash cs hn]
        exact .backslash ih.1
    · by_cases hq : c = '\x27'
      · subst hq
        exact .quote ih.1
      · rw [escape_cons_plain cs hb hq]
        exact .plain hb hq ih.1

/-! ### The end of a literal -/

/-- The scanner stands in a literal, and comes out of it with the last of the characters. -/
inductive Closes : Mode → List Char → Prop
  | last {mode : Mode} {c : Char} : mode ≠ .outside → mode.next c = .outside → Closes mode [c]
  | more {mode : Mode} {c : Char} {cs : List Char} :
      mode ≠ .outside → mode.next c ≠ .outside → Closes (mode.next c) cs → Closes mode (c :: cs)

/- Every scanner of literals passes an escaped string and its quote in the same way, so that what the
others make of a literal is an induction on this. -/
theorem closes_of_escaping {cs es : List Char} (h : Escaping cs es) :
    Closes .inside (es ++ ['\x27']) := by
  have hescape {c : Char} {ds : List Char} (hds : Closes .inside ds) : Closes .inside ('\\' :: c :: ds) :=
    .more (by decide) (by decide) (.more (by decide) (by simp [Mode.next]) hds)
  induction h with
  | nil => exact .last (by decide) rfl
  | @plain c _ _ hb hq _ ih =>
    have hnext : Mode.next .inside c = .inside := by rw [Mode.next, if_neg hq, if_neg hb]
    refine .more (by decide) ?_ ?_
    · rw [hnext]
      decide
    · rw [hnext]
      exact ih
  | quote _ ih => exact hescape ih
  | backslash _ ih => exact hescape ih
  | wildcard _ _ ih => exact hescape ih

theorem Closes.scanBody? {mode : Mode} {cs : List Char} (h : Closes mode cs) (rest : List Char) :
    scanBody? mode (cs ++ rest) = some (cs, rest) := by
  induction h with
  | last _ hnext => simp [Literal.scanBody?, hnext]
  | more _ hnext _ ih => simp [Literal.scanBody?, hnext, ih]

/-! ### Reading back -/

theorem unescape_of_escaping {cs es : List Char} (h : Escaping cs es) : unescape es = cs := by
  induction h with
  | nil => rfl
  | plain hb _ _ ih => simp [unescape, hb, ih]
  | quote _ ih => simp [unescape, ih]
  | backslash _ ih => simp [unescape, ih]
  | wildcard hd _ ih => rcases hd with rfl | rfl <;> simp [unescape, ih]

@[simp] theorem toList_quote (s : String) :
    (quote s).toList = '\x27' :: escape s.toList ++ ['\x27'] := by
  simp [quote]

theorem length_le_of_escaping {cs es : List Char} (h : Escaping cs es) : cs.length ≤ es.length := by
  induction h with
  | nil => exact Nat.le_refl _
  | plain _ _ _ ih => exact Nat.succ_le_succ ih
  | quote _ ih => exact Nat.le_succ_of_le (Nat.succ_le_succ ih)
  | backslash _ ih => exact Nat.le_succ_of_le (Nat.succ_le_succ ih)
  | wildcard _ _ ih => exact Nat.succ_le_succ (Nat.succ_le_succ ih)

theorem quote_ne_self (s : String) : quote s ≠ s := by
  intro h
  have hlength := congrArg (fun s : String => s.toList.length) h
  have hle := length_le_of_escaping (escaping_escape s.toList)
  simp only [toList_quote, List.length_append, List.length_cons, List.length_nil] at hlength
  omega

/-- A string literal is a quote and a text that closes the literal. -/
theorem exists_closes_quote (s : String) :
    ∃ cs, (quote s).toList = '\x27' :: cs ∧ Closes .inside cs :=
  ⟨_, toList_quote s, closes_of_escaping (escaping_escape s.toList)⟩

theorem scan?_quote (s : String) (rest : List Char) :
    scan? ((quote s).toList ++ rest) = some ((quote s).toList, rest) := by
  obtain ⟨cs, hquote, hcloses⟩ := exists_closes_quote s
  simp [hquote, scan?, hcloses.scanBody? rest]

@[simp] theorem unescape_inner_quote (s : String) : unescape (inner (quote s).toList) = s.toList := by
  have h := unescape_of_escaping (escaping_escape s.toList)
  simp [inner, h]

theorem quote_inj {s t : String} (h : quote s = quote t) : s = t := by
  rw [← String.toList_inj, ← unescape_inner_quote s, h, unescape_inner_quote t]

/-- A string literal ends where its string ends, and its content can be read off it: so no two strings
have the same literal. -/
theorem quote_reads_back :
    (∀ (s : String) (rest : List Char),
      scan? ((quote s).toList ++ rest) = some ((quote s).toList, rest) ∧
        String.ofList (unescape (inner (quote s).toList)) = s) ∧
      ∀ s t : String, quote s = quote t → s = t := by
  have content (s : String) : String.ofList (unescape (inner (quote s).toList)) = s := by
    rw [unescape_inner_quote, String.ofList_toList]
  refine ⟨fun s rest => ⟨scan?_quote s rest, content s⟩, ?_⟩
  intro s t h
  rw [← content s, h, content t]

end SoqlSelect.Literal

namespace SoqlSelect.Value

/-- A string is its own literal exactly if it is taken for a date. -/
theorem text_literal?_string (s : String) :
    (Value.string s).literal?.map Literal.text = some s ↔ isIsoDate s = true := by
  by_cases h : isIsoDate s = true
  · simp [literal?, h, Literal.text]
  · simp [literal?, h, Literal.text, Literal.quote_ne_self s]

end SoqlSelect.Value
