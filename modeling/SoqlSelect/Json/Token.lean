import SoqlSelect.Number.Basic
import SoqlSelect.Text.Characters

/-!
# Tokens of JSON text

A token is a mark of punctuation, a name for a constant, a number or a string. A number is kept as it is
spelled, and a string as the characters that it stands for, because a text that is passed over is held
to its form only.
-/

namespace SoqlSelect.Json

/-- A string whose escapes are in form, but do not make up characters, has no content. -/
inductive Token
  | beginArray
  | endArray
  | beginObject
  | endObject
  | comma
  | colon
  | null
  | bool (b : Bool)
  | number (l : NumberLiteral)
  | string (content : Option String)
deriving DecidableEq

namespace Token

/-! ### Strings -/

/-- A piece of a string: a character, or a code unit of sixteen bits given by an escape. -/
inductive Piece
  | char (c : Char)
  | unit (n : Nat)
deriving DecidableEq

/-- The character that an escape of one letter stands for. -/
def escape? : Char → Option Char
  | '\"' => some '\"'
  | '\\' => some '\\'
  | '/' => some '/'
  | 'b' => some '\x08'
  | 'f' => some '\x0c'
  | 'n' => some '\n'
  | 'r' => some '\r'
  | 't' => some '\t'
  | _ => none

/-- The pieces up to the closing quote, and what follows it. -/
def scanString : List Char → Option (List Piece × List Char)
  | [] => none
  | '\"' :: rest => some ([], rest)
  | '\\' :: 'u' :: a :: b :: c :: d :: rest => do
    let n ← Text.hexNumber? [a, b, c, d]
    let (pieces, after) ← scanString rest
    return (.unit n :: pieces, after)
  | '\\' :: e :: rest => do
    let c ← escape? e
    let (pieces, after) ← scanString rest
    return (.char c :: pieces, after)
  | c :: rest =>
    if c.toNat < 0x20 ∨ c = '\\' then none
    else do
      let (pieces, after) ← scanString rest
      return (.char c :: pieces, after)

theorem length_scanString {cs after : List Char} {pieces : List Piece}
    (h : scanString cs = some (pieces, after)) : after.length < cs.length := by
  fun_induction scanString cs generalizing pieces after with
  | case1 => cases h
  | case2 rest =>
    cases h
    simp
  | case3 a b c d rest ih =>
    simp only [Option.bind_eq_bind, Option.bind_eq_some_iff, Option.pure_def,
      Option.some.injEq, Prod.mk.injEq] at h
    obtain ⟨_, _, ⟨pieces', after'⟩, hr, _, rfl⟩ := h
    have := ih hr
    simp only [List.length_cons]
    omega
  | case4 e rest _ ih =>
    simp only [Option.bind_eq_bind, Option.bind_eq_some_iff, Option.pure_def,
      Option.some.injEq, Prod.mk.injEq] at h
    obtain ⟨_, _, ⟨pieces', after'⟩, hr, _, rfl⟩ := h
    have := ih hr
    simp only [List.length_cons]
    omega
  | case5 => cases h
  | case6 c rest _ _ _ _ ih =>
    simp only [Option.bind_eq_bind, Option.bind_eq_some_iff, Option.pure_def,
      Option.some.injEq, Prod.mk.injEq] at h
    obtain ⟨⟨pieces', after'⟩, hr, _, rfl⟩ := h
    have := ih hr
    simp only [List.length_cons]
    omega

def isHighSurrogate (n : Nat) : Bool := 0xD800 ≤ n && n ≤ 0xDBFF

def isLowSurrogate (n : Nat) : Bool := 0xDC00 ≤ n && n ≤ 0xDFFF

/-- The characters that the pieces make up. Two surrogates in a row are one character, and a surrogate
on its own is none. -/
def characters? : List Piece → Option (List Char)
  | [] => some []
  | .char c :: rest => (characters? rest).map (c :: ·)
  | .unit high :: .unit low :: rest =>
    if isHighSurrogate high && isLowSurrogate low then
      (characters? rest).map (Char.ofNat (0x10000 + (high - 0xD800) * 0x400 + (low - 0xDC00)) :: ·)
    else if isHighSurrogate high || isLowSurrogate high then none
    else (characters? (.unit low :: rest)).map (Char.ofNat high :: ·)
  | .unit n :: rest =>
    if isHighSurrogate n || isLowSurrogate n then none
    else (characters? rest).map (Char.ofNat n :: ·)

/-! ### Words -/

/-- The characters that numbers and the names of constants are made of. -/
def isWordChar (c : Char) : Bool :=
  c.isAlphanum || c == '+' || c == '-' || c == '.'

/-- An exponent such as `e5` or `E-05`, up to the end of the word. -/
def exponent? : List Char → Option Int
  | e :: rest => do
    guard (e == 'e' || e == 'E')
    let (negative, digits) := match rest with
      | '-' :: ds => (true, ds)
      | '+' :: ds => (false, ds)
      | ds => (false, ds)
    guard (!digits.isEmpty && digits.all Char.isDigit)
    let n : Int := digitsValue digits
    return if negative then -n else n
  | [] => none

/-- The number that a word spells. -/
def number? (word : List Char) : Option NumberLiteral := do
  let (negative, word) := match word with
    | '-' :: rest => (true, rest)
    | _ => (false, word)
  let whole := word.takeWhile Char.isDigit
  guard (!whole.isEmpty && (whole.length == 1 || whole.head? != some '0'))
  let (fraction, rest) := match word.dropWhile Char.isDigit with
    | '.' :: rest => (some (rest.takeWhile Char.isDigit), rest.dropWhile Char.isDigit)
    | rest => (none, rest)
  guard (fraction != some [])
  let exponent ← if rest.isEmpty then pure none else (exponent? rest).map some
  return { negative, whole, fraction, exponent }

/-- The token that a word stands for. -/
def ofWord? (word : List Char) : Option Token :=
  if word == ['n', 'u', 'l', 'l'] then some .null
  else if word == ['t', 'r', 'u', 'e'] then some (.bool true)
  else if word == ['f', 'a', 'l', 's', 'e'] then some (.bool false)
  else (number? word).map .number

/-! ### Text -/

def punctuation? : Char → Option Token
  | '[' => some .beginArray
  | ']' => some .endArray
  | '\x7b' => some .beginObject
  | '\x7d' => some .endObject
  | ',' => some .comma
  | ':' => some .colon
  | _ => none

/-- The blanks that may stand between tokens. -/
def isSeparator (c : Char) : Bool :=
  c == ' ' || c == '\t' || c == '\n' || c == '\r'

theorem length_dropWhile_le (p : Char → Bool) (cs : List Char) :
    (cs.dropWhile p).length ≤ cs.length := by
  induction cs with
  | nil => simp
  | cons c rest ih =>
    rw [List.dropWhile_cons]
    split
    · simp only [List.length_cons]
      omega
    · exact Nat.le_refl _

/-- The tokens of a text. -/
def scan? (cs : List Char) : Option (List Token) :=
  match cs with
  | [] => some []
  | c :: rest =>
    if isSeparator c then scan? rest
    else match punctuation? c with
      | some token => (scan? rest).map (token :: ·)
      | none =>
        if c == '\"' then
          match h : scanString rest with
          | none => none
          | some (pieces, after) =>
            have := length_scanString h
            (scan? after).map (.string ((characters? pieces).map String.ofList) :: ·)
        else
          have := length_dropWhile_le isWordChar rest
          (ofWord? (c :: rest.takeWhile isWordChar)).bind fun token =>
            (scan? (rest.dropWhile isWordChar)).map (token :: ·)
termination_by cs.length

end Token

end SoqlSelect.Json
