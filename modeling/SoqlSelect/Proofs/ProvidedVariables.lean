import SoqlSelect.Dotenv
import SoqlSelect.Proofs.Failure
import SoqlSelect.Proofs.Members

/-!
# Provided variables

A file of variables is read line by line, each under what the lines before have provided. The statements
say what a variable is after a file has been applied, and that no variable is given a NUL character if
there is none in the file and none in the environment.
-/

namespace SoqlSelect

namespace Environment

theorem get?_set_ne (env : Environment) {name other : String} (h : name ≠ other) (text : String) :
    (env.set name text).get? other = env.get? other := by
  have hne : (name == other) = false := by simpa using h
  simp [get?, set, hne]

/-- A variable that can be read stays as it is. -/
theorem get?_provide (env : Environment) (name text other : String) :
    (env.provide name text).get? other =
      (env.get? other).or (if name = other then some text else none) := by
  unfold provide
  split
  · rename_i hsome
    split
    · rename_i heq
      obtain ⟨old, hold⟩ := Option.isSome_iff_exists.mp hsome
      rw [← heq, hold, Option.some_or]
    · rw [Option.or_none]
  · rename_i hnone
    split
    · rename_i heq
      rw [← heq, get?_set_self, Option.not_isSome_iff_eq_none.mp hnone, Option.none_or]
    · rename_i hne
      rw [get?_set_ne env hne, Option.or_none]

/-- After all assignments a variable has the text that it had, or else that of its first assignment. -/
theorem get?_provideAll (env : Environment) (assignments : List (String × String)) (name : String) :
    (env.provideAll assignments).get? name = (env.get? name).or (Members.get? name assignments) := by
  induction assignments generalizing env with
  | nil => exact (Option.or_none).symm
  | cons first others ih =>
    have hstep : env.provideAll (first :: others) = (env.provide first.1 first.2).provideAll others := rfl
    rw [hstep, ih, get?_provide, Members.get?_cons, Option.or_assoc]
    split <;> rfl

/-- No variable that can be read has a NUL character. -/
def NulFree (env : Environment) : Prop :=
  ∀ name text, env.get? name = some text → '\x00' ∉ text.toList

theorem NulFree.provideAll {env : Environment} (h : env.NulFree) {assignments : List (String × String)}
    (ha : ∀ a ∈ assignments, '\x00' ∉ a.2.toList) : (env.provideAll assignments).NulFree := by
  intro name text htext
  rw [get?_provideAll] at htext
  rcases Option.or_eq_some_iff.mp htext with hold | ⟨-, hnew⟩
  · exact h name text hold
  · exact ha _ (Members.mem_of_get? hnew)

end Environment

namespace Dotenv

/-! ### Values -/

theorem nul_not_mem_substitute {env : Environment} (henv : env.NulFree) (name : List Char) :
    '\x00' ∉ substitute env name := by
  unfold substitute
  cases hget : env.get? (String.ofList name) with
  | none => simp
  | some text => exact henv _ text hget

theorem escape?_ne_nul {c e : Char} (h : escape? c = some e) : e ≠ '\x00' := by
  rintro rfl
  unfold escape? at h
  split at h
  · rename_i hc
    rw [Option.some.inj h] at hc
    exact absurd hc (by decide)
  split at h
  · exact absurd h (by decide)
  · cases h

/-- What a character can add to a value: nothing, itself, what its escape stands for, or the text of the
name that ends with it. -/
inductive Adds (env : Environment) (c : Char) : List Char → Prop
  | nothing : Adds env c []
  | itself : Adds env c [c]
  | escape {e : Char} : escape? c = some e → Adds env c [e]
  | name (chars : List Char) : Adds env c (substitute env chars)
  | nameAndItself (chars : List Char) : Adds env c (substitute env chars ++ [c])

theorem value?_nil {env : Environment} {mode : Mode} {out : List Char}
    (h : value? env mode [] = some out) : out = [] ∨ ∃ chars, out = substitute env chars := by
  cases mode with
  | text quoted =>
    cases quoted with
    | true => cases h
    | false => exact .inl (Option.some.inj h).symm
  | escaped quoted =>
    cases quoted with
    | true => cases h
    | false => exact .inl (Option.some.inj h).symm
  | verbatim => cases h
  | name quoted chars =>
    cases quoted with
    | true => cases h
    | false => exact .inr ⟨chars, (Option.some.inj h).symm⟩
  | braced quoted chars => cases h
  | ended => exact .inl (Option.some.inj h).symm

/-- The value is what its first character adds, and then what is read behind it, if anything is. -/
inductive Continued (env : Environment) (c : Char) (cs : List Char) : List Char → Prop
  | last {front : List Char} : Adds env c front → Continued env c cs front
  | more {mode : Mode} {front rest : List Char} :
      Adds env c front → value? env mode cs = some rest → Continued env c cs (front ++ rest)

theorem Continued.of_map {env : Environment} {c : Char} {mode : Mode} {cs front out : List Char}
    (hfront : Adds env c front) (h : (value? env mode cs).map (front ++ ·) = some out) :
    Continued env c cs out := by
  obtain ⟨rest, hrest, rfl⟩ := Option.map_eq_some_iff.mp h
  exact .more hfront hrest

theorem value?_cons {env : Environment} {mode : Mode} {c : Char} {cs out : List Char}
    (h : value? env mode (c :: cs) = some out) : Continued env c cs out := by
  cases mode with
  | text quoted =>
    rw [value?] at h
    split at h
    · exact .more .nothing h
    split at h
    · exact .more .nothing h
    split at h
    · exact .more .nothing h
    split at h
    · exact .of_map .itself h
    split at h
    · exact .more .nothing h
    split at h
    · exact .more .nothing h
    · exact .of_map .itself h
  | escaped quoted =>
    obtain ⟨e, he, h⟩ := Option.bind_eq_some_iff.mp h
    exact .of_map (.escape he) h
  | verbatim =>
    rw [value?] at h
    split at h
    · exact .more .nothing h
    · exact .of_map .itself h
  | name quoted chars =>
    rw [value?] at h
    split at h
    · exact .more .nothing h
    split at h
    · exact .more .nothing h
    split at h
    · exact .of_map (.name chars) h
    · obtain ⟨rest, hrest, rfl⟩ := Option.map_eq_some_iff.mp h
      simpa using Continued.more (.nameAndItself chars) hrest
  | braced quoted chars =>
    rw [value?] at h
    split at h
    · exact .of_map (.name chars) h
    · exact .more .nothing h
  | ended =>
    rw [value?] at h
    split at h
    · exact .more .nothing h
    split at h
    · rw [← Option.some.inj h]
      exact .last .nothing
    · cases h

theorem Adds.nul_not_mem {env : Environment} {c : Char} {front : List Char} (h : Adds env c front)
    (henv : env.NulFree) (hc : '\x00' ≠ c) : '\x00' ∉ front := by
  cases h with
  | nothing => exact List.not_mem_nil
  | itself => simpa using hc
  | escape he => simpa using (escape?_ne_nul he).symm
  | name chars => exact nul_not_mem_substitute henv chars
  | nameAndItself chars =>
    rw [List.mem_append, not_or]
    exact ⟨nul_not_mem_substitute henv chars, by simpa using hc⟩

theorem nul_not_mem_value? {env : Environment} (henv : env.NulFree) {mode : Mode} {cs out : List Char}
    (hcs : '\x00' ∉ cs) (h : value? env mode cs = some out) : '\x00' ∉ out := by
  induction cs generalizing mode out with
  | nil =>
    rcases value?_nil h with rfl | ⟨chars, rfl⟩
    · exact List.not_mem_nil
    · exact nul_not_mem_substitute henv chars
  | cons c cs ih =>
    obtain ⟨hc, hcs⟩ := List.ne_and_not_mem_of_not_mem_cons hcs
    cases value?_cons h with
    | last hfront => exact hfront.nul_not_mem henv hc
    | more hfront hrest =>
      rw [List.mem_append, not_or]
      exact ⟨hfront.nul_not_mem henv hc, ih hcs hrest⟩

/-! ### Assignments -/

theorem isSuffix_trimStart (cs : List Char) : Text.trimStart cs <:+ cs :=
  List.dropWhile_suffix _

theorem isSuffix_of_key? {cs rest : List Char} {key : String} (h : key? cs = some (key, rest)) :
    rest <:+ cs := by
  simp only [key?] at h
  split at h
  · obtain ⟨-, rfl⟩ := Prod.mk.inj (Option.some.inj h)
    exact (isSuffix_trimStart _).trans (List.dropWhile_suffix _)
  · cases h

theorem isSuffix_of_target? {cs rest : List Char} {key : String} (h : target? cs = some (key, rest)) :
    rest <:+ cs := by
  unfold target? at h
  obtain ⟨⟨first, cs₁⟩, hfirst, h₁⟩ := Option.bind_eq_some_iff.mp h
  refine List.IsSuffix.trans ?_ (isSuffix_of_key? hfirst)
  dsimp only at h₁
  split at h₁
  · obtain ⟨-, rfl⟩ := Prod.mk.inj (Option.some.inj h₁)
    exact List.suffix_cons _ _
  · obtain ⟨-, -, h₂⟩ := Option.bind_eq_some_iff.mp h₁
    obtain ⟨⟨second, cs₂⟩, hsecond, h₃⟩ := Option.bind_eq_some_iff.mp h₂
    refine List.IsSuffix.trans ?_ (isSuffix_of_key? hsecond)
    split at h₃
    · rename_i heq
      obtain ⟨rfl, rfl⟩ := Prod.mk.inj heq
      obtain ⟨-, rfl⟩ := Prod.mk.inj (Option.some.inj h₃)
      exact List.suffix_cons _ _
    · cases h₃

theorem nul_not_mem_lineAssignments? {env : Environment} (henv : env.NulFree) {line : List Char}
    (hline : '\x00' ∉ line) {made : List (String × String)}
    (h : lineAssignments? env line = some made) : ∀ a ∈ made, '\x00' ∉ a.2.toList := by
  have htrim : '\x00' ∉ Text.trimStart (Text.trimEnd line) := by
    intro hmem
    have hrev := (List.dropWhile_suffix _).mem (List.mem_reverse.mp ((isSuffix_trimStart _).mem hmem))
    exact hline (List.mem_reverse.mp hrev)
  simp only [lineAssignments?] at h
  split at h
  · cases h
    simp
  · obtain ⟨⟨key, rest⟩, htarget, h₁⟩ := Option.bind_eq_some_iff.mp h
    have hrest : '\x00' ∉ Text.trimStart rest := fun hmem =>
      htrim ((isSuffix_of_target? htarget).mem ((isSuffix_trimStart _).mem hmem))
    dsimp only at h₁
    split at h₁
    · cases h₁
      simp
    · obtain ⟨value, hvalue, h₂⟩ := Option.bind_eq_some_iff.mp h₁
      cases h₂
      simpa using nul_not_mem_value? henv hrest hvalue

/-- A variable is given only what it can hold, if there is no NUL character anywhere. -/
theorem assignments_ne_unsettable {env : Environment} (henv : env.NulFree)
    {lines : List (Option (List Char))} (hlines : ∀ line, some line ∈ lines → '\x00' ∉ line) :
    assignments env lines ≠ .error .unsettable := by
  induction lines generalizing env with
  | nil => simp [assignments]
  | cons line lines ih =>
    unfold assignments
    cases hfirst : line.bind (lineAssignments? env) with
    | none => simp
    | some first =>
      obtain ⟨cs, rfl, hcs⟩ := Option.bind_eq_some_iff.mp hfirst
      have hfree := nul_not_mem_lineAssignments? henv (hlines cs (by simp)) hcs
      have hrest := ih (henv.provideAll hfree) fun line hmem => hlines line (by simp [hmem])
      have haccepts : (first.all fun a => env.accepts a.1 a.2) = true := by
        refine List.all_eq_true.mpr fun a ha => ?_
        simp [Environment.accepts, hfree a ha]
      simp only [haccepts, if_true]
      intro herror
      rcases bind_eq_error.mp herror with hothers | ⟨others, -, hok⟩
      · exact hrest hothers
      · cases hok

/-! ### Lines -/

theorem flatten_physicalLines (bytes : List UInt8) : (physicalLines bytes).flatten = bytes := by
  fun_induction physicalLines bytes <;> simp_all

theorem isPrefix_scanLine (s : Scan) (cs : List Char) : (scanLine s cs).1 <+: cs := by
  induction cs generalizing s with
  | nil => exact List.prefix_refl _
  | cons c cs ih =>
    unfold scanLine
    split
    · exact List.nil_prefix
    · exact List.cons_prefix_cons.mpr ⟨rfl, ih _⟩

theorem isPrefix_withoutNewline (line : List Char) : withoutNewline line <+: line := by
  unfold withoutNewline
  split
  · rename_i rest hline
    rw [← List.reverse_reverse line, hline]
    simp
  · rename_i rest _ hline
    rw [← List.reverse_reverse line, hline]
    simp
  · exact List.prefix_refl _

/- A NUL character is written as a zero byte. -/
theorem zero_mem_of_lineText? {bytes : List UInt8} {line : List Char} (h : lineText? bytes = some line)
    (hnul : '\x00' ∈ line) : 0 ∈ bytes := by
  obtain ⟨text, htext, rfl⟩ := Option.map_eq_some_iff.mp h
  have hencoded : text.toList.utf8Encode = ⟨bytes.toArray⟩ := by
    rw [String.utf8Encode_toList]
    unfold String.fromUTF8? at htext
    split at htext
    · rw [← Option.some.inj htext]
      rfl
    · cases htext
  have hbytes : text.toList.flatMap String.utf8EncodeChar = bytes := by
    have hdata := congrArg ByteArray.data hencoded
    rw [List.utf8Encode, List.data_toByteArray] at hdata
    exact List.toArray_inj hdata
  rw [← hbytes]
  exact List.mem_flatMap.mpr ⟨'\x00', hnul, by decide⟩

theorem nul_not_mem_joinLines {begun : List Char} {s : Scan} {lines : List (List UInt8)}
    (hbegun : '\x00' ∉ begun) (hlines : ∀ bytes ∈ lines, 0 ∉ bytes) :
    ∀ line, some line ∈ joinLines begun s lines → '\x00' ∉ line := by
  induction lines generalizing begun s with
  | nil =>
    intro line hline
    unfold joinLines at hline
    split at hline <;> simp at hline
  | cons bytes lines ih =>
    have hrest : ∀ bytes ∈ lines, 0 ∉ bytes := fun bytes hmem => hlines bytes (by simp [hmem])
    have hnext : ∀ line, some line ∈ joinLines [] .complete lines → '\x00' ∉ line :=
      ih (by simp) hrest
    unfold joinLines
    cases htext : lineText? bytes with
    | none => simp
    | some text =>
      have hnul : '\x00' ∉ text := fun hmem => hlines bytes (by simp) (zero_mem_of_lineText? htext hmem)
      have hjoined : '\x00' ∉ begun ++ text := by simp [hbegun, hnul]
      dsimp only
      split
      · exact hnext
      · split
        · rename_i kept hscan
          have hkept : kept <+: text := by simpa [hscan] using isPrefix_scanLine s text
          intro line hline
          rcases List.mem_cons.mp hline with heq | hmem
          · rw [Option.some.inj heq]
            exact fun hmem => hjoined (((List.prefix_append_right_inj begun).mpr hkept).mem hmem)
          · exact hnext line hmem
        · intro line hline
          rcases List.mem_cons.mp hline with heq | hmem
          · rw [Option.some.inj heq]
            exact fun hmem => hjoined ((isPrefix_withoutNewline _).mem hmem)
          · exact hnext line hmem
        · exact ih hjoined hrest

theorem isSuffix_withoutMark (bytes : List UInt8) : withoutMark bytes <:+ bytes := by
  unfold withoutMark
  split
  · exact ⟨[0xEF, 0xBB, 0xBF], rfl⟩
  · exact List.suffix_refl _

/-- Without a zero byte in the file, no variable is given what it cannot hold. -/
theorem parse_ne_unsettable {env : Environment} (henv : env.NulFree) {content : ByteArray}
    (hzero : 0 ∉ content.data.toList) : parse env content ≠ .error .unsettable := by
  refine assignments_ne_unsettable henv (nul_not_mem_joinLines (by simp) ?_)
  intro bytes hbytes hmem
  have hall : 0 ∈ withoutMark content.data.toList := by
    rw [← flatten_physicalLines (withoutMark content.data.toList)]
    exact List.mem_flatten.mpr ⟨bytes, hbytes, hmem⟩
  exact hzero ((isSuffix_withoutMark _).mem hall)

end Dotenv

end SoqlSelect
