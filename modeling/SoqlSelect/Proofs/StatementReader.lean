import SoqlSelect.Proofs.FilterReading
import SoqlSelect.Statement

/-!
# Reading statements

A reader takes the text of a selection apart into its clauses: the fields, the object, the text of the
filter, the field to sort by, the limit and the offset. It passes over the filter by its parentheses,
without those in string literals. The main statement says that the clauses of a statement with API
names are read as the statement gives them, so that nothing in an operand can pass for a clause.
-/

namespace SoqlSelect

open Text Text.Reader

structure Clauses where
  fields : List String
  object : String
  filter : Option String
  sort : Option String
  limit : Option Nat
  offset : Option Nat
deriving DecidableEq

/-! ### Readers -/

def optionally {α : Type} (r : Reader α) : Reader (Option α) :=
  (r >>= fun a => pure (some a)) <|> pure none

def filterReader : Reader String := do
  string " WHERE ("
  let group ← closing? 0 .outside
  return "WHERE (" ++ String.ofList group

def sortReader : Reader String := do
  string " ORDER BY "
  let field ← nameReader
  string " ASC"
  return field

def numberReader : Reader Nat := do
  let digits ← takeWhile1 Char.isDigit
  return digitsValue digits

def clausesReader : Reader Clauses := do
  string "SELECT "
  let fields ← sepBy1 nameReader (string ",")
  string " FROM "
  let object ← nameReader
  let filter ← optionally filterReader
  let sort ← optionally sortReader
  let limit ← optionally (string " LIMIT " *> numberReader)
  let offset ← optionally (string " OFFSET " *> numberReader)
  return { fields, object, filter, sort, limit, offset }

def Clauses.ofText? (text : String) : Option Clauses :=
  run? clausesReader text.toList

/-! ### Clauses that may be missing -/

/- The text of a clause that may be missing. -/
def clauseText {α : Type} (text : α → List Char) (clause : Option α) : List Char :=
  clause.elim [] text

theorem takes_optionally {α : Type} {r : Reader α} {text : α → List Char} {clause : Option α}
    {rest : List Char} (hsome : ∀ a ∈ clause, Takes r (text a) a rest)
    (hnone : clause = none → r rest = none) :
    Takes (optionally r) (clauseText text clause) clause rest := by
  cases clause with
  | some a => exact ((hsome a rfl).bind_pure some).orElse _
  | none => exact (takes_pure none rest).orElse_of_none (bind_eq_none _ (hnone rfl))

/- Such a text ends every name and number before it. -/
def LeadsBlank (cs : List Char) : Prop := ∀ c ∈ cs.head?, c = ' '

theorem leadsBlank_nil : LeadsBlank [] := by
  intro c hc
  cases hc

theorem LeadsBlank.clauseText_append {α : Type} {text : α → List Char} {more : List Char}
    (hmore : LeadsBlank more) (htext : ∀ a, (text a).head? = some ' ') (clause : Option α) :
    LeadsBlank (clauseText text clause ++ more) := by
  cases clause with
  | none => exact hmore
  | some a =>
    intro c hc
    show c = ' '
    rw [clauseText, Option.elim, List.head?_append, htext] at hc
    exact (Option.some.inj hc).symm

theorem LeadsBlank.not_head {p : Char → Bool} {cs : List Char} (h : LeadsBlank cs)
    (hp : p ' ' = false) : ∀ c ∈ cs.head?, p c = false := by
  intro c hc
  rw [h c hc]
  exact hp

def filterText (clause : String) : List Char := ' ' :: clause.toList

def sortText (field : String) : List Char :=
  " ORDER BY ".toList ++ (field.toList ++ " ASC".toList)

def limitText (n : Nat) : List Char := " LIMIT ".toList ++ Nat.toDigits 10 n

def offsetText (n : Nat) : List Char := " OFFSET ".toList ++ Nat.toDigits 10 n

theorem leadsBlank_offset (offset : Option Nat) : LeadsBlank (clauseText offsetText offset) := by
  have h : LeadsBlank (clauseText offsetText offset ++ []) :=
    leadsBlank_nil.clauseText_append (fun _ => rfl) offset
  rwa [List.append_nil] at h

theorem leadsBlank_filter (filter sort : Option String) (limit offset : Option Nat) :
    LeadsBlank (clauseText filterText filter ++ (clauseText sortText sort ++
      (clauseText limitText limit ++ clauseText offsetText offset))) := by
  have hlimit : LeadsBlank (clauseText limitText limit ++ clauseText offsetText offset) :=
    (leadsBlank_offset offset).clauseText_append (fun _ => rfl) limit
  have hsort : LeadsBlank (clauseText sortText sort ++
      (clauseText limitText limit ++ clauseText offsetText offset)) :=
    hlimit.clauseText_append (fun _ => rfl) sort
  exact hsort.clauseText_append (fun _ => rfl) filter

/-! ### Reading the clauses -/

theorem takes_numberReader {n : Nat} {rest : List Char} (hrest : LeadsBlank rest) :
    Takes numberReader (Nat.toDigits 10 n) n rest := by
  have hdigits : ∀ c ∈ Nat.toDigits 10 n, c.isDigit = true :=
    fun c hc => Nat.isDigit_of_mem_toDigits (by decide) (by decide) hc
  have hvalue : digitsValue (Nat.toDigits 10 n) = n := Nat.ofDigitChars_ten_toDigits
  have h := (takes_takeWhile1 hdigits Nat.toDigits_ne_nil
    (hrest.not_head (by decide))).bind_pure digitsValue
  rwa [hvalue] at h

theorem takes_offset (offset : Option Nat) :
    Takes (optionally (string " OFFSET " *> numberReader)) (clauseText offsetText offset) offset
      [] := by
  refine takes_optionally (fun n _ => ?_) fun _ => rfl
  exact Takes.seqRight (takes_string " OFFSET " _) (takes_numberReader leadsBlank_nil)

theorem takes_limit (limit offset : Option Nat) :
    Takes (optionally (string " LIMIT " *> numberReader)) (clauseText limitText limit) limit
      (clauseText offsetText offset) := by
  refine takes_optionally (fun n _ => ?_) fun _ => ?_
  · exact Takes.seqRight (takes_string " LIMIT " _) (takes_numberReader (leadsBlank_offset offset))
  · refine bind_eq_none _ (string_eq_none ?_)
    cases offset <;> rfl

theorem takes_sort {sort : Option String} (hsort : ∀ field ∈ sort, isApiName field = true)
    (limit offset : Option Nat) :
    Takes (optionally sortReader) (clauseText sortText sort) sort
      (clauseText limitText limit ++ clauseText offsetText offset) := by
  refine takes_optionally (fun field hfield => ?_) fun _ => ?_
  · refine Takes.bind (takes_string " ORDER BY " _) ?_
    refine Takes.bind (takes_nameReader (hsort field hfield) (head?_cons_false (by decide) _)) ?_
    exact (takes_string " ASC" _).bind_pure fun _ => field
  · refine bind_eq_none _ (string_eq_none ?_)
    cases limit <;> cases offset <;> rfl

/- A filter clause, as far as a reader of clauses looks into it: one group in parentheses. -/
def IsGroupClause (clause : String) : Prop :=
  ∃ inner, Balanced inner ∧ clause.toList = "WHERE (".toList ++ (inner ++ [')'])

theorem takes_filter {filter : Option String} (hfilter : ∀ clause ∈ filter, IsGroupClause clause)
    (sort : Option String) (limit offset : Option Nat) :
    Takes (optionally filterReader) (clauseText filterText filter) filter
      (clauseText sortText sort ++ (clauseText limitText limit ++ clauseText offsetText offset)) := by
  refine takes_optionally (fun clause hclause => ?_) fun _ => ?_
  · obtain ⟨inner, hinner, htext⟩ := hfilter clause hclause
    have hclause' : clause = "WHERE (" ++ String.ofList (inner ++ [')']) := by
      rw [← String.toList_inj, htext, String.toList_append, @String.toList_ofList (inner ++ [')'])]
    have hled : filterText clause = " WHERE (".toList ++ (inner ++ [')']) := by
      rw [filterText, htext]
      rfl
    rw [hled]
    refine Takes.bind (takes_string " WHERE (" _) ?_
    -- Parentheses in string literals do not count, so this group ends where its text ends.
    have hgroup (rest : List Char) : Takes (closing? 0 .outside) (inner ++ [')'])
        (inner ++ [')']) rest := by
      rw [Takes, List.append_assoc]
      exact closing?_of_balanced hinner rest
    rw [hclause']
    exact (hgroup _).bind_pure fun group => "WHERE (" ++ String.ofList group
  · -- Whatever clause comes first then, it begins with another word.
    refine bind_eq_none _ (string_eq_none ?_)
    cases sort <;> cases limit <;> cases offset <;> rfl

/-! ### Reading the text -/

namespace Clauses

def chars (c : Clauses) : List Char :=
  "SELECT ".toList ++ (",".toList.intercalate (c.fields.map String.toList) ++ (" FROM ".toList ++
    (c.object.toList ++ (clauseText filterText c.filter ++ (clauseText sortText c.sort ++
      (clauseText limitText c.limit ++ clauseText offsetText c.offset))))))

structure WellFormed (c : Clauses) : Prop where
  nonempty : c.fields ≠ []
  fields : ∀ field ∈ c.fields, isApiName field = true
  object : isApiName c.object = true
  filter : ∀ clause ∈ c.filter, IsGroupClause clause
  sort : ∀ field ∈ c.sort, isApiName field = true

theorem takes_fields {fields : List String} (hne : fields ≠ [])
    (h : ∀ field ∈ fields, isApiName field = true) (more : List Char) :
    Takes (sepBy1 nameReader (string ",")) (",".toList.intercalate (fields.map String.toList))
      fields (" FROM ".toList ++ more) := by
  have hread : ∀ field ∈ fields, ∀ more : List Char, (∀ c ∈ more.head?, isNameChar c = false) →
      Takes nameReader field.toList (id field) more :=
    fun field hf more hmore => takes_nameReader (h field hf) hmore
  have hfrom : ∀ c ∈ (" FROM ".toList ++ more).head?, isNameChar c = false :=
    head?_cons_false (by decide) _
  have hcomma (more : List Char) : ∀ c ∈ (",".toList ++ more).head?, isNameChar c = false :=
    head?_cons_false (by decide) _
  have hall := takes_sepBy1 hne hread (by decide) hcomma hfrom rfl
  rwa [List.map_id] at hall

theorem takes_clausesReader {c : Clauses} (h : c.WellFormed) : Takes clausesReader c.chars c [] := by
  refine Takes.bind (takes_string "SELECT " _) ?_
  refine Takes.bind (a := c.fields) ?_ ?_
  · rw [List.append_nil]
    exact takes_fields h.nonempty h.fields _
  refine Takes.bind (takes_string " FROM " _) ?_
  refine Takes.bind (takes_nameReader h.object ?_) ?_
  · rw [List.append_nil]
    exact (leadsBlank_filter c.filter c.sort c.limit c.offset).not_head (by decide)
  refine Takes.bind (a := c.filter) ?_ ?_
  · rw [List.append_nil]
    exact takes_filter h.filter c.sort c.limit c.offset
  refine Takes.bind (a := c.sort) ?_ ?_
  · rw [List.append_nil]
    exact takes_sort h.sort c.limit c.offset
  refine Takes.bind (a := c.limit) ?_ ?_
  · rw [List.append_nil]
    exact takes_limit c.limit c.offset
  exact (takes_offset c.offset).bind_pure fun offset => { c with offset }

theorem ofText?_eq_some {c : Clauses} (h : c.WellFormed) {text : String}
    (htext : text.toList = c.chars) : ofText? text = some c := by
  rw [ofText?, htext]
  exact run?_of_takes (takes_clausesReader h)

end Clauses

/-! ### The text of a statement -/

/- A clause behind the selection: nothing if it is empty. -/
def behind (clause : String) : List Char :=
  if clause = "" then [] else ' ' :: clause.toList

theorem behind_append {label text : String} (h : label ≠ "") :
    behind (label ++ text) = ' ' :: (label.toList ++ text.toList) := by
  rw [behind, if_neg, String.toList_append]
  intro hempty
  exact h (String.append_eq_empty_iff.mp hempty).1

theorem behind_sort (field : String) : behind ("ORDER BY " ++ field ++ " ASC") = sortText field := by
  have hlabel : "ORDER BY " ≠ "" := by decide
  rw [String.append_assoc, behind_append hlabel, String.toList_append]
  rfl

theorem behind_limit (n : Nat) : behind ("LIMIT " ++ n.repr) = limitText n := by
  have hlabel : "LIMIT " ≠ "" := by decide
  rw [behind_append hlabel, Nat.toList_repr]
  rfl

theorem behind_limit_offset (n m : Nat) :
    behind ("LIMIT " ++ n.repr ++ " " ++ ("OFFSET " ++ m.repr)) = limitText n ++ offsetText m := by
  have hlabel : "LIMIT " ≠ "" := by decide
  have htail : (n.repr ++ (" " ++ ("OFFSET " ++ m.repr))).toList =
      Nat.toDigits 10 n ++ offsetText m := by
    rw [String.toList_append, String.toList_append, String.toList_append, Nat.toList_repr,
      Nat.toList_repr]
    rfl
  rw [String.append_assoc, String.append_assoc, behind_append hlabel, htail]
  exact (List.append_assoc " LIMIT ".toList (Nat.toDigits 10 n) (offsetText m)).symm

theorem toList_joined (first : String) (clauses : List String) :
    (String.intercalate " " (first :: clauses.filter (· ≠ ""))).toList =
      first.toList ++ clauses.flatMap behind := by
  rw [String.toList_intercalate, List.map_cons, intercalate_cons, List.flatMap_map]
  congr 1
  induction clauses with
  | nil => rfl
  | cons clause clauses ih =>
    by_cases h : clause = ""
    · rw [List.filter_cons_of_neg (by simp [h]), ih, List.flatMap_cons, behind, if_pos h]
      rfl
    · rw [List.filter_cons_of_pos (by simp [h]), List.flatMap_cons, List.flatMap_cons, ih, behind,
        if_neg h]
      rfl

namespace Window

def limit? (w : Window) : Option Nat :=
  if 0 < w.limit then some w.limit.toNat else none

def offset? (w : Window) : Option Nat :=
  if 0 < w.limit ∧ 0 < w.skip then some w.skip.toNat else none

theorem behind_clause {w : Window} (h : w.active = decide (0 < w.limit)) :
    behind w.clause = clauseText limitText w.limit? ++ clauseText offsetText w.offset? := by
  by_cases hl : 0 < w.limit
  · have hactive : w.active = true := h.trans (decide_eq_true hl)
    have hlimit : w.limit? = some w.limit.toNat := if_pos hl
    rw [clause, if_pos hactive, if_pos hl, hlimit]
    by_cases hs : 0 < w.skip
    · have hoffset : w.offset? = some w.skip.toNat := if_pos ⟨hl, hs⟩
      rw [if_pos hs, hoffset]
      exact behind_limit_offset w.limit.toNat w.skip.toNat
    · have hoffset : w.offset? = none := if_neg fun hboth => hs hboth.2
      rw [if_neg hs, hoffset]
      exact (behind_limit w.limit.toNat).trans (List.append_nil _).symm
  · have hactive : w.active = false := h.trans (decide_eq_false hl)
    have hlimit : w.limit? = none := if_neg hl
    have hoffset : w.offset? = none := if_neg fun hboth => hl hboth.1
    rw [clause, hactive, hlimit, hoffset]
    rfl

end Window

theorem Paging.active_window (p : Paging) : p.window.active = decide (0 < p.window.limit) := by
  rcases h : p.pageAndSize with _ | ⟨page, size⟩
  · simp [window, h]
  · have hsize : 0 < size := by
      rw [pageAndSize] at h
      split at h
      · split at h
        · next hpos =>
          cases h
          exact hpos.2
        · cases h
      · cases h
    simp [window, h, hsize]

theorem selectText_eq_ok {fields : List String} (h : fields ≠ []) (object filterClause : String)
    (paging : Option Paging) : ∃ text, selectText object fields filterClause paging = .ok text := by
  cases fields with
  | nil => exact absurd rfl h
  | cons field fields => exact ⟨_, rfl⟩

namespace Statement

def window (s : Statement) : Window := (s.paging.map Paging.window).getD {}

def sort? (s : Statement) : Option String := (s.paging.bind (·.sort)).filter (· ≠ "")

/- The statement names its object, its fields, the fields of its filter and the field to sort by with API
names. -/
def hasNames (s : Statement) : Bool :=
  isApiName s.object && s.fields.all isApiName && s.filter.hasNames && s.sort?.all isApiName

/- The clauses of the statement, with the clause of its filter. -/
def clauses (s : Statement) (filterClause : String) : Clauses where
  fields := s.fields
  object := s.object
  filter := if s.filter.entries = [] then none else some filterClause
  sort := s.sort?
  limit := s.window.limit?
  offset := s.window.offset?

theorem active_window (s : Statement) : s.window.active = decide (0 < s.window.limit) := by
  unfold window
  cases s.paging with
  | none => rfl
  | some p => exact p.active_window

theorem sortField_eq (s : Statement) : s.paging.bind Paging.sortField = s.sort? := by
  unfold sort?
  cases s.paging <;> rfl

/- The selection comes first, and behind it the clauses that are there. -/
theorem toList_selectText {object : String} {fields : List String} {filterClause text : String}
    {paging : Option Paging} (h : selectText object fields filterClause paging = .ok text) :
    fields ≠ [] ∧ text.toList =
      ("SELECT " ++ String.intercalate "," fields ++ " FROM " ++ object).toList ++
        (behind filterClause ++ (clauseText sortText (paging.bind Paging.sortField) ++
          behind ((paging.map Paging.window).getD {}).clause)) := by
  unfold selectText at h
  cases fields with
  | nil => cases h
  | cons field fields =>
    refine ⟨List.cons_ne_nil _ _, ?_⟩
    obtain rfl := Except.ok.inj h
    rw [toList_joined]
    simp only [List.flatMap_cons, List.flatMap_nil, List.append_nil]
    cases paging.bind Paging.sortField with
    | none => rfl
    | some field =>
      rw [behind_sort]
      rfl

/- The strings are variables here: with the literals in their places, reassociating would unfold them. -/
theorem toList_selection (a b c d : String) (more : List Char) :
    (a ++ b ++ c ++ d).toList ++ more =
      a.toList ++ (b.toList ++ (c.toList ++ (d.toList ++ more))) := by
  simp only [String.toList_append, List.append_assoc]

/- The clause of a filter with API names is one group in parentheses, if it is there. -/
theorem isGroupClause {f : Filter} {w : String} (hnames : f.hasNames = true) (hw : f.clause = .ok w)
    (he : f.entries ≠ []) : IsGroupClause w := by
  rcases Filter.clause_eq_ok hw with ⟨hnil, _⟩ | ⟨_, cs, rfl, _, hcs⟩
  · exact absurd hnil he
  · cases hcs hnames with
    | group _ hparts =>
      have hinner : Balanced ((separator .and).toList.intercalate (cs.map fun p => p.text.toList)) :=
        Condition.balanced_texts fun part hp => Condition.balanced_text (hparts part hp)
      refine ⟨_, hinner, ?_⟩
      rw [String.toList_append, Condition.toList_text_group]
      rfl

theorem chars_of_soql {s : Statement} {text : String} (h : s.soql = .ok text) :
    ∃ w, s.filter.clause = .ok w ∧ s.fields ≠ [] ∧ text.toList = (s.clauses w).chars := by
  obtain ⟨_, _, h⟩ := bind_eq_ok.mp h
  obtain ⟨w, hw, h⟩ := bind_eq_ok.mp h
  obtain ⟨hne, htext⟩ := toList_selectText h
  refine ⟨w, hw, hne, ?_⟩
  have hfilter : behind w = clauseText filterText (s.clauses w).filter := by
    rcases Filter.clause_eq_ok hw with ⟨he, rfl⟩ | ⟨he, cs, rfl, _⟩
    · rw [clauses, if_pos he]
      rfl
    · rw [clauses, if_neg he, behind_append (by decide), ← String.toList_append]
      rfl
  have hwindow : behind ((s.paging.map Paging.window).getD {}).clause =
      clauseText limitText s.window.limit? ++ clauseText offsetText s.window.offset? :=
    Window.behind_clause s.active_window
  rw [htext, hfilter, sortField_eq, hwindow, toList_selection, String.toList_intercalate]
  rfl

theorem wellFormed_clauses {s : Statement} {w : String} (hnames : s.hasNames = true)
    (hw : s.filter.clause = .ok w) (hne : s.fields ≠ []) : (s.clauses w).WellFormed := by
  simp only [hasNames, Bool.and_eq_true, List.all_eq_true, Option.all_eq_true] at hnames
  obtain ⟨⟨⟨hobject, hfields⟩, hfilter⟩, hsort⟩ := hnames
  refine ⟨hne, hfields, hobject, ?_, hsort⟩
  intro clause hclause
  by_cases he : s.filter.entries = []
  · simp [clauses, he] at hclause
  · obtain rfl : w = clause := by simpa [clauses, he] using hclause
    exact isGroupClause hfilter hw he

theorem ofText?_soql {s : Statement} {text : String} (hnames : s.hasNames = true)
    (h : s.soql = .ok text) :
    ∃ w, s.filter.clause = .ok w ∧ Clauses.ofText? text = some (s.clauses w) := by
  obtain ⟨w, hw, hne, htext⟩ := chars_of_soql h
  exact ⟨w, hw, Clauses.ofText?_eq_some (wellFormed_clauses hnames hw hne) htext⟩

theorem getD_filter_clauses {s : Statement} {w : String} (hw : s.filter.clause = .ok w) :
    (s.clauses w).filter.getD "" = w := by
  rcases Filter.clause_eq_ok hw with ⟨he, rfl⟩ | ⟨he, _⟩
  · rw [clauses, if_pos he]
    rfl
  · rw [clauses, if_neg he]
    rfl

/-- The text of a statement with API names is read as the clauses that the statement asks for, whatever
stands in its string operands. So two such statements with the same text ask for the same clauses. -/
theorem soql_reads_back (s : Statement) (text : String) (hnames : s.hasNames = true)
    (htext : s.soql = .ok text) :
    (∃ w, s.filter.clause = .ok w ∧ Clauses.ofText? text = some (s.clauses w)) ∧
      ∀ s' : Statement, s'.hasNames = true → s'.soql = .ok text →
        s'.fields = s.fields ∧ s'.object = s.object ∧ s'.filter.clause = s.filter.clause ∧
          s'.sort? = s.sort? ∧ s'.window.limit? = s.window.limit? ∧
          s'.window.offset? = s.window.offset? := by
  obtain ⟨w, hw, hread⟩ := ofText?_soql hnames htext
  refine ⟨⟨w, hw, hread⟩, ?_⟩
  intro s' hnames' htext'
  obtain ⟨w', hw', hread'⟩ := ofText?_soql hnames' htext'
  have heq : s'.clauses w' = s.clauses w := Option.some.inj (hread'.symm.trans hread)
  refine ⟨congrArg Clauses.fields heq, congrArg Clauses.object heq, ?_, congrArg Clauses.sort heq,
    congrArg Clauses.limit heq, congrArg Clauses.offset heq⟩
  rw [hw, hw', ← getD_filter_clauses hw, ← getD_filter_clauses hw', heq]

theorem soql_reads_back_clauses_in_operand :
    let s : Statement :=
      { object := "Account"
        fields := ["Id", "Owner.Name"]
        filter := { entries := [("Name", .string "') ORDER BY x LIMIT 1")] }
        paging := some { page := some 3, pageSize := some 20, sort := some "Name" } }
    let s' : Statement :=
      { s with paging := some { skip := some 40, limit := some 20, page := some 0, sort := some "Name" } }
    s.hasNames = true ∧ s'.hasNames = true ∧ ∃ text, s.soql = .ok text ∧ s'.soql = .ok text ∧
      Clauses.ofText? text = some
        { fields := ["Id", "Owner.Name"]
          object := "Account"
          filter := some "WHERE ((Name = '\\') ORDER BY x LIMIT 1'))"
          sort := some "Name"
          limit := some 20
          offset := some 40 } ∧
      s'.window.offset? = s.window.offset? := by
  intro s s'
  have hnames : s.hasNames = true := by decide
  have hnames' : s'.hasNames = true := by decide
  obtain ⟨text, htext, htext'⟩ : ∃ text, s.soql = .ok text ∧ s'.soql = .ok text := by
    unfold s' s
    exact ⟨_, rfl, rfl⟩
  obtain ⟨⟨w, hw, hread⟩, hsame⟩ := soql_reads_back s text hnames htext
  obtain rfl := Except.ok.inj hw
  exact ⟨hnames, hnames', text, htext, htext', hread, (hsame s' hnames' htext').2.2.2.2.2⟩

end Statement

end SoqlSelect
