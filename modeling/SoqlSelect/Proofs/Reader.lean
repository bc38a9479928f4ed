import SoqlSelect.Text.Reader

/-!
# What readers take

A reader takes a text when it reads exactly that text and leaves what follows. Readers that are put
together take texts that are put together; the condition on what follows tells where a run of
characters or a list of results ends.
-/

namespace SoqlSelect.Text.Reader

variable {α β : Type}

/-- Before `rest`, the reader takes the text and gives the result. -/
def Takes (r : Reader α) (text : List Char) (a : α) (rest : List Char) : Prop :=
  r (text ++ rest) = some (a, rest)

/-! ### Sequences and alternatives -/

theorem takes_pure (a : α) (rest : List Char) : Takes (pure a) [] a rest := rfl

theorem Takes.bind {r : Reader α} {f : α → Reader β} {text more rest : List Char} {a : α} {b : β}
    (h : Takes r text a (more ++ rest)) (hf : Takes (f a) more b rest) :
    Takes (r >>= f) (text ++ more) b rest := by
  have hr : r (text ++ more ++ rest) = some (a, more ++ rest) := by
    rw [List.append_assoc]
    exact h
  show (r (text ++ more ++ rest)).bind (fun (a, cs) => f a cs) = some (b, rest)
  rw [hr]
  exact hf

theorem Takes.seqRight {r : Reader α} {r' : Reader β} {text more rest : List Char} {a : α} {b : β}
    (h : Takes r text a (more ++ rest)) (h' : Takes r' more b rest) :
    Takes (r *> r') (text ++ more) b rest :=
  Takes.bind (f := fun _ => r') h h'

theorem Takes.bind_pure {r : Reader α} {text rest : List Char} {a : α} (h : Takes r text a rest)
    (f : α → β) : Takes (r >>= fun a => pure (f a)) text (f a) rest := by
  have hb : Takes (r >>= fun a => pure (f a)) (text ++ []) (f a) rest :=
    Takes.bind h (takes_pure (f a) rest)
  rwa [List.append_nil] at hb

theorem Takes.orElse {r : Reader α} {text rest : List Char} {a : α} (h : Takes r text a rest)
    (r' : Reader α) : Takes (r <|> r') text a rest := by
  show (r (text ++ rest) <|> r' (text ++ rest)) = some (a, rest)
  rw [h]
  rfl

theorem Takes.orElse_of_none {r r' : Reader α} {text rest : List Char} {a : α}
    (h : Takes r' text a rest) (hr : r (text ++ rest) = none) : Takes (r <|> r') text a rest := by
  show (r (text ++ rest) <|> r' (text ++ rest)) = some (a, rest)
  rw [hr]
  exact h

theorem bind_eq_none {r : Reader α} {cs : List Char} (f : α → Reader β) (h : r cs = none) :
    (r >>= f) cs = none := by
  show (r cs).bind (fun (a, cs) => f a cs) = none
  rw [h]
  rfl

theorem Takes.bind_eq_none {r : Reader α} {text rest : List Char} {a : α} (h : Takes r text a rest)
    {f : α → Reader β} (hf : f a rest = none) : (r >>= f) (text ++ rest) = none := by
  show (r (text ++ rest)).bind (fun (a, cs) => f a cs) = none
  rw [h]
  exact hf

theorem run?_of_takes {r : Reader α} {text : List Char} {a : α} (h : Takes r text a []) :
    run? r text = some a := by
  have hr : r text = some (a, []) := by simpa [Takes] using h
  simp [run?, hr]

/-! ### Characters -/

theorem takes_char (c : Char) (rest : List Char) : Takes (char c) [c] () rest := by
  show (satisfy (· == c) (c :: rest)).bind (fun (_, cs) => some ((), cs)) = some ((), rest)
  simp [satisfy]

theorem char_eq_none {c d : Char} (h : d ≠ c) (cs : List Char) : char c (d :: cs) = none := by
  show (satisfy (· == c) (d :: cs)).bind (fun (_, cs) => some ((), cs)) = none
  simp [satisfy, h]

theorem char_nil (c : Char) : char c [] = none := rfl

theorem takes_forM_char (text rest : List Char) : Takes (text.forM char) text () rest := by
  induction text with
  | nil => exact takes_pure () rest
  | cons c cs ih => exact Takes.bind (takes_char c (cs ++ rest)) ih

theorem takes_string (s : String) (rest : List Char) : Takes (string s) s.toList () rest :=
  takes_forM_char s.toList rest

theorem forM_char_eq_none {text cs : List Char} (h : ¬ text <+: cs) : text.forM char cs = none := by
  induction text generalizing cs with
  | nil => exact absurd List.nil_prefix h
  | cons c text ih =>
    cases cs with
    | nil => exact bind_eq_none _ (char_nil c)
    | cons d cs =>
      by_cases hd : d = c
      · subst hd
        have ht : ¬ text <+: cs := fun hp => h (List.cons_prefix_cons.mpr ⟨rfl, hp⟩)
        exact Takes.bind_eq_none (takes_char d cs) (ih ht)
      · exact bind_eq_none _ (char_eq_none hd cs)

/- The condition is one that can be evaluated as soon as the first characters are known. -/
theorem string_eq_none {s : String} {cs : List Char} (h : s.toList.isPrefixOf cs = false) :
    string s cs = none := by
  refine forM_char_eq_none fun hp => ?_
  rw [List.isPrefixOf_iff_prefix.mpr hp] at h
  cases h

theorem head?_cons_false {p : Char → Bool} {c : Char} (h : p c = false) (cs : List Char) :
    ∀ d ∈ (c :: cs).head?, p d = false := by
  intro d hd
  rw [← Option.some.inj hd]
  exact h

theorem takes_takeWhile {p : Char → Bool} {run rest : List Char} (hp : ∀ c ∈ run, p c = true)
    (hrest : ∀ c ∈ rest.head?, p c = false) : Takes (takeWhile p) run run rest := by
  have htake : (run ++ rest).takeWhile p = run := by
    rw [List.takeWhile_append_of_pos hp]
    cases rest with
    | nil => simp
    | cons c cs => simp [hrest c rfl]
  have hdrop : (run ++ rest).dropWhile p = rest := by
    rw [List.dropWhile_append_of_pos hp]
    cases rest with
    | nil => simp
    | cons c cs => simp [hrest c rfl]
  show some ((run ++ rest).takeWhile p, (run ++ rest).dropWhile p) = some (run, rest)
  rw [htake, hdrop]

theorem takes_takeWhile1 {p : Char → Bool} {run rest : List Char} (hp : ∀ c ∈ run, p c = true)
    (hne : run ≠ []) (hrest : ∀ c ∈ rest.head?, p c = false) :
    Takes (takeWhile1 p) run run rest := by
  have hguard : Takes (guard (!run.isEmpty)) [] () rest := by
    have he : (!run.isEmpty) = true := by simpa using hne
    rw [he]
    rfl
  have h : Takes (takeWhile1 p) (run ++ []) run rest :=
    Takes.bind (takes_takeWhile hp hrest) (hguard.bind_pure fun _ => run)
  rwa [List.append_nil] at h

/-! ### Lists -/

theorem loop_of_none {r : Reader α} {cs : List Char} (h : r cs = none) :
    many.loop r cs = ([], cs) := by
  rw [many.loop, h]

theorem loop_of_takes {r : Reader α} {text rest : List Char} {a : α} (h : Takes r text a rest)
    (hne : text ≠ []) :
    many.loop r (text ++ rest) = (a :: (many.loop r rest).1, (many.loop r rest).2) := by
  -- The loop goes on only behind a result that took some text.
  have hlt : rest.length < (text ++ rest).length := by
    have := List.length_pos_iff.mpr hne
    rw [List.length_append]
    omega
  rw [many.loop, h]
  simp only [if_pos hlt]

/- What comes after a text, be it the next text or the rest, satisfies the condition `P` under which the
reader takes a text. -/
theorem takes_many {r : Reader α} {text : β → List Char} {value : β → α} {xs : List β}
    {rest : List Char} {P : List Char → Prop}
    (hr : ∀ x ∈ xs, ∀ more, P more → Takes r (text x) (value x) more)
    (hne : ∀ x ∈ xs, text x ≠ []) (hnext : ∀ x ∈ xs, ∀ more, P (text x ++ more)) (hrest : P rest)
    (hstop : r rest = none) : Takes (many r) (xs.flatMap text) (xs.map value) rest := by
  suffices h : many.loop r (xs.flatMap text ++ rest) = (xs.map value, rest) from congrArg some h
  induction xs with
  | nil => exact loop_of_none hstop
  | cons x xs ih =>
    have hmore : P (xs.flatMap text ++ rest) := by
      cases xs with
      | nil => exact hrest
      | cons y ys =>
        rw [List.flatMap_cons, List.append_assoc]
        exact hnext y (by simp) _
    have hx := hr x (by simp) _ hmore
    have ih' := ih (fun y hy => hr y (by simp [hy])) (fun y hy => hne y (by simp [hy]))
      (fun y hy => hnext y (by simp [hy]))
    rw [List.flatMap_cons, List.append_assoc, loop_of_takes hx (hne x (by simp)), ih']
    rfl

theorem intercalate_cons (separator first : List α) (others : List (List α)) :
    separator.intercalate (first :: others) = first ++ others.flatMap (separator ++ ·) := by
  induction others generalizing first with
  | nil => simp
  | cons other others ih => simp [List.intercalate_cons_cons, ih]

theorem takes_sepBy1 {r : Reader α} {separator : String} {text : β → List Char} {value : β → α}
    {xs : List β} {rest : List Char} {P : List Char → Prop} (hxs : xs ≠ [])
    (hr : ∀ x ∈ xs, ∀ more, P more → Takes r (text x) (value x) more)
    (hsep : separator.toList ≠ []) (hnext : ∀ more, P (separator.toList ++ more)) (hrest : P rest)
    (hstop : separator.toList.isPrefixOf rest = false) :
    Takes (sepBy1 r (string separator)) (separator.toList.intercalate (xs.map text))
      (xs.map value) rest := by
  obtain ⟨x, xs, rfl⟩ := List.exists_cons_of_ne_nil hxs
  have hothers : Takes (many (string separator *> r))
      (xs.flatMap fun y => separator.toList ++ text y) (xs.map value) rest := by
    refine takes_many (P := P) ?_ ?_ ?_ hrest (bind_eq_none _ (string_eq_none hstop))
    · intro y hy more hmore
      exact Takes.seqRight (takes_string separator _) (hr y (by simp [hy]) more hmore)
    · intro y _ h
      exact hsep (List.append_eq_nil_iff.mp h).1
    · intro y _ more
      rw [List.append_assoc]
      exact hnext _
  have hmore : P ((xs.flatMap fun y => separator.toList ++ text y) ++ rest) := by
    cases xs with
    | nil => exact hrest
    | cons y ys =>
      rw [List.flatMap_cons, List.append_assoc, List.append_assoc]
      exact hnext _
  rw [List.map_cons, List.map_cons, intercalate_cons, List.flatMap_map]
  exact Takes.bind (hr x (by simp) _ hmore) (hothers.bind_pure fun others => value x :: others)

end SoqlSelect.Text.Reader
