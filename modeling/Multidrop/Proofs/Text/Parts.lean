import Multidrop.Text

/-!
# The parts of a text

What taking a text apart finds is said without saying how it is found: a front and the text after it
(`afterFront?_eq_some_iff`), the two parts around the first or the last separator
(`splitFirst_eq_some_iff`, `splitLast_eq_some_iff`), and the part between the blank characters at
the two ends (`trim_eq_iff`).
-/
namespace Multidrop.Text

/-! ## Fronts and pieces -/

/-- The text after a front is found exactly where the front is put before it. -/
theorem afterFront?_eq_some_iff {front text rest : List Char} :
    afterFront? front text = some rest ↔ text = front ++ rest := by
  induction front generalizing text with
  | nil => simp [afterFront?]
  | cons first front ih =>
    cases text with
    | nil => simp [afterFront?]
    | cons character text =>
      rw [afterFront?]
      by_cases same : first = character
      · subst same
        simp [ih]
      · simp [same, Ne.symm same]

/-- There is no text after a front exactly where the text has another front. -/
theorem afterFront?_eq_none_iff {front text : List Char} :
    afterFront? front text = none ↔ ¬front <+: text := by
  rw [Option.eq_none_iff_forall_ne_some]
  constructor
  · rintro none ⟨rest, rfl⟩
    exact none rest (afterFront?_eq_some_iff.2 rfl)
  · intro other rest found
    exact other ⟨rest, (afterFront?_eq_some_iff.1 found).symm⟩

/-- A piece is found in a text exactly where the text has it as an infix. -/
theorem contains_iff {piece text : List Char} : contains piece text = true ↔ piece <:+: text := by
  induction text with
  | nil => simp [contains]
  | cons character text ih =>
    rw [contains, Bool.or_eq_true, ih, List.isPrefixOf_iff_prefix, List.infix_cons_iff]

/-! ## Separators -/

/-- A text is split at its first separator into what stands before and after that. -/
theorem splitFirst_eq_some_iff {separator : Char} {text before after : List Char} :
    splitFirst separator text = some (before, after) ↔
      text = before ++ separator :: after ∧ separator ∉ before := by
  induction text generalizing before with
  | nil => simp [splitFirst]
  | cons character text ih =>
    rw [splitFirst]
    by_cases found : character = separator
    · subst found
      cases before with
      | nil => simp
      | cons first before =>
        rw [if_pos rfl]
        refine ⟨nofun, fun ⟨same, absent⟩ => ?_⟩
        obtain ⟨rfl, _⟩ := List.cons.inj same
        exact absurd List.mem_cons_self absent
    · rw [if_neg found]
      cases before with
      | nil => simp [found]
      | cons first before =>
        have rest := @ih before
        simp only [Option.map_eq_some_iff, Prod.exists, Prod.mk.injEq, List.cons.injEq,
          List.cons_append, List.mem_cons, not_or]
        constructor
        · rintro ⟨front, back, split, ⟨rfl, rfl⟩, rfl⟩
          obtain ⟨same, absent⟩ := rest.1 split
          exact ⟨⟨rfl, same⟩, Ne.symm found, absent⟩
        · rintro ⟨⟨rfl, same⟩, _, absent⟩
          exact ⟨before, after, rest.2 ⟨same, absent⟩, ⟨rfl, rfl⟩, rfl⟩

/-- A text is split at its last separator into what stands before and after that. -/
theorem splitLast_eq_some_iff {separator : Char} {text before after : List Char} :
    splitLast separator text = some (before, after) ↔
      text = before ++ separator :: after ∧ separator ∉ after := by
  have turned : text.reverse = after.reverse ++ separator :: before.reverse ↔
      text = before ++ separator :: after := by
    rw [← List.reverse_inj, List.reverse_reverse]
    simp
  have backwards := @splitFirst_eq_some_iff separator text.reverse after.reverse before.reverse
  rw [turned, List.mem_reverse] at backwards
  rw [← backwards, splitLast]
  cases splitFirst separator text.reverse with
  | none => simp
  | some parts =>
    obtain ⟨back, front⟩ := parts
    simp only [Option.map_some, Option.some.injEq, Prod.mk.injEq]
    rw [← List.reverse_inj, List.reverse_reverse, ← @List.reverse_inj _ back.reverse,
      List.reverse_reverse, and_comm]

/-! ## Blank characters -/

/-- A text that neither begins nor ends with a blank character. -/
structure Bare (text : List Char) : Prop where
  first : ∀ character ∈ text.head?, isBlank character = false
  last : ∀ character ∈ text.getLast?, isBlank character = false

/-- A text with blank characters around another one. -/
def Pads (whole text : List Char) : Prop :=
  ∃ front back, whole = front ++ text ++ back ∧ (∀ character ∈ front, isBlank character = true) ∧
    ∀ character ∈ back, isBlank character = true

/-- A text may have no blank characters around it. -/
theorem Pads.refl (text : List Char) : Pads text text := ⟨[], [], by simp, nofun, nofun⟩

/-- A text without blank characters is bare. -/
theorem bare_of_visible {text : List Char}
    (visible : ∀ character ∈ text, isBlank character = false) : Bare text :=
  ⟨fun character there => visible character (List.mem_of_mem_head? there),
    fun character there => visible character (List.mem_of_mem_getLast? there)⟩

/-- Blank characters around a text bring no other character into it. -/
theorem Pads.notMem {whole text : List Char} {character : Char} (pads : Pads whole text)
    (visible : isBlank character = false) (absent : character ∉ text) : character ∉ whole := by
  obtain ⟨front, back, rfl, blank, blanks⟩ := pads
  have seen (blank : isBlank character = true) : False :=
    Bool.false_ne_true (visible.symm.trans blank)
  rw [List.mem_append, List.mem_append, not_or, not_or]
  exact ⟨⟨fun there => seen (blank _ there), absent⟩, fun there => seen (blanks _ there)⟩

/-- Blank characters in front do not count. -/
theorem trimStart_append {front : List Char} (text : List Char)
    (blank : ∀ character ∈ front, isBlank character = true) :
    trimStart (front ++ text) = trimStart text :=
  List.dropWhile_append_of_pos blank

/-- A text that begins with no blank character stays as it is. -/
theorem trimStart_of_first {text : List Char}
    (first : ∀ character ∈ text.head?, isBlank character = false) : trimStart text = text := by
  cases text with
  | nil => rfl
  | cons character text =>
    have visible := first character rfl
    rw [trimStart, List.dropWhile_cons, visible]
    rfl

/-- What is left behind the blank characters in front begins with no blank character. -/
theorem first_trimStart (text : List Char) :
    ∀ character ∈ (trimStart text).head?, isBlank character = false := by
  intro character there
  have visible := List.head?_dropWhile_not isBlank text
  rw [Option.mem_def, trimStart] at there
  rw [there] at visible
  exact visible

/-- A text is the blank characters in front of it and what is left behind them. -/
theorem exists_trimStart (text : List Char) :
    ∃ front, text = front ++ trimStart text ∧ ∀ character ∈ front, isBlank character = true :=
  ⟨text.takeWhile isBlank, List.takeWhile_append_dropWhile.symm,
    List.all_eq_true.1 List.all_takeWhile⟩

/-- A text has blank characters around what is left of it without them. -/
theorem pads_trim (whole : List Char) : Pads whole (trim whole) := by
  obtain ⟨front, same, blank⟩ := exists_trimStart whole
  obtain ⟨back, rest, blanks⟩ := exists_trimStart (trimStart whole).reverse
  refine ⟨front, back.reverse, ?_, blank, fun character there =>
    blanks character (List.mem_reverse.1 there)⟩
  have turned := congrArg List.reverse rest
  rw [List.reverse_reverse, List.reverse_append] at turned
  rw [List.append_assoc, trim, ← turned]
  exact same

/-- What is left of a text neither begins nor ends with a blank character. -/
theorem bare_trim (whole : List Char) : Bare (trim whole) := by
  constructor
  · intro character there
    obtain ⟨back, rest, _⟩ := exists_trimStart (trimStart whole).reverse
    have turned := congrArg List.reverse rest
    rw [List.reverse_reverse, List.reverse_append] at turned
    -- What is trimmed at the end begins as what it was trimmed from does.
    apply first_trimStart whole
    rw [turned, Option.mem_def, List.head?_append]
    rw [trim, Option.mem_def] at there
    rw [there]
    rfl
  · intro character there
    rw [trim, List.getLast?_reverse] at there
    exact first_trimStart _ character there

/-- What is left of a text without the blank characters at its ends is the one part of it that has
only blank characters around and none at its own ends. -/
theorem trim_eq_iff {whole text : List Char} : trim whole = text ↔ Pads whole text ∧ Bare text := by
  constructor
  · rintro rfl
    exact ⟨pads_trim whole, bare_trim whole⟩
  · rintro ⟨⟨front, back, rfl, blank, blanks⟩, bare⟩
    have start : trimStart (text ++ back) = text ++ back ∨ text = [] := by
      cases text with
      | nil => exact .inr rfl
      | cons character text => exact .inl (trimStart_of_first bare.first)
    rw [trim, List.append_assoc, trimStart_append _ blank]
    rcases start with start | rfl
    · have blankReverse : ∀ character ∈ back.reverse, isBlank character = true :=
        fun character there => blanks character (List.mem_reverse.1 there)
      have last : ∀ character ∈ text.reverse.head?, isBlank character = false := by
        rw [List.head?_reverse]
        exact bare.last
      rw [start, List.reverse_append, trimStart_append _ blankReverse, trimStart_of_first last,
        List.reverse_reverse]
    · have nothing : trimStart (back ++ []) = [] := trimStart_append [] blanks
      rw [List.append_nil] at nothing
      rw [List.nil_append, nothing]
      rfl

end Multidrop.Text
