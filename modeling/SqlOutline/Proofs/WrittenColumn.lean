import Mathlib.Data.List.Infix
import SqlOutline.Literal.Cut
import SqlOutline.Proofs.Reading
import SqlOutline.Schema.Column

/-!
Declarations of columns that read back.

A type may have white space inside its parentheses only, so that it ends where it was written to
end, and the upper case of a type may not have the options in it. Then a column is read from its
declaration as it was written, also with a comma behind it (`Column.ofLine?_written`).
-/

namespace SqlOutline
open Unicode

namespace Column

/-- The number of parentheses open behind a text that starts with `depth` of them open. A closing
one without a partner counts for nothing. -/
def depthAfter (depth : Nat) : Text → Nat
  | [] => depth
  | c :: t =>
    if c = '(' then depthAfter (depth + 1) t
    else if c = ')' then depthAfter (depth - 1) t
    else depthAfter depth t

/-- A type that can be written down: in lower case, with balanced parentheses, white space only
inside of them, and nothing in it that ends a line or a statement, or that reads as an option. -/
structure IsType (τ : Text) : Prop where
  ne_nil : τ ≠ []
  lowered : lower τ = τ
  newline_notMem : '\n' ∉ τ
  semicolon_notMem : ';' ∉ τ
  last_ne_comma : τ.getLast? ≠ some ','
  enclosed : ∀ y c z, y ++ c :: z = τ → isWhiteSpace c = true → 0 < depthAfter 0 y
  balanced : depthAfter 0 τ = 0
  nullable : ¬ " NOT NULL".toList <:+: upper τ
  unnumbered : ¬ " AUTO_INCREMENT".toList <:+: upper τ

theorem enclosed_iff {τ : Text} :
    (∀ y c z, y ++ c :: z = τ → isWhiteSpace c = true → 0 < depthAfter 0 y) ↔
      ∀ i, ∀ h : i < τ.length, isWhiteSpace τ[i] = true → 0 < depthAfter 0 (τ.take i) := by
  constructor
  · intro hτ i hi
    refine hτ _ _ (τ.drop (i + 1)) ?_
    rw [← List.drop_eq_getElem_cons hi, List.take_append_drop]
  · rintro hτ y c z rfl
    simpa using hτ y.length (by simp)

instance (τ : Text) : Decidable (IsType τ) :=
  decidable_of_iff (τ ≠ [] ∧ lower τ = τ ∧ '\n' ∉ τ ∧ ';' ∉ τ ∧ τ.getLast? ≠ some ',' ∧
      (∀ i, ∀ h : i < τ.length, isWhiteSpace τ[i] = true → 0 < depthAfter 0 (τ.take i)) ∧
      depthAfter 0 τ = 0 ∧ ¬ " NOT NULL".toList <:+: upper τ ∧
      ¬ " AUTO_INCREMENT".toList <:+: upper τ)
    ⟨fun ⟨h₁, h₂, h₃, h₄, h₅, h₆, h₇, h₈, h₉⟩ =>
      ⟨h₁, h₂, h₃, h₄, h₅, enclosed_iff.mpr h₆, h₇, h₈, h₉⟩,
    fun ⟨h₁, h₂, h₃, h₄, h₅, h₆, h₇, h₈, h₉⟩ =>
      ⟨h₁, h₂, h₃, h₄, h₅, enclosed_iff.mp h₆, h₇, h₈, h₉⟩⟩

theorem depthAfter_append (depth : Nat) (y z : Text) :
    depthAfter depth (y ++ z) = depthAfter (depthAfter depth y) z := by
  induction y generalizing depth with
  | nil => rfl
  | cons c y ih =>
    simp only [List.cons_append, depthAfter]
    split
    · exact ih (depth + 1)
    · split
      · exact ih (depth - 1)
      · exact ih depth

section
variable {τ : Text}
  (henclosed : ∀ y c z, y ++ c :: z = τ → isWhiteSpace c = true → 0 < depthAfter 0 y)
include henclosed

/-- White space at the front of a type would be outside of its parentheses. -/
theorem head_not_isWhiteSpace : ∀ c ∈ τ.head?, isWhiteSpace c = false := by
  intro c hc
  obtain ⟨t, ht⟩ := List.head?_eq_some_iff.mp hc
  rw [Bool.eq_false_iff]
  intro hspace
  exact absurd (henclosed [] c t ht.symm hspace) (by simp [depthAfter])

/-- White space in a type is followed by the parenthesis that closes around it. -/
theorem depthAfter_of_space (hbalanced : depthAfter 0 τ = 0) {y z : Text} {c : Char}
    (hτ : y ++ c :: z = τ) (hspace : isWhiteSpace c = true) :
    ∃ depth, 0 < depth ∧ depthAfter depth z = 0 := by
  have hopen : c ≠ '(' := fun heq => absurd (heq ▸ hspace) (by decide)
  have hclose : c ≠ ')' := fun heq => absurd (heq ▸ hspace) (by decide)
  refine ⟨depthAfter 0 y, henclosed y c z hτ hspace, ?_⟩
  rwa [← hτ, depthAfter_append, depthAfter, if_neg hopen, if_neg hclose] at hbalanced

/-- White space at the end of a type would be outside of its parentheses. -/
theorem last_not_isWhiteSpace (hbalanced : depthAfter 0 τ = 0) :
    ∀ c ∈ τ.getLast?, isWhiteSpace c = false := by
  intro c hc
  obtain ⟨y, hy⟩ := List.getLast?_eq_some_iff.mp hc
  rw [Bool.eq_false_iff]
  intro hspace
  obtain ⟨depth, hpos, hdepth⟩ := depthAfter_of_space henclosed hbalanced hy.symm hspace
  rw [depthAfter] at hdepth
  omega

end

/-- The options of a column as they are written. -/
def options (c : Column) : Text :=
  (if c.nullable then [] else " NOT NULL".toList) ++
    if c.autoIncrement then " AUTO_INCREMENT".toList else []

/-- A column as it is written: its name between backticks, its type, and its options. -/
def written (c : Column) : Text := enquote c.name ++ ' ' :: (c.dataType ++ c.options)

theorem typeSpan_append {depth : Nat} {τ : Text}
    (h : ∀ y c z, y ++ c :: z = τ → isWhiteSpace c = true → 0 < depthAfter depth y) (s : Text) :
    typeSpan depth (τ ++ s) = τ ++ typeSpan (depthAfter depth τ) s := by
  induction τ generalizing depth with
  | nil => rfl
  | cons c τ ih =>
    have htail : ∀ d, (∀ y, depthAfter d y = depthAfter depth (c :: y)) →
        typeSpan d (τ ++ s) = τ ++ typeSpan (depthAfter depth (c :: τ)) s := by
      intro d hd
      rw [ih fun y x z hy hx => by rw [hd]; exact h (c :: y) x z (by simp [hy]) hx, hd]
    rw [List.cons_append, typeSpan]
    by_cases hopen : c = '('
    · rw [if_pos hopen, htail _ fun y => by rw [depthAfter, if_pos hopen], List.cons_append]
    · by_cases hclose : c = ')'
      · rw [if_neg hopen, if_pos hclose,
          htail _ fun y => by rw [depthAfter, if_neg hopen, if_pos hclose], List.cons_append]
      · have hspace : ¬ (isWhiteSpace c && depth == 0) = true := by
          rw [Bool.and_eq_true, beq_iff_eq]
          rintro ⟨hc, rfl⟩
          exact absurd (h [] c τ rfl hc) (by simp [depthAfter])
        rw [if_neg hopen, if_neg hclose, if_neg hspace,
          htail _ fun y => by rw [depthAfter, if_neg hopen, if_neg hclose], List.cons_append]

theorem dropCommas_append {τ e : Text} (hτ : τ.getLast? ≠ some ',') (he : ∀ c ∈ e, c = ',') :
    dropCommas (τ ++ e) = τ := by
  have hcommas : ∀ c ∈ e.reverse, (c == ',') = true := fun c hc =>
    beq_iff_eq.mpr (he c (List.mem_reverse.mp hc))
  have hlast : τ.reverse.dropWhile (· == ',') = τ.reverse := by
    rw [List.dropWhile_eq_self_iff]
    intro hpos hcomma
    refine hτ ?_
    rw [← List.head?_reverse, List.head?_eq_getElem?, List.getElem?_eq_getElem hpos]
    exact congrArg some (beq_iff_eq.mp hcomma)
  rw [dropCommas, List.reverse_append, List.dropWhile_append_of_pos hcommas, hlast,
    List.reverse_reverse]

/-- A text that is in neither half of a joined text is not in the whole if no end of it starts the
second half. -/
theorem not_infix_append {l u v : Text} (hu : ¬ l <:+: u) (hv : ¬ l <:+: v)
    (hends : ∀ s ∈ l.tails, s ≠ [] → ¬ s <+: v) : ¬ l <:+: u ++ v := by
  rw [List.infix_append_iff]
  rintro (hin | hin | ⟨r, s, rfl, hr, hs⟩)
  · exact hu hin
  · exact hv hin
  · by_cases hsn : s = []
    · subst hsn
      rw [List.append_nil] at hu
      exact hu hr.isInfix
    · exact hends s ((List.mem_tails _ _).mpr ⟨r, rfl⟩) hsn hs

/-- Behind a type that does not have the option, it is among the options only if it is written. -/
theorem hasOption_iff {τ v : Text} {option : String} (hτ : ¬ option.toList <:+: upper τ)
    (hends : option.toList <:+: upper v ∨ ∀ s ∈ option.toList.tails, s ≠ [] → ¬ s <+: upper v) :
    hasOption option (τ ++ v) = Text.hasPart option.toList (upper v) := by
  rw [hasOption, upper_append, Bool.eq_iff_iff, Text.hasPart_iff, Text.hasPart_iff]
  constructor
  · intro hin
    by_contra hno
    exact not_infix_append hτ hno (hends.resolve_left hno) hin
  · exact fun hin => hin.trans (List.suffix_append _ _).isInfix

variable {c : Column} {e : Text}

theorem typeOf_written (hτ : IsType c.dataType) (he : e = [] ∨ e = [',']) :
    typeOf (c.dataType ++ (c.options ++ e)) = c.dataType := by
  have hspan : typeSpan 0 (c.options ++ e) = [] ∨ typeSpan 0 (c.options ++ e) = [','] := by
    unfold options
    rcases he with rfl | rfl <;> cases c.nullable <;> cases c.autoIncrement <;> decide
  rw [typeOf, typeSpan_append hτ.enclosed, hτ.balanced, dropCommas_append hτ.last_ne_comma,
    hτ.lowered]
  rcases hspan with hspan | hspan <;> simp [hspan]

theorem nullable_written (hτ : IsType c.dataType) (he : e = [] ∨ e = [',']) :
    hasOption " NOT NULL" (c.dataType ++ (c.options ++ e)) = !c.nullable := by
  rw [hasOption_iff hτ.nullable]
  · unfold options
    rcases he with rfl | rfl <;> cases c.nullable <;> cases c.autoIncrement <;> decide
  · unfold options
    rcases he with rfl | rfl <;> cases c.nullable <;> cases c.autoIncrement <;> decide

theorem autoIncrement_written (hτ : IsType c.dataType) (he : e = [] ∨ e = [',']) :
    hasOption " AUTO_INCREMENT" (c.dataType ++ (c.options ++ e)) = c.autoIncrement := by
  rw [hasOption_iff hτ.unnumbered]
  · unfold options
    rcases he with rfl | rfl <;> cases c.nullable <;> cases c.autoIncrement <;> decide
  · unfold options
    rcases he with rfl | rfl <;> cases c.nullable <;> cases c.autoIncrement <;> decide

/-- A name between backticks is read up to the white space behind it. An empty one is no name. -/
theorem readName?_enquote {n g d : Text} (htick : backtick ∉ n) (hg : IsGap g)
    (hd : ∀ x ∈ d.head?, isWhiteSpace x = false) :
    readName? (enquote n ++ (g ++ d)) = if n = [] then none else some (n, d) := by
  have hcut : Text.cutAt? (· == backtick) (n ++ backtick :: (g ++ d)) = some (n, g ++ d) :=
    Text.cutAt?_append_cons (fun x hx => beq_eq_false_iff_ne.mpr fun h => htick (h ▸ hx)) (by simp)
  have hrun : Reader.run isWhiteSpace (g ++ d) = some (g, d) :=
    Reader.run_eq_some_iff.mpr ⟨rfl, hg.1, hg.2, hd⟩
  have hform : enquote n ++ (g ++ d) = backtick :: (n ++ backtick :: (g ++ d)) := by
    simp [enquote]
  rw [hform, readName?, Text.cutAt?, if_pos (by simp)]
  simp only [Option.bind_eq_bind, Option.bind_some, hcut, hrun]
  cases n <;> rfl

/-- A column that was written, with a comma behind it or without, reads back. -/
theorem ofLine?_written (hname : c.name ≠ []) (htick : backtick ∉ c.name)
    (hτ : IsType c.dataType) (he : e = [] ∨ e = [',']) : ofLine? (c.written ++ e) = some c := by
  have hhead : ∀ x ∈ (c.dataType ++ (c.options ++ e)).head?, isWhiteSpace x = false := by
    rw [List.head?_append_of_ne_nil _ hτ.ne_nil]
    exact head_not_isWhiteSpace hτ.enclosed
  have hoptions : '\n' ∉ c.options ∧ '\n' ∉ e := by
    unfold options
    rcases he with rfl | rfl <;> cases c.nullable <;> cases c.autoIncrement <;> decide
  have hform : c.written ++ e = enquote c.name ++ ([' '] ++ (c.dataType ++ (c.options ++ e))) := by
    simp [written]
  rw [hform, ofLine?, readName?_enquote htick (by decide) hhead, if_neg hname]
  simp [hτ.ne_nil, hτ.newline_notMem, hoptions, typeOf_written hτ he, nullable_written hτ he,
    autoIncrement_written hτ he]

end Column
end SqlOutline
