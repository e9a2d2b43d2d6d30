import SqlOutline.Placeholder

/-!
A text cut at its literals, the parts between paired backticks.

Backticks pair from left to right, and one that is left over stays in the text with all that follows
it. `toText_ofText` says that a cut loses nothing.
-/

namespace SqlOutline

/-- `l` between backticks. -/
def enquote (l : Text) : Text := backtick :: l ++ [backtick]

/-- `t` without the backticks around it, if it has them on both sides. -/
def unquote : Text → Text
  | [] => []
  | c :: t => if c = backtick ∧ t.getLast? = some backtick then t.dropLast else c :: t

@[simp] theorem unquote_enquote (l : Text) : unquote (enquote l) = l := by
  simp [enquote, unquote]

/-- The text before the first literal, then each literal with the text that follows it. -/
structure Cut where
  lead : Text
  literals : List (Text × Text)
  deriving DecidableEq, Repr

namespace Cut

/-- Pairs the parts of a text between its backticks. -/
def ofParts : List Text → Cut
  | [] => ⟨[], []⟩
  | [r] => ⟨r, []⟩
  | [r, s] => ⟨r ++ backtick :: s, []⟩
  | r :: l :: parts => ⟨r, (l, (ofParts parts).lead) :: (ofParts parts).literals⟩

/-- Cuts `t` at its literals. -/
def ofText (t : Text) : Cut := ofParts (t.splitOn backtick)

/-- Writes literals one after the other, each with the text that follows it; the literal `l` with
number `i` is written `spell i l`, and numbering starts at `i`. -/
def renderFrom (spell : Nat → Text → Text) : Nat → List (Text × Text) → Text
  | _, [] => []
  | i, (l, r) :: rest => spell i l ++ r ++ renderFrom spell (i + 1) rest

/-- The text with its literals written by `spell`, which sees their numbers. -/
def render (spell : Nat → Text → Text) (c : Cut) : Text :=
  c.lead ++ renderFrom spell 0 c.literals

/-- The text with its literals as they were. -/
def toText (c : Cut) : Text := c.render fun _ l => enquote l

/-- The text with placeholders for its literals. -/
def hidden (tag : Text) (c : Cut) : Text := c.render fun i _ => Placeholder.text tag i

/-- The literals alone, in order of appearance. -/
def names (c : Cut) : List Text := c.literals.map (·.1)

theorem renderFrom_const (f : Text → Text) (i j : Nat) (ls : List (Text × Text)) :
    renderFrom (fun _ l => f l) i ls = renderFrom (fun _ l => f l) j ls := by
  induction ls generalizing i j with
  | nil => rfl
  | cons p ls ih => simp only [renderFrom, ih (i + 1) (j + 1)]

theorem toText_ofParts (parts : List Text) :
    (ofParts parts).toText = [backtick].intercalate parts := by
  fun_induction ofParts parts with
  | case1 => rfl
  | case2 r => simp [toText, render, renderFrom, List.intercalate]
  | case3 r s => simp [toText, render, renderFrom, List.intercalate]
  | case4 r l parts hne ih =>
    cases parts with
    | nil => exact absurd rfl (hne ·)
    | cons s parts =>
      rw [toText, render, renderFrom_const enquote 0 1] at ih
      simp only [List.intercalate, List.intersperse, List.flatten_cons] at ih ⊢
      rw [← ih]
      simp [toText, render, renderFrom, enquote]

/-- Putting the literals back gives the text. -/
@[simp] theorem toText_ofText (t : Text) : (ofText t).toText = t := by
  rw [ofText, toText_ofParts]
  exact List.intercalate_splitOn backtick

end Cut
end SqlOutline
