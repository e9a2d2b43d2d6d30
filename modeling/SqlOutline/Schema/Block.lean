import SqlOutline.Schema.TableName

/-!
The CREATE TABLE statements of a script.

A statement starts on a line of its own, behind spaces and tabs at most, and ends with the first line
that ends in a semicolon. Spaces, tabs and one carriage return may follow the semicolon.
-/

namespace SqlOutline.Block

/-- The characters that indent a statement. -/
def isIndent (c : Char) : Bool := c == ' ' || c == '\t'

/-- Whether a line ends in front of `t`. -/
def atLineEnd (t : Text) : Bool := t.head?.all (· == '\n')

/-- Reads what may stand at the front of a statement. -/
def readIndent : Reader := fun t => some (t.takeWhile isIndent, t.dropWhile isIndent)

/-- Reads what may stand between a semicolon and the end of its line, up to that end. -/
def readLineEnd : Reader := fun t =>
  match t.dropWhile isIndent with
  | [] => some (t, [])
  | c :: rest =>
    if c = '\n' then some (t.takeWhile isIndent, c :: rest)
    else if c = '\r' && atLineEnd rest then some (t.takeWhile isIndent ++ [c], rest)
    else none

/-- Reads to the end of the first line that ends in a semicolon. -/
def readToEnd : Reader
  | [] => none
  | c :: t =>
    match if c = ';' then readLineEnd t else none with
    | some (a, b) => some (c :: a, b)
    | none => (readToEnd t).map fun (a, b) => (c :: a, b)

/-- Reads a statement from the start of its first line. -/
def read : Reader :=
  readIndent.andThen (TableName.createKeyword.readWhole.andThen readToEnd)

theorem readIndent_faithful : readIndent.Faithful := by
  intro t a b h
  obtain ⟨rfl, rfl⟩ : t.takeWhile isIndent = a ∧ t.dropWhile isIndent = b := by
    simpa [readIndent] using h
  exact List.takeWhile_append_dropWhile

theorem readLineEnd_faithful : readLineEnd.Faithful := by
  intro t a b h
  have ht := List.takeWhile_append_dropWhile (p := isIndent) (l := t)
  rw [readLineEnd] at h
  split at h
  · obtain ⟨rfl, rfl⟩ : t = a ∧ [] = b := by simpa using h
    simp
  · rename_i c rest hd
    split at h
    · obtain ⟨rfl, rfl⟩ : t.takeWhile isIndent = a ∧ c :: rest = b := by simpa using h
      rw [← hd, ht]
    · split at h
      · obtain ⟨rfl, rfl⟩ : t.takeWhile isIndent ++ [c] = a ∧ rest = b := by simpa using h
        rw [List.append_assoc, List.singleton_append, ← hd, ht]
      · simp at h

theorem readToEnd_faithful : readToEnd.Faithful := by
  intro t
  induction t with
  | nil => simp [readToEnd]
  | cons c t ih =>
    intro a b h
    rw [readToEnd] at h
    split at h
    · rename_i a' b' hr
      obtain ⟨rfl, rfl⟩ : c :: a' = a ∧ b' = b := by simpa using h
      split at hr
      · simp [readLineEnd_faithful hr]
      · simp at hr
    · obtain ⟨⟨a', b'⟩, ht, he⟩ := Option.map_eq_some_iff.mp h
      obtain ⟨rfl, rfl⟩ : c :: a' = a ∧ b' = b := by simpa using he
      simp [ih ht]

theorem readToEnd_ne_nil {t a b : Text} (h : readToEnd t = some (a, b)) : a ≠ [] := by
  cases t with
  | nil => simp [readToEnd] at h
  | cons c t =>
    rw [readToEnd] at h
    split at h
    · rintro rfl
      simp at h
    · rintro rfl
      simp at h

/-- A statement is not empty. -/
theorem rest_length_lt {t a b : Text} (h : read t = some (a, b)) : b.length < t.length := by
  simp only [read, Reader.andThen, Option.bind_eq_bind, Option.bind_eq_some_iff, Option.pure_def,
    Option.some.injEq, Prod.mk.injEq, Prod.exists] at h
  obtain ⟨a₁, t₁, h₁, x, y, ⟨a₂, t₂, h₂, a₃, t₃, h₃, rfl, rfl⟩, rfl, rfl⟩ := h
  have e₁ := readIndent_faithful.length_le h₁
  have e₂ := TableName.createKeyword.readWhole_faithful.length_le h₂
  have e₃ := congrArg List.length (readToEnd_faithful h₃)
  have := List.length_pos_iff.mpr (readToEnd_ne_nil h₃)
  simp only [List.length_append] at e₃
  omega

/-- The statements of `t` from left to right; `lineStart` tells whether a line starts in front of
`t`. -/
def allFrom (lineStart : Bool) : Text → List Text
  | [] => []
  | c :: t =>
    match _h : if lineStart then read (c :: t) else none with
    | some (block, rest) => block :: allFrom false rest
    | none => allFrom (c == '\n') t
termination_by t => t.length
decreasing_by
  · cases lineStart with
    | true => exact rest_length_lt (by assumption)
    | false => simp_all
  · simp

/-- The statements of a script. -/
def all (script : Text) : List Text := allFrom true script

end SqlOutline.Block
