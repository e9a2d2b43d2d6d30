import SqlOutline.Literal.Cut

/-!
The literals taken out of a text, kept under the placeholders that stand for them.

Restoring is one scan from left to right: a placeholder of the store becomes its literal between
backticks, and what is put back is not scanned again.
-/

namespace SqlOutline

/-- Literals in order of appearance; the one at position `i` goes by the placeholder `i` of the
tag. -/
structure LiteralStore where
  tag : Text
  names : List Text
  deriving DecidableEq, Repr

namespace LiteralStore

/-- The store without literals. -/
def empty (tag : Text) : LiteralStore := ⟨tag, []⟩

/-- The literals of `t`. -/
def ofText (tag t : Text) : LiteralStore := ⟨tag, (Cut.ofText t).names⟩

/-- The number of literals. -/
def size (s : LiteralStore) : Nat := s.names.length

def isEmpty (s : LiteralStore) : Bool := s.names.isEmpty

/-- The placeholder for the literal at position `i`. -/
def placeholder (s : LiteralStore) (i : Nat) : Text := Placeholder.text s.tag i

/-- Each placeholder with its literal, in order of appearance. -/
def entries (s : LiteralStore) : List (Text × Text) :=
  s.names.zipIdx.map fun (l, i) => (s.placeholder i, l)

/-- Reads a placeholder of the store's tag, letter for letter. -/
def read? (s : LiteralStore) (t : Text) : Option Placeholder.Reading :=
  Placeholder.read? (· == ·) s.tag t

/-- The literal whose number is written by `digits`. -/
def named? (s : LiteralStore) (digits : Text) : Option Text :=
  (Placeholder.number? digits).bind (s.names[·]?)

/-- The literal that the placeholder `t` stands for. -/
def get? (s : LiteralStore) (t : Text) : Option Text :=
  match s.read? t with
  | some ⟨_, digits, []⟩ => s.named? digits
  | _ => none

/-- What a placeholder turns into: its literal, or itself when it stands for none. -/
def resolve (s : LiteralStore) (r : Placeholder.Reading) : Text :=
  match s.named? r.digits with
  | some l => enquote l
  | none => r.spelling

/-- Puts the literals back into `t`. -/
def restore (s : LiteralStore) : Text → Text
  | [] => []
  | c :: t =>
    match _h : s.read? (c :: t) with
    | some r => s.resolve r ++ restore s r.rest
    | none => c :: restore s t
termination_by t => t.length
decreasing_by
  · exact Placeholder.rest_length_lt (by assumption)
  · simp

@[simp] theorem restore_nil (s : LiteralStore) : s.restore [] = [] := by
  rw [restore]

theorem restore_of_read {s : LiteralStore} {t : Text} {r : Placeholder.Reading}
    (h : s.read? t = some r) : s.restore t = s.resolve r ++ s.restore r.rest := by
  cases t with
  | nil => exact absurd (Placeholder.rest_length_lt h) (by simp)
  | cons c t => rw [restore]; split <;> simp_all

theorem restore_cons {s : LiteralStore} {c : Char} {t : Text} (h : s.read? (c :: t) = none) :
    s.restore (c :: t) = c :: s.restore t := by
  rw [restore]; split <;> simp_all

end LiteralStore

/-- `t` with placeholders for its literals, and the store of these literals. -/
def hideLiterals (tag t : Text) : Text × LiteralStore :=
  ((Cut.ofText t).hidden tag, .ofText tag t)

end SqlOutline
