import SqlOutline.Query.Clause

/-!
The clauses of one statement, each with its text if the statement has it.
-/

namespace SqlOutline

/-- At most one text for each clause. -/
structure ClauseSet where
  fields : Option Text := none
  source : Option Text := none
  joins : Option Text := none
  filter : Option Text := none
  grouping : Option Text := none
  having : Option Text := none
  ordering : Option Text := none
  limit : Option Text := none
  deriving DecidableEq, Repr

namespace ClauseSet

/-- The set without clauses. -/
def empty : ClauseSet := {}

/-- The text of clause `c`. -/
def get? (s : ClauseSet) : Clause → Option Text
  | .fields => s.fields
  | .source => s.source
  | .joins => s.joins
  | .filter => s.filter
  | .grouping => s.grouping
  | .having => s.having
  | .ordering => s.ordering
  | .limit => s.limit

/-- The set with `t` as the text of clause `c`. -/
def set (s : ClauseSet) (c : Clause) (t : Text) : ClauseSet :=
  match c with
  | .fields => { s with fields := some t }
  | .source => { s with source := some t }
  | .joins => { s with joins := some t }
  | .filter => { s with filter := some t }
  | .grouping => { s with grouping := some t }
  | .having => { s with having := some t }
  | .ordering => { s with ordering := some t }
  | .limit => { s with limit := some t }

def contains (s : ClauseSet) (c : Clause) : Bool := (s.get? c).isSome

/-- The clauses of the set with their texts, in the order of a statement. -/
def entries (s : ClauseSet) : List (Clause × Text) :=
  Clause.readingOrder.filterMap fun c => (s.get? c).map fun t => (c, t)

/-- The set of the given clauses; the last text of a clause counts. -/
def ofEntries (es : List (Clause × Text)) : ClauseSet :=
  es.foldl (fun s (c, t) => s.set c t) empty

@[simp] theorem get?_empty (c : Clause) : empty.get? c = none := by
  cases c <;> rfl

@[simp] theorem get?_set (s : ClauseSet) (c d : Clause) (t : Text) :
    (s.set c t).get? d = if c = d then some t else s.get? d := by
  cases c <;> cases d <;> rfl

/-- Two sets with the same texts are the same. -/
theorem ext_get? {s t : ClauseSet} (h : ∀ c, s.get? c = t.get? c) : s = t := by
  cases s; cases t
  have h₁ := h .fields
  have h₂ := h .source
  have h₃ := h .joins
  have h₄ := h .filter
  have h₅ := h .grouping
  have h₆ := h .having
  have h₇ := h .ordering
  have h₈ := h .limit
  simp only [get?] at *
  simp_all

end ClauseSet
end SqlOutline
