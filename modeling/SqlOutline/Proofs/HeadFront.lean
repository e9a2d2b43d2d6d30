import SqlOutline.Proofs.HiddenText
import SqlOutline.Schema.TableName

/-!
What a head line has in front of its column list, and the name that is read there.

The list opens with the first parenthesis outside literals, and so the front is itself a cut
(`TableName.beforeColumns_eq`). It comes back as it was written if nothing in it looks like a
placeholder. The name is all that stands between the first backtick and the last, whatever that is
(`TableName.quotedSpan?_between`).
-/

namespace SqlOutline
open Unicode Placeholder

namespace Cut

/-- The cut up to the first `x` outside its literals. -/
def before (x : Char) (c : Cut) : Cut := ⟨c.lead.takeWhile (· != x), go c.lead c.literals⟩ where
  /-- The literals behind `r` up to that place. -/
  go (r : Text) : List (Text × Text) → List (Text × Text)
    | [] => []
    | (l, s) :: ls => if x ∈ r then [] else (l, s.takeWhile (· != x)) :: go s ls

theorem takeWhile_bne_eq_self {x : Char} {t : Text} (ht : x ∉ t) : t.takeWhile (· != x) = t :=
  List.takeWhile_eq_self_iff.mpr fun _ hy => bne_iff_ne.mpr (ne_of_mem_of_not_mem hy ht)

section
variable {x : Char}

@[simp] theorem before_plain (t : Text) : (plain t).before x = plain (t.takeWhile (· != x)) := rfl

theorem before_literal_of_mem {r : Text} (hr : x ∈ r) (l : Text) (c : Cut) :
    (literal r l c).before x = plain (r.takeWhile (· != x)) := by
  simp [before, before.go, literal, plain, hr]

@[simp] theorem before_literal {r : Text} (hr : x ∉ r) (l : Text) (c : Cut) :
    (literal r l c).before x = literal r l (c.before x) := by
  simp [before, before.go, literal, hr, takeWhile_bne_eq_self hr]

/-- Behind a front without the character the search goes on. -/
theorem before_append {A : Cut} (hA : A.AllOutside (x ∉ ·)) (B : Cut) :
    (A ++ B).before x = A ++ B.before x := by
  induction A using Cut.induction with
  | plain a =>
    have ha : x ∉ a := allOutside_plain.mp hA
    have htake : ∀ b : Text, (a ++ b).takeWhile (· != x) = a ++ b.takeWhile (· != x) := fun b =>
      List.takeWhile_append_of_pos fun _ hy => bne_iff_ne.mpr (ne_of_mem_of_not_mem hy ha)
    cases B using Cut.induction with
    | plain b => simp [htake]
    | literal r l B =>
      by_cases hr : x ∈ r
      · rw [plain_append_literal, before_literal_of_mem (List.mem_append_right a hr),
          before_literal_of_mem hr, htake, plain_append_plain]
      · have har : x ∉ a ++ r := fun h => (List.mem_append.mp h).elim ha hr
        rw [plain_append_literal, before_literal har, before_literal hr, plain_append_literal]
  | literal r l A ih =>
    obtain ⟨hr, hA⟩ := allOutside_literal.mp hA
    rw [literal_append, before_literal hr, ih hA, literal_append]

/-- The search stops where the character stands. -/
theorem before_cons (t : Text) (c : Cut) : (plain (x :: t) ++ c).before x = plain [] := by
  cases c using Cut.induction with
  | plain s => simp
  | literal r l c =>
    have hx : x ∈ x :: t ++ r := List.mem_cons_self
    rw [plain_append_literal, before_literal_of_mem hx, List.cons_append]
    simp

theorem names_before_isPrefix (c : Cut) : (c.before x).names <+: c.names := by
  induction c using Cut.induction with
  | plain t => exact List.prefix_rfl
  | literal r l c ih =>
    by_cases hr : x ∈ r
    · rw [before_literal_of_mem hr]
      exact List.nil_prefix
    · rw [before_literal hr, names_literal, names_literal]
      exact List.cons_prefix_cons.mpr ⟨rfl, ih⟩

/-- What is not a word character is found outside literals alone, hidden as they are. -/
theorem takeWhile_hiddenAt {tag : Text} (htag : PlainTag tag) (hx : isWordChar x = false)
    (c : Cut) (i : Nat) :
    (c.hiddenAt tag i).takeWhile (· != x) = (c.before x).hiddenAt tag i := by
  induction c using Cut.induction generalizing i with
  | plain t => simp
  | literal r l c ih =>
    have htoken : x ∉ Placeholder.text tag i := fun hmem => by
      rw [isWordChar_of_mem_text htag x hmem] at hx
      exact Bool.false_ne_true hx.symm
    by_cases hr : x ∈ r
    · obtain ⟨u, v, rfl, hu⟩ := List.eq_append_cons_of_mem hr
      have hstop : ∀ w : Text, (u ++ x :: w).takeWhile (· != x) = u := fun w => by
        rw [List.takeWhile_append_of_pos fun _ hy => bne_iff_ne.mpr (ne_of_mem_of_not_mem hy hu)]
        simp
      rw [before_literal_of_mem hr, hiddenAt_literal, hiddenAt_plain, List.append_assoc,
        List.cons_append, hstop, hstop]
    · rw [before_literal hr, hiddenAt_literal, hiddenAt_literal, ← ih,
        List.takeWhile_append_of_pos fun _ hy => bne_iff_ne.mpr (ne_of_mem_of_not_mem hy hr),
        List.takeWhile_append_of_pos fun _ hy => bne_iff_ne.mpr (ne_of_mem_of_not_mem hy htoken)]

end

end Cut

namespace TableName

theorem headTag_plain : PlainTag headTag := by
  decide

theorem createKeyword_plain : createKeyword.Plain := by
  decide

theorem guardKeyword_plain : guardKeyword.Plain := by
  decide

/-- A head line up to its column list, cut at its literals. -/
def front (head : Text) : Cut := (Cut.ofText head).before '('

section
variable {a : Text} (heven : a.count backtick % 2 = 0)
  (hopen : (Cut.ofText a).AllOutside ('(' ∉ ·))
include heven hopen

/-- The column list is looked for behind a part whose parentheses are all in literals. -/
theorem front_append (t : Text) : front (a ++ t) = Cut.ofText a ++ front t := by
  rw [front, Cut.ofText_append heven, Cut.before_append hopen, front]

end

theorem front_columns (t : Text) : front ('(' :: t) = .plain [] := by
  have hcut : Cut.ofText ('(' :: t) = .plain ['('] ++ Cut.ofText t :=
    Cut.ofText_append (a := ['(']) rfl
  rw [front, hcut, Cut.before_cons]

/-- The hidden front of a head line is restored with the literals of the whole line. -/
theorem beforeColumns_eq (head : Text) :
    beforeColumns head =
      (LiteralStore.ofText headTag head).restore ((front head).hiddenAt headTag 0) := by
  rw [front, ← Cut.takeWhile_hiddenAt headTag_plain (by decide)]
  rfl

/-- The front of a head line comes back as it was written if it has no look-alike of a placeholder
outside its literals. -/
theorem beforeColumns_of_stemFree {head : Text}
    (hfree : (front head).AllOutside (StemFree headTag)) :
    beforeColumns head = (front head).toText := by
  have hnames : (front head).names <+: (LiteralStore.ofText headTag head).names.drop 0 :=
    Cut.names_before_isPrefix (Cut.ofText head)
  rw [beforeColumns_eq]
  exact LiteralStore.restore_hiddenAt_of_stemFree headTag_plain.lowLine_notMem hnames hfree

/-! The quoted span. -/

theorem flatten_splitOn (x : Char) (t : Text) : (t.splitOn x).flatten = t.filter (· != x) := by
  induction t with
  | nil => rfl
  | cons c t ih =>
    by_cases hc : c = x
    · have hsplit : (c :: t).splitOn x = [] :: t.splitOn x := by
        simp [List.splitOn, List.splitOnP_cons_eq_if_modifyHead, hc]
      rw [hsplit, List.flatten_cons, ih]
      simp [hc]
    · have hsplit : (c :: t).splitOn x = (t.splitOn x).modifyHead (c :: ·) := by
        simp [List.splitOn, List.splitOnP_cons_eq_if_modifyHead, hc]
      obtain ⟨r, parts, hparts⟩ := List.exists_cons_of_ne_nil (List.splitOn_ne_nil x t)
      rw [hparts] at ih
      rw [hsplit, hparts]
      simpa [hc] using ih

/-- A text without backticks in front of a line adds nothing to the quoted span. -/
theorem quotedSpan?_append {a : Text} (ha : backtick ∉ a) (t : Text) :
    quotedSpan? (a ++ t) = quotedSpan? t := by
  by_cases ht : backtick ∈ t
  · obtain ⟨r, s, rfl, hr⟩ := List.eq_append_cons_of_mem ht
    have har : backtick ∉ a ++ r := fun h => (List.mem_append.mp h).elim ha hr
    rw [quotedSpan?, quotedSpan?, ← List.append_assoc,
      List.splitOn_append_cons_self_of_not_mem har, List.splitOn_append_cons_self_of_not_mem hr]
    cases s.splitOn backtick with
    | nil => rfl
    | cons l parts => cases parts <;> rfl
  · have hat : backtick ∉ a ++ t := fun h => (List.mem_append.mp h).elim ha ht
    rw [quotedSpan?, quotedSpan?, List.splitOn_eq_singleton hat, List.splitOn_eq_singleton ht]

/-- The quoted span reaches from the first backtick to the last, and all backticks in it are left
out. -/
theorem quotedSpan?_between (m : Text) {b : Text} (hb : backtick ∉ b) :
    quotedSpan? (enquote m ++ b) = some (m.filter (· != backtick)) := by
  have hsplit : (enquote m ++ b).splitOn backtick = [] :: (m.splitOn backtick ++ [b]) := by
    have hform : enquote m ++ b = [] ++ backtick :: (m ++ backtick :: b) := by simp [enquote]
    rw [hform, List.splitOn_append_cons_self_of_not_mem (List.not_mem_nil (a := backtick)),
      ← List.splitOn_eq_singleton hb]
    exact congrArg _ (List.splitOnP_append_cons _ _ (by simp))
  obtain ⟨r, parts, hparts⟩ := List.exists_cons_of_ne_nil (List.splitOn_ne_nil backtick m)
  have hflat := flatten_splitOn backtick m
  rw [hparts] at hsplit hflat
  rw [quotedSpan?, hsplit, ← hflat]
  cases parts with
  | nil => rfl
  | cons s parts =>
    have hlast : (r :: s :: (parts ++ [b])).dropLast = r :: s :: parts := by
      rw [← List.cons_append, ← List.cons_append, List.dropLast_concat]
    exact congrArg (some ·.flatten) hlast

theorem filter_eq_of_notMem {t : Text} (ht : backtick ∉ t) : t.filter (· != backtick) = t :=
  List.filter_eq_self.mpr fun _ hc => bne_iff_ne.mpr (ne_of_mem_of_not_mem hc ht)

/-- A literal of a text is in its quoted span. -/
theorem quotedSpan?_of_isInfix {l t : Text} (hl : backtick ∉ l) (h : enquote l <:+: t) :
    ∃ s, quotedSpan? t = some s ∧ l <:+: s := by
  obtain ⟨u, v, rfl⟩ := h
  have hsplit : (u ++ enquote l ++ v).splitOn backtick =
      u.splitOn backtick ++ l :: v.splitOn backtick := by
    have hform : u ++ enquote l ++ v = u ++ backtick :: (l ++ backtick :: v) := by simp [enquote]
    rw [hform, ← List.splitOn_append_cons_self_of_not_mem hl]
    exact List.splitOnP_append_cons _ _ (by simp)
  obtain ⟨a, us, hu⟩ := List.exists_cons_of_ne_nil (List.splitOn_ne_nil backtick u)
  obtain ⟨vs, b, hv⟩ := List.eq_nil_or_concat (v.splitOn backtick) |>.resolve_left
    (List.splitOn_ne_nil backtick v)
  have hform : (us ++ l :: (vs ++ [b])).dropLast = us ++ l :: vs := by
    rw [← List.cons_append, ← List.append_assoc, List.dropLast_concat]
  refine ⟨(us ++ l :: vs).flatten, ?_, us.flatten, vs.flatten, by simp⟩
  rw [quotedSpan?, hsplit, hu, hv, List.concat_eq_append, ← hform]
  cases us with
  | nil => cases vs <;> rfl
  | cons x us => cases us <;> rfl

/-! The name that is read. -/

/-- Nothing is lost when the database is parted from the table. -/
theorem qualified_ofQualified (t : Text) : (ofQualified t).qualified = t := by
  unfold ofQualified Text.splitQualifier
  cases hcut : Text.cutAt? (· == '.') t with
  | none => rfl
  | some p =>
    obtain ⟨a, b⟩ := p
    obtain ⟨-, c, hc, rfl⟩ := Text.cutAt?_eq_some hcut
    obtain rfl : c = '.' := by simpa using hc
    rfl

/-- A name is read where the front of the line gives it in one text. -/
theorem ofHead_eq_ok_iff {head : Text} {n : TableName} (hn : ofQualified n.qualified = n) :
    ofHead head = .ok n ↔
      (quotedSpan? (beforeColumns head)).or (bareName? (beforeColumns head)) =
        some n.qualified := by
  rw [ofHead]
  cases (quotedSpan? (beforeColumns head)).or (bareName? (beforeColumns head)) with
  | none => simp
  | some t =>
    simp only [Except.ok.injEq, Option.some.injEq]
    constructor
    · rintro rfl
      exact (qualified_ofQualified t).symm
    · rintro rfl
      exact hn

theorem ofHead_of_quotedSpan? {head t : Text} (h : quotedSpan? (beforeColumns head) = some t) :
    ofHead head = .ok (ofQualified t) := by
  simp only [ofHead, h, Option.some_or]

end TableName
end SqlOutline
