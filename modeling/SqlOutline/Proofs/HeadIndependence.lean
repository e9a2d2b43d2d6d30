import SqlOutline.Proofs.HeadFront
import SqlOutline.Proofs.PlaceholderScan

/-!
What stands behind the opening parenthesis of a column list, and the name of the table.

The front of a head line is restored with the literals of the whole line. The literals of the column
list are among them, and they get into the name where the front has a placeholder of its own that
goes by the number of one of them. `TableName.ofHead_columns_unobserved` says that there is no
other way.
-/

namespace SqlOutline
open Unicode Placeholder

namespace Cut

/-- The placeholders that are read where the literals of the cut are hidden have numbers of these
literals. -/
def ReadsOwn (tag : Text) (c : Cut) : Prop :=
  ∀ r ∈ readings tag (c.hidden tag), ∀ i ∈ number? r.digits, i < c.names.length

/-- Nothing but the placeholders of its literals is read in a cut without look-alikes. -/
theorem number?_of_stemFree {tag : Text} (htag : '_' ∉ tag) {c : Cut} {i : Nat}
    (hfree : c.AllOutside (StemFree tag)) :
    ∀ r ∈ readings tag (c.hiddenAt tag i), ∃ j ∈ number? r.digits, j < i + c.names.length := by
  induction c using Cut.induction generalizing i with
  | plain t =>
    have hunread := (allOutside_plain.mp hfree).unread htag (.inl rfl)
    have hnone := readings_append hunread
    rw [List.append_nil, readings_nil] at hnone
    simp [hnone]
  | literal r l c ih =>
    obtain ⟨hr, hc⟩ := allOutside_literal.mp hfree
    have hread : read? (· == ·) tag (Placeholder.text tag i ++ c.hiddenAt tag (i + 1)) =
        some ⟨Placeholder.text tag i, Nat.toDigits 10 i, c.hiddenAt tag (i + 1)⟩ :=
      (read?_eq_some_iff (railed_beq htag)).mpr ⟨rfl, spells_text (railed_beq htag) i⟩
    rw [hiddenAt_literal, readings_append (hr.unread htag (.inr (rail_isPrefix_text tag i _))),
      readings_of_read hread, List.forall_mem_cons]
    refine ⟨⟨i, number?_toDigits i, by simp⟩, fun x hx => ?_⟩
    obtain ⟨j, hj, hlt⟩ := ih hc x hx
    exact ⟨j, hj, by rw [names_literal, List.length_cons]; omega⟩

theorem readsOwn_of_stemFree {tag : Text} (htag : '_' ∉ tag) {c : Cut}
    (hfree : c.AllOutside (StemFree tag)) : c.ReadsOwn tag := by
  intro r hr i hi
  obtain ⟨j, hj, hlt⟩ := number?_of_stemFree (i := 0) htag hfree r hr
  obtain rfl : j = i := Option.some.inj (hj.symm.trans hi)
  simpa using hlt

end Cut

namespace TableName

section
variable {h : Text} (heven : h.count backtick % 2 = 0) (hopen : (Cut.ofText h).AllOutside ('(' ∉ ·))
include heven hopen

theorem beforeColumns_append (x : Text) :
    beforeColumns (h ++ '(' :: x) =
      LiteralStore.restore ⟨headTag, (Cut.ofText h).names ++ (Cut.ofText x).names⟩
        ((Cut.ofText h).hidden headTag) := by
  have hnames : (Cut.ofText (h ++ '(' :: x)).names =
      (Cut.ofText h).names ++ (Cut.ofText x).names := by
    rw [← Cut.names_ofText_between heven (m := ['(']) (by decide), List.append_assoc]
    rfl
  rw [beforeColumns_eq, front_append heven hopen, front_columns, Cut.append_nil,
    LiteralStore.ofText, hnames, Cut.hidden_eq]

/-- The literals of the column list are not restored if only those of the front are read. -/
theorem ofHead_append_congr (hown : (Cut.ofText h).ReadsOwn headTag) (x y : Text) :
    ofHead (h ++ '(' :: x) = ofHead (h ++ '(' :: y) := by
  have hfront : beforeColumns (h ++ '(' :: x) = beforeColumns (h ++ '(' :: y) := by
    rw [beforeColumns_append heven hopen, beforeColumns_append heven hopen]
    refine LiteralStore.restore_congr fun r hr => ?_
    have hname : ∀ names, LiteralStore.named? ⟨headTag, (Cut.ofText h).names ++ names⟩ r.digits =
        (number? r.digits).bind ((Cut.ofText h).names[·]?) := by
      intro names
      rw [LiteralStore.named?]
      cases hnumber : number? r.digits with
      | none => rfl
      | some i => exact List.getElem?_append_left (hown r hr i hnumber)
    rw [LiteralStore.resolve, LiteralStore.resolve, hname, hname]
  simp only [ofHead, hfront]

/-- A placeholder with a number past the literals of the front gets a name of any length from the
column list. -/
theorem exists_long_name {r : Reading} (hr : r ∈ readings headTag ((Cut.ofText h).hidden headTag))
    {i : Nat} (hi : number? r.digits = some i) (hlen : (Cut.ofText h).names.length ≤ i)
    (m : Nat) : ∃ x n, ofHead (h ++ '(' :: x) = .ok n ∧ m ≤ n.qualified.length := by
  have columns : ∀ (l : Text) (k : Nat), backtick ∉ l →
      (Cut.ofText (List.replicate k (enquote l)).flatten).names = List.replicate k l := by
    intro l k hl
    induction k with
    | zero => rfl
    | succ k ih =>
      have hcut := Cut.ofText_literal (List.not_mem_nil (a := backtick)) hl
        (t := (List.replicate k (enquote l)).flatten)
      rw [List.nil_append] at hcut
      rw [List.replicate_succ, List.flatten_cons, hcut, Cut.names_literal, ih, List.replicate_succ]
  have hl : backtick ∉ List.replicate m 'x' := by
    rw [List.mem_replicate]
    rintro ⟨-, h⟩
    exact absurd h (by decide)
  have hin := LiteralStore.resolve_isInfix_restore
    (s := ⟨headTag, (Cut.ofText h).names ++ List.replicate (i + 1) (List.replicate m 'x')⟩) hr
  have hname : ((Cut.ofText h).names ++ List.replicate (i + 1) (List.replicate m 'x'))[i]? =
      some (List.replicate m 'x') := by
    rw [List.getElem?_append_right hlen, List.getElem?_replicate_of_lt (by omega)]
  simp only [LiteralStore.resolve, LiteralStore.named?, hi, Option.bind_some, hname] at hin
  rw [← columns _ _ hl, ← beforeColumns_append heven hopen] at hin
  obtain ⟨s, hs, hls⟩ := quotedSpan?_of_isInfix hl hin
  refine ⟨_, _, ofHead_of_quotedSpan? hs, ?_⟩
  rw [qualified_ofQualified]
  simpa using hls.length_le

end

/-- Whatever stands behind the opening parenthesis of the column list, the same name is read or the
same error is given, exactly if the front of the line reads no placeholders but those of its own
literals. -/
theorem ofHead_columns_unobserved {h : Text} (heven : h.count backtick % 2 = 0)
    (hopen : (Cut.ofText h).AllOutside ('(' ∉ ·)) :
    ((∀ x y, ofHead (h ++ '(' :: x) = ofHead (h ++ '(' :: y)) ↔
        (Cut.ofText h).ReadsOwn headTag) ∧
      ((Cut.ofText h).AllOutside (StemFree headTag) → (Cut.ofText h).ReadsOwn headTag) := by
  refine ⟨⟨fun hsame r hr i hi => ?_, ofHead_append_congr heven hopen⟩,
    Cut.readsOwn_of_stemFree headTag_plain.lowLine_notMem⟩
  by_contra hlen
  -- A column list makes the name longer than the one that is read without columns.
  have hlong := exists_long_name heven hopen hr hi (Nat.le_of_not_lt hlen)
  cases hread : ofHead (h ++ ['(']) with
  | error e =>
    obtain ⟨x, n, hx, -⟩ := hlong 0
    rw [hsame x [], hread] at hx
    cases hx
  | ok n₀ =>
    obtain ⟨x, n, hx, hle⟩ := hlong (n₀.qualified.length + 1)
    rw [hsame x [], hread] at hx
    obtain rfl := Except.ok.inj hx
    omega

/-- A parenthesis and a placeholder between the backticks of the name do no harm. -/
theorem ofHead_columns_unobserved_quoted :
    ∃ h : Text, h = "CREATE TABLE `__tbl1__(`.`t` ".toList ∧ h.count backtick % 2 = 0 ∧
      (Cut.ofText h).AllOutside ('(' ∉ ·) ∧ (Cut.ofText h).AllOutside (StemFree headTag) ∧
      ∀ x y, ofHead (h ++ '(' :: x) = ofHead (h ++ '(' :: y) := by
  have heven : "CREATE TABLE `__tbl1__(`.`t` ".toList.count backtick % 2 = 0 := by decide
  have hopen : (Cut.ofText "CREATE TABLE `__tbl1__(`.`t` ".toList).AllOutside ('(' ∉ ·) := by
    decide +kernel
  have hfree : (Cut.ofText "CREATE TABLE `__tbl1__(`.`t` ".toList).AllOutside
      (StemFree headTag) := by
    decide +kernel
  have hsame := ofHead_columns_unobserved heven hopen
  exact ⟨_, rfl, heven, hopen, hfree, hsame.1.mpr (hsame.2 hfree)⟩

/-- A table with a placeholder for its name is called after the first column. -/
theorem ofHead_columns_observed :
    "CREATE TABLE __tbl0__ ".toList.count backtick % 2 = 0 ∧
      (Cut.ofText "CREATE TABLE __tbl0__ ".toList).AllOutside ('(' ∉ ·) ∧
      ofHead ("CREATE TABLE __tbl0__ ".toList ++ '(' :: "`a` int)".toList) =
        .ok ⟨none, ['a']⟩ ∧
      ofHead ("CREATE TABLE __tbl0__ ".toList ++ '(' :: "`b` int)".toList) =
        .ok ⟨none, ['b']⟩ ∧
      ofHead ("CREATE TABLE __tbl0__ ".toList ++ ['(']) = .ok ⟨none, "__tbl0__".toList⟩ := by
  decide +kernel

end TableName
end SqlOutline
