import SqlOutline.Proofs.HiddenText

/-!
Names as queries write them, with a qualifier in front or without.

The dots in a literal are hidden with it. So a qualified name falls apart where its qualifier was
written, and restoring the parts gives them back (`QualifiedName.restored`).
-/

namespace SqlOutline
open Unicode Placeholder

/-- A name between backticks, or a bare one as `p` allows. -/
def QuotedOr (p : Text → Prop) (t : Text) : Prop := (∃ l, backtick ∉ l ∧ enquote l = t) ∨ p t

namespace QuotedOr
variable {p : Text → Prop} {t : Text} (h : QuotedOr p t)
include h

theorem imp {q : Text → Prop} (hpq : p t → q t) : QuotedOr q t := Or.imp_right hpq h

theorem ne_nil (hp : p t → t ≠ []) : t ≠ [] := by
  rcases h with ⟨l, -, rfl⟩ | ht
  · simp [enquote]
  · exact hp ht

theorem hidden_ne_nil (hp : p t → t ≠ []) (tag : Text) (i : Nat) :
    (Cut.ofText t).hiddenAt tag i ≠ [] := by
  have hne := h.ne_nil hp
  simpa using hne

variable (hp : p t → backtick ∉ t)
include hp

theorem even : t.count backtick % 2 = 0 := by
  rcases h with ⟨l, hl, rfl⟩ | ht
  · rw [Cut.count_enquote hl]
  · rw [List.count_eq_zero.mpr (hp ht)]

/-- Outside literals a name has its bare text, or nothing. -/
theorem allOutside {q : Text → Prop} (hnil : q []) (hpq : p t → q t) :
    (Cut.ofText t).AllOutside q := by
  rcases h with ⟨l, hl, rfl⟩ | ht
  · rw [Cut.ofText_enquote hl]
    simpa using hnil
  · rw [Cut.ofText_of_notMem (hp ht)]
    simpa using hpq ht

theorem stemFree {tag : Text} (hs : p t → StemFree tag t) :
    (Cut.ofText t).AllOutside (StemFree tag) :=
  h.allOutside hp (fun c _ hin => by simp [rail] at hin) hs

end QuotedOr

/-- A name behind its qualifier and a dot, if it has one. -/
def qualify : Option Text → Text → Text
  | some qualifier, name => qualifier ++ '.' :: name
  | none, name => name

theorem forall_mem_qualify {p : Char → Prop} {q : Option Text} {n : Text}
    (hq : ∀ t ∈ q, ∀ x ∈ t, p x) (hdot : p '.') (hn : ∀ x ∈ n, p x) : ∀ x ∈ qualify q n, p x := by
  cases q with
  | none => exact hn
  | some t => exact List.forall_mem_append.mpr ⟨hq t rfl, List.forall_mem_cons.mpr ⟨hdot, hn⟩⟩

theorem qualify_ne_nil (q : Option Text) {n : Text} (hn : n ≠ []) : qualify q n ≠ [] := by
  cases q <;> simp [qualify, hn]

theorem qualify_some (q n : Text) : qualify (some q) n = q ++ ['.'] ++ n := by
  simp [qualify]

theorem even_qualify {q : Option Text} {n : Text} (hq : ∀ t ∈ q, t.count backtick % 2 = 0)
    (hn : n.count backtick % 2 = 0) : (qualify q n).count backtick % 2 = 0 := by
  cases q with
  | none => exact hn
  | some t =>
    rw [qualify_some]
    exact Cut.even_between (hq t rfl) (by decide) hn

/-- A qualified name is split where it was put together. -/
theorem splitQualifier_qualify {q : Option Text} {n : Text} (hq : ∀ t ∈ q, '.' ∉ t)
    (hn : q = none → '.' ∉ n) : Text.splitQualifier (qualify q n) = (q, n) := by
  have undotted : ∀ {t : Text}, '.' ∉ t → ∀ x ∈ t, (x == '.') = false := fun ht x hx =>
    beq_eq_false_iff_ne.mpr fun hdot => ht (hdot ▸ hx)
  cases q with
  | none =>
    have hcut := Text.cutAt?_eq_none.mpr (undotted (hn rfl))
    simp only [qualify, Text.splitQualifier, hcut]
  | some t =>
    have hcut : Text.cutAt? (· == '.') (t ++ '.' :: n) = some (t, n) :=
      Text.cutAt?_append_cons (undotted (hq t rfl)) (by simp)
    simp only [qualify, Text.splitQualifier, hcut]

/-- The names can be told apart once they are hidden: the first dot outside literals is the one
between them, and all placeholders are those of their literals. -/
structure QualifiedName (tag : Text) (q : Option Text) (n : Text) : Prop where
  even : ∀ t ∈ q, t.count backtick % 2 = 0
  stemFree : ∀ t ∈ q, (Cut.ofText t).AllOutside (StemFree tag)
  undotted : ∀ t ∈ q, (Cut.ofText t).AllOutside ('.' ∉ ·)
  name_stemFree : (Cut.ofText n).AllOutside (StemFree tag)
  name_undotted : q = none → (Cut.ofText n).AllOutside ('.' ∉ ·)

namespace QualifiedName
variable {s : LiteralStore} {q : Option Text} {n : Text} (h : QualifiedName s.tag q n)
  (htag : PlainTag s.tag) {i : Nat}
  (hnames : (Cut.ofText (qualify q n)).names <+: s.names.drop i)
include h hnames

/-- What hides the name is put together from what hides its parts, and these can be restored. -/
theorem hiddenAt_parts :
    ∃ j, (Cut.ofText (qualify q n)).hiddenAt s.tag i =
        qualify (q.map fun t => (Cut.ofText t).hiddenAt s.tag i) ((Cut.ofText n).hiddenAt s.tag j) ∧
      (∀ t ∈ q, Fits s i (Cut.ofText t)) ∧ Fits s j (Cut.ofText n) := by
  cases q with
  | none => exact ⟨i, rfl, by simp, Cut.paired_ofText n, h.name_stemFree, hnames⟩
  | some t =>
    have hdot : backtick ∉ ['.'] := by decide
    rw [qualify_some, Cut.names_ofText_between (h.even t rfl) hdot] at hnames
    obtain ⟨ht, hn⟩ := isPrefix_drop_of_append hnames
    refine ⟨i + (Cut.ofText t).names.length, ?_, ?_, Cut.paired_ofText n, h.name_stemFree, hn⟩
    · rw [qualify_some, Cut.hiddenAt_ofText_between (h.even t rfl) hdot]
      simp [qualify]
    · simpa using (⟨Cut.paired_ofText t, h.stemFree t rfl, ht⟩ : Fits s i (Cut.ofText t))

include htag

theorem restored :
    (Text.splitQualifier ((Cut.ofText (qualify q n)).hiddenAt s.tag i)).1.map s.restore = q ∧
      s.restore (Text.splitQualifier ((Cut.ofText (qualify q n)).hiddenAt s.tag i)).2 = n := by
  obtain ⟨j, hform, hq, hn⟩ := h.hiddenAt_parts hnames
  have hdot : isWordChar '.' = false := by decide
  have hsplit := splitQualifier_qualify (q := q.map fun t => (Cut.ofText t).hiddenAt s.tag i)
    (n := (Cut.ofText n).hiddenAt s.tag j)
    (by simpa using fun t ht => (Cut.notMem_hiddenAt_iff htag hdot).mpr (h.undotted t ht))
    (by simpa using fun hq => (Cut.notMem_hiddenAt_iff htag hdot).mpr (h.name_undotted hq))
  rw [hform, hsplit]
  constructor
  · cases q with
    | none => rfl
    | some t => simpa using (hq t rfl).restore htag
  · simpa using hn.restore htag

end QualifiedName
end SqlOutline
