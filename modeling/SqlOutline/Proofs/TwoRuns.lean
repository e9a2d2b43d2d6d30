import SqlOutline.Proofs.Sections
import SqlOutline.Query.Field
import SqlOutline.Query.TableRef

/-!
Two runs on one text.

The literals of a text, or of a part of it, are hidden in two ways, with other numbers or under
another tag, and all that the two runs hold differs in its placeholders alone (`Alike`). Each
operation on hidden texts takes texts that are alike to texts that are alike, and restoring them
makes them equal. The search for keywords needs that words break at the same places.
-/

namespace SqlOutline
open Unicode Placeholder

/-- `t₁` and `t₂` hide the same part of a text under the placeholders of two stores. -/
def Alike (P : Cut → Prop) (s₁ s₂ : LiteralStore) (t₁ t₂ : Text) : Prop :=
  ∃ i j c, P c ∧ Fits s₁ i c ∧ Fits s₂ j c ∧ c.hiddenAt s₁.tag i = t₁ ∧ c.hiddenAt s₂.tag j = t₂

/-- What holds of a cut holds of its two halves. -/
def Cut.Hereditary (P : Cut → Prop) : Prop := ∀ A B, P (A ++ B) → P A ∧ P B

/-- A cut without literals around another one can be taken off. -/
theorem Cut.Hereditary.inner {P : Cut → Prop} (hP : Hereditary P) {A B C : Cut}
    (h : P (A ++ B ++ C)) : P B :=
  (hP A B (hP _ C h).1).2

theorem getLast?_rel {α β : Type} {R : α → β → Prop} {l₁ : List α} {l₂ : List β}
    (h : List.Forall₂ R l₁ l₂) : Option.Rel R l₁.getLast? l₂.getLast? := by
  have hreverse := List.rel_reverse h
  rw [← List.head?_reverse, ← List.head?_reverse]
  generalize l₁.reverse = r₁ at hreverse ⊢
  generalize l₂.reverse = r₂ at hreverse ⊢
  cases hreverse with
  | nil => exact .none
  | cons h _ => exact .some h

theorem filter_rel {α β : Type} {R : α → β → Prop} {p : α → Bool} {q : β → Bool}
    (hpq : ∀ a b, R a b → p a = q b) {x : Option α} {y : Option β} (h : Option.Rel R x y) :
    Option.Rel R (x.filter p) (y.filter q) := by
  cases h with
  | none => exact .none
  | @some a b h =>
    rw [Option.filter_some, Option.filter_some, hpq a b h]
    split
    · exact .some h
    · exact .none

namespace Text

theorem splitOnP_eq_cutAt? (p : Char → Bool) (t : Text) :
    t.splitOnP p = match cutAt? p t with
      | none => [t]
      | some (a, b) => a :: b.splitOnP p := by
  cases hcut : cutAt? p t with
  | none => exact List.splitOnP_eq_singleton fun c hc => by simp [cutAt?_eq_none.mp hcut c hc]
  | some ab =>
    obtain ⟨a, b⟩ := ab
    obtain ⟨ha, c, hc, rfl⟩ := cutAt?_eq_some hcut
    rw [List.splitOnP_append_cons a b hc, List.splitOnP_eq_singleton ha]
    rfl

end Text

/-- The fields of a field list whose literals are hidden and kept in `store`. -/
def Field.ofHidden (store : LiteralStore) (hidden : Text) : List Field :=
  (((hidden.splitOn ',').map Text.trim).filter (!·.isEmpty)).map (ofEntry store)

theorem Field.ofClause_eq_ofHidden (tag clause : Text) : ofClause tag clause =
    ofHidden (.ofText tag clause) ((Cut.ofText clause).hiddenAt tag 0) := rfl

theorem TableRef.isSolid_of_isLabelKeyword {t : Text} (h : isLabelKeyword t = true) :
    ∀ c ∈ t, isSolid c = true := by
  have hletters : ∀ l ∈ ['a', 's'], l.isAlphanum = true := List.all_eq_true.mp (by decide)
  have hword : SameWord ['a', 's'] t := .of_map_toLower hletters (eq_of_beq h)
  exact hword.isSolid hletters

namespace Alike
variable {P : Cut → Prop} {s₁ s₂ : LiteralStore} {t₁ t₂ : Text}

theorem symm (h : Alike P s₁ s₂ t₁ t₂) : Alike P s₂ s₁ t₂ t₁ := by
  obtain ⟨i, j, c, hc, hfits₁, hfits₂, ht₁, ht₂⟩ := h
  exact ⟨j, i, c, hc, hfits₂, hfits₁, ht₂, ht₁⟩

/-- The two runs start with texts that are alike. -/
theorem ofText {tag₁ tag₂ t : Text} (h₁ : (Cut.ofText t).AllOutside (StemFree tag₁))
    (h₂ : (Cut.ofText t).AllOutside (StemFree tag₂)) (hP : P (Cut.ofText t)) :
    Alike P (.ofText tag₁ t) (.ofText tag₂ t) ((Cut.ofText t).hidden tag₁)
      ((Cut.ofText t).hidden tag₂) :=
  ⟨0, 0, Cut.ofText t, hP, fits_ofText h₁, fits_ofText h₂, rfl, rfl⟩

theorem isEmpty_eq (h : Alike P s₁ s₂ t₁ t₂) : t₁.isEmpty = t₂.isEmpty := by
  obtain ⟨i, j, c, -, -, -, rfl, rfl⟩ := h
  rw [Bool.eq_iff_iff, List.isEmpty_iff, List.isEmpty_iff, Cut.hiddenAt_eq_nil_iff,
    Cut.hiddenAt_eq_nil_iff]

/-- Without low lines a text has no placeholders, so that both runs hold the same. -/
theorem eq_of_lowLine_notMem (h : Alike P s₁ s₂ t₁ t₂) (ht : '_' ∉ t₁) : t₁ = t₂ := by
  obtain ⟨i, j, c, -, -, -, rfl, rfl⟩ := h
  rw [← Cut.eq_plain_of_lowLine_notMem ht, Cut.hiddenAt_plain, Cut.hiddenAt_plain]

/-- A label keyword has no low lines, so that it is the same text in both runs. -/
theorem isLabelKeyword_eq (h : Alike P s₁ s₂ t₁ t₂) :
    TableRef.isLabelKeyword t₁ = TableRef.isLabelKeyword t₂ := by
  have no_line : ∀ {t : Text}, TableRef.isLabelKeyword t = true → '_' ∉ t := fun ht hmem =>
    absurd (TableRef.isSolid_of_isLabelKeyword ht _ hmem) (by decide)
  rw [Bool.eq_iff_iff]
  constructor
  · intro ht
    rwa [← h.eq_of_lowLine_notMem (no_line ht)]
  · intro ht
    rwa [← h.symm.eq_of_lowLine_notMem (no_line ht)]

section
variable (h₁ : PlainTag s₁.tag) (h₂ : PlainTag s₂.tag)
include h₁ h₂

theorem restore_eq (h : Alike P s₁ s₂ t₁ t₂) : s₁.restore t₁ = s₂.restore t₂ := by
  obtain ⟨i, j, c, -, hfits₁, hfits₂, rfl, rfl⟩ := h
  rw [hfits₁.restore h₁, hfits₂.restore h₂]

omit h₂ in
/-- What a part is restored to has its cut. -/
theorem ofText_restore (h : Alike P s₁ s₂ t₁ t₂) : P (Cut.ofText (s₁.restore t₁)) := by
  obtain ⟨i, -, c, hc, hfits, -, rfl, -⟩ := h
  rwa [hfits.restore h₁, Cut.ofText_toText hfits.paired]

theorem map_restore_eq {x y : Option Text} (h : Option.Rel (Alike P s₁ s₂) x y) :
    x.map s₁.restore = y.map s₂.restore := by
  cases h with
  | none => rfl
  | some h => exact congrArg some (h.restore_eq h₁ h₂)

end

variable (hP : Cut.Hereditary P)
include hP

theorem trim (h : Alike P s₁ s₂ t₁ t₂) : Alike P s₁ s₂ (Text.trim t₁) (Text.trim t₂) := by
  obtain ⟨i, j, c, hc, hfits₁, hfits₂, rfl, rfl⟩ := h
  obtain ⟨g, C, g', rfl, hg, hg', htrim⟩ := c.exists_trimmed
  have trim_hidden : ∀ tag n,
      Text.trim ((Cut.plain g ++ C ++ Cut.plain g').hiddenAt tag n) = C.hiddenAt tag n := by
    intro tag n
    rw [Cut.hiddenAt_around_plain]
    exact Text.trim_eq_of_split hg hg' (Cut.isTrimmed_hiddenAt_iff.mpr htrim)
  rw [trim_hidden, trim_hidden]
  exact ⟨i, j, C, hP.inner hc, by simpa using hfits₁.of_append.1.of_append.2,
    by simpa using hfits₂.of_append.1.of_append.2, rfl, rfl⟩

/-- The two halves of a cut are alike in the two runs. -/
theorem of_append {i j : Nat} {A B : Cut} (hAB : P (A ++ B)) (hfits₁ : Fits s₁ i (A ++ B))
    (hfits₂ : Fits s₂ j (A ++ B)) :
    Alike P s₁ s₂ (A.hiddenAt s₁.tag i) (A.hiddenAt s₂.tag j) ∧
      Alike P s₁ s₂ (B.hiddenAt s₁.tag (i + A.names.length))
        (B.hiddenAt s₂.tag (j + A.names.length)) := by
  obtain ⟨hA, hB⟩ := hP A B hAB
  exact ⟨⟨i, j, A, hA, hfits₁.of_append.1, hfits₂.of_append.1, rfl, rfl⟩,
    ⟨_, _, B, hB, hfits₁.of_append.2, hfits₂.of_append.2, rfl, rfl⟩⟩

theorem nil (h : Alike P s₁ s₂ t₁ t₂) : Alike P s₁ s₂ [] [] := by
  obtain ⟨i, j, c, hc, hfits₁, hfits₂, rfl, rfl⟩ := h
  rw [← c.append_nil] at hc hfits₁ hfits₂
  simpa using (of_append hP hc hfits₁ hfits₂).2

section
variable (h₁ : PlainTag s₁.tag) (h₂ : PlainTag s₂.tag)
include h₁ h₂

variable {p : Char → Bool} (hp : ∀ x, isWordChar x = true → p x = false)
include hp

/-- Both runs cut at the same place, which no placeholder has. -/
theorem cutAt? (h : Alike P s₁ s₂ t₁ t₂) :
    (Text.cutAt? p t₁ = none ∧ Text.cutAt? p t₂ = none) ∨
      ∃ a₁ b₁ a₂ b₂, Text.cutAt? p t₁ = some (a₁, b₁) ∧ Text.cutAt? p t₂ = some (a₂, b₂) ∧
        Alike P s₁ s₂ a₁ a₂ ∧ Alike P s₁ s₂ b₁ b₂ := by
  obtain ⟨i, j, c, hc, hfits₁, hfits₂, rfl, rfl⟩ := h
  cases hcut : Text.cutAt? p (c.hiddenAt s₁.tag i) with
  | none =>
    rw [Text.cutAt?_eq_none, Cut.forall_mem_hiddenAt_iff h₁ hp] at hcut
    exact .inl ⟨rfl, Text.cutAt?_eq_none.mpr ((Cut.forall_mem_hiddenAt_iff h₂ hp).mpr hcut)⟩
  | some ab =>
    obtain ⟨a, b⟩ := ab
    obtain ⟨ha, x, hx, ht⟩ := Text.cutAt?_eq_some hcut
    have hword : isWordChar x = false := by
      rw [Bool.eq_false_iff]
      intro hw
      simp [hp x hw] at hx
    obtain ⟨A, D, rfl, rfl, hD⟩ := Cut.split_at_break h₁ ht (.inr (by simpa using hword))
    rw [← List.singleton_append] at hD
    obtain ⟨X, B, rfl, hX, rfl⟩ := Cut.split_at_break h₁ hD (.inl (by simpa using hword))
    have hline : '_' ∉ X.hiddenAt s₁.tag (i + A.names.length) := by
      rw [hX, List.mem_singleton]
      rintro rfl
      exact absurd hword (by decide)
    have hplain := Cut.eq_plain_of_lowLine_notMem hline
    rw [hX] at hplain
    subst hplain
    have ha' : ∀ y ∈ A.hiddenAt s₂.tag j, p y = false :=
      (Cut.forall_mem_hiddenAt_iff h₂ hp).mpr ((Cut.forall_mem_hiddenAt_iff h₁ hp).mp ha)
    obtain ⟨hA, hXB⟩ := of_append hP hc hfits₁ hfits₂
    obtain ⟨-, hB⟩ := of_append hP (hP _ _ hc).2 hfits₁.of_append.2 hfits₂.of_append.2
    refine .inr ⟨_, _, _, _, rfl, ?_, hA, hB⟩
    rw [Cut.hiddenAt_append, Cut.hiddenAt_append, Cut.hiddenAt_plain]
    exact Text.cutAt?_append_cons ha' hx

theorem splitOnP (h : Alike P s₁ s₂ t₁ t₂) :
    List.Forall₂ (Alike P s₁ s₂) (t₁.splitOnP p) (t₂.splitOnP p) := by
  induction hn : t₁.length using Nat.strongRecOn generalizing t₁ t₂ with
  | _ n ih =>
    rw [Text.splitOnP_eq_cutAt? p t₁, Text.splitOnP_eq_cutAt? p t₂]
    rcases h.cutAt? hP h₁ h₂ hp with ⟨hcut₁, hcut₂⟩ | ⟨a₁, b₁, a₂, b₂, hcut₁, hcut₂, ha, hb⟩
    · rw [hcut₁, hcut₂]
      exact .cons h .nil
    · rw [hcut₁, hcut₂]
      obtain ⟨-, x, -, rfl⟩ := Text.cutAt?_eq_some hcut₁
      refine .cons ha (ih b₁.length ?_ hb rfl)
      rw [← hn, List.length_append, List.length_cons]
      omega

end

section
variable (h₁ : PlainTag s₁.tag) (h₂ : PlainTag s₂.tag)
  (hbreaks : ∀ c, P c → c.SameBreaks s₁.tag s₂.tag)
include h₁ h₂ hbreaks

/-- Both runs find a keyword at the same place, or nowhere. -/
theorem find? (h : Alike P s₁ s₂ t₁ t₂) {k : Keyword} (hk : k.Plain) :
    (k.find? s₁.tag t₁ = none ∧ k.find? s₂.tag t₂ = none) ∨
      ∃ o₁ o₂, k.find? s₁.tag t₁ = some o₁ ∧ k.find? s₂.tag t₂ = some o₂ ∧
        Alike P s₁ s₂ o₁.before o₂.before ∧ Alike P s₁ s₂ o₁.after o₂.after ∧
        Alike P s₁ s₂ (o₁.found ++ o₁.after) (o₂.found ++ o₂.after) := by
  obtain ⟨i, j, c, hc, hfits₁, hfits₂, rfl, rfl⟩ := h
  cases hfind : k.find? s₁.tag (c.hiddenAt s₁.tag i) with
  | none => exact .inl ⟨rfl, Keyword.find?_rehidden_none h₁ h₂ hk (hbreaks c hc) hfind j⟩
  | some o =>
    obtain ⟨A, B, rfl, hA, hB, hfind₂⟩ :=
      Keyword.find?_rehidden h₁ h₂ hk (hbreaks c hc) hfind j
    obtain ⟨hbefore, hbody⟩ := of_append hP hc hfits₁ hfits₂
    obtain ⟨-, hafter⟩ := of_append hP (hP _ _ hc).2 hfits₁.of_append.2 hfits₂.of_append.2
    simp only [Cut.hiddenAt_append, Cut.hiddenAt_plain, Cut.names_plain, List.length_nil,
      Nat.add_zero, hA, hB] at hbefore hbody hafter
    exact .inr ⟨o, _, rfl, hfind₂, hbefore, hafter, hbody⟩

/-- Peeling takes the same clauses off both texts. -/
theorem peel (h : Alike P s₁ s₂ t₁ t₂) (cs : List Clause) :
    List.Forall₂ (fun e₁ e₂ => e₁.1 = e₂.1 ∧ Alike P s₁ s₂ e₁.2 e₂.2) (SqlOutline.peel s₁.tag cs t₁)
      (SqlOutline.peel s₂.tag cs t₂) := by
  induction cs generalizing t₁ t₂ with
  | nil => exact .nil
  | cons c cs ih =>
    rw [SqlOutline.peel, SqlOutline.peel]
    rcases h.find? hP h₁ h₂ hbreaks c.keyword_plain with
      ⟨hfind₁, hfind₂⟩ | ⟨o₁, o₂, hfind₁, hfind₂, hbefore, hafter, hwhole⟩
    · rw [hfind₁, hfind₂]
      exact ih h
    · rw [hfind₁, hfind₂]
      have hbody : Alike P s₁ s₂ (c.body o₁) (c.body o₂) := by
        unfold Clause.body
        split
        · exact hwhole
        · exact hafter
      exact .cons ⟨rfl, hbody.trim hP⟩ (ih hbefore)

theorem clausePieces (h : Alike P s₁ s₂ t₁ t₂) :
    List.Forall₂ (fun e₁ e₂ => e₁.1 = e₂.1 ∧ Alike P s₁ s₂ e₁.2 e₂.2)
      (SqlOutline.clausePieces s₁.tag t₁) (SqlOutline.clausePieces s₂.tag t₂) := by
  refine List.rel_filter ?_ (h.peel hP h₁ h₂ hbreaks Clause.peelOrder)
  intro e₁ e₂ he
  simp only [he.2.isEmpty_eq]

theorem divide (h : Alike P s₁ s₂ t₁ t₂) :
    Alike P s₁ s₂ (Field.divide s₁.tag t₁).1 (Field.divide s₂.tag t₂).1 ∧
      Option.Rel (Alike P s₁ s₂) (Field.divide s₁.tag t₁).2 (Field.divide s₂.tag t₂).2 := by
  unfold Field.divide
  rcases h.find? hP h₁ h₂ hbreaks (k := Field.labelKeyword) (by decide) with
    ⟨hfind₁, hfind₂⟩ | ⟨o₁, o₂, hfind₁, hfind₂, hbefore, hafter, -⟩
  · rw [hfind₁, hfind₂]
    exact ⟨h, .none⟩
  · rw [hfind₁, hfind₂]
    exact ⟨hbefore.trim hP, .some (hafter.trim hP)⟩

end

section
variable (h₁ : PlainTag s₁.tag) (h₂ : PlainTag s₂.tag)
include h₁ h₂

theorem splitQualifier (h : Alike P s₁ s₂ t₁ t₂) :
    Option.Rel (Alike P s₁ s₂) (Text.splitQualifier t₁).1 (Text.splitQualifier t₂).1 ∧
      Alike P s₁ s₂ (Text.splitQualifier t₁).2 (Text.splitQualifier t₂).2 := by
  have dot_parts : ∀ x, isWordChar x = true → (x == '.') = false := by
    intro x hx
    rw [beq_eq_false_iff_ne]
    rintro rfl
    exact absurd hx (by decide)
  unfold Text.splitQualifier
  rcases h.cutAt? hP h₁ h₂ dot_parts with
    ⟨hcut₁, hcut₂⟩ | ⟨a₁, b₁, a₂, b₂, hcut₁, hcut₂, ha, hb⟩
  · rw [hcut₁, hcut₂]
    exact ⟨.none, h⟩
  · rw [hcut₁, hcut₂]
    exact ⟨.some ha, hb⟩

theorem divide_source (h : Alike P s₁ s₂ t₁ t₂) :
    Alike P s₁ s₂ (TableRef.divide t₁).1 (TableRef.divide t₂).1 ∧
      Alike P s₁ s₂ (TableRef.divide t₁).2 (TableRef.divide t₂).2 := by
  unfold TableRef.divide
  rcases h.cutAt? hP h₁ h₂ (p := isWhiteSpace) (fun _ => not_isWhiteSpace_of_isWordChar) with
    ⟨hcut₁, hcut₂⟩ | ⟨a₁, b₁, a₂, b₂, hcut₁, hcut₂, ha, hb⟩
  · rw [hcut₁, hcut₂]
    exact ⟨h, h.nil hP⟩
  · rw [hcut₁, hcut₂]
    exact ⟨ha, hb⟩

/-- The last word is the same, and is the label keyword in both runs or in none. -/
theorem label (h : Alike P s₁ s₂ t₁ t₂) :
    Option.Rel (Alike P s₁ s₂)
      ((Text.words t₁).getLast?.filter (!TableRef.isLabelKeyword ·))
      ((Text.words t₂).getLast?.filter (!TableRef.isLabelKeyword ·)) := by
  have hwords : List.Forall₂ (Alike P s₁ s₂) (Text.words t₁) (Text.words t₂) := by
    refine List.rel_filter (fun w₁ w₂ hw => ?_)
      (h.splitOnP hP h₁ h₂ (fun _ => not_isWhiteSpace_of_isWordChar))
    simp only [hw.isEmpty_eq]
  exact filter_rel (fun w₁ w₂ hw => by rw [hw.isLabelKeyword_eq]) (getLast?_rel hwords)

theorem ofEntry_eq (hbreaks : ∀ c, P c → c.SameBreaks s₁.tag s₂.tag)
    (h : Alike P s₁ s₂ t₁ t₂) : Field.ofEntry s₁ t₁ = Field.ofEntry s₂ t₂ := by
  obtain ⟨hexpression, hlabel⟩ := h.divide hP h₁ h₂ hbreaks
  obtain ⟨htable, hcolumn⟩ := hexpression.splitQualifier hP h₁ h₂
  have hname : (Field.divide s₁.tag t₁).2.map (fun l => unquote (s₁.restore l)) =
      (Field.divide s₂.tag t₂).2.map (fun l => unquote (s₂.restore l)) := by
    simpa only [Option.map_map, Function.comp_def] using
      congrArg (Option.map unquote) (map_restore_eq h₁ h₂ hlabel)
  simp only [Field.ofEntry, Field.mk.injEq]
  exact ⟨hcolumn.restore_eq h₁ h₂, map_restore_eq h₁ h₂ htable,
    congrArg (Option.filter (!·.isEmpty)) hname⟩

/-- The fields are the same in both runs. -/
theorem ofHidden_eq (hbreaks : ∀ c, P c → c.SameBreaks s₁.tag s₂.tag)
    (h : Alike P s₁ s₂ t₁ t₂) : Field.ofHidden s₁ t₁ = Field.ofHidden s₂ t₂ := by
  have comma_parts : ∀ x, isWordChar x = true → (x == ',') = false := by
    intro x hx
    rw [beq_eq_false_iff_ne]
    rintro rfl
    exact absurd hx (by decide)
  have hparts := h.splitOnP hP h₁ h₂ comma_parts
  have htrimmed := List.rel_map (fun _ _ he => he.trim hP) hparts
  have hentries := List.rel_filter (p := (!·.isEmpty)) (q := (!·.isEmpty))
    (fun e₁ e₂ he => by simp only [he.isEmpty_eq]) htrimmed
  rw [← List.forall₂_eq_eq_eq]
  exact List.rel_map (fun _ _ he => he.ofEntry_eq hP h₁ h₂ hbreaks) hentries

end
end Alike
end SqlOutline
