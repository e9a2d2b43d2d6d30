import SqlOutline.Proofs.Restoring
import SqlOutline.Proofs.ScriptConcatenation
import SqlOutline.Proofs.Trimming

/-!
Blanks behind a text.

Blanks at the end of a text are trimmed off it and belong to no placeholder and no keyword. So a
head line with blanks behind it names the same table (`TableName.ofHead_append_blank`), and fails
with the same message where it names none.
-/

namespace SqlOutline
open Unicode Placeholder

/-- Spaces and tabs. -/
def Block.IsIndent (g : Text) : Prop := ∀ c ∈ g, isIndent c = true

instance : DecidablePred Block.IsIndent := fun g =>
  decidable_of_iff (g.all Block.isIndent = true) List.all_eq_true

theorem Block.isWhiteSpace_of_isIndent {c : Char} (h : isIndent c = true) :
    isWhiteSpace c = true := by
  have hcases : c = ' ' ∨ c = '\t' := by simpa [isIndent] using h
  rcases hcases with rfl | rfl <;> decide

namespace Block.IsIndent

theorem nil : IsIndent [] := List.forall_mem_nil _

variable {g : Text} (hg : IsIndent g)
include hg

theorem append {g' : Text} (hg' : IsIndent g') : IsIndent (g ++ g') := fun c hc =>
  (List.mem_append.mp hc).elim (hg c) (hg' c)

theorem blank : Blank g := fun c hc => isWhiteSpace_of_isIndent (hg c hc)

theorem notMem {x : Char} (hx : isIndent x = false) : x ∉ g := by
  intro hmem
  rw [hg x hmem] at hx
  exact Bool.false_ne_true hx.symm

end Block.IsIndent

theorem Text.trimStart_append_blank {g : Text} (hg : Blank g) (t : Text) :
    Text.trimStart (t ++ g) = Text.trimStart t ++ g ∨
      Text.trimStart (t ++ g) = [] ∧ Text.trimStart t = [] := by
  by_cases ht : Text.trimStart t = []
  · right
    have hall : ∀ c ∈ t, isWhiteSpace c = true := List.dropWhile_eq_nil_iff.mp ht
    refine ⟨List.dropWhile_eq_nil_iff.mpr fun c hc => ?_, ht⟩
    exact (List.mem_append.mp hc).elim (hall c) (hg c)
  · left
    exact (Block.span_append ht g).2

/-- What comes behind the last separator is the one part that grows with the text. -/
theorem exists_splitOn_append (x : Char) (t : Text) :
    ∃ ls l, ∀ s, x ∉ s → (t ++ s).splitOn x = ls ++ [l ++ s] := by
  by_cases ht : x ∈ t
  · obtain ⟨b, a, hform, hb⟩ := List.eq_append_cons_of_mem (List.mem_reverse.mpr ht)
    have ht : t = a.reverse ++ x :: b.reverse := by
      rw [← List.reverse_reverse t, hform]
      simp
    refine ⟨a.reverse.splitOn x, b.reverse, fun s hs => ?_⟩
    have hlast : x ∉ b.reverse ++ s := by
      simp [hb, hs]
    rw [ht, List.append_assoc, List.cons_append, ← List.splitOn_eq_singleton hlast]
    exact List.splitOnP_append_cons _ _ (by simp)
  · refine ⟨[], t, fun s hs => ?_⟩
    rw [List.splitOn_eq_singleton (by simp [ht, hs])]
    rfl

namespace TableName
variable {g : Text} (hg : Block.IsIndent g)
include hg

theorem quotedSpan?_append_blank (t : Text) : quotedSpan? (t ++ g) = quotedSpan? t := by
  obtain ⟨ls, l, hsplit⟩ := exists_splitOn_append backtick t
  have hlong := hsplit g (hg.notMem (by decide))
  have hshort := hsplit [] (by simp)
  rw [List.append_nil, List.append_nil] at hshort
  rw [quotedSpan?, quotedSpan?, hlong, hshort]
  rcases ls with _ | ⟨a, _ | ⟨b, _ | ⟨c, ls⟩⟩⟩
  · rfl
  · rfl
  · simp
  · simp [List.dropLast]

end TableName

namespace LiteralStore
variable {s : LiteralStore} (htag : '_' ∉ s.tag) {g : Text} (hg : Blank g)
include htag hg

theorem read?_append_blank (t : Text) :
    s.read? (t ++ g) = (s.read? t).map fun r => { r with rest := r.rest ++ g } := by
  have hrail := railed_beq htag
  apply Option.ext
  intro r
  rw [Option.map_eq_some_iff]
  constructor
  · intro h
    obtain ⟨hform, hspell⟩ := (read?_eq_some_iff hrail).mp h
    have hlow : ∀ c ∈ r.spelling.getLast?, isWhiteSpace c = false := by
      intro c hc
      have h : '_' = c := Option.some.inj ((hspell.getLast?_eq hrail).symm.trans hc)
      rw [← h]
      decide
    obtain ⟨b, ht, hb⟩ := hg.split_append hform hlow
    refine ⟨{ r with rest := b }, (read?_eq_some_iff hrail).mpr ⟨ht, hspell⟩, ?_⟩
    rw [hb]
  · rintro ⟨r', h, rfl⟩
    obtain ⟨rfl, hspell⟩ := (read?_eq_some_iff hrail).mp h
    exact (read?_eq_some_iff hrail).mpr ⟨(List.append_assoc _ _ _).symm, hspell⟩

omit hg in
theorem restore_blank {g : Text} (hg : Blank g) : s.restore g = g := by
  induction g with
  | nil => exact restore_nil s
  | cons c g ih =>
    have hread : s.read? (c :: g) = none := read?_append_blank htag hg []
    rw [restore_cons hread, ih fun d hd => hg d (List.mem_cons_of_mem c hd)]

/-- Blanks behind a text stay behind it when its placeholders are resolved. -/
theorem restore_append_blank (t : Text) : s.restore (t ++ g) = s.restore t ++ g := by
  induction hn : t.length using Nat.strongRecOn generalizing t with
  | _ n ih =>
    have hread := read?_append_blank htag hg t
    cases hr : s.read? t with
    | some r =>
      rw [hr] at hread
      have hrest := ih r.rest.length (hn ▸ Placeholder.rest_length_lt hr) r.rest rfl
      rw [restore_of_read hread, restore_of_read hr, List.append_assoc, ← hrest]
      rfl
    | none =>
      rw [hr] at hread
      cases t with
      | nil =>
        rw [List.nil_append, restore_nil, List.nil_append]
        exact restore_blank htag hg
      | cons c t =>
        have hrest := ih t.length (hn ▸ Nat.lt_succ_self _) t rfl
        rw [List.cons_append] at hread ⊢
        rw [restore_cons hread, restore_cons hr, hrest, List.cons_append]

end LiteralStore

theorem Cut.ofText_append_of_notMem {b : Text} (hb : backtick ∉ b) (t : Text) :
    ofText (t ++ b) = ofText t ++ plain b := by
  have paired : ∀ c : Cut, c.Paired → (c ++ plain b).Paired := by
    intro c
    induction c using Cut.induction with
    | plain t => simp [List.count_eq_zero.mpr hb]
    | literal r l c ih =>
      intro h
      obtain ⟨hr, hl, hc⟩ := paired_literal.mp h
      exact paired_literal.mpr ⟨hr, hl, ih hc⟩
  rw [← ofText_toText (paired _ (paired_ofText t)), toText_append, toText_ofText, toText_plain]

namespace TableName
variable {g : Text} (hg : Block.IsIndent g)
include hg

theorem beforeColumns_append_blank (t : Text) :
    beforeColumns (t ++ g) = beforeColumns t ++ g ∨ beforeColumns (t ++ g) = beforeColumns t := by
  have hcut := Cut.ofText_append_of_notMem (hg.notMem (x := backtick) (by decide)) t
  simp only [beforeColumns, hideLiterals, LiteralStore.ofText, hcut, Cut.hidden_eq,
    Cut.hiddenAt_append, Cut.hiddenAt_plain, Cut.names_append, Cut.names_plain, List.append_nil]
  by_cases hopen : ((Cut.ofText t).hiddenAt headTag 0).dropWhile (· != '(') = []
  · left
    have htag : '_' ∉ headTag := by decide
    have hall := List.dropWhile_eq_nil_iff.mp hopen
    have hblank : ∀ c ∈ g, (c != '(') = true := by
      intro c hc
      rw [bne_iff_ne]
      rintro rfl
      exact hg.notMem (by decide) hc
    rw [List.takeWhile_append_of_pos hall, List.takeWhile_eq_self_iff.mpr hall,
      List.takeWhile_eq_self_iff.mpr hblank]
    exact LiteralStore.restore_append_blank htag hg.blank _
  · right
    rw [(Block.span_append hopen g).1]

end TableName

theorem Keyword.read_ignores_blank {k : Keyword} (hk : k.Plain) {g : Text} (hg : Blank g)
    (t : Text) : k.read.Ignores g t := by
  apply Option.ext
  rintro ⟨f, r⟩
  rw [read_eq_some_iff hk, Option.map_eq_some_iff]
  constructor
  · rintro ⟨ht, hf⟩
    obtain ⟨b, rfl, rfl⟩ := hg.split_append ht (hf.last_not_isWhiteSpace hk)
    exact ⟨(f, b), (read_eq_some_iff hk).mpr ⟨rfl, hf⟩, rfl⟩
  · rintro ⟨⟨f', b⟩, hread, he⟩
    obtain ⟨rfl, rfl⟩ := Prod.mk.inj he
    obtain ⟨rfl, hf⟩ := (read_eq_some_iff hk).mp hread
    exact ⟨(List.append_assoc _ _ _).symm, hf⟩

/-- A run stops in front of characters that it cannot have. -/
theorem Reader.map_run_append {q : Char → Bool} {g : Text} (hg : ∀ c ∈ g, q c = false) (t : Text) :
    (run q (t ++ g)).map (·.1) = (run q t).map (·.1) := by
  have htake : g.takeWhile q = [] := by
    cases g with
    | nil => rfl
    | cons c g => rw [List.takeWhile_cons, hg c (List.mem_cons_self ..), if_neg Bool.false_ne_true]
  unfold run
  cases t with
  | nil =>
    cases g with
    | nil => rfl
    | cons c g =>
      have hc := hg c (List.mem_cons_self ..)
      simp [hc]
  | cons c t =>
    have hrest : ((c :: t) ++ g).takeWhile q = (c :: t).takeWhile q := by
      rw [List.takeWhile_append, htake]
      split
      · rename_i hlen
        rw [List.append_nil, (List.takeWhile_prefix q).eq_of_length hlen]
      · rfl
    rw [hrest, List.cons_append, List.head?_cons, List.head?_cons]
    split <;> rfl

section
variable {α : Type} {f : Text → Option α} {g : Text} (hnil : f [] = none)
  (hf : ∀ r, f (r ++ g) = f r) (hg : Blank g)
include hnil hf hg

/-- What is looked for behind white space is found when blanks come last, and nothing else is. -/
theorem bind_run_append_blank (t : Text) :
    (Reader.run isWhiteSpace (t ++ g)).bind (fun p => f p.2) =
      (Reader.run isWhiteSpace t).bind fun p => f p.2 := by
  have blank_none : ∀ {u : Text}, u.dropWhile isWhiteSpace = [] →
      (Reader.run isWhiteSpace u).bind (fun p => f p.2) = none := by
    intro u hu
    rw [Reader.run, hu]
    split
    · exact hnil
    · rfl
  by_cases ht : t.dropWhile isWhiteSpace = []
  · have htg : (t ++ g).dropWhile isWhiteSpace = [] := by
      rw [List.dropWhile_append_of_pos (List.dropWhile_eq_nil_iff.mp ht)]
      exact List.dropWhile_eq_nil_iff.mpr hg
    rw [blank_none ht, blank_none htg]
  · have hne : t ≠ [] := by
      rintro rfl
      exact ht rfl
    obtain ⟨htake, hdrop⟩ := Block.span_append ht g
    rw [Reader.run, Reader.run, List.head?_append_of_ne_nil _ hne, htake, hdrop]
    split
    · exact hf _
    · rfl

theorem Keyword.bind_behind_append_blank {k : Keyword} (hk : k.Plain) (t : Text) :
    ((k.read.andThen (Reader.run isWhiteSpace)) (t ++ g)).bind (fun p => f p.2) =
      ((k.read.andThen (Reader.run isWhiteSpace)) t).bind fun p => f p.2 := by
  have hread := k.read_ignores_blank hk hg t
  rw [Reader.Ignores] at hread
  unfold Reader.andThen
  rw [hread]
  cases k.read t with
  | none => rfl
  | some p =>
    obtain ⟨a, b⟩ := p
    have hrun := bind_run_append_blank hnil hf hg b
    simp only [Option.map_some, Option.bind_eq_bind, Option.bind_some]
    cases hb : Reader.run isWhiteSpace b <;>
      cases hbg : Reader.run isWhiteSpace (b ++ g) <;>
      rw [hb, hbg] at hrun <;> exact hrun

end

namespace TableName
variable {g : Text} (hg : Block.IsIndent g)
include hg

theorem readWord_append_blank (t : Text) :
    (readWord (t ++ g)).map (·.1) = (readWord t).map (·.1) := by
  apply Reader.map_run_append
  intro c hc
  rw [hg.blank c hc]
  rfl

theorem guardedWord?_append_blank (t : Text) : guardedWord? (t ++ g) = guardedWord? t := by
  have hform : ∀ u, guardedWord? u =
      (((guardKeyword.read.andThen (Reader.run isWhiteSpace)) u).bind fun p =>
        (readWord p.2).map (·.1)).or ((readWord u).map (·.1)) := by
    intro u
    rw [guardedWord?]
    cases (guardKeyword.read.andThen (Reader.run isWhiteSpace)) u with
    | none => rfl
    | some p =>
      obtain ⟨a, rest⟩ := p
      simp only [Option.bind_some]
      cases readWord rest <;> rfl
  have hplain : guardKeyword.Plain := by decide
  have hbehind := Keyword.bind_behind_append_blank (f := fun u => (readWord u).map (·.1)) rfl
    (readWord_append_blank hg) hg.blank hplain t
  rw [hform, hform]
  exact congrArg₂ Option.or hbehind (readWord_append_blank hg t)

theorem bareName?_append_blank (t : Text) : bareName? (t ++ g) = bareName? t := by
  have hform : ∀ u, bareName? u = ((createKeyword.read.andThen (Reader.run isWhiteSpace))
      (Text.trimStart u)).bind fun p => guardedWord? p.2 := fun u => rfl
  rw [hform, hform]
  rcases Text.trimStart_append_blank hg.blank t with h | ⟨h, h'⟩
  · rw [h]
    exact Keyword.bind_behind_append_blank rfl (guardedWord?_append_blank hg) hg.blank
      createKeyword_plain _
  · rw [h, h']

theorem ofHead_append_blank (t : Text) : ofHead (t ++ g) = ofHead t := by
  unfold ofHead
  rcases beforeColumns_append_blank hg t with h | h
  · simp only [h, quotedSpan?_append_blank hg, bareName?_append_blank hg,
      Text.trim_append_blank hg.blank]
  · rw [h]

end TableName

end SqlOutline
