import SqlOutline.Proofs.Seam
import SqlOutline.Proofs.Sections

/-!
Peeling a statement that was written out clause by clause.

The statement is given with its literals hidden. Each text lacks the keywords that are searched
before its own, and no keyword reaches from one part into the next. So each search ends at the
keyword that was written, and the clauses that come off are those that were put in.
-/

namespace SqlOutline
open Unicode Placeholder

/-- Two clauses in the order in which they are cut off have keywords that cannot be mistaken. -/
theorem keywords_apart : ∀ d ∈ Clause.peelOrder, ∀ c ∈ Clause.peelOrder,
    [d, c].Sublist Clause.peelOrder → d.keyword.PartsFrom c.keyword ∧
      (c.keepsKeyword = false → ∀ p ∈ d.keyword.spellings, ∀ w ∈ p.head?,
        ∀ r ∈ c.keyword.spellings, ∀ v ∈ r, wordsClash w v = true) := by
  decide

/-- No keyword is parted by itself, except that of the joins. -/
theorem keyword_partsFrom_self {c : Clause} (h : c.keepsKeyword = false) :
    c.keyword.PartsFrom c.keyword := by
  revert h
  cases c <;> decide

theorem partsFrom_of_sublist {d c : Clause} (h : [d, c].Sublist Clause.peelOrder) :
    d.keyword.PartsFrom c.keyword :=
  (keywords_apart d d.mem_peelOrder c c.mem_peelOrder h).1

/-- `P` is the clause `c` with the text `T`, as it stands in a statement whose literals are
hidden. -/
structure HiddenClause (tag : Text) (c : Clause) (T P : Text) : Prop where
  trimmed : IsTrimmed T
  ne_nil : T ≠ []
  opened : ∃ f z g, f ++ z = P ∧ Bounded c.keyword tag ⟨[], f, z⟩ ∧ Blank g ∧
    g ++ T = c.body ⟨[], f, z⟩
  ends : ∃ y, y ++ T = P ∧ ∀ x ∈ y.getLast?, isWhiteSpace x = true
  lacks : ∀ d, [d, c].Sublist Clause.peelOrder → Lacks d.keyword tag P

/-- `H` has the clauses `es`, the last one first, with white space in between that no keyword
reaches over. -/
inductive HiddenStatement (tag : Text) : List (Clause × Text) → Text → Prop
  | first {c : Clause} {T P : Text} (h : HiddenClause tag c T P) : HiddenStatement tag [(c, T)] P
  | behind {es : List (Clause × Text)} {Q g : Text} {c : Clause} {T P : Text}
      (hq : HiddenStatement tag es Q) (hg : IsGap g) (h : HiddenClause tag c T P)
      (hapart : ∀ x, ¬ c.keyword.Straddles tag Q (P ++ x)) :
      HiddenStatement tag ((c, T) :: es) (Q ++ g ++ P)

namespace HiddenClause
variable {tag : Text} {c : Clause} {T P : Text}

theorem last_not_isWhiteSpace (h : HiddenClause tag c T P) :
    ∀ x ∈ P.getLast?, isWhiteSpace x = false := by
  obtain ⟨y, rfl, -⟩ := h.ends
  rw [List.getLast?_append_of_ne_nil _ h.ne_nil]
  exact h.trimmed.back

theorem head_not_isWhiteSpace (h : HiddenClause tag c T P) :
    ∀ x ∈ P.head?, isWhiteSpace x = false := by
  obtain ⟨f, z, g, rfl, ho, -, -⟩ := h.opened
  rw [List.head?_append_of_ne_nil _ (ho.found_ne_nil c.keyword_plain)]
  exact ho.spelled.head_not_isWhiteSpace c.keyword_plain

/-- With white space behind it a clause still opens with its keyword and says the same. -/
theorem opened_blank (h : HiddenClause tag c T P) {x : Text} (hx : Blank x) :
    ∃ f z, f ++ z = P ++ x ∧ Bounded c.keyword tag ⟨[], f, z⟩ ∧
      ∀ a, Text.trim (c.body ⟨a, f, z⟩) = T := by
  obtain ⟨f, z, g, rfl, ho, hg, hbody⟩ := h.opened
  refine ⟨f, z ++ x, by simp, ⟨ho.spelled, ho.left, ho.right.append_blank hx⟩, fun a => ?_⟩
  have happend : c.body ⟨a, f, z ++ x⟩ = c.body ⟨[], f, z⟩ ++ x := by
    simp only [Clause.body]
    split <;> simp
  rw [happend, ← hbody]
  exact Text.trim_eq_of_split hg hx h.trimmed

end HiddenClause

section
variable {tag : Text} (htag : PlainTag tag)
include htag

theorem peel_nil (cs : List Clause) : peel tag cs [] = [] := by
  induction cs with
  | nil => rfl
  | cons d cs ih => rw [peel, (lacks_iff htag d.keyword_plain).mp (lacks_nil d.keyword_plain), ih]

namespace HiddenStatement
variable {es : List (Clause × Text)} {H : Text}

omit htag in
theorem last_not_isWhiteSpace (h : HiddenStatement tag es H) :
    ∀ x ∈ H.getLast?, isWhiteSpace x = false := by
  cases h with
  | first h => exact h.last_not_isWhiteSpace
  | behind hq hg h hapart =>
    obtain ⟨y, hy, -⟩ := h.ends
    rw [List.getLast?_append_of_ne_nil _ (by simp [← hy, h.ne_nil])]
    exact h.last_not_isWhiteSpace

/-- A statement lacks the keyword of a clause that is cut off before all of its own. -/
theorem lacks (h : HiddenStatement tag es H) {d : Clause}
    (hd : ∀ e ∈ es, [d, e.1].Sublist Clause.peelOrder) : Lacks d.keyword tag H := by
  induction h with
  | @first c T P h => exact h.lacks d (hd (c, T) (by simp))
  | @behind es Q g c T P hq hg h hapart ih =>
    have hdc : [d, c].Sublist Clause.peelOrder := hd (c, T) (by simp)
    obtain ⟨f, z, -, hf, ho, -, -⟩ := h.opened
    have hno := (partsFrom_of_sublist hdc).not_straddles d.keyword_plain c.keyword_plain ho.spelled
      ⟨z, hf⟩ tag Q
    exact Lacks.seam htag d.keyword_plain (ih fun e he => hd e (by simp [he])) (h.lacks d hdc) hno
      hg hq.last_not_isWhiteSpace h.head_not_isWhiteSpace

theorem lacks_of_sublist (h : HiddenStatement tag es H) {d : Clause} {cs : List Clause}
    (hcs : (d :: cs).Sublist Clause.peelOrder) (hes : (es.map (·.1)).Sublist cs) :
    Lacks d.keyword tag H := by
  refine h.lacks htag fun e he => List.Sublist.trans ?_ hcs
  have hmem : e.1 ∈ cs := hes.subset (List.mem_map_of_mem he)
  exact (List.singleton_sublist.mpr hmem).cons_cons d

/-- Peeling takes a statement apart into its clauses. -/
theorem peel_eq (h : HiddenStatement tag es H) {cs : List Clause}
    (hcs : cs.Sublist Clause.peelOrder) (hes : (es.map (·.1)).Sublist cs) {x : Text}
    (hx : Blank x) : peel tag cs (H ++ x) = es := by
  induction cs generalizing es H x with
  | nil =>
    cases h with
    | first h => simp at hes
    | behind hq hg h hapart => simp at hes
  | cons d cs ih =>
    have hcs' : cs.Sublist Clause.peelOrder := (List.sublist_cons_self d cs).trans hcs
    rw [peel]
    rcases List.sublist_cons_iff.mp hes with hes' | ⟨ds, hds, hes'⟩
    · have hlacks := h.lacks_of_sublist htag hcs hes'
      have hblank := (lacks_append_blank_iff htag d.keyword_plain hx).mpr hlacks
      rw [(lacks_iff htag d.keyword_plain).mp hblank]
      exact ih h hcs' hes' hx
    · cases h with
      | @first c T P h =>
        obtain ⟨rfl, rfl⟩ : c = d ∧ [] = ds := by simpa using hds
        obtain ⟨f, z, hf, ho, htrim⟩ := h.opened_blank hx
        rw [← hf, find?_at_start htag c.keyword_plain ho]
        simp only [htrim, peel_nil htag]
      | @behind es Q g c T P hq hg h hapart =>
        obtain ⟨rfl, rfl⟩ : c = d ∧ es.map (·.1) = ds := by simpa using hds
        obtain ⟨f, z, hf, ho, htrim⟩ := h.opened_blank hx
        have hlacks := hq.lacks_of_sublist htag hcs hes'
        have hfind := find?_behind_gap htag c.keyword_plain hlacks (hf ▸ hapart x) hg
          hq.last_not_isWhiteSpace ho
        rw [List.append_assoc, ← hf, hfind]
        simp only [htrim, ih hq hcs' hes' hg.2]

end HiddenStatement

end
end SqlOutline
