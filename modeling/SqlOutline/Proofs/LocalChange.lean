import SqlOutline.Proofs.ScriptConcatenation

/-!
Texts that differ in one place.

Two texts `x ++ (m ++ y)` and `x ++ (m' ++ y)` are read side by side. A reader treats them in the
same way when it refuses both, takes the same part of `x` off both, or takes off a part with the
whole difference in it (`Reader.Alongside`). What is left may then be read on side by side, and a
statement is read line by line (`Draft.ofFront_append`).
-/

namespace SqlOutline
open Unicode

/-- What a reader makes of `x ++ (m ++ y)` and `x ++ (m' ++ y)` when it ignores the difference. -/
inductive Reader.Alongside (x m m' y : Text) :
    Option (Text × Text) → Option (Text × Text) → Prop
  | none : Alongside x m m' y none none
  | before {a u : Text} (h : a ++ u = x) :
      Alongside x m m' y (some (a, u ++ (m ++ y))) (some (a, u ++ (m' ++ y)))
  | behind {v r : Text} (h : v ++ r = y) :
      Alongside x m m' y (some (x ++ (m ++ v), r)) (some (x ++ (m' ++ v), r))

namespace Reader.Alongside
variable {x m m' y : Text}

theorem at_end : Alongside x m m' y (some (x ++ m, y)) (some (x ++ m', y)) := by
  have h : Alongside x m m' y (some (x ++ (m ++ []), y)) (some (x ++ (m' ++ []), y)) := .behind rfl
  rwa [List.append_nil, List.append_nil] at h

/-- A reader that goes on where another one stopped. -/
theorem andThen {r s : Reader} (hs : s.Faithful)
    (h : Alongside x m m' y (r (x ++ (m ++ y))) (r (x ++ (m' ++ y))))
    (hnext : ∀ a u, a ++ u = x → r (x ++ (m ++ y)) = some (a, u ++ (m ++ y)) →
      Alongside u m m' y (s (u ++ (m ++ y))) (s (u ++ (m' ++ y)))) :
    Alongside x m m' y ((r.andThen s) (x ++ (m ++ y))) ((r.andThen s) (x ++ (m' ++ y))) := by
  unfold Reader.andThen
  generalize hr : r (x ++ (m ++ y)) = e at h hnext ⊢
  generalize r (x ++ (m' ++ y)) = e' at h ⊢
  cases h with
  | none => exact .none
  | @before a u ha =>
    have hu := hnext a u ha rfl
    simp only [Option.bind_eq_bind, Option.bind_some]
    generalize s (u ++ (m ++ y)) = f at hu ⊢
    generalize s (u ++ (m' ++ y)) = f' at hu ⊢
    cases hu with
    | none => exact .none
    | @before b w hb => exact .before (by rw [List.append_assoc, hb, ha])
    | @behind v r hv =>
      simp only [Option.bind_some, ← List.append_assoc a, ha]
      exact .behind hv
  | @behind v r hv =>
    simp only [Option.bind_eq_bind, Option.bind_some]
    cases hsr : s r with
    | none => exact .none
    | some p =>
      obtain ⟨b, r'⟩ := p
      have hform := hs hsr
      simp only [Option.bind_some, List.append_assoc]
      exact .behind (by rw [List.append_assoc, hform, hv])

/-- One character in front goes to what is read. -/
theorem cons {e e' : Option (Text × Text)} (h : Alongside x m m' y e e') (c : Char) :
    Alongside (c :: x) m m' y (e.map fun (a, b) => (c :: a, b))
      (e'.map fun (a, b) => (c :: a, b)) := by
  cases h with
  | none => exact .none
  | before ha => exact .before (by rw [List.cons_append, ha])
  | behind hv => exact .behind hv

/-- A reader that ignores what is behind `x` in each of the texts takes the same part of it. -/
theorem of_ignores_each {r : Reader} (hr : r.Faithful) (h : r.Ignores (m ++ y) x)
    (h' : r.Ignores (m' ++ y) x) :
    Alongside x m m' y (r (x ++ (m ++ y))) (r (x ++ (m' ++ y))) := by
  rw [h, h']
  cases hx : r x with
  | none => exact .none
  | some p =>
    obtain ⟨a, u⟩ := p
    exact .before (hr hx)

theorem of_ignores {r : Reader} (hr : r.Faithful) (h : ∀ s, r.Ignores s x) :
    Alongside x m m' y (r (x ++ (m ++ y))) (r (x ++ (m' ++ y))) :=
  of_ignores_each hr (h _) (h _)

/-- One of the texts is read to its end where the other is. -/
theorem whole_iff {e e' : Option (Text × Text)} (h : Alongside x m m' y e e')
    (hm : m ++ y ≠ []) (hm' : m' ++ y ≠ []) :
    e = some (x ++ (m ++ y), []) ↔ e' = some (x ++ (m' ++ y), []) := by
  cases h with
  | none => simp
  | before ha => simp [hm, hm']
  | behind hv => simp only [Option.some.injEq, Prod.mk.injEq, List.append_cancel_left_eq]

end Reader.Alongside

namespace Block
open Reader

theorem atLineEnd_cases {t : Text} (h : atLineEnd t = true) : t = [] ∨ ∃ s, t = '\n' :: s := by
  cases t with
  | nil => exact .inl rfl
  | cons c t =>
    obtain rfl : c = '\n' := by simpa [atLineEnd] using h
    exact .inr ⟨t, rfl⟩

theorem atLineEnd_of_append {s t : Text} (h : atLineEnd (s ++ t) = true) : atLineEnd s = true := by
  cases s with
  | nil => rfl
  | cons c s => exact h

/-- Where no semicolon stands, a statement does not end. -/
theorem readToEnd_cons {c : Char} (hc : c ≠ ';') (t : Text) :
    readToEnd (c :: t) = (readToEnd t).map fun (a, b) => (c :: a, b) := by
  rw [readToEnd, if_neg hc]

/-- A statement is read to its end alongside another one if the ends of lines in `x` are and so is
what follows `x`. -/
theorem readToEnd_alongside {x m m' y : Text}
    (hline : ∀ u, ';' :: u <:+ x → Alongside u m m' y (readLineEnd (u ++ (m ++ y)))
      (readLineEnd (u ++ (m' ++ y))))
    (hrest : Alongside [] m m' y (readToEnd (m ++ y)) (readToEnd (m' ++ y))) :
    Alongside x m m' y (readToEnd (x ++ (m ++ y))) (readToEnd (x ++ (m' ++ y))) := by
  induction x with
  | nil => exact hrest
  | cons c x ih =>
    have hx := ih fun u hu => hline u (hu.trans (List.suffix_cons c x))
    rw [List.cons_append, List.cons_append, readToEnd, readToEnd]
    by_cases hc : c = ';'
    · have hend := hline x (hc ▸ List.suffix_rfl)
      rw [if_pos hc, if_pos hc]
      generalize readLineEnd (x ++ (m ++ y)) = e at hend ⊢
      generalize readLineEnd (x ++ (m' ++ y)) = e' at hend ⊢
      cases hend with
      | none => exact hx.cons c
      | before ha => exact .before (by rw [List.cons_append, ha])
      | behind hv => exact .behind hv
    · rw [if_neg hc, if_neg hc]
      exact hx.cons c

/-- Behind anything but indentation, the end of a line is read without what comes next, unless a
carriage return stands there. -/
theorem readLineEnd_ignores_of_last {u : Text} (hne : u.dropWhile isIndent ≠ [])
    (hlast : u.getLast? ≠ some '\r') (s : Text) : readLineEnd.Ignores s u := by
  obtain ⟨htake, hdrop⟩ := span_append hne s
  obtain ⟨c, rest, hc⟩ := List.exists_cons_of_ne_nil hne
  rw [Reader.Ignores, readLineEnd, readLineEnd, htake, hdrop, hc]
  simp only [List.cons_append]
  by_cases hrest : rest = []
  · have hreturn : c ≠ '\r' := by
      intro h
      apply hlast
      rw [← List.takeWhile_append_dropWhile (p := isIndent) (l := u), hc, hrest, h]
      exact List.getLast?_concat
    simp only [hreturn, decide_false, Bool.false_and, Bool.false_eq_true, if_false]
    split <;> rfl
  · have hend : atLineEnd (rest ++ s) = atLineEnd rest := by
      rw [atLineEnd, atLineEnd, List.head?_append_of_ne_nil _ hrest]
    rw [hend]
    split
    · rfl
    · split <;> rfl

/-- Behind a character that ends the keyword, statements are read alongside each other if the ends of
lines are and so is what follows. -/
theorem read_alongside_of_mem {x m m' y : Text} {c : Char} (hc : c ∈ x)
    (hindent : isIndent c = false) (hsolid : isSolid c = false) (hspace : isWhiteSpace c = false)
    (hline : ∀ u, ';' :: u <:+ x → Alongside u m m' y (readLineEnd (u ++ (m ++ y)))
      (readLineEnd (u ++ (m' ++ y))))
    (hrest : Alongside [] m m' y (readToEnd (m ++ y)) (readToEnd (m' ++ y))) :
    Alongside x m m' y (read (x ++ (m ++ y))) (read (x ++ (m' ++ y))) := by
  refine Alongside.andThen (andThen_faithful TableName.createKeyword.readWhole_faithful
    readToEnd_faithful) ?_ ?_
  · exact .of_ignores readIndent_faithful (readIndent_ignores hc hindent)
  · intro b u hu hread
    have hmem : c ∈ u := by
      apply (List.mem_append.mp (hu ▸ hc)).resolve_left
      intro hb
      rw [← (Prod.mk.inj (Option.some.inj hread)).1] at hb
      rw [List.mem_takeWhile_imp hb] at hindent
      exact Bool.false_ne_true hindent.symm
    refine Alongside.andThen readToEnd_faithful ?_ ?_
    · exact .of_ignores TableName.createKeyword.readWhole_faithful
        (Keyword.readWhole_ignores TableName.createKeyword_plain hsolid hspace hmem)
    · intro f v hv _
      apply readToEnd_alongside _ hrest
      intro w hw
      apply hline
      rw [← hu, ← hv]
      exact (hw.trans (List.suffix_append f v)).trans (List.suffix_append b _)

end Block

/-! Statements line by line. -/

theorem bodyLines_append (ls ms : List Text) :
    bodyLines (ls ++ ms) = bodyLines ls ++ bodyLines ms := by
  simp [bodyLines]

/-- Lines behind others are taken up after these. -/
theorem Draft.ofFront_append (a b : Text) :
    ofFront (a ++ '\n' :: b) =
      ofFront a >>= fun d => (bodyLines (b.splitOn '\n')).foldlM step d := by
  have hsplit : (a ++ '\n' :: b).splitOn '\n' = a.splitOn '\n' ++ b.splitOn '\n' :=
    List.splitOnP_append_cons a b (by simp)
  obtain ⟨l, ls, hl⟩ := List.exists_cons_of_ne_nil (List.splitOn_ne_nil '\n' a)
  unfold ofFront
  rw [hsplit, hl]
  simp only [List.cons_append, List.headD_cons, List.tail_cons, bodyLines_append,
    List.foldlM_append]
  cases TableName.ofHead l with
  | error e => rfl
  | ok name => rfl

end SqlOutline
