import SqlOutline.Proofs.LocalChange
import SqlOutline.Proofs.TrailingBlank
import SqlOutline.Proofs.WrittenScript

/-!
Blanks at the ends of lines.

Spaces and tabs in front of a line break mean nothing, in a head line as in all others, also where
the line is faulty (`Script.tables_blank_at_lineEnd`). One carriage return may stand between a
semicolon and its line break, and no blank behind that.
-/

namespace SqlOutline
open Unicode

theorem Draft.ofFront_append_blank {g : Text} (hg : Block.IsIndent g) (t : Text) :
    ofFront (t ++ g) = ofFront t := by
  obtain ⟨ls, l, hsplit⟩ := exists_splitOn_append '\n' t
  have hlong := hsplit g (hg.notMem (by decide))
  have hshort := hsplit [] (by simp)
  rw [List.append_nil, List.append_nil] at hshort
  unfold ofFront
  rw [hlong, hshort]
  cases ls with
  | nil =>
    simp only [List.nil_append, List.headD_cons, List.tail_cons]
    rw [TableName.ofHead_append_blank hg]
  | cons h ls =>
    have hbody : bodyLines [l ++ g] = bodyLines [l] := by
      rw [bodyLines, bodyLines, List.map_singleton, List.map_singleton,
        Text.trim_append_blank hg.blank]
    simp only [List.cons_append, List.headD_cons, List.tail_cons, bodyLines_append, hbody]

/-- Blanks in front of a line break are not seen in a statement. -/
theorem Table.ofBlock_blank {g y : Text} (hg : Block.IsIndent g) (hy : Block.atLineEnd y = true)
    (x : Text) : ofBlock (x ++ (g ++ y)) = ofBlock (x ++ y) := by
  rw [ofBlock, ofBlock]
  rcases Block.atLineEnd_cases hy with rfl | ⟨t, rfl⟩
  · rw [List.append_nil, List.append_nil, Draft.ofFront_append_blank hg]
  · rw [← List.append_assoc, Draft.ofFront_append, Draft.ofFront_append,
      Draft.ofFront_append_blank hg]

/-! Statements are found in the same places. -/

/-- The white space between two words of a phrase may be any other. -/
theorem Phrase.Spells.change_gap {p : Phrase} (hp : p.Lettered) {m m' u z : Text} (hm : IsGap m)
    (hm' : IsGap m') (h : p.Spells (u ++ (m ++ z))) : p.Spells (u ++ (m' ++ z)) := by
  induction p generalizing u with
  | nil => exact absurd rfl hp.1
  | cons w q ih =>
    obtain ⟨v, r, hform, hv, hr⟩ := spells_cons_iff.mp h
    have hword : ∀ c ∈ v, isWhiteSpace c = false := fun c hc =>
      not_isWhiteSpace_of_isSolid (hv.isSolid (hp.alphanum (List.mem_cons_self ..)) c hc)
    obtain ⟨b, rfl, hb⟩ := hm.split_word hword hform
    rcases hr with ⟨-, rfl⟩ | ⟨hq, g, x, hgx, hg, hx⟩
    · simp [hm.1] at hb
    · have hlettered := hp.of_subset hq (List.subset_cons_self w q)
      have hhead : ∀ c ∈ x.head?, isWhiteSpace c = false := fun c hc =>
        not_isWhiteSpace_of_isSolid (hx.head_isSolid hlettered hc)
      rw [List.append_assoc]
      apply spells_cons_iff.mpr
      refine ⟨v, _, rfl, hv, .inr ⟨hq, ?_⟩⟩
      rcases hm.split_gap hhead (hgx.trans hb.symm) with ⟨b', rfl, rfl⟩ | ⟨m₂, rfl, rfl⟩
      · exact ⟨g, b' ++ (m' ++ z), by simp, hg, ih hlettered hx⟩
      · refine ⟨b ++ (m' ++ m₂), x, by simp, ⟨by simp [hm'.1], ?_⟩, hx⟩
        intro c hc
        simp only [List.mem_append] at hc
        rcases hc with hc | hc | hc
        · exact hg.2 c (by simp [hc])
        · exact hm'.2 c hc
        · exact hg.2 c (by simp [hc])

theorem Keyword.Spells.change_gap {k : Keyword} (hk : k.Plain) {m m' u z : Text} (hm : IsGap m)
    (hm' : IsGap m') (h : k.Spells (u ++ (m ++ z))) : k.Spells (u ++ (m' ++ z)) := by
  obtain ⟨p, hp, hspell⟩ := h
  exact ⟨p, hp, hspell.change_gap (hk p hp).1 hm hm'⟩

theorem endsWord_blank {m y : Text} (hm : Blank m) (hy : Block.atLineEnd y = true) :
    endsWord (m ++ y) = true := by
  cases m with
  | nil => rcases Block.atLineEnd_cases hy with rfl | ⟨t, rfl⟩ <;> rfl
  | cons c m =>
    have hc := not_isWordChar_of_isWhiteSpace (hm c (List.mem_cons_self ..))
    simp [endsWord, hc]

section
variable {k : Keyword} (hk : k.Plain) {m m' u y : Text} (hm : Blank m) (hm' : Blank m')
  (hy : Block.atLineEnd y = true)
include hk hm hm' hy

/-- A keyword read before or over a line break is read with other blanks in front of that. -/
theorem Keyword.readWhole_change_blank {f r : Text}
    (h : k.readWhole (u ++ (m ++ y)) = some (f, r)) :
    ∃ p, k.readWhole (u ++ (m' ++ y)) = some p ∧
      Reader.Alongside u m m' y (some (f, r)) (some p) := by
  obtain ⟨hform, hf, hend⟩ := (readWhole_eq_some_iff hk).mp h
  have hlast := hf.last_not_isWhiteSpace hk
  rw [← List.append_assoc] at hform
  have hcases : (∃ b, f ++ b = u ++ m ∧ b ++ y = r) ∨
      ∃ v, u ++ (m ++ '\n' :: v) = f ∧ '\n' :: v ++ r = y := by
    rcases List.append_eq_append_iff.mp hform with ⟨b, hb, rfl⟩ | ⟨v, hv, rfl⟩
    · exact .inl ⟨b, hb.symm, rfl⟩
    · rcases Block.atLineEnd_cases (Block.atLineEnd_of_append hy) with rfl | ⟨t, rfl⟩
      · exact .inl ⟨[], by simpa using hv, rfl⟩
      · exact .inr ⟨t, by rw [hv, List.append_assoc], rfl⟩
  rcases hcases with ⟨b, hb, rfl⟩ | ⟨v, rfl, rfl⟩
  · obtain ⟨b, rfl, rfl⟩ := hm.split_append hb hlast
    refine ⟨(f, b ++ (m' ++ y)), (readWhole_eq_some_iff hk).mpr ⟨by simp, hf, ?_⟩, ?_⟩
    · cases b with
      | nil =>
        show endsWord (m' ++ y) = true
        exact endsWord_blank hm' hy
      | cons c b => exact hend
    · rw [List.append_assoc]
      exact .before rfl
  · have hgap : ∀ {g : Text}, Blank g → IsGap (g ++ ['\n']) := by
      intro g hg
      refine ⟨by simp, fun c hc => ?_⟩
      rcases List.mem_append.mp hc with hc | hc
      · exact hg c hc
      · rw [List.mem_singleton.mp hc]
        decide
    have hspell : k.Spells (u ++ (m' ++ '\n' :: v)) := by
      have hchange := Keyword.Spells.change_gap hk (hgap hm) (hgap hm') (u := u) (z := v)
      simp only [List.append_assoc, List.singleton_append] at hchange
      exact hchange hf
    refine ⟨(u ++ (m' ++ '\n' :: v), r), (readWhole_eq_some_iff hk).mpr ⟨by simp, hspell, hend⟩, ?_⟩
    exact .behind rfl

theorem Keyword.readWhole_alongside :
    Reader.Alongside u m m' y (k.readWhole (u ++ (m ++ y))) (k.readWhole (u ++ (m' ++ y))) := by
  cases h : k.readWhole (u ++ (m ++ y)) with
  | some p =>
    obtain ⟨p', hp', halong⟩ := readWhole_change_blank hk hm hm' hy h
    rw [hp']
    exact halong
  | none =>
    cases h' : k.readWhole (u ++ (m' ++ y)) with
    | none => exact .none
    | some p' =>
      obtain ⟨p, hp, -⟩ := readWhole_change_blank hk hm' hm hy h'
      rw [h] at hp
      cases hp

end

namespace Block
variable {g y : Text} (hg : IsIndent g) (hy : atLineEnd y = true)
include hg hy

/-- The indentation behind which a line ends is all of it. -/
theorem span_indent :
    (g ++ y).takeWhile isIndent = g ∧ (g ++ y).dropWhile isIndent = y := by
  have hstop : y.takeWhile isIndent = [] ∧ y.dropWhile isIndent = y := by
    rcases atLineEnd_cases hy with rfl | ⟨t, rfl⟩ <;> exact ⟨rfl, rfl⟩
  rw [List.takeWhile_append_of_pos hg, List.dropWhile_append_of_pos hg, hstop.1, hstop.2,
    List.append_nil]
  exact ⟨rfl, rfl⟩

theorem readLineEnd_indent : readLineEnd (g ++ y) = some (g, y) := by
  obtain ⟨htake, hdrop⟩ := span_indent hg hy
  rw [readLineEnd, htake, hdrop]
  rcases atLineEnd_cases hy with rfl | ⟨t, rfl⟩
  · simp
  · rfl

omit hy in
theorem readToEnd_indent (y : Text) :
    readToEnd (g ++ y) = (readToEnd y).map fun (a, b) => (g ++ a, b) := by
  induction g with
  | nil =>
    rw [List.nil_append]
    cases readToEnd y <;> rfl
  | cons c g ih =>
    have hc : c ≠ ';' := by
      rintro rfl
      exact hg.notMem (by decide) (List.mem_cons_self ..)
    rw [List.cons_append, readToEnd_cons hc, ih fun d hd => hg d (List.mem_cons_of_mem c hd)]
    cases readToEnd y <;> rfl

theorem readIndent_alongside (x : Text) :
    Reader.Alongside x [] g y (readIndent (x ++ ([] ++ y))) (readIndent (x ++ (g ++ y))) := by
  by_cases hx : ∃ c ∈ x, isIndent c = false
  · obtain ⟨c, hc, hindent⟩ := hx
    exact .of_ignores readIndent_faithful (readIndent_ignores hc hindent)
  · have hall : IsIndent x := by
      intro c hc
      rw [← Bool.not_eq_false]
      exact fun h => hx ⟨c, hc, h⟩
    have hread : ∀ {m : Text}, IsIndent m → readIndent (x ++ (m ++ y)) = some (x ++ m, y) := by
      intro m hm
      obtain ⟨htake, hdrop⟩ := span_indent (hall.append hm) hy
      rw [← List.append_assoc, readIndent, htake, hdrop]
    rw [hread .nil, hread hg]
    exact .at_end

/-- A statement is read alongside the one with other blanks at the end of a line. -/
theorem read_alongside {x : Text} (hx : '\r' ∉ x) :
    Reader.Alongside x [] g y (read (x ++ ([] ++ y))) (read (x ++ (g ++ y))) := by
  refine Reader.Alongside.andThen (Reader.andThen_faithful
    TableName.createKeyword.readWhole_faithful readToEnd_faithful)
    (readIndent_alongside hg hy x) ?_
  intro a u hu _
  refine Reader.Alongside.andThen readToEnd_faithful
    (Keyword.readWhole_alongside TableName.createKeyword_plain .nil hg.blank hy) ?_
  intro f v hv _
  apply readToEnd_alongside
  · intro w hw
    have hsuffix : w <:+ x := by
      rw [← hu, ← hv]
      exact (((List.suffix_cons ';' w).trans hw).trans (List.suffix_append f v)).trans
        (List.suffix_append a _)
    by_cases hindent : w.dropWhile isIndent = []
    · have hall : IsIndent w := List.dropWhile_eq_nil_iff.mp hindent
      rw [← List.append_assoc, ← List.append_assoc, readLineEnd_indent (hall.append .nil) hy,
        readLineEnd_indent (hall.append hg) hy]
      exact .at_end
    · apply Reader.Alongside.of_ignores readLineEnd_faithful
      apply readLineEnd_ignores_of_last hindent
      exact fun hlast => hx (hsuffix.mem (List.mem_of_getLast? hlast))
  · have hindent := readToEnd_indent hg y
    rw [List.nil_append, hindent]
    cases hend : readToEnd y with
    | none => exact .none
    | some p => exact .behind (readToEnd_faithful hend)

omit hy in
theorem all_indent : all g = [] := by
  cases g with
  | nil => exact allFrom_nil true
  | cons c g =>
    have hread : read (c :: g) = none := by
      rw [Option.eq_none_iff_forall_ne_some]
      rintro ⟨a, b⟩ hsome
      obtain ⟨f, z, -, t, hf, -⟩ := read_eq_some_iff.mp hsome
      rw [List.dropWhile_eq_nil_iff.mpr hg,
        Keyword.readWhole_nil TableName.createKeyword_plain] at hf
      cases hf
    have hline : '\n' ∉ g := fun hmem => hg.notMem (by decide) (List.mem_cons_of_mem c hmem)
    have hc : (c == '\n') = false := by
      rw [beq_eq_false_iff_ne]
      rintro rfl
      exact hg.notMem (by decide) (List.mem_cons_self ..)
    rw [all, allFrom_cons fun _ => hread, hc, allFrom_line hline]

/-- Where a line ends there is no statement, with or without blanks in front of its break. -/
theorem allFrom_indent (lineStart : Bool) : allFrom lineStart (g ++ y) = allFrom lineStart y := by
  have hline : '\n' ∉ g := hg.notMem (by decide)
  rcases atLineEnd_cases hy with rfl | ⟨t, rfl⟩
  · rw [List.append_nil, allFrom_nil]
    cases lineStart with
    | true => exact all_indent hg
    | false => exact allFrom_line hline
  · cases lineStart with
    | true => exact (all_blankLine hg t).trans (all_blankLine IsIndent.nil t).symm
    | false => exact (allFrom_restOfLine hline t).trans (allFrom_restOfLine List.not_mem_nil t).symm

/-- The statements of a script with other blanks at the end of a line declare the same. -/
theorem map_ofBlock_allFrom {x : Text} (hx : '\r' ∉ x) (lineStart : Bool) :
    (allFrom lineStart (x ++ ([] ++ y))).map Table.ofBlock =
      (allFrom lineStart (x ++ (g ++ y))).map Table.ofBlock := by
  induction hn : x.length using Nat.strongRecOn generalizing x lineStart with
  | _ n ih =>
    cases x with
    | nil =>
      rw [List.nil_append, List.nil_append, List.nil_append, allFrom_indent hg hy]
    | cons c x =>
      have hcons := ih x.length (hn ▸ Nat.lt_succ_self _)
        (fun h => hx (List.mem_cons_of_mem c h)) (c == '\n') rfl
      cases lineStart with
      | false =>
        rw [List.cons_append, List.cons_append, allFrom_cons (by simp), allFrom_cons (by simp)]
        exact hcons
      | true =>
        have halong := read_alongside hg hy hx
        generalize hread : read ((c :: x) ++ ([] ++ y)) = e at halong
        generalize hread' : read ((c :: x) ++ (g ++ y)) = e' at halong
        cases halong with
        | none =>
          rw [List.cons_append] at hread hread' ⊢
          rw [List.cons_append, allFrom_cons fun _ => hread, allFrom_cons fun _ => hread']
          exact hcons
        | @before a u ha =>
          have hlt := rest_length_lt hread
          simp only [List.length_append] at hlt
          have hu : '\r' ∉ u := fun h => hx (ha ▸ List.mem_append_right a h)
          rw [allFrom_of_read hread, allFrom_of_read hread', List.map_cons, List.map_cons,
            ih u.length (by omega) hu false rfl]
        | @behind v r hv =>
          have hend : atLineEnd v = true := atLineEnd_of_append (hv ▸ hy)
          rw [allFrom_of_read hread, allFrom_of_read hread', List.map_cons, List.map_cons,
            List.nil_append, Table.ofBlock_blank hg hend]

end Block

/-- Blanks in front of a line break are not seen in a script. -/
theorem Script.tables_blank_at_lineEnd {g x y : Text} (hg : Block.IsIndent g) (hx : '\r' ∉ x)
    (hy : Block.atLineEnd y = true) : tables (x ++ (g ++ y)) = tables (x ++ y) := by
  have hall := Block.map_ofBlock_allFrom hg hy hx true
  have hmap : ∀ bs : List Text, bs.mapM Table.ofBlock = (bs.map Table.ofBlock).mapM id := by
    intro bs
    rw [List.mapM_map]
    rfl
  rw [tables, tables, hmap, hmap]
  exact congrArg (List.mapM id) hall.symm

end SqlOutline
