import SqlOutline.Proofs.WrittenTable

/-!
Scripts that declare the tables they were written for.

A statement ends at the first line that ends in a semicolon. In a written statement this is the
closing line: all others end in something else, so that a semicolon inside of a name ends none of
them (`Declaration.Written.last_ne_semicolon`). So the statements of a written script are those that
were put in, and each of them declares its table.
-/

namespace SqlOutline
open Unicode

namespace Block

/-- No semicolon of the line ends it: each has something behind it that is no white space. -/
def IsInner (l : Text) : Prop :=
  ∀ y z, y ++ ';' :: z = l → ∃ c ∈ z, isIndent c = false ∧ c ≠ '\r'

/-- A line is inner if something stands behind its last semicolon. -/
theorem isInner_of_last {m g : Text} {x : Char} (hx : isIndent x = false ∧ x ≠ '\r')
    (hsemicolon : ';' ∉ x :: g) : IsInner (m ++ x :: g) := by
  intro y z h
  refine ⟨x, ?_, hx⟩
  rcases List.append_eq_append_iff.mp h with ⟨w, rfl, hw⟩ | ⟨w, rfl, hw⟩
  · cases w with
    | nil =>
      rw [List.nil_append] at hw
      exact absurd (hw ▸ List.mem_cons_self) hsemicolon
    | cons c w =>
      obtain ⟨-, rfl⟩ := List.cons_eq_cons.mp hw
      simp
  · exact absurd (hw ▸ List.mem_append_right w List.mem_cons_self) hsemicolon

theorem isInner_of_trim {l : Text} (h : ∀ c ∈ (Text.trim l).getLast?, c ≠ ';') : IsInner l := by
  obtain ⟨g, g', hl, hg, hg', htrim⟩ := Text.trim_split l
  have no_semicolon : ∀ {u : Text}, Blank u → ';' ∉ u := fun hu hmem =>
    absurd (hu _ hmem) (by decide)
  rcases List.eq_nil_or_concat (Text.trim l) with hnil | ⟨m, x, hx⟩
  · intro y z hform
    have hmem : ';' ∈ l := hform ▸ by simp
    rw [← hl, hnil, List.append_nil, List.mem_append] at hmem
    rcases hmem with hin | hin
    · exact absurd hin (no_semicolon hg)
    · exact absurd hin (no_semicolon hg')
  · have hlast : (Text.trim l).getLast? = some x := by simp [hx]
    have hform : l = (g ++ m) ++ x :: g' := by
      rw [← hl, hx]
      simp
    have hspace := htrim.back x hlast
    rw [hform]
    refine isInner_of_last ⟨?_, ?_⟩ ?_
    · rw [Bool.eq_false_iff]
      intro hindent
      rcases (by simpa [isIndent] using hindent : x = ' ' ∨ x = '\t') with rfl | rfl <;>
        exact absurd hspace (by decide)
    · rintro rfl
      exact absurd hspace (by decide)
    · rw [List.mem_cons, not_or]
      exact ⟨(h x hlast).symm, no_semicolon hg'⟩

/-- Where more stands on the line, no statement ends. -/
theorem readLineEnd_eq_none {u : Text} (hline : '\n' ∉ u)
    (hstop : ∃ c ∈ u, isIndent c = false ∧ c ≠ '\r') (s : Text) : readLineEnd (u ++ s) = none := by
  obtain ⟨x, hx, hindent, hreturn⟩ := hstop
  have hne : u.dropWhile isIndent ≠ [] := by
    rw [ne_eq, List.dropWhile_eq_nil_iff]
    intro hall
    rw [hall x hx] at hindent
    exact Bool.false_ne_true hindent.symm
  obtain ⟨-, hdrop⟩ := span_append hne s
  obtain ⟨c, rest, hc⟩ := List.exists_cons_of_ne_nil hne
  have hrest : ∀ d ∈ c :: rest, d ≠ '\n' := by
    rintro d hd rfl
    exact hline ((List.dropWhile_suffix isIndent).subset (hc ▸ hd))
  rw [readLineEnd, hdrop, hc]
  simp only [List.cons_append]
  rw [if_neg (hrest c (by simp))]
  split
  · rename_i hend
    exfalso
    obtain ⟨rfl, hend⟩ : c = '\r' ∧ atLineEnd (rest ++ s) = true := by simpa using hend
    have hxrest : x ∈ rest := by
      have hmem : x ∈ u.takeWhile isIndent ++ '\r' :: rest := by
        rw [← hc, List.takeWhile_append_dropWhile]
        exact hx
      rcases List.mem_append.mp hmem with hin | hin
      · rw [List.mem_takeWhile_imp hin] at hindent
        exact absurd hindent (by decide)
      · exact (List.mem_cons.mp hin).resolve_left hreturn
    cases rest with
    | nil => simp at hxrest
    | cons d rest => exact hrest d (by simp) (by simpa [atLineEnd] using hend)
  · rfl

theorem IsInner.of_cons {c : Char} {l : Text} (h : IsInner (c :: l)) : IsInner l := by
  rintro y z rfl
  exact h (c :: y) z rfl

/-- A statement does not end with an inner line. -/
theorem readToEnd_inner {l : Text} (hl : IsInner l) (hline : '\n' ∉ l) (s : Text) :
    readToEnd (l ++ '\n' :: s) = (readToEnd s).map fun (a, b) => (l ++ '\n' :: a, b) := by
  induction l with
  | nil => simp [readToEnd]
  | cons c l ih =>
    rw [List.mem_cons, not_or] at hline
    have hend : (if c = ';' then readLineEnd (l ++ '\n' :: s) else none) = none := by
      split
      · rename_i hc
        exact readLineEnd_eq_none hline.2 (hl [] l (by rw [hc]; rfl)) _
      · rfl
    rw [List.cons_append, readToEnd, hend]
    simp only [ih hl.of_cons hline.2, Option.map_map, Function.comp_def, List.cons_append]

/-- A statement ends with a line that ends in a semicolon. -/
theorem readToEnd_last {l : Text} (hl : EndsStatement l) (hline : '\n' ∉ l) :
    readToEnd l = some (l, []) := by
  obtain ⟨⟨a, b⟩, hread⟩ := Option.isSome_iff_exists.mp hl.readToEnd_isSome
  have hform := readToEnd_faithful hread
  have hend := atLineEnd_of_readToEnd hread
  have hb : b = [] := by
    cases b with
    | nil => rfl
    | cons c b =>
      obtain rfl : c = '\n' := by simpa [atLineEnd] using hend
      exact absurd (hform ▸ by simp) hline
  subst hb
  rw [List.append_nil] at hform
  rw [hread, hform]

/-- A statement is read through all its inner lines to its last one. -/
theorem readToEnd_ofLines {ls : List Text} (hls : ∀ l ∈ ls, IsInner l ∧ '\n' ∉ l) {last : Text}
    (hlast : EndsStatement last) (hline : '\n' ∉ last) :
    readToEnd (Text.ofLines ls last) = some (Text.ofLines ls last, []) := by
  induction ls with
  | nil => exact readToEnd_last hlast hline
  | cons l ls ih =>
    obtain ⟨hl, hnewline⟩ := hls l (by simp)
    rw [Text.ofLines_cons, readToEnd_inner hl hnewline, ih fun m hm => hls m (by simp [hm])]
    rfl

/-- A statement is read from its keyword to its end. -/
theorem read_createTable {rest : Text} (hword : endsWord rest = true)
    (hend : readToEnd rest = some (rest, [])) :
    read ("CREATE TABLE".toList ++ rest) = some ("CREATE TABLE".toList ++ rest, []) := by
  have hkeyword : TableName.createKeyword.readWhole ("CREATE TABLE".toList ++ rest) =
      some ("CREATE TABLE".toList, rest) :=
    Keyword.readWhole_append TableName.createKeyword_plain (by decide +kernel) hword
  exact read_eq_some_iff.mpr ⟨"CREATE TABLE".toList, rest, rfl, rest, hkeyword, hend⟩

theorem EndsStatement.append_left {t : Text} (h : EndsStatement t) (u : Text) :
    EndsStatement (u ++ t) := by
  obtain ⟨x, g, e, rfl, hg, he⟩ := h
  exact ⟨u ++ x, g, e, by simp, hg, he⟩

/-- A blank line has no statement. -/
theorem all_blankLine {g : Text} (hg : ∀ c ∈ g, isIndent c = true) (s : Text) :
    all (g ++ '\n' :: s) = all s := by
  have hdrop : (g ++ '\n' :: s).dropWhile isIndent = '\n' :: s := by
    rw [List.dropWhile_append_of_pos hg]
    rfl
  have hkeyword : TableName.createKeyword.readWhole ('\n' :: s) = none :=
    Keyword.readWhole_cons_eq_none TableName.createKeyword_plain (by decide) s
  have hread : read (g ++ '\n' :: s) = none := by
    rw [Option.eq_none_iff_forall_ne_some]
    rintro ⟨a, b⟩ hsome
    obtain ⟨f, z, -, t', hf, -⟩ := read_eq_some_iff.mp hsome
    rw [hdrop, hkeyword] at hf
    exact absurd hf.symm (Option.some_ne_none _)
  have hnewline : '\n' ∉ g := fun hmem => absurd (hg _ hmem) (by decide)
  cases g with
  | nil => exact allFrom_cons fun _ => hread
  | cons c g =>
    rw [List.mem_cons, not_or] at hnewline
    have hc : (c == '\n') = false := by simpa using Ne.symm hnewline.1
    rw [List.cons_append] at hread ⊢
    rw [all, allFrom_cons fun _ => hread, hc, allFrom_restOfLine hnewline.2]

end Block

/-! The lines of a written statement. -/

theorem Lists.last_ne_semicolon {names : List Text} {t : Text} (h : Lists names t) :
    ∀ c ∈ t.getLast?, c ≠ ';' := by
  obtain ⟨c, rfl, -, hout⟩ := h
  induction c using Cut.induction with
  | plain t =>
    rw [Cut.toText_plain]
    rintro x hx rfl
    exact absurd (Cut.allOutside_plain.mp hout _ (List.mem_of_getLast? hx)) (by decide)
  | literal r l c ih =>
    obtain ⟨-, hc⟩ := Cut.allOutside_literal.mp hout
    intro x hx
    have hform : (Cut.literal r l c).toText = (r ++ backtick :: l) ++ backtick :: c.toText := by
      simp [enquote]
    rw [hform, List.getLast?_append_cons] at hx
    have hlast : x ∈ c.toText.getLast? ∨ x = backtick := by
      rw [List.getLast?_cons] at hx
      cases hlast : c.toText.getLast? with
      | some y => exact .inl (by simpa [hlast] using hx)
      | none => exact .inr (by simpa [hlast, eq_comm] using hx)
    rcases hlast with hin | rfl
    · exact ih hc x hin
    · decide

/-- No line of a written declaration ends the statement. -/
theorem Declaration.Written.last_ne_semicolon {d : Declaration} {ls : List Text}
    (h : Written d ls) (hw : d.Writable) : ∀ l ∈ ls, ∀ c ∈ l.getLast?, c ≠ ';' := by
  have behind : ∀ {names : List Text} {l : Text} (u : Text), Lists names l → names ≠ [] →
      ∀ c ∈ (u ++ l).getLast?, c ≠ ';' := by
    intro names l u hl hne
    rw [List.getLast?_append_of_ne_nil u (hl.ne_nil hne)]
    exact hl.last_ne_semicolon
  have target_ne : ∀ g : Target, g.names ≠ [] := fun g => by simp [Target.names]
  cases h with
  | @primaryKey columns p l hp hl =>
    rw [List.forall_mem_singleton, ← List.append_assoc]
    exact behind _ hl hw.1
  | @uniqueIndex columns p k index l hp hk hindex hl =>
    rw [List.forall_mem_singleton, ← List.append_assoc]
    exact behind _ hl (by simp)
  | @foreignKey key target p l m hp hl hm =>
    rw [List.forall_mem_singleton, ← List.append_assoc, ← List.append_assoc, ← List.append_assoc]
    exact behind _ hm (target_ne target)
  | @foreignKeyOnTwoLines key target p l m hp hl hm =>
    rw [List.forall_mem_cons, List.forall_mem_singleton, ← List.append_assoc]
    exact ⟨behind _ hl (by simp), behind _ hm (target_ne target)⟩
  | @column c e he =>
    have hform : c.written ++ e = enquote c.name ++ ' ' :: (c.dataType ++ (c.options ++ e)) := by
      simp [Column.written]
    have hoptions : ';' ∉ c.options ++ e := by
      unfold Column.options
      rcases he with rfl | rfl <;> cases c.nullable <;> cases c.autoIncrement <;> decide
    rw [List.forall_mem_singleton, hform,
      List.getLast?_append_of_ne_nil _ (List.cons_ne_nil _ _)]
    rintro x hx rfl
    have hmem := List.mem_of_getLast? hx
    rw [List.mem_cons, List.mem_append] at hmem
    rcases hmem with hspace | hin | hin
    · exact absurd hspace (by decide)
    · exact hw.2.semicolon_notMem hin
    · exact hoptions hin

/-- A written statement is read as one, to its end. -/
theorem Table.Writes.read {t : Table} {b : Text} (h : t.Writes b) (hw : t.Writable) :
    Block.read b = some (b, []) := by
  obtain @⟨keys, ls, g, close, body, hkeys, hls, hbody, hblank, hlines, hclose⟩ := h
  obtain ⟨hg, hbodyLines⟩ := List.forall_mem_cons.mp hlines
  have hname := TableName.newline_notMem_written hw.name
  -- What is left of the head line behind the keyword.
  have hfirst : Block.IsInner ((' ' :: (t.name.written ++ [' '])) ++ '(' :: g) := by
    have hsemicolon : ';' ∉ '(' :: g := by
      rw [List.mem_cons, not_or]
      exact ⟨by decide, fun hmem => absurd (hblank _ hmem) (by decide)⟩
    exact Block.isInner_of_last (by decide) hsemicolon
  have hfirstLine : '\n' ∉ (' ' :: (t.name.written ++ [' '])) ++ '(' :: g := by
    simp [hname, hg]
  have hinner : ∀ l ∈ body, Block.IsInner l := by
    intro l hl
    have htrim : Text.trim l ∈ ls.flatten := hbody ▸ List.mem_map_of_mem hl
    obtain ⟨ws, hws, hin⟩ := List.mem_flatten.mp htrim
    have hlast := forall_of_forall₂ hls (p := fun ws => ∀ l ∈ ws, ∀ c ∈ l.getLast?, c ≠ ';')
      (fun d hd ws h => h.last_ne_semicolon (hw.declarations hkeys d hd)) ws hws
    exact Block.isInner_of_trim (hlast _ hin)
  have hrest := Block.readToEnd_ofLines (List.forall_mem_cons.mpr ⟨⟨hfirst, hfirstLine⟩,
    fun l hl => ⟨hinner l hl, hbodyLines l hl⟩⟩) hclose.semicolon hclose.oneLine
  have hspace : isWordChar ' ' = false := by decide
  have hread := Block.read_createTable (by simp [endsWord, hspace]) hrest
  simpa using hread

theorem Table.Writes.endsStatement {t : Table} {b : Text} (h : t.Writes b) :
    Block.EndsStatement b := by
  obtain ⟨-, -, -, -, -, hclose⟩ := h
  exact hclose.semicolon.append_left _

/-- A script that writes the tables one behind the other, each with a statement of its own, and with
blank lines in between. -/
inductive Script.Writes : List Table → Text → Prop
  | empty : Writes [] []
  | blankLine {ts : List Table} {g s : Text} (hg : ∀ c ∈ g, Block.isIndent c = true)
      (h : Writes ts s) : Writes ts (g ++ '\n' :: s)
  | last {t : Table} {b : Text} (hb : t.Writes b) : Writes [t] b
  | cons {t : Table} {ts : List Table} {b s : Text} (hb : t.Writes b) (h : Writes ts s) :
      Writes (t :: ts) (b ++ '\n' :: s)

/-- The statements of a written script are those that write its tables. -/
theorem Script.Writes.all {ts : List Table} {script : Text} (h : Writes ts script)
    (hw : ∀ t ∈ ts, t.Writable) : List.Forall₂ Table.Writes ts (Block.all script) := by
  have alone : ∀ {t : Table} {b : Text}, t.Writes b → t.Writable → Block.all b = [b] := by
    intro t b hb ht
    rw [Block.all, Block.allFrom_of_read (hb.read ht), Block.allFrom_nil]
  induction h with
  | empty =>
    rw [Block.all, Block.allFrom_nil]
    exact .nil
  | blankLine hg h ih =>
    rw [Block.all_blankLine hg]
    exact ih hw
  | last hb =>
    rw [alone hb (hw _ (by simp))]
    exact .cons hb .nil
  | cons hb h ih =>
    obtain ⟨ht, hts⟩ := List.forall_mem_cons.mp hw
    rw [Block.all_append hb.endsStatement, alone hb ht]
    exact .cons hb (ih hts)

/-- A written script reads back. -/
theorem Script.Writes.tables_eq {ts : List Table} {script : Text} (h : Writes ts script)
    (hw : ∀ t ∈ ts, t.Writable) : tables script = .ok ts := by
  have hall := h.all hw
  rw [tables]
  clear h
  generalize Block.all script = bs at hall
  induction hall with
  | nil => rfl
  | cons hb _ ih =>
    obtain ⟨ht, hts⟩ := List.forall_mem_cons.mp hw
    rw [List.mapM_cons, Table.ofBlock_written ht hb, ih hts]
    rfl

end SqlOutline
