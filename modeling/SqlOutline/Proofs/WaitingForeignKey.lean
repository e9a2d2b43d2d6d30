import SqlOutline.Proofs.ErrorFlow
import SqlOutline.Proofs.ForeignKeyLines
import SqlOutline.Proofs.LineTail
import SqlOutline.Proofs.WrittenScript

/-!
Foreign keys that wait for their target.

Behind a foreign key without a target no line is read until one opens with REFERENCES. So any lines
may stand there, faulty ones and other keys too, and where no such line comes the statement declares
what the lines in front of the key declare (`foreignKey_waits`).
-/

namespace SqlOutline
open Unicode

namespace Target

/-- Whether a line opens with the keyword of targets, behind white space at most. -/
def Opens (line : Text) : Prop :=
  ∃ f z, f ++ z = Text.trim line ∧ keyword.Spells f ∧ endsWord z = true

theorem opens_iff {line : Text} :
    Opens line ↔ (keyword.readWhole (Text.trim line)).isSome = true := by
  rw [Option.isSome_iff_exists]
  simp only [Opens, Prod.exists, Keyword.readWhole_eq_some_iff keyword_plain]

instance : DecidablePred Opens := fun _ => decidable_of_iff _ opens_iff.symm

/-- Only a line that opens with the keyword can have a target or lack one. -/
theorem ofLine_of_not_opens {line : Text} (h : ¬ Opens line) : ofLine line = .ok none := by
  rw [opens_iff, Option.not_isSome_iff_eq_none] at h
  rw [ofLine, h]

theorem ofLine_trim (line : Text) : ofLine (Text.trim line) = ofLine line := by
  rw [ofLine, ofLine, Text.trim_of_isTrimmed (Text.isTrimmed_trim line)]

end Target

theorem Declaration.ofLine_trim (line : Text) : ofLine (Text.trim line) = ofLine line := by
  rw [ofLine, ofLine, Text.trim_of_isTrimmed (Text.isTrimmed_trim line)]

namespace Draft

theorem step_trim (d : Draft) (line : Text) : d.step (Text.trim line) = d.step line := by
  rw [step, step, Declaration.ofLine_trim, Target.ofLine_trim]

/-- A line that neither declares something nor has a target is skipped in both states. -/
theorem step_skipped {line : Text} (hline : Declaration.ofLine line = .ok .other)
    (htarget : Target.ofLine line = .ok none) (d : Draft) : d.step line = .ok d := by
  obtain ⟨t, waiting⟩ := d
  cases waiting with
  | none => rw [step, hline]; rfl
  | some column => rw [step, htarget]; rfl

theorem step_nil (d : Draft) : d.step [] = .ok d := step_skipped (by decide) (by decide) d

theorem foldlM_singleton (d : Draft) (line : Text) : [line].foldlM step d = d.step line := by
  rw [List.foldlM_cons]
  cases d.step line <;> rfl

/-- The lines may be taken up as they are: blank ones declare nothing. -/
theorem foldlM_bodyLines (d : Draft) (ls : List Text) :
    (bodyLines ls).foldlM step d = ls.foldlM step d := by
  induction ls generalizing d with
  | nil => rfl
  | cons l ls ih =>
    have hcons : bodyLines (l :: ls) = bodyLines [l] ++ bodyLines ls := bodyLines_append [l] ls
    have hline : (bodyLines [l]).foldlM step d = d.step l := by
      by_cases hnil : Text.trim l = []
      · have hskip : bodyLines [l] = [] := by
          rw [bodyLines, List.map_singleton, hnil]
          rfl
        rw [hskip, ← step_trim, hnil, step_nil]
        rfl
      · rw [ForeignKey.bodyLines_singleton hnil, foldlM_singleton, step_trim]
    rw [hcons, List.foldlM_append, hline, List.foldlM_cons]
    exact bind_congr fun d' => ih d'

/-- While a foreign key waits, a line that does not open with the keyword of targets is skipped. -/
theorem step_of_waiting {d : Draft} {c l : Text} (hd : d.waiting = some c)
    (hl : ¬ Target.Opens l) : d.step l = .ok d := by
  rw [step, hd, Target.ofLine_of_not_opens hl]
  rfl

theorem foldlM_of_waiting {d : Draft} {c : Text} (hd : d.waiting = some c) {ls : List Text}
    (hls : ∀ l ∈ ls, ¬ Target.Opens l) : ls.foldlM step d = .ok d := by
  induction ls with
  | nil => rfl
  | cons l ls ih =>
    obtain ⟨hl, hrest⟩ := List.forall_mem_cons.mp hls
    rw [List.foldlM_cons, step_of_waiting hd hl]
    exact ih hrest

/-- A foreign key without a target waits, and the table stays as it is. -/
theorem step_waits {d : Draft} {c l : Text} (hd : d.waiting = none)
    (hl : Declaration.ofLine l = .ok (.foreignKey c none)) :
    d.step l = .ok { d with waiting := some c } := by
  rw [step, hd, hl]
  rfl

end Draft

namespace Text

/-- The lines `ls` as they follow another line. -/
def below (ls : List Text) : Text := ls.flatMap ('\n' :: ·)

@[simp] theorem below_nil : below [] = [] := rfl

theorem below_cons (l : Text) (ls : List Text) : below (l :: ls) = '\n' :: (l ++ below ls) := rfl

theorem below_append (ls ms : List Text) : below (ls ++ ms) = below ls ++ below ms :=
  List.flatMap_append

theorem below_append_cons (ls : List Text) (s : Text) :
    below ls ++ '\n' :: s = '\n' :: ofLines ls s := by
  induction ls with
  | nil => rfl
  | cons l ls ih => rw [below_cons, ofLines_cons, List.cons_append, List.append_assoc, ih]

theorem below_concat (ls : List Text) (last : Text) :
    below (ls ++ [last]) = '\n' :: ofLines ls last := by
  rw [below_append, ← below_append_cons]
  simp [below]

theorem splitOn_append_below {l : Text} {ls : List Text} (h : ∀ m ∈ l :: ls, '\n' ∉ m) :
    (l ++ below ls).splitOn '\n' = l :: ls := by
  induction ls generalizing l with
  | nil =>
    have hl := h l (List.mem_cons_self ..)
    rw [below_nil, List.append_nil, List.splitOn_eq_singleton hl]
  | cons m ls ih =>
    obtain ⟨hl, hrest⟩ := List.forall_mem_cons.mp h
    rw [below_cons, List.splitOn_append_cons_self_of_not_mem hl, ih hrest]

end Text

/-- Lines behind others are taken up one by one. -/
theorem Draft.ofFront_below (a : Text) {ls : List Text} (hls : ∀ m ∈ ls, '\n' ∉ m) :
    ofFront (a ++ Text.below ls) = ofFront a >>= fun d => ls.foldlM step d := by
  cases ls with
  | nil =>
    rw [Text.below_nil, List.append_nil]
    cases ofFront a <;> rfl
  | cons l ls =>
    rw [Text.below_cons, ofFront_append, Text.splitOn_append_below hls]
    exact bind_congr fun d => foldlM_bodyLines d (l :: ls)

theorem Script.tables_below {a : Text} {ls : List Text} (hls : ∀ m ∈ ls, '\n' ∉ m)
    (hstatement : Block.IsStatement (a ++ Text.below ls)) :
    tables (a ++ Text.below ls) = Draft.ofFront a >>= fun d =>
      (ls.foldlM Draft.step d).map ([·.table]) := by
  rw [tables_statement hstatement, Draft.ofFront_below a hls, bind_assoc]
  exact bind_congr fun d => by cases ls.foldlM Draft.step d <;> rfl

namespace Block

/-- At the end of a line stand spaces and tabs, and a carriage return at most. -/
theorem form_of_readLineEnd {u v w : Text} (h : readLineEnd u = some (v, w)) :
    ∃ g e, g ++ e = v ∧ (∀ c ∈ g, isIndent c = true) ∧ (e = [] ∨ e = ['\r']) := by
  have htake : ∀ c ∈ u.takeWhile isIndent, isIndent c = true := fun c hc =>
    List.mem_takeWhile_imp hc
  rw [readLineEnd] at h
  split at h
  · rename_i hnil
    obtain ⟨rfl, -⟩ : u = v ∧ [] = w := by simpa using h
    exact ⟨u, [], List.append_nil u, List.dropWhile_eq_nil_iff.mp hnil, .inl rfl⟩
  · split at h
    · obtain ⟨rfl, -⟩ := Prod.mk.inj (Option.some.inj h)
      exact ⟨_, [], List.append_nil _, htake, .inl rfl⟩
    · split at h
      · rename_i hc
        obtain ⟨rfl, -⟩ : _ = '\r' ∧ _ := by simpa using hc
        obtain ⟨rfl, -⟩ := Prod.mk.inj (Option.some.inj h)
        exact ⟨_, ['\r'], rfl, htake, .inr rfl⟩
      · cases h

/-- What is read to its end ends in a semicolon. -/
theorem endsStatement_of_readToEnd {t a b : Text} (h : readToEnd t = some (a, b)) :
    EndsStatement a := by
  induction t generalizing a with
  | nil => cases h
  | cons c t ih =>
    rw [readToEnd] at h
    split at h
    · rename_i v w hread
      obtain ⟨rfl, -⟩ := Prod.mk.inj (Option.some.inj h)
      split at hread
      · rename_i hc
        obtain ⟨g, e, rfl, hg, he⟩ := form_of_readLineEnd hread
        exact ⟨[], g, e, by rw [hc]; rfl, hg, he⟩
      · cases hread
    · obtain ⟨⟨a', b'⟩, hrest, hp⟩ := Option.map_eq_some_iff.mp h
      obtain ⟨rfl, rfl⟩ := Prod.mk.inj hp
      exact (ih hrest).append_left [c]

theorem IsStatement.endsStatement {t : Text} (h : IsStatement t) : EndsStatement t := by
  obtain ⟨f, z, hform, t', -, hend⟩ := read_eq_some_iff.mp h
  rw [← hform]
  exact ((endsStatement_of_readToEnd hend).append_left f).append_left _

theorem readToEnd_eq_none_of_append (u : Text) {v : Text} (h : readToEnd (u ++ v) = none) :
    readToEnd v = none := by
  induction u with
  | nil => exact h
  | cons c u ih =>
    apply ih
    rw [List.cons_append, readToEnd] at h
    split at h
    · cases h
    · exact Option.map_eq_none_iff.mp h

/-- Where nothing ends a statement there is none. -/
theorem allFrom_eq_nil {t : Text} (h : readToEnd t = none) (lineStart : Bool) :
    allFrom lineStart t = [] := by
  induction t generalizing lineStart with
  | nil => exact allFrom_nil lineStart
  | cons c t ih =>
    have hread : read (c :: t) = none := by
      rw [Option.eq_none_iff_forall_ne_some]
      rintro ⟨a, b⟩ hsome
      obtain ⟨f, z, -, t', hf, hz⟩ := read_eq_some_iff.mp hsome
      have hform : (c :: t).takeWhile isIndent ++ (f ++ t') = c :: t := by
        rw [TableName.createKeyword.readWhole_faithful hf, List.takeWhile_append_dropWhile]
      rw [← hform, ← List.append_assoc] at h
      rw [readToEnd_eq_none_of_append _ h] at hz
      cases hz
    rw [allFrom_cons fun _ => hread]
    exact ih (readToEnd_eq_none_of_append [c] h) _

section
variable {ls : List Text} (hls : ∀ m ∈ ls, '\n' ∉ m ∧ IsInner m)
include hls

/-- A statement is read over inner lines to where it ends behind them. -/
theorem readToEnd_behind_inner (s : Text) :
    readToEnd (Text.ofLines ls s) = (readToEnd s).map fun (a, b) => (Text.ofLines ls a, b) := by
  induction ls with
  | nil => cases h : readToEnd s <;> simp [h]
  | cons l ls ih =>
    obtain ⟨⟨hnewline, hl⟩, hrest⟩ := List.forall_mem_cons.mp hls
    rw [Text.ofLines_cons, readToEnd_inner hl hnewline, ih hrest]
    cases readToEnd s <;> simp

/-- Inner lines alone end no statement. -/
theorem readToEnd_inner_eq_none {last : Text} (hlast : '\n' ∉ last ∧ IsInner last) :
    readToEnd (Text.ofLines ls last) = none := by
  have hend : readToEnd last = none := by
    have hmore := readToEnd_inner hlast.2 hlast.1 []
    cases h : readToEnd last with
    | none => rfl
    | some p =>
      rw [readToEnd_append h] at hmore
      cases hmore
  rw [readToEnd_behind_inner hls, hend]
  rfl

/-- Inner lines in front of a line do not part a statement. -/
theorem isStatement_insert {x : Text} (hx : backtick ∈ x) (s : Text) :
    IsStatement (x ++ (Text.below ls ++ '\n' :: s)) ↔ IsStatement (x ++ '\n' :: s) := by
  have hbreak : ∀ t, readToEnd ('\n' :: t) = (readToEnd t).map fun (a, b) => ('\n' :: a, b) :=
    readToEnd_cons (by decide)
  have halong : Reader.Alongside x [] (Text.below ls) ('\n' :: s)
      (read (x ++ ([] ++ '\n' :: s))) (read (x ++ (Text.below ls ++ '\n' :: s))) := by
    apply read_alongside_of_mem hx (by decide) (by decide) (by decide)
    · intro u _
      apply Reader.Alongside.of_ignores_each readLineEnd_faithful
      · exact readLineEnd_ignores s u
      · rw [Text.below_append_cons]
        exact readLineEnd_ignores _ u
    · rw [List.nil_append, Text.below_append_cons, hbreak, hbreak, readToEnd_behind_inner hls]
      cases hend : readToEnd s with
      | none => exact .none
      | some p =>
        have hform : '\n' :: p.1 ++ p.2 = '\n' :: s := by
          rw [List.cons_append, readToEnd_faithful hend]
        have hboth : Reader.Alongside [] [] (Text.below ls) ('\n' :: s)
            (some ([] ++ ([] ++ '\n' :: p.1), p.2))
            (some ([] ++ (Text.below ls ++ '\n' :: p.1), p.2)) := .behind hform
        simp only [List.nil_append, Text.below_append_cons] at hboth
        exact hboth
  exact (halong.whole_iff (by simp) (by simp)).symm

end

/-- Inner lines behind a statement have no other statement. -/
theorem all_below {x : Text} (hx : EndsStatement x) {ls : List Text}
    (hls : ∀ m ∈ ls, '\n' ∉ m ∧ IsInner m) : all (x ++ Text.below ls) = all x := by
  rcases List.eq_nil_or_concat' ls with rfl | ⟨ms, last, rfl⟩
  · rw [Text.below_nil, List.append_nil]
  · obtain ⟨hms, hlast⟩ := List.forall_mem_append.mp hls
    have hnone := readToEnd_inner_eq_none hms (hlast last (List.mem_singleton_self last))
    rw [Text.below_concat, all_append hx, all, all, allFrom_eq_nil hnone, List.append_nil]

end Block

section
variable {a l c : Text} {ks rs : List Text} (hkey : Declaration.ofLine l = .ok (.foreignKey c none))
  (hready : ∀ d, Draft.ofFront a = .ok d → d.waiting = none) (hks : ∀ m ∈ ks, ¬ Target.Opens m)
  (hlines : ∀ m ∈ l :: (ks ++ rs), '\n' ∉ m)
include hkey hready hks hlines

/-- The lines behind a foreign key without a target are taken up by what its front declares. -/
theorem Draft.ofFront_waiting :
    ofFront (a ++ Text.below (l :: (ks ++ rs))) = ofFront a >>= fun d =>
      rs.foldlM step { d with waiting := some c } := by
  rw [ofFront_below a hlines]
  cases hd : ofFront a with
  | error e => rfl
  | ok d =>
    show (l :: (ks ++ rs)).foldlM step d = _
    rw [List.foldlM_cons, step_waits (hready d hd) hkey]
    show (ks ++ rs).foldlM step { d with waiting := some c } = _
    rw [List.foldlM_append, foldlM_of_waiting rfl hks]
    rfl

variable (hstatement : Block.IsStatement (a ++ Text.below (l :: (ks ++ rs))))
include hstatement

theorem Script.tables_waiting_insert {is : List Text}
    (his : ∀ m ∈ is, '\n' ∉ m ∧ ¬ Target.Opens m ∧ (Text.trim m).getLast? ≠ some ';') :
    tables (a ++ Text.below (l :: (ks ++ (is ++ rs)))) =
      tables (a ++ Text.below (l :: (ks ++ rs))) := by
  have hinner : ∀ m ∈ is, '\n' ∉ m ∧ Block.IsInner m := by
    intro m hm
    obtain ⟨hnewline, -, hlast⟩ := his m hm
    exact ⟨hnewline, Block.isInner_of_trim fun x hx hsemicolon => hlast (hsemicolon ▸ hx)⟩
  have hbehind : ∀ ms, a ++ Text.below (l :: (ks ++ ms)) =
      (a ++ Text.below (l :: ks)) ++ Text.below ms := by
    intro ms
    rw [← List.cons_append, Text.below_append, List.append_assoc]
  cases rs with
  | nil =>
    -- The statement ends with the key or soon after, and the lines come behind it.
    rw [hbehind, Text.below_nil, List.append_nil] at hstatement
    rw [hbehind, hbehind, List.append_nil, Text.below_nil, List.append_nil, tables, tables,
      Block.all_below hstatement.endsStatement hinner]
  | cons r rs =>
    have htick : backtick ∈ a ++ Text.below (l :: ks) := by
      have hl := Declaration.backtick_mem_of_isKey hkey trivial
      rw [Text.below_cons]
      simp [hl]
    have hlong : Block.IsStatement (a ++ Text.below (l :: (ks ++ (is ++ r :: rs)))) := by
      rw [hbehind, Text.below_cons] at hstatement
      rw [hbehind, Text.below_append, Text.below_cons]
      exact (Block.isStatement_insert hinner htick _).mpr hstatement
    have hisLines : ∀ m ∈ l :: (ks ++ (is ++ r :: rs)), '\n' ∉ m := by
      intro m hm
      have hcases : m ∈ is ∨ m ∈ l :: (ks ++ r :: rs) := by
        simp only [List.mem_cons, List.mem_append] at hm ⊢
        tauto
      exact hcases.elim (fun h => (his m h).1) (hlines m)
    rw [tables_statement hlong, tables_statement hstatement,
      Draft.ofFront_waiting hkey hready hks hisLines, Draft.ofFront_waiting hkey hready hks hlines]
    cases Draft.ofFront a with
    | error e => rfl
    | ok d =>
      show (is ++ r :: rs).foldlM Draft.step { d with waiting := some c } >>= _ = _
      rw [List.foldlM_append, Draft.foldlM_of_waiting rfl fun m hm => (his m hm).2.1]
      rfl

theorem Script.tables_waiting_alone (hrs : ∀ m ∈ rs, ¬ Target.Opens m) :
    tables (a ++ Text.below (l :: (ks ++ rs))) = (Table.ofBlock a).map ([·]) := by
  rw [tables_statement hstatement, Draft.ofFront_waiting hkey hready hks hlines, Table.ofBlock]
  cases Draft.ofFront a with
  | error e => rfl
  | ok d =>
    show rs.foldlM Draft.step { d with waiting := some c } >>= _ = _
    rw [Draft.foldlM_of_waiting rfl hrs]
    rfl

end

/-- A foreign key without a target isolates what stands behind it. Lines in front of the next target
may come and go, and without a target the statement declares what its front declares. -/
theorem foreignKey_waits {a l c : Text} {ks rs : List Text}
    (hkey : Declaration.ofLine l = .ok (.foreignKey c none))
    (hready : ∀ d, Draft.ofFront a = .ok d → d.waiting = none)
    (hlines : ∀ m ∈ l :: (ks ++ rs), '\n' ∉ m) (hks : ∀ m ∈ ks, ¬ Target.Opens m)
    (hstatement : Block.IsStatement (a ++ Text.below (l :: (ks ++ rs)))) :
    (∀ is : List Text,
        (∀ m ∈ is, '\n' ∉ m ∧ ¬ Target.Opens m ∧ (Text.trim m).getLast? ≠ some ';') →
        Script.tables (a ++ Text.below (l :: (ks ++ (is ++ rs)))) =
          Script.tables (a ++ Text.below (l :: (ks ++ rs)))) ∧
      ((∀ m ∈ rs, ¬ Target.Opens m) →
        Script.tables (a ++ Text.below (l :: (ks ++ rs))) = (Table.ofBlock a).map ([·])) :=
  ⟨fun _ his => Script.tables_waiting_insert hkey hready hks hlines hstatement his,
    Script.tables_waiting_alone hkey hready hks hlines hstatement⟩

/-- Keys that name nothing are not seen while a foreign key waits for its target, and without its
target it is dropped. -/
theorem foreignKey_waits_over_faulty :
    Script.tables ("CREATE TABLE t (\n`a` int,".toList ++ Text.below
        ("FOREIGN KEY (`a`)".toList :: (["`b` int".toList] ++
          (["PRIMARY KEY ()".toList, "FOREIGN KEY (b),".toList] ++
            ["References `u` (`i`)".toList, ");".toList])))) =
        Script.tables ("CREATE TABLE t (\n`a` int,".toList ++ Text.below
          ("FOREIGN KEY (`a`)".toList :: (["`b` int".toList] ++
            ["References `u` (`i`)".toList, ");".toList]))) ∧
      Script.tables ("CREATE TABLE t (\n`a` int,".toList ++ Text.below
          ("FOREIGN KEY (`a`)".toList :: (["`b` int".toList] ++ [");".toList]))) =
        (Table.ofBlock "CREATE TABLE t (\n`a` int,".toList).map ([·]) ∧
      ∃ t, Script.tables ("CREATE TABLE t (\n`a` int,".toList ++ Text.below
          ("FOREIGN KEY (`a`)".toList :: (["`b` int".toList] ++
            (["PRIMARY KEY ()".toList, "FOREIGN KEY (b),".toList] ++
              ["References `u` (`i`)".toList, ");".toList])))) = .ok [t] ∧
        t.foreignKeys[['a']]? = some ⟨none, ['u'], ['i']⟩ := by
  have hkey : Declaration.ofLine "FOREIGN KEY (`a`)".toList = .ok (.foreignKey ['a'] none) := by
    decide +kernel
  have hready : ∀ d, Draft.ofFront "CREATE TABLE t (\n`a` int,".toList = .ok d →
      d.waiting = none :=
    forall_of_map_ok (b := none) (by decide +kernel)
  have hstatement : Block.IsStatement ("CREATE TABLE t (\n`a` int,".toList ++ Text.below
      ("FOREIGN KEY (`a`)".toList :: (["`b` int".toList] ++
        ["References `u` (`i`)".toList, ");".toList]))) := by
    unfold Block.IsStatement
    decide +kernel
  have hstatement' : Block.IsStatement ("CREATE TABLE t (\n`a` int,".toList ++ Text.below
      ("FOREIGN KEY (`a`)".toList :: (["`b` int".toList] ++ [");".toList]))) := by
    unfold Block.IsStatement
    decide +kernel
  have htarget : (Script.tables ("CREATE TABLE t (\n`a` int,".toList ++ Text.below
      ("FOREIGN KEY (`a`)".toList :: (["`b` int".toList] ++
        ["References `u` (`i`)".toList, ");".toList])))).map (·.map (·.foreignKeys[['a']]?)) =
      .ok [some ⟨none, ['u'], ['i']⟩] := by
    decide +kernel
  have hinsert := (foreignKey_waits hkey hready (by decide) (by decide) hstatement).1
    ["PRIMARY KEY ()".toList, "FOREIGN KEY (b),".toList] (by decide +kernel)
  have halone := (foreignKey_waits hkey hready (by decide) (by decide) hstatement').2
    (by decide +kernel)
  obtain ⟨t, ht, hread⟩ := exists_singleton_of_map_ok htarget
  exact ⟨hinsert, halone, t, hinsert.trans ht, hread⟩

end SqlOutline
