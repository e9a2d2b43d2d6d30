import SqlOutline.Proofs.NameList
import SqlOutline.Proofs.WrittenColumn
import SqlOutline.Proofs.Trimming
import SqlOutline.Schema.Script

/-!
Lines that declare what they were written to declare.

A key is written as its keyword with a list of names behind it, a foreign key on one line or on two,
a column as its name, type and options. Taking up the lines of a declaration does what the
declaration does (`Declaration.Written.foldlM_step`).
-/

namespace SqlOutline
open Unicode

namespace Target

/-- The names of a target as they are written, the database in front if there is one. -/
def names (g : Target) : List Text := g.database.toList ++ [g.table, g.column]

theorem keyword_plain : keyword.Plain := by
  decide

theorem isWordChar_of_keyword {f : Text} (h : keyword.Spells f) :
    ∀ x ∈ f, isWordChar x = true := by
  have hspellings : keyword.spellings = [["REFERENCES".toList]] := by decide
  obtain ⟨p, hp, hf⟩ := h
  rw [hspellings, List.mem_singleton] at hp
  subst hp
  have hletters : ∀ l ∈ "REFERENCES".toList, l.isAlphanum = true :=
    List.all_eq_true.mp (by decide)
  exact fun x hx => isWordChar_of_isSolid (SameWord.isSolid hf hletters x hx)

theorem ofSegment_lists {g : Target} {m : Text} (hm : Lists g.names m)
    (hnames : ∀ n ∈ g.names, backtick ∉ n) : ofSegment m = .ok g := by
  obtain ⟨database, table, column⟩ := g
  rw [ofSegment, hm.names_ofText hnames]
  cases database <;> rfl

end Target

namespace Declaration

/-- What can be written down: keys of names, a primary key with at least one, a foreign key with its
target and no REFERENCES in its column, and columns with a name and a type. -/
def Writable : Declaration → Prop
  | .primaryKey columns => columns ≠ [] ∧ ∀ n ∈ columns, IsName n
  | .uniqueIndex columns => ∀ n ∈ columns, IsName n
  | .foreignKey key (some target) =>
    (∀ n ∈ key :: target.names, IsName n) ∧ Target.keyword.findWhole? false key = none
  | .column c => IsName c.name ∧ Column.IsType c.dataType
  | _ => False

/-- What may stand in front of a key: nothing, or a constraint with its name. -/
def IsConstraint (p : Text) : Prop :=
  p = [] ∨ ∃ n, backtick ∉ n ∧ p = "CONSTRAINT ".toList ++ enquote n ++ [' ']

/-- The lines that write a declaration, without the white space around them. A line may end in a
comma. -/
inductive Written : Declaration → List Text → Prop
  | primaryKey {columns : List Text} {p l : Text} (hp : IsConstraint p) (hl : Lists columns l) :
      Written (.primaryKey columns) [p ++ ("PRIMARY KEY".toList ++ l)]
  | uniqueIndex {columns : List Text} {p k index l : Text} (hp : IsConstraint p)
      (hk : k = "UNIQUE KEY".toList ∨ k = "UNIQUE INDEX".toList) (hindex : backtick ∉ index)
      (hl : Lists (index :: columns) l) :
      Written (.uniqueIndex columns) [p ++ (k ++ l)]
  | foreignKey {key : Text} {target : Target} {p l m : Text} (hp : IsConstraint p)
      (hl : Lists [key] l) (hm : Lists target.names m) :
      Written (.foreignKey key (some target))
        [p ++ ("FOREIGN KEY".toList ++ (l ++ ("REFERENCES".toList ++ m)))]
  | foreignKeyOnTwoLines {key : Text} {target : Target} {p l m : Text} (hp : IsConstraint p)
      (hl : Lists [key] l) (hm : Lists target.names m) :
      Written (.foreignKey key (some target))
        [p ++ ("FOREIGN KEY".toList ++ l), "REFERENCES".toList ++ m]
  | column {c : Column} {e : Text} (he : e = [] ∨ e = [',']) :
      Written (.column c) [c.written ++ e]

theorem primaryKeyword_plain : primaryKeyword.Plain := by
  decide

theorem uniqueKeyword_plain : uniqueKeyword.Plain := by
  decide

theorem foreignKeyword_plain : foreignKeyword.Plain := by
  decide

theorem constraintKeyword_plain : constraintKeyword.Plain := by
  decide

/-- What no keyword of a key may start with. -/
def StartsNoKey (c : Char) : Prop :=
  primaryKeyword.mayStartWith c = false ∧ uniqueKeyword.mayStartWith c = false ∧
    foreignKeyword.mayStartWith c = false

theorem opensKey_cons {c : Char} (hc : StartsNoKey c) (t : Text) : opensKey (c :: t) = false := by
  obtain ⟨hp, hu, hf⟩ := hc
  simp [opensKey, Keyword.readWhole_cons_eq_none primaryKeyword_plain hp,
    Keyword.readWhole_cons_eq_none uniqueKeyword_plain hu,
    Keyword.readWhole_cons_eq_none foreignKeyword_plain hf]

theorem trimStart_cons {c : Char} (hc : isWhiteSpace c = false) (t : Text) :
    Text.trimStart (c :: t) = c :: t := by
  simp [Text.trimStart, hc]

theorem startsNoKey_backtick : StartsNoKey backtick := by
  unfold StartsNoKey
  decide

theorem readWhole_constraint {k g : Text} (hk : constraintKeyword.Spells k) (hg : IsGap g)
    (x : Text) : constraintKeyword.readWhole (k ++ (g ++ x)) = some (k, g ++ x) := by
  obtain ⟨d, g, rfl⟩ := List.exists_cons_of_ne_nil hg.1
  have hd := not_isWordChar_of_isWhiteSpace (hg.2 d (List.mem_cons_self ..))
  exact (Keyword.readWhole_eq_some_iff constraintKeyword_plain).mpr
    ⟨rfl, hk, by simp [endsWord, hd]⟩

/-- What is left behind a constraint and a name that starts no key. -/
theorem dropConstraint_named {k g n x : Text} (hk : constraintKeyword.Spells k) (hg : IsGap g)
    (hhead : ∀ c ∈ (n ++ x).head?, isWhiteSpace c = false) (hopen : opensKey (n ++ x) = false)
    (hskip : skipName (n ++ x) = x) :
    dropConstraint (k ++ (g ++ (n ++ x))) = Text.trimStart x := by
  have hrest : Text.trimStart (g ++ (n ++ x)) = n ++ x := Text.trimStart_eq_of_split hg.2 hhead
  rw [dropConstraint, readWhole_constraint hk hg]
  simp only [hrest, hopen, hskip, Bool.false_eq_true, if_false]

/-- A name between backticks is skipped, whatever it looks like. -/
theorem dropConstraint_enquote {k g n : Text} (hk : constraintKeyword.Spells k) (hg : IsGap g)
    (hn : backtick ∉ n) (x : Text) :
    dropConstraint (k ++ (g ++ (enquote n ++ x))) = Text.trimStart x := by
  have hform : enquote n ++ x = backtick :: (n ++ backtick :: x) := by simp [enquote]
  apply dropConstraint_named hk hg
  · intro c hc
    rw [hform] at hc
    rw [← Option.some.inj hc]
    rfl
  · rw [hform, opensKey_cons startsNoKey_backtick]
  · have hcut : Text.cutAt? (· == backtick) (n ++ backtick :: x) = some (n, x) :=
      Text.cutAt?_append_cons (fun c hc => beq_eq_false_iff_ne.mpr fun h => hn (h ▸ hc)) (by simp)
    rw [hform, skipName, if_pos rfl, hcut]
    rfl

/-- A line is what stands behind its constraint. -/
theorem dropConstraint_append {p : Text} (hp : IsConstraint p) {c : Char}
    (hc : constraintKeyword.mayStartWith c = false) (hspace : isWhiteSpace c = false) (t : Text) :
    dropConstraint (p ++ c :: t) = c :: t := by
  rcases hp with rfl | ⟨n, hn, rfl⟩
  · rw [List.nil_append, dropConstraint, Keyword.readWhole_cons_eq_none constraintKeyword_plain hc]
  · have hread : constraintKeyword.read "CONSTRAINT".toList = some ("CONSTRAINT".toList, []) := by
      decide
    have hk := ((Keyword.read_eq_some_iff constraintKeyword_plain).mp hread).2
    have hform : "CONSTRAINT ".toList ++ enquote n ++ [' '] ++ c :: t =
        "CONSTRAINT".toList ++ ([' '] ++ (enquote n ++ ' ' :: c :: t)) := by
      simp
    rw [hform, dropConstraint_enquote hk (by decide) hn]
    exact trimStart_cons hspace t

/-! What the single lines declare. -/

section
variable {p l : Text} (hp : IsConstraint p)
include hp

theorem ofLine_primaryKey {columns : List Text} (hl : Lists columns l)
    (hw : Writable (.primaryKey columns))
    (htrim : IsTrimmed (p ++ ("PRIMARY KEY".toList ++ l))) :
    ofLine (p ++ ("PRIMARY KEY".toList ++ l)) = .ok (.primaryKey columns) := by
  obtain ⟨hne, hnames⟩ := hw
  have hread : primaryKeyword.readWhole ("PRIMARY KEY".toList ++ l) =
      some ("PRIMARY KEY".toList, l) :=
    Keyword.readWhole_append primaryKeyword_plain (by decide +kernel)
      (by simpa using hl.endsWord hne [])
  have hdrop : dropConstraint (p ++ ("PRIMARY KEY".toList ++ l)) = "PRIMARY KEY".toList ++ l :=
    dropConstraint_append hp (by decide) (by decide) _
  rw [ofLine, Text.trim_of_isTrimmed htrim, hdrop, ofBareLine, hread]
  simp only [requiredNames, hl.names_ofText fun n hn => (hnames n hn).backtick_notMem]
  cases columns with
  | nil => exact absurd rfl hne
  | cons n ns => rfl

/-- A unique index declares what stands behind its keyword, in any spelling of it. -/
theorem ofLine_uniqueKeyword {k : Text} (hk : uniqueKeyword.Spells k) (hend : endsWord l = true)
    (htrim : IsTrimmed (p ++ (k ++ l))) :
    ofLine (p ++ (k ++ l)) = (requiredNames l).map fun names => .uniqueIndex names.tail := by
  have hread : uniqueKeyword.readWhole (k ++ l) = some (k, l) :=
    (Keyword.readWhole_eq_some_iff uniqueKeyword_plain).mpr ⟨rfl, hk, hend⟩
  have hspace := hk.head_not_isWhiteSpace uniqueKeyword_plain
  obtain ⟨c, w, rfl⟩ := List.exists_cons_of_ne_nil (hk.ne_nil uniqueKeyword_plain)
  have hc := hk.mayStartWith uniqueKeyword_plain
  have hconstraint : constraintKeyword.mayStartWith c = false :=
    Keyword.mayStartWith_eq_false (by decide) hc
  have hprimary : primaryKeyword.mayStartWith c = false :=
    Keyword.mayStartWith_eq_false (by decide) hc
  have hdrop : dropConstraint (p ++ (c :: w ++ l)) = c :: w ++ l :=
    dropConstraint_append hp hconstraint (hspace c rfl) (w ++ l)
  have hnone : primaryKeyword.readWhole (c :: w ++ l) = none :=
    Keyword.readWhole_cons_eq_none primaryKeyword_plain hprimary (w ++ l)
  rw [ofLine, Text.trim_of_isTrimmed htrim, hdrop, ofBareLine, hnone, hread]

theorem ofLine_uniqueIndex {columns : List Text} {k index : Text}
    (hk : k = "UNIQUE KEY".toList ∨ k = "UNIQUE INDEX".toList) (hindex : backtick ∉ index)
    (hl : Lists (index :: columns) l) (hw : Writable (.uniqueIndex columns))
    (htrim : IsTrimmed (p ++ (k ++ l))) :
    ofLine (p ++ (k ++ l)) = .ok (.uniqueIndex columns) := by
  have hnames : ∀ n ∈ index :: columns, backtick ∉ n :=
    List.forall_mem_cons.mpr ⟨hindex, fun n hn => (hw n hn).backtick_notMem⟩
  have hread : uniqueKeyword.read k = some (k, []) := by
    rcases hk with rfl | rfl <;> decide +kernel
  have hspell := ((Keyword.read_eq_some_iff uniqueKeyword_plain).mp hread).2
  have hend : endsWord l = true := by simpa using hl.endsWord (by simp) []
  rw [ofLine_uniqueKeyword hp hspell hend htrim]
  simp only [requiredNames, hl.names_ofText hnames]
  rfl

/-- A foreign key declares what stands behind its keyword. -/
theorem ofLine_foreignKeyword (hend : endsWord l = true)
    (htrim : IsTrimmed (p ++ ("FOREIGN KEY".toList ++ l))) :
    ofLine (p ++ ("FOREIGN KEY".toList ++ l)) = foreignKeyOf l := by
  have hread : foreignKeyword.readWhole ("FOREIGN KEY".toList ++ l) =
      some ("FOREIGN KEY".toList, l) :=
    Keyword.readWhole_append foreignKeyword_plain (by decide +kernel) hend
  have hdrop : dropConstraint (p ++ ("FOREIGN KEY".toList ++ l)) = "FOREIGN KEY".toList ++ l :=
    dropConstraint_append hp (by decide) (by decide) _
  have hprimary : primaryKeyword.readWhole ("FOREIGN KEY".toList ++ l) = none :=
    Keyword.readWhole_cons_eq_none primaryKeyword_plain (by decide) _
  have hunique : uniqueKeyword.readWhole ("FOREIGN KEY".toList ++ l) = none :=
    Keyword.readWhole_cons_eq_none uniqueKeyword_plain (by decide) _
  rw [ofLine, Text.trim_of_isTrimmed htrim, hdrop, ofBareLine, hprimary, hunique, hread]

end

/-- The target of a foreign key is looked for behind its columns. -/
theorem findWhole?_references {names : List Text} {l : Text} (hl : Lists names l)
    (hnames : ∀ n ∈ names, Target.keyword.findWhole? false n = none) (s : Text) :
    Target.keyword.findWhole? false (l ++ s) =
      (Target.keyword.findWhole? false s).map (·.behind l) := by
  obtain ⟨c, rfl, rfl, hout⟩ := hl
  exact Keyword.findWhole?_behind_names Target.keyword_plain
    (fun f => Target.isWordChar_of_keyword) hout hnames s

section
variable {key : Text} {keys : List Text} {l : Text} (hl : Lists (key :: keys) l)
  (htick : ∀ n ∈ key :: keys, backtick ∉ n)
  (hkeys : ∀ n ∈ key :: keys, Target.keyword.findWhole? false n = none)
include hl htick hkeys

/-- A foreign key with its target on the same line is that of its first column. The target is what
the text `m` tells. -/
theorem foreignKeyOf_inline {m : Text} (hm : endsWord m = true) :
    foreignKeyOf (l ++ ("REFERENCES".toList ++ m)) =
      (Target.ofSegment m).map fun target => .foreignKey key (some target) := by
  have hread : Target.keyword.readWhole ("REFERENCES".toList ++ m) =
      some ("REFERENCES".toList, m) :=
    Keyword.readWhole_append Target.keyword_plain (by decide) hm
  rw [foreignKeyOf, findWhole?_references hl hkeys,
    Keyword.findWhole?_of_readWhole Target.keyword_plain hread]
  simp only [Option.map_some, Occurrence.behind, List.append_nil, requiredName,
    hl.names_ofText htick]
  cases Target.ofSegment m <;> rfl

/-- A foreign key without a target on its line. -/
theorem foreignKeyOf_alone : foreignKeyOf l = .ok (.foreignKey key none) := by
  have hfind := findWhole?_references hl hkeys []
  rw [List.append_nil] at hfind
  rw [foreignKeyOf, hfind]
  simp only [Keyword.findWhole?, Option.map_none, requiredName, hl.names_ofText htick]
  rfl

end

/-- A line that starts with no keyword declares a column or nothing. -/
theorem ofLine_cons {c : Char} {t : Text} (hc : StartsNoKey c)
    (hconstraint : constraintKeyword.mayStartWith c = false) (htrim : IsTrimmed (c :: t)) :
    ofLine (c :: t) = .ok (((Column.ofLine? (c :: t)).map .column).getD .other) := by
  obtain ⟨hp, hu, hf⟩ := hc
  have hspace := htrim.front c rfl
  have hdrop := dropConstraint_append (.inl rfl) hconstraint hspace t
  rw [List.nil_append] at hdrop
  rw [ofLine, Text.trim_of_isTrimmed htrim, hdrop, ofBareLine,
    Keyword.readWhole_cons_eq_none primaryKeyword_plain hp,
    Keyword.readWhole_cons_eq_none uniqueKeyword_plain hu,
    Keyword.readWhole_cons_eq_none foreignKeyword_plain hf]
  cases Column.ofLine? (c :: t) <;> rfl

/-- A line that starts with no keyword and no backtick declares nothing. -/
theorem ofLine_other {c : Char} {t : Text} (hc : StartsNoKey c)
    (hconstraint : constraintKeyword.mayStartWith c = false) (htick : c ≠ backtick)
    (htrim : IsTrimmed (c :: t)) : ofLine (c :: t) = .ok .other := by
  have hcolumn : Column.ofLine? (c :: t) = none := by
    have hname : Column.readName? (c :: t) = none := by
      rw [Column.readName?, Text.cutAt?, if_neg (by simpa using htick)]
      cases Text.cutAt? (· == backtick) t with
      | none => rfl
      | some ab =>
        obtain ⟨a, b⟩ := ab
        simp
    rw [Column.ofLine?, hname]
    rfl
  rw [ofLine_cons hc hconstraint htrim, hcolumn]
  rfl

/-- A line that starts with a closing parenthesis declares nothing. -/
theorem ofLine_closing {t : Text} (htrim : IsTrimmed (')' :: t)) :
    ofLine (')' :: t) = .ok .other := by
  have hnone : StartsNoKey ')' := by
    unfold StartsNoKey
    decide
  exact ofLine_other hnone (by decide) (by decide) htrim

theorem ofLine_column {c : Column} {e : Text} (he : e = [] ∨ e = [',']) (hw : Writable (.column c))
    (htrim : IsTrimmed (c.written ++ e)) : ofLine (c.written ++ e) = .ok (.column c) := by
  obtain ⟨hname, hτ⟩ := hw
  have hread := Column.ofLine?_written hname.ne_nil hname.backtick_notMem hτ he
  obtain ⟨x, hx⟩ : ∃ x, c.written ++ e = backtick :: x := ⟨_, rfl⟩
  rw [hx] at hread htrim ⊢
  rw [ofLine_cons startsNoKey_backtick (by decide) htrim, hread]
  rfl

theorem Written.ne_nil {d : Declaration} {ls : List Text} (h : Written d ls) :
    ∀ l ∈ ls, l ≠ [] := by
  cases h with
  | primaryKey hp hl => simp
  | uniqueIndex hp hk hindex hl => rcases hk with rfl | rfl <;> simp
  | foreignKey hp hl hm => simp
  | foreignKeyOnTwoLines hp hl hm => simp
  | column he => simp [Column.written, enquote]

/-- No declaration that can be written waits for a line of another one. -/
theorem Written.declare_eq {d : Declaration} {ls : List Text} (h : Written d ls) (t : Table) :
    Draft.declare ⟨t, none⟩ d = ⟨(Draft.declare ⟨t, none⟩ d).table, none⟩ := by
  cases h <;> rfl

theorem ofLine_references {m : Text} (hm : endsWord m = true)
    (htrim : IsTrimmed ("REFERENCES".toList ++ m)) :
    Target.ofLine ("REFERENCES".toList ++ m) = (Target.ofSegment m).map some := by
  have hread : Target.keyword.readWhole ("REFERENCES".toList ++ m) =
      some ("REFERENCES".toList, m) :=
    Keyword.readWhole_append Target.keyword_plain (by decide) hm
  rw [Target.ofLine, Text.trim_of_isTrimmed htrim, hread]

/-- Taking up the lines of a declaration takes up the declaration. -/
theorem Written.foldlM_step {d : Declaration} {ls : List Text} (h : Written d ls) (hw : d.Writable)
    (htrim : ∀ l ∈ ls, IsTrimmed l) (t : Table) :
    ls.foldlM Draft.step ⟨t, none⟩ = .ok (Draft.declare ⟨t, none⟩ d) := by
  have one_line : ∀ {l : Text} {d : Declaration}, ofLine l = .ok d →
      [l].foldlM Draft.step ⟨t, none⟩ = .ok (Draft.declare ⟨t, none⟩ d) := by
    intro l d hl
    rw [List.foldlM_cons, Draft.step, hl]
    rfl
  cases h with
  | primaryKey hp hl => exact one_line (ofLine_primaryKey hp hl hw (htrim _ (by simp)))
  | uniqueIndex hp hk hindex hl =>
    exact one_line (ofLine_uniqueIndex hp hk hindex hl hw (htrim _ (by simp)))
  | @foreignKey key target p l m hp hl hm =>
    obtain ⟨htick, htarget⟩ := List.forall_mem_cons.mp fun n hn => (hw.1 n hn).backtick_notMem
    have hend : endsWord m = true := by simpa using hm.endsWord (by simp [Target.names]) []
    have hline := ofLine_foreignKeyword hp (hl.endsWord (List.cons_ne_nil _ _) _)
      (htrim _ (List.mem_singleton_self _))
    rw [foreignKeyOf_inline hl (by simpa using htick) (by simpa using hw.2) hend,
      Target.ofSegment_lists hm htarget] at hline
    exact one_line hline
  | @foreignKeyOnTwoLines key target p l m hp hl hm =>
    obtain ⟨htick, htarget⟩ := List.forall_mem_cons.mp fun n hn => (hw.1 n hn).backtick_notMem
    have hend : endsWord l = true := by simpa using hl.endsWord (by simp) []
    have hend' : endsWord m = true := by simpa using hm.endsWord (by simp [Target.names]) []
    have hline := ofLine_foreignKeyword hp hend (htrim _ (by simp))
    have hnext := ofLine_references hend' (htrim _ (by simp))
    rw [foreignKeyOf_alone hl (by simpa using htick) (by simpa using hw.2)] at hline
    rw [Target.ofSegment_lists hm htarget] at hnext
    rw [List.foldlM_cons, Draft.step, hline]
    show Draft.step ⟨t, some key⟩ _ >>= _ = _
    rw [Draft.step, hnext]
    rfl
  | column he => exact one_line (ofLine_column he hw (htrim _ (by simp)))

end Declaration
end SqlOutline
