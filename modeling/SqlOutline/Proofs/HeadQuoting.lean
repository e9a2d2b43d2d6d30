import SqlOutline.Proofs.WrittenHead

/-!
Heads that name a table of word characters, with its parts quoted or bare.

Quotes are looked for in all of the head up to its column list. So a name is read as it was written
if its parts are both quoted or both bare and no quotes come behind it, and in hardly any other case
(`TableName.ofHead_spelled_iff`).
-/

namespace SqlOutline
open Unicode

namespace TableName

/-- A text that can stand for a name without quotes. -/
structure IsWord (w : Text) : Prop where
  ne_nil : w ≠ []
  word : ∀ c ∈ w, isWordChar c = true

instance (w : Text) : Decidable (IsWord w) :=
  decidable_of_iff (w ≠ [] ∧ w.all isWordChar = true)
    ⟨fun ⟨h₁, h₂⟩ => ⟨h₁, List.all_eq_true.mp h₂⟩, fun ⟨h₁, h₂⟩ => ⟨h₁, List.all_eq_true.mpr h₂⟩⟩

/-- A name whose parts can all stand without quotes. -/
structure OfWords (n : TableName) : Prop where
  database : ∀ d ∈ n.database, IsWord d
  table : IsWord n.table

instance (n : TableName) : Decidable n.OfWords :=
  decidable_of_iff ((∀ d ∈ n.database, IsWord d) ∧ IsWord n.table)
    ⟨fun ⟨h₁, h₂⟩ => ⟨h₁, h₂⟩, fun ⟨h₁, h₂⟩ => ⟨h₁, h₂⟩⟩

/-- A part of a name, between backticks or bare. -/
def part (quoted : Bool) (w : Text) : Text := if quoted then enquote w else w

/-- A name as a head has it, with the backticks that the two flags ask for. -/
def spelled (databaseQuoted tableQuoted : Bool) (n : TableName) : Text :=
  qualify (n.database.map (part databaseQuoted)) (part tableQuoted n.table)

namespace IsWord
variable {w : Text} (h : IsWord w)
include h

theorem notMem {x : Char} (hx : isWordChar x = false) : x ∉ w := by
  intro hmem
  rw [h.word x hmem] at hx
  exact Bool.false_ne_true hx.symm

theorem isName : IsName w :=
  ⟨h.ne_nil, h.notMem (by decide), h.notMem (by decide)⟩

end IsWord

namespace OfWords
variable {n : TableName} (h : n.OfWords)
include h

theorem writable : n.Writable where
  database d hd := ⟨(h.database d hd).isName, (h.database d hd).notMem (by decide)⟩
  table := h.table.isName
  undotted _ := h.table.notMem (by decide)

/-- Only the dot in a name is no word character. -/
theorem qualified_mem {x : Char} (hx : x ∈ n.qualified) : isWordChar x = true ∨ x = '.' := by
  obtain ⟨database, table⟩ := n
  cases database with
  | none => exact .inl (h.table.word x hx)
  | some d =>
    rcases List.mem_append.mp hx with hx | hx
    · exact .inl ((h.database d rfl).word x hx)
    · exact (List.mem_cons.mp hx).elim .inr fun hx => .inl (h.table.word x hx)

theorem notMem_qualified {x : Char} (hx : isWordChar x = false) (hdot : x ≠ '.') :
    x ∉ n.qualified := by
  intro hmem
  rcases h.qualified_mem hmem with hword | rfl
  · rw [hx] at hword
    exact Bool.false_ne_true hword
  · exact hdot rfl

theorem qualified_not_isWhiteSpace : ∀ c ∈ n.qualified, isWhiteSpace c = false := by
  intro c hc
  rcases h.qualified_mem hc with hword | rfl
  · exact not_isWhiteSpace_of_isWordChar hword
  · decide

theorem qualified_ne_nil : n.qualified ≠ [] := by
  obtain ⟨database, table⟩ := n
  cases database with
  | none => exact h.table.ne_nil
  | some d => simp [qualified]

end OfWords

/-! Names without quotes. -/

section
variable {q z : Text} (hq : ∀ c ∈ q, isWhiteSpace c = false) (hz : ∀ c ∈ z.head?, c = ' ')
  (hguard : ¬ SameWord "IF".toList q)
include hq hz hguard

/-- No other word than its own first one opens the guard. -/
theorem guardKeyword_read_eq_none : guardKeyword.read (q ++ z) = none := by
  rw [Option.eq_none_iff_forall_ne_some]
  rintro ⟨f, r⟩ hread
  obtain ⟨hform, p, hp, hspell⟩ := (Keyword.read_eq_some_iff guardKeyword_plain).mp hread
  have hphrases : guardKeyword.spellings = [["IF".toList, "NOT".toList, "EXISTS".toList]] := by
    decide
  rw [hphrases, List.mem_singleton] at hp
  subst hp
  obtain ⟨u, x, rfl, hu, ⟨hnil, -⟩ | ⟨-, g, y, rfl, hg, -⟩⟩ := Phrase.spells_cons_iff.mp hspell
  · cases hnil
  · rw [List.append_assoc, List.append_assoc] at hform
    obtain ⟨b, rfl, hb⟩ := hg.split_word hq hform.symm
    cases b with
    | nil =>
      rw [List.append_nil] at hu
      exact hguard hu
    | cons c b =>
      have hc : c = ' ' := hz c (by rw [← hb]; rfl)
      have hletters : ∀ l ∈ "IF".toList, l.isAlphanum = true := List.all_eq_true.mp (by decide)
      have hsolid := hu.isSolid hletters c (by simp)
      rw [hc] at hsolid
      exact absurd hsolid (by decide)

/-- A bare name is read to its end. -/
theorem bareName?_append (hne : q ≠ []) (hopen : '(' ∉ q) :
    bareName? ("CREATE TABLE ".toList ++ (q ++ z)) = some q := by
  have hcreate : createKeyword.read ("CREATE TABLE".toList ++ ' ' :: (q ++ z)) =
      some ("CREATE TABLE".toList, ' ' :: (q ++ z)) := by
    have hspell : createKeyword.read "CREATE TABLE".toList = some ("CREATE TABLE".toList, []) := by
      decide +kernel
    exact (Keyword.read_eq_some_iff createKeyword_plain).mpr
      ⟨rfl, ((Keyword.read_eq_some_iff createKeyword_plain).mp hspell).2⟩
  have hgap : Reader.run isWhiteSpace (' ' :: (q ++ z)) = some ([' '], q ++ z) := by
    refine Reader.run_eq_some_iff.mpr ⟨rfl, by simp, List.all_eq_true.mp (by decide), ?_⟩
    refine fun c hc => hq c ?_
    rw [List.head?_append_of_ne_nil _ hne] at hc
    exact List.mem_of_head? hc
  have hword : readWord (q ++ z) = some (q, z) := by
    refine Reader.run_eq_some_iff.mpr ⟨rfl, hne, fun c hc => ?_, fun c hc => ?_⟩
    · simp [hq c hc, ne_of_mem_of_not_mem hc hopen]
    · obtain rfl := hz c hc
      decide
  have hname : guardedWord? (q ++ z) = some q := by
    have hnone := guardKeyword_read_eq_none hq hz hguard
    simp only [guardedWord?, Reader.andThen, hnone, hword, Option.bind_eq_bind, Option.bind_none,
      Option.map_some]
  have hform : "CREATE TABLE ".toList ++ (q ++ z) = "CREATE TABLE".toList ++ ' ' :: (q ++ z) := rfl
  have htrim : Text.trimStart ("CREATE TABLE".toList ++ ' ' :: (q ++ z)) =
      "CREATE TABLE".toList ++ ' ' :: (q ++ z) := rfl
  rw [bareName?, hform, htrim, Reader.andThen_eq_some hcreate hgap]
  exact hname

end

/-! Names with quotes. -/

/-- A quoted name is the span if no backtick comes behind it; otherwise the span has the blank
behind the name in it. -/
theorem quotedSpan?_eq_iff {a m b z q : Text} (ha : backtick ∉ a) (hb : backtick ∉ b)
    (hz : ∀ c ∈ z.head?, c = ' ') (hq : ' ' ∉ q) :
    ∃ s, quotedSpan? (a ++ (enquote m ++ (b ++ z))) = some s ∧
      (s = q ↔ backtick ∉ z ∧ m.filter (· != backtick) = q) := by
  rw [quotedSpan?_append ha]
  by_cases htick : backtick ∈ z
  -- The span goes on to the last backtick of `z`, past the blank that `z` starts with.
  · obtain ⟨v, u, hform, hv⟩ := List.eq_append_cons_of_mem (List.mem_reverse.mpr htick)
    obtain rfl : u.reverse ++ backtick :: v.reverse = z := by
      rw [← List.reverse_inj, hform]
      simp
    have htext : enquote m ++ (b ++ (u.reverse ++ backtick :: v.reverse)) =
        enquote (m ++ backtick :: (b ++ u.reverse)) ++ v.reverse := by
      simp [enquote]
    refine ⟨_, htext ▸ quotedSpan?_between _ fun h => hv (List.mem_reverse.mp h), ?_⟩
    have hspace : ' ' ∈ (m ++ backtick :: (b ++ u.reverse)).filter (· != backtick) := by
      have hu : ' ' ∈ u.reverse := by
        cases hr : u.reverse with
        | nil =>
          rw [hr] at hz
          exact absurd (hz backtick rfl) (by decide)
        | cons c w =>
          rw [hr] at hz
          rw [hz c rfl]
          exact List.mem_cons_self
      have hne : (' ' != backtick) = true := by decide
      exact List.mem_filter.mpr ⟨by simp [hu], hne⟩
    constructor
    · rintro rfl
      exact absurd hspace hq
    · rintro ⟨hno, -⟩
      exact absurd htick hno
  · refine ⟨_, ?_, Iff.symm (and_iff_right htick)⟩
    rw [quotedSpan?_between m fun h => (List.mem_append.mp h).elim hb htick]

/-! The front of a head. -/

theorem count_part {quoted : Bool} {w : Text} (hw : backtick ∉ w) :
    (part quoted w).count backtick % 2 = 0 := by
  cases quoted with
  | false => simp [part, List.count_eq_zero.mpr hw]
  | true => simp [part, Cut.count_enquote hw]

theorem notMem_part {quoted : Bool} {w : Text} {x : Char} (hx : x ≠ backtick) (hw : x ∉ w) :
    x ∉ part quoted w := by
  cases quoted <;> simp [part, enquote, hx, hw]

section
variable {n : TableName} (hn : n.OfWords) {databaseQuoted tableQuoted : Bool}
include hn

theorem even_spelled : (n.spelled databaseQuoted tableQuoted).count backtick % 2 = 0 := by
  have hpart : ∀ {quoted : Bool} {w : Text}, IsWord w → (part quoted w).count backtick % 2 = 0 :=
    fun hw => count_part (hw.notMem (by decide))
  refine even_qualify (fun d hd => ?_) (hpart hn.table)
  obtain ⟨w, hw, rfl⟩ := Option.map_eq_some_iff.mp hd
  exact hpart (hn.database w hw)

theorem paren_notMem_spelled : '(' ∉ n.spelled databaseQuoted tableQuoted := by
  have hpart : ∀ {quoted : Bool} {w : Text}, IsWord w → ∀ x ∈ part quoted w, x ≠ '(' :=
    fun hw x hx => ne_of_mem_of_not_mem hx (notMem_part (by decide) (hw.notMem (by decide)))
  have hname : ∀ x ∈ n.spelled databaseQuoted tableQuoted, x ≠ '(' := by
    refine forall_mem_qualify (fun d hd => ?_) (by decide) (hpart hn.table)
    obtain ⟨w, hw, rfl⟩ := Option.map_eq_some_iff.mp hd
    exact hpart (hn.database w hw)
  exact fun hmem => hname _ hmem rfl

/-- A head goes on behind its name as any text does. -/
theorem toText_front_spelled (tail : Text) :
    (front ("CREATE TABLE ".toList ++ (n.spelled databaseQuoted tableQuoted ++ tail))).toText =
      "CREATE TABLE ".toList ++ (n.spelled databaseQuoted tableQuoted ++ (front tail).toText) := by
  have hcreate : "CREATE TABLE ".toList.count backtick = 0 ∧ '(' ∉ "CREATE TABLE ".toList := by
    decide
  have hnone : '(' ∉ n.spelled databaseQuoted tableQuoted := paren_notMem_spelled hn
  have heven : (n.spelled databaseQuoted tableQuoted).count backtick % 2 = 0 := even_spelled hn
  generalize n.spelled databaseQuoted tableQuoted = q at hnone heven
  have heven' : ("CREATE TABLE ".toList ++ q).count backtick % 2 = 0 := by
    rwa [List.count_append, hcreate.1, Nat.zero_add]
  have hout : (Cut.ofText ("CREATE TABLE ".toList ++ q)).AllOutside ('(' ∉ ·) := by
    refine Cut.allOutside_of_infix fun r hr hmem => ?_
    rw [Cut.toText_ofText] at hr
    exact (List.mem_append.mp (hr.subset hmem)).elim hcreate.2 hnone
  rw [← List.append_assoc, front_append heven' hout, Cut.toText_append, Cut.toText_ofText,
    List.append_assoc]

end

/-- Behind a name a head goes on with a blank or with nothing. -/
theorem head?_front {tail : Text} (htail : ∀ c ∈ tail.head?, c = ' ' ∨ c = '(') :
    ∀ c ∈ (front tail).toText.head?, c = ' ' := by
  cases tail with
  | nil => intro c hc; cases hc
  | cons x t =>
    rcases htail x rfl with rfl | rfl
    · have hfront : front (' ' :: t) = .plain [' '] ++ front t :=
        front_append (a := [' ']) rfl (Cut.allOutside_plain.mpr (by decide)) t
      rw [hfront, Cut.toText_append, Cut.toText_plain]
      rintro c hc
      exact (Option.some.inj hc).symm
    · rw [front_columns, Cut.toText_plain]
      intro c hc
      cases hc

section
variable {q z : Text} (hz : ∀ c ∈ z.head?, c = ' ')
include hz

theorem or_bareName?_bare (hne : q ≠ []) (hq : ∀ c ∈ q, isWhiteSpace c = false) (hopen : '(' ∉ q)
    (htick : backtick ∉ q) (hguard : ¬ SameWord "IF".toList q) :
    (quotedSpan? ("CREATE TABLE ".toList ++ (q ++ z))).or
        (bareName? ("CREATE TABLE ".toList ++ (q ++ z))) = some q ↔
      ∀ s ∈ quotedSpan? z, s = q := by
  rw [quotedSpan?_append (by decide), quotedSpan?_append htick,
    bareName?_append hq hz hguard hne hopen]
  cases quotedSpan? z with
  | none => simp
  | some s => simp

theorem or_bareName?_quoted {a m b : Text} (ha : backtick ∉ a) (hb : backtick ∉ b) (hq : ' ' ∉ q) :
    (quotedSpan? (a ++ (enquote m ++ (b ++ z)))).or
        (bareName? (a ++ (enquote m ++ (b ++ z)))) = some q ↔
      backtick ∉ z ∧ m.filter (· != backtick) = q := by
  obtain ⟨s, hs, hiff⟩ := quotedSpan?_eq_iff (m := m) ha hb hz hq
  rw [hs, Option.some_or, Option.some.injEq, hiff]

end

/-- A name is spelled without backticks, or there are some in it. What stands from the first of them
to the last is the name exactly if its parts are quoted alike. -/
theorem spelled_cases {n : TableName} (hn : n.OfWords) (databaseQuoted tableQuoted : Bool) :
    (n.spelled databaseQuoted tableQuoted = n.qualified ∧ tableQuoted = false ∧
        (n.database.isSome = true → databaseQuoted = tableQuoted)) ∨
      ∃ a m b, n.spelled databaseQuoted tableQuoted = a ++ (enquote m ++ b) ∧
        backtick ∉ a ∧ backtick ∉ b ∧
        (m.filter (· != backtick) = n.qualified ↔
          (n.database.isSome = true → databaseQuoted = tableQuoted)) ∧
        ((n.database.isSome = true → databaseQuoted = tableQuoted) → tableQuoted = true) := by
  have hnil : backtick ∉ ([] : Text) := List.not_mem_nil
  have hdot : ('.' != backtick) = true := by decide
  obtain ⟨database, table⟩ := n
  have htick := hn.writable.table.backtick_notMem
  have htable := filter_eq_of_notMem htick
  cases database with
  | none =>
    cases tableQuoted with
    | false => exact .inl ⟨rfl, rfl, by simp⟩
    | true =>
      exact .inr ⟨[], table, [], by simp [spelled, qualify, part], hnil, hnil,
        by simp [qualified, htable], fun _ => rfl⟩
  | some d =>
    have hd := (hn.writable.database d rfl).1.backtick_notMem
    have hfilter := filter_eq_of_notMem hd
    have hlength : (qualified ⟨some d, table⟩).length = d.length + table.length + 1 :=
      List.length_append
    cases databaseQuoted with
    | false =>
      cases tableQuoted with
      | false => exact .inl ⟨rfl, rfl, fun _ => rfl⟩
      | true =>
        -- The backticks are those of the table, and the database is left outside.
        have hfront : backtick ∉ d ++ ['.'] := by
          rw [List.mem_append, not_or]
          exact ⟨hd, by decide⟩
        have hne : table ≠ qualified ⟨some d, table⟩ := by
          intro h
          have := congrArg List.length h
          omega
        exact .inr ⟨d ++ ['.'], table, [], by simp [spelled, qualify, part], hfront, hnil,
          by simp [htable, hne], fun _ => rfl⟩
    | true =>
      cases tableQuoted with
      | false =>
        -- Here they are those of the database.
        have hbehind : backtick ∉ '.' :: table := by
          rw [List.mem_cons, not_or]
          exact ⟨by decide, htick⟩
        have hne : d ≠ qualified ⟨some d, table⟩ := by
          intro h
          have := congrArg List.length h
          omega
        exact .inr ⟨[], d, '.' :: table, by simp [spelled, qualify, part], hnil, hbehind,
          by simp [hfilter, hne], by simp⟩
      | true =>
        exact .inr ⟨[], d ++ backtick :: '.' :: backtick :: table, [],
          by simp [spelled, qualify, part, enquote], hnil, hnil,
          by simp [qualified, hfilter, htable, hdot], fun _ => rfl⟩

/-- A name of words is read as it was written exactly if its parts are quoted alike and no other
quotes stand in front of the column list. Behind a bare name they may hold that name again. -/
theorem ofHead_spelled_iff {n : TableName} (hn : n.OfWords) {databaseQuoted tableQuoted : Bool}
    (hguard : ¬ SameWord "IF".toList (n.spelled databaseQuoted tableQuoted)) {tail : Text}
    (htail : ∀ c ∈ tail.head?, c = ' ' ∨ c = '(')
    (hfree : (front ("CREATE TABLE ".toList ++
      (n.spelled databaseQuoted tableQuoted ++ tail))).AllOutside (StemFree headTag)) :
    ofHead ("CREATE TABLE ".toList ++ (n.spelled databaseQuoted tableQuoted ++ tail)) = .ok n ↔
      (n.database.isSome = true → databaseQuoted = tableQuoted) ∧
        if tableQuoted then backtick ∉ (front tail).toText
        else ∀ s ∈ quotedSpan? (front tail).toText, s = n.qualified := by
  have hz := head?_front htail
  have hnone : ∀ x, isWordChar x = false → x ≠ '.' → x ∉ n.qualified :=
    fun _ => hn.notMem_qualified
  rw [ofHead_eq_ok_iff (ofQualified_qualified hn.writable), beforeColumns_of_stemFree hfree,
    toText_front_spelled hn]
  generalize (front tail).toText = z at hz
  obtain ⟨hform, rfl, halike⟩ | ⟨a, m, b, hform, ha, hb, hiff, hquoted⟩ :=
    spelled_cases hn databaseQuoted tableQuoted
  · rw [hform] at hguard ⊢
    rw [or_bareName?_bare hz hn.qualified_ne_nil hn.qualified_not_isWhiteSpace
      (hnone '(' (by decide) (by decide)) (hnone backtick (by decide) (by decide)) hguard,
      and_iff_right halike, if_neg Bool.false_ne_true]
  · have hfront : backtick ∉ "CREATE TABLE ".toList ++ a := by
      rw [List.mem_append, not_or]
      exact ⟨by decide, ha⟩
    have hread := or_bareName?_quoted (m := m) hz hfront hb (hnone ' ' (by decide) (by decide))
    simp only [List.append_assoc] at hread
    rw [hform, List.append_assoc, List.append_assoc, hread, hiff, and_comm]
    refine and_congr_right fun halike => ?_
    rw [if_pos (hquoted halike)]

/-- Neither the columns nor the tables named behind them are taken for the table. -/
theorem ofHead_spelled_bare :
    ∃ (n : TableName) (tail : Text), n = ⟨some "shop".toList, "if_any".toList⟩ ∧
      tail = " (`__tbl0__` int REFERENCES `users` (`id`)".toList ∧ n.OfWords ∧
      ¬ SameWord "IF".toList (n.spelled false false) ∧
      (∀ c ∈ tail.head?, c = ' ' ∨ c = '(') ∧
      (front ("CREATE TABLE ".toList ++ (n.spelled false false ++ tail))).AllOutside
        (StemFree headTag) ∧
      ofHead "CREATE TABLE shop.if_any (`__tbl0__` int REFERENCES `users` (`id`)".toList =
        .ok n := by
  have hwords : OfWords ⟨some "shop".toList, "if_any".toList⟩ := by decide +kernel
  have hguard : ¬ SameWord "IF".toList
      (spelled false false ⟨some "shop".toList, "if_any".toList⟩) := by
    decide +kernel
  have htail : ∀ c ∈ " (`__tbl0__` int REFERENCES `users` (`id`)".toList.head?,
      c = ' ' ∨ c = '(' :=
    fun c hc => .inl (Option.some.inj hc).symm
  have hfree : (front ("CREATE TABLE ".toList ++
      (spelled false false ⟨some "shop".toList, "if_any".toList⟩ ++
        " (`__tbl0__` int REFERENCES `users` (`id`)".toList))).AllOutside (StemFree headTag) := by
    decide +kernel
  have hread := (ofHead_spelled_iff hwords hguard htail hfree).mpr ⟨fun _ => rfl, by decide +kernel⟩
  exact ⟨_, _, rfl, rfl, hwords, hguard, htail, hfree, hread⟩

/-- Of a name with one part quoted this part is read alone, and a table quoted behind the name is
read in its place. -/
theorem ofHead_partly_quoted :
    spelled true false ⟨some "shop".toList, "orders".toList⟩ = "`shop`.orders".toList ∧
      OfWords ⟨some "shop".toList, "orders".toList⟩ ∧
      ofHead "CREATE TABLE `shop`.orders (`id` int)".toList = .ok ⟨none, "shop".toList⟩ ∧
      ofHead "CREATE TABLE shop.`orders` (`id` int)".toList = .ok ⟨none, "orders".toList⟩ ∧
      ofHead "CREATE TABLE orders LIKE `users`".toList = .ok ⟨none, "users".toList⟩ := by
  decide +kernel

end TableName
end SqlOutline
