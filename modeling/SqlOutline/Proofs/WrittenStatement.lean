import SqlOutline.Proofs.HiddenStatement

/-!
Statements written out from their clauses.

Clauses are written with their keywords in any mixture of case and with any white space around them.
If their texts keep to themselves (`ClauseSet.Writable`), cutting the statement gives back exactly
the clauses that were written (`ofQuery_written`).
-/

namespace SqlOutline
open Unicode Placeholder

/-- The text ends in the word, in whatever case. -/
def EndsInWord (w t : Text) : Prop := ∃ u, u <:+ t ∧ SameWord w u

instance (w t : Text) : Decidable (EndsInWord w t) :=
  decidable_of_iff (∃ u ∈ t.tails, SameWord w u) (by simp [EndsInWord])

/-- The words that JOIN may have before it. -/
def joinKinds : List Text := ["INNER", "CROSS", "LEFT", "RIGHT", "OUTER"].map String.toList

/-- `p` writes the clause `c` with the text `t`: its keyword, white space and the text, or the text
alone if the keyword belongs to it. -/
def Clause.Writes (c : Clause) (t p : Text) : Prop :=
  if c.keepsKeyword then t = p
  else ∃ k g, c.keyword.read k = some (k, []) ∧ IsGap g ∧ k ++ g ++ t = p

/-- The words of the keyword in any mixture of case, with any white space between them, write it. -/
theorem Clause.writes_of_spells {c : Clause} (hc : c.keepsKeyword = false) {k : Text}
    (hk : c.keyword.Spells k) {g : Text} (hg : IsGap g) (t : Text) : c.Writes t (k ++ g ++ t) := by
  unfold Clause.Writes
  rw [hc]
  exact ⟨k, g, (Keyword.read_eq_some_iff c.keyword_plain).mpr ⟨by simp, hk⟩, hg, rfl⟩

/-- `q` writes the clauses `es`, the last one first, with white space in between. -/
inductive WrittenStatement : List (Clause × Text) → Text → Prop
  | first {c : Clause} {t p : Text} (h : c.Writes t p) : WrittenStatement [(c, t)] p
  | behind {es : List (Clause × Text)} {q g : Text} {c : Clause} {t p : Text}
      (hq : WrittenStatement es q) (hg : IsGap g) (h : c.Writes t p) :
      WrittenStatement ((c, t) :: es) (q ++ g ++ p)

/-- The text may be written for the clause: it is trimmed and closed in its literals, and it lacks
the keywords that are searched before that of its clause. -/
structure WritableText (tag : Text) (c : Clause) (t : Text) : Prop where
  ne_nil : t ≠ []
  trimmed : Text.trim t = t
  even : t.count backtick % 2 = 0
  stemFree : (Cut.ofText t).AllOutside (StemFree tag)
  lacks : ∀ d, [d, c].Sublist Clause.peelOrder →
    d.keyword.find? tag (hideLiterals tag t).1 = none
  opened : c = .joins → ∃ o, c.keyword.find? tag (hideLiterals tag t).1 = some o ∧ o.before = []

instance (tag : Text) (c : Clause) (t : Text) : Decidable (WritableText tag c t) :=
  decidable_of_iff (t ≠ [] ∧ Text.trim t = t ∧ t.count backtick % 2 = 0 ∧
      (Cut.ofText t).AllOutside (StemFree tag) ∧
      (∀ d ∈ Clause.peelOrder, [d, c].Sublist Clause.peelOrder →
        d.keyword.find? tag (hideLiterals tag t).1 = none) ∧
      (c = .joins → ∃ o ∈ c.keyword.find? tag (hideLiterals tag t).1, o.before = [])) <| by
    constructor
    · rintro ⟨hne, htrim, heven, hstem, hlacks, hopened⟩
      exact ⟨hne, htrim, heven, hstem, fun d hd => hlacks d d.mem_peelOrder hd, hopened⟩
    · rintro ⟨hne, htrim, heven, hstem, hlacks, hopened⟩
      exact ⟨hne, htrim, heven, hstem, fun d _ hd => hlacks d hd, hopened⟩

namespace ClauseSet

/-- The clauses of the set in the order in which they are cut off, the last one first. -/
def peeled (s : ClauseSet) : List (Clause × Text) :=
  Clause.peelOrder.filterMap fun c => (s.get? c).map fun t => (c, t)

/-- The set can be written out: it has what a statement needs, and no word before its joins could
belong to them. -/
structure Writable (tag : Text) (s : ClauseSet) : Prop where
  fields : s.fields.isSome
  source : s.source.isSome
  texts : ∀ c t, s.get? c = some t → WritableText tag c t
  apart : s.peeled.IsChain fun e e' => e.1 = .joins → ∀ w ∈ joinKinds, ¬ EndsInWord w e'.2

theorem mem_peeled {s : ClauseSet} {c : Clause} {t : Text} :
    (c, t) ∈ s.peeled ↔ s.get? c = some t := by
  constructor
  · intro h
    obtain ⟨d, -, hd⟩ := List.mem_filterMap.mp h
    obtain ⟨u, hu, he⟩ := Option.map_eq_some_iff.mp hd
    obtain ⟨rfl, rfl⟩ := Prod.mk.inj he
    exact hu
  · intro h
    exact List.mem_filterMap.mpr ⟨c, c.mem_peelOrder, by simp [h]⟩

theorem peeled_clauses (s : ClauseSet) : (s.peeled.map (·.1)).Sublist Clause.peelOrder := by
  unfold peeled
  induction Clause.peelOrder with
  | nil => simp
  | cons c cs ih =>
    cases hc : s.get? c with
    | none => simpa [hc] using ih.cons c
    | some t => simpa [hc] using ih.cons_cons c

theorem ofEntries_peeled (s : ClauseSet) : ofEntries s.peeled = s := by
  refine ext_get? fun c => Option.ext fun t => ?_
  rw [get?_ofEntries (Clause.nodup_peelOrder.sublist s.peeled_clauses), mem_peeled]

end ClauseSet

section
variable {tag : Text} (htag : PlainTag tag)
include htag

namespace WritableText
variable {c : Clause} {t : Text} (ht : WritableText tag c t) (n : Nat)
include ht

omit htag in
theorem hidden_isTrimmed : IsTrimmed ((Cut.ofText t).hiddenAt tag n) := by
  rw [Cut.isTrimmed_hiddenAt_iff, Cut.toText_ofText, ← Text.trim_eq_self_iff]
  exact ht.trimmed

omit htag in
theorem hidden_ne_nil : (Cut.ofText t).hiddenAt tag n ≠ [] := by
  simpa using ht.ne_nil

theorem hidden_lacks {d : Clause} (hd : [d, c].Sublist Clause.peelOrder) :
    Lacks d.keyword tag ((Cut.ofText t).hiddenAt tag n) := by
  rw [lacks_iff htag d.keyword_plain]
  exact find?_hiddenAt_eq_none htag d.keyword_plain (ht.lacks d hd) n

/-- A text that keeps its keyword is its own clause. -/
theorem hidden_kept (hkeeps : c.keepsKeyword = true) :
    HiddenClause tag c ((Cut.ofText t).hiddenAt tag n) ((Cut.ofText t).hiddenAt tag n) where
  trimmed := ht.hidden_isTrimmed n
  ne_nil := ht.hidden_ne_nil n
  opened := by
    obtain ⟨o, hfind, hbefore⟩ := ht.opened (by simpa [Clause.keepsKeyword] using hkeeps)
    obtain ⟨htext, ho, -⟩ := (Keyword.find?_eq_some_iff htag c.keyword_plain).mp hfind
    obtain ⟨A, B, hcut, hA, hB⟩ := ho.split htag c.keyword_plain (i := 0) htext.symm
    -- The numbers in the statement differ from those in the text alone.
    have hnil : A.hiddenAt tag n = [] := by
      rw [hbefore, Cut.hiddenAt_eq_nil_iff] at hA
      rw [Cut.hiddenAt_eq_nil_iff, hA]
    have hform :
        o.found ++ B.hiddenAt tag (n + A.names.length) = (Cut.ofText t).hiddenAt tag n := by
      rw [← hcut, Cut.hiddenAt_append, Cut.hiddenAt_append, hnil]
      simp
    have hbounded : Bounded c.keyword tag ⟨[], o.found, B.hiddenAt tag (n + A.names.length)⟩ := by
      rw [← hnil]
      apply Bounded.renumber htag (i := 0) (j := 0 + A.names.length)
      rw [hA, hB]
      exact ho
    refine ⟨o.found, B.hiddenAt tag (n + A.names.length), [], hform, hbounded, .nil, ?_⟩
    rw [Clause.body, if_pos hkeeps, ← hform, List.nil_append]
  ends := ⟨[], rfl, by simp⟩
  lacks _ hd := ht.hidden_lacks htag n hd

/-- A keyword, white space and the text are a clause. -/
theorem hidden_opened (hkeeps : c.keepsKeyword = false) {k g : Text}
    (hk : c.keyword.Spells k) (hg : IsGap g) :
    HiddenClause tag c ((Cut.ofText t).hiddenAt tag n)
      (k ++ g ++ (Cut.ofText t).hiddenAt tag n) where
  trimmed := ht.hidden_isTrimmed n
  ne_nil := ht.hidden_ne_nil n
  opened := by
    refine ⟨k, g ++ (Cut.ofText t).hiddenAt tag n, g, by simp,
      ⟨hk, .inl rfl, Blank.startsInBreak hg.2 hg.1 tag _⟩, hg.2, ?_⟩
    simp [Clause.body, hkeeps]
  ends := ⟨k ++ g, rfl, hg.last_isWhiteSpace k⟩
  lacks d hd := by
    have hlast := hk.last_not_isWhiteSpace c.keyword_plain
    obtain ⟨e, he, hspell⟩ := hk
    have hwords := (keywords_apart d d.mem_peelOrder c c.mem_peelOrder hd).2 hkeeps
    have hstart := hspell.startsNoWord htag d.keyword_plain (c.keyword_plain e he).1
      fun p hp w hw v hv => hwords p hp w hw e he v hv
    exact Lacks.seam htag d.keyword_plain (hstart.lacks d.keyword_plain) (ht.hidden_lacks htag n hd)
      (hstart.not_straddles _) hg hlast (ht.hidden_isTrimmed n).front

theorem hiddenClause {p : Text} (hp : c.Writes t p) :
    p.count backtick % 2 = 0 ∧ (Cut.ofText p).names = (Cut.ofText t).names ∧
      HiddenClause tag c ((Cut.ofText t).hiddenAt tag n) ((Cut.ofText p).hiddenAt tag n) := by
  unfold Clause.Writes at hp
  split at hp
  · rename_i hkeeps
    subst hp
    exact ⟨ht.even, rfl, ht.hidden_kept htag n hkeeps⟩
  · rename_i hkeeps
    obtain ⟨k, g, hread, hg, rfl⟩ := hp
    have hk := ((Keyword.read_eq_some_iff c.keyword_plain).mp hread).2
    have htick : backtick ∉ k ++ g := by
      rw [List.mem_append, not_or]
      constructor
      · exact hk.notMem c.keyword_plain (by decide) (by decide)
      · intro hmem
        exact absurd (hg.2 _ hmem) (by decide)
    have hcut : Cut.ofText (k ++ g ++ t) = Cut.plain (k ++ g) ++ Cut.ofText t := by
      rw [Cut.ofText_append (by simp [List.count_eq_zero.mpr htick]), Cut.ofText_of_notMem htick]
    refine ⟨?_, by rw [hcut, Cut.names_append, Cut.names_plain, List.nil_append], ?_⟩
    · rw [List.count_append, List.count_eq_zero.mpr htick, Nat.zero_add]
      exact ht.even
    · rw [hcut, Cut.hiddenAt_append, Cut.hiddenAt_plain, Cut.names_plain, List.length_nil,
        Nat.add_zero]
      exact ht.hidden_opened htag n (by simpa using hkeeps) hk hg

end WritableText

omit htag in
/-- The last text of a hidden statement is at its end, with nothing or white space before it. -/
theorem HiddenStatement.ends {es : List (Clause × Text)} {c : Clause} {T H : Text}
    (h : HiddenStatement tag ((c, T) :: es) H) :
    ∃ y, y ++ T = H ∧ ∀ x ∈ y.getLast?, isWhiteSpace x = true := by
  cases h with
  | first h => exact h.ends
  | @behind _ Q g _ _ P hq hg h hapart =>
    obtain ⟨y, rfl, hy⟩ := h.ends
    refine ⟨Q ++ g ++ y, by simp, ?_⟩
    by_cases hyn : y = []
    · subst hyn
      rw [List.append_nil]
      exact hg.last_isWhiteSpace Q
    · rwa [List.getLast?_append_of_ne_nil _ hyn]

omit htag in
/-- A join reaches over white space only if one of its kinds comes before. -/
theorem joins_not_straddles {C : Cut} {n : Nat} {y Q : Text} (hQ : y ++ C.hiddenAt tag n = Q)
    (hy : ∀ x ∈ y.getLast?, isWhiteSpace x = true)
    (hno : ∀ w ∈ joinKinds, ¬ EndsInWord w C.toText) (b : Text) :
    ¬ Clause.joins.keyword.Straddles tag Q b := by
  have hplain := Clause.joins.keyword_plain
  have hkinds : ∀ p ∈ Clause.joins.keyword.spellings, ∀ q ∈ p.inits, q ≠ p → ∀ w ∈ q.getLast?,
      w ∈ joinKinds := by
    decide
  rintro ⟨x, u, v, p, q, rfl, -, -, hp, hq, hmem, hu, -⟩
  have hlettered := (hplain _ hmem).1.of_subset hp (List.subset_append_left p q)
  obtain ⟨w, hw, a, u, rfl, hsame⟩ := hu.lastWord hlettered
  have hsolid := hsame.isSolid (hlettered.alphanum (List.mem_of_getLast? hw))
  have hkind := hkinds _ hmem p ((List.mem_inits _ _).mpr ⟨q, rfl⟩) (by simp [hq]) w hw
  have hline : '_' ∉ u := fun h => absurd (hsolid _ h) (by decide)
  have hsuffix : u <:+ C.hiddenAt tag n := by
    have hu' : u <:+ y ++ C.hiddenAt tag n := hQ ▸ ⟨x ++ a, by simp⟩
    refine isSuffix_of_last_notMem hu' fun c hc hmem => ?_
    have hspace := hy c hc
    rw [not_isWhiteSpace_of_isSolid (hsolid c hmem)] at hspace
    exact Bool.false_ne_true hspace
  exact hno w hkind ⟨u, Cut.isSuffix_of_hiddenAt hsuffix hline, hsame⟩

/-- The clause `h` is the clause `e` with its literals hidden, and `names` has them. -/
def StandsFor (tag : Text) (names : List Text) (e h : Clause × Text) : Prop :=
  e.1 = h.1 ∧ ∃ n, (Cut.ofText e.2).hiddenAt tag n = h.2 ∧
    (Cut.ofText e.2).names <+: names.drop n

omit htag in
theorem StandsFor.append {names : List Text} {e h : Clause × Text}
    (hfor : StandsFor tag names e h) (more : List Text) : StandsFor tag (names ++ more) e h := by
  obtain ⟨hc, n, hn, hnames⟩ := hfor
  refine ⟨hc, n, hn, hnames.trans ?_⟩
  rw [List.drop_append]
  exact List.prefix_append _ _

omit htag in
/-- No keyword reaches from a statement into the next clause that is written. -/
theorem not_straddles_next {es hs : List (Clause × Text)} {names : List Text} {Q : Text}
    {c : Clause} {t T P : Text} (hstat : HiddenStatement tag hs Q)
    (hfor : List.Forall₂ (StandsFor tag names) es hs) (hclause : HiddenClause tag c T P)
    (hapart : ((c, t) :: es).IsChain fun e e' =>
      e.1 = .joins → ∀ w ∈ joinKinds, ¬ EndsInWord w e'.2) (x : Text) :
    ¬ c.keyword.Straddles tag Q (P ++ x) := by
  by_cases hkeeps : c.keepsKeyword = true
  · obtain rfl : c = .joins := by simpa [Clause.keepsKeyword] using hkeeps
    cases hfor with
    | nil => cases hstat
    | @cons e h es hs hhead htail =>
      obtain ⟨d, T'⟩ := h
      obtain ⟨-, n, rfl, -⟩ := hhead
      obtain ⟨y, hy, hspace⟩ := hstat.ends
      refine joins_not_straddles hy hspace ?_ (P ++ x)
      rw [Cut.toText_ofText]
      exact (List.isChain_cons_cons.mp hapart).1 rfl
  · obtain ⟨f, z, -, rfl, ho, -, -⟩ := hclause.opened
    exact (keyword_partsFrom_self (by simpa using hkeeps)).not_straddles c.keyword_plain
      c.keyword_plain ho.spelled ⟨z ++ x, by simp⟩ tag Q

/-- The hidden form of a written statement has the hidden forms of its clauses. -/
theorem WrittenStatement.hidden {es : List (Clause × Text)} {q : Text}
    (h : WrittenStatement es q) (htexts : ∀ e ∈ es, WritableText tag e.1 e.2)
    (hapart : es.IsChain fun e e' => e.1 = .joins → ∀ w ∈ joinKinds, ¬ EndsInWord w e'.2) :
    q.count backtick % 2 = 0 ∧ ∃ hs, HiddenStatement tag hs ((Cut.ofText q).hiddenAt tag 0) ∧
      List.Forall₂ (StandsFor tag (Cut.ofText q).names) es hs := by
  induction h with
  | @first c t p hp =>
    obtain ⟨heven, hnames, hclause⟩ := (htexts (c, t) (by simp)).hiddenClause htag 0 hp
    refine ⟨heven, _, .first hclause, .cons ⟨rfl, 0, rfl, ?_⟩ .nil⟩
    simp [hnames]
  | @behind es q g c t p hq hg hp ih =>
    obtain ⟨hqeven, hs, hstat, hfor⟩ := ih (fun e he => htexts e (by simp [he]))
      (List.isChain_of_isChain_cons hapart)
    obtain ⟨hpeven, hnames, hclause⟩ :=
      (htexts (c, t) (by simp)).hiddenClause htag (Cut.ofText q).names.length hp
    have htick : backtick ∉ g := Blank.notMem hg.2 (by decide)
    have hall :
        (Cut.ofText (q ++ g ++ p)).names = (Cut.ofText q).names ++ (Cut.ofText t).names := by
      rw [Cut.names_ofText_between hqeven htick, hnames]
    refine ⟨Cut.even_between hqeven htick hpeven,
      (c, (Cut.ofText t).hiddenAt tag (Cut.ofText q).names.length) :: hs, ?_,
      .cons ⟨rfl, (Cut.ofText q).names.length, rfl, ?_⟩ (hfor.imp fun e h heh => ?_)⟩
    · rw [Cut.hiddenAt_ofText_between hqeven htick, Nat.zero_add]
      exact .behind hstat hg hclause (not_straddles_next hstat hfor hclause hapart)
    · rw [hall, List.drop_left]
    · rw [hall]
      exact heh.append _

omit htag in
theorem HiddenStatement.ne_nil {es : List (Clause × Text)} {H : Text}
    (h : HiddenStatement tag es H) : ∀ e ∈ es, e.2 ≠ [] := by
  induction h with
  | first h => simpa using h.ne_nil
  | behind hq hg h hapart ih =>
    rw [List.forall_mem_cons]
    exact ⟨h.ne_nil, ih⟩

/-- What hides the texts of the clauses restores to them. -/
theorem restore_hidden_texts {query : Text} {es hs : List (Clause × Text)}
    (htexts : ∀ e ∈ es, WritableText tag e.1 e.2)
    (h : List.Forall₂ (StandsFor tag (Cut.ofText query).names) es hs) :
    hs.map (fun (c, body) => (c, (LiteralStore.ofText tag query).restore body)) = es := by
  induction h with
  | nil => rfl
  | @cons e h es hs hhead htail ih =>
    obtain ⟨c, t⟩ := e
    obtain ⟨d, T⟩ := h
    obtain ⟨rfl, n, rfl, hnames⟩ := hhead
    have hrestore := restore_hiddenAt_ofText (s := .ofText tag query) htag
      (htexts (c, t) (by simp)).stemFree hnames
    rw [List.map_cons, ih fun e he => htexts e (by simp [he])]
    exact congrArg (fun t => (c, t) :: es) hrestore

end

/-- Cutting a written statement gives back the clauses that were written. -/
theorem ofQuery_written {tag query : Text} {s : ClauseSet} (htag : PlainTag tag)
    (hs : s.Writable tag) (hquery : WrittenStatement s.peeled query) :
    ClauseSet.ofQuery tag query = .ok s := by
  have htexts : ∀ e ∈ s.peeled, WritableText tag e.1 e.2 := fun e he =>
    hs.texts e.1 e.2 (ClauseSet.mem_peeled.mp he)
  obtain ⟨-, hidden, hstat, hfor⟩ := hquery.hidden htag htexts hs.apart
  have hrestore := restore_hidden_texts htag htexts hfor
  have hclauses : hidden.map (·.1) = s.peeled.map (·.1) := by
    rw [← hrestore, List.map_map]
    rfl
  have hpeel : peel tag Clause.peelOrder (hideLiterals tag query).1 = hidden := by
    have heq := hstat.peel_eq htag (List.Sublist.refl _) (hclauses ▸ s.peeled_clauses) (x := [])
      (by simp [Blank])
    rwa [List.append_nil] at heq
  have hpieces : clausePieces tag (hideLiterals tag query).1 = hidden := by
    rw [clausePieces, hpeel, List.filter_eq_self]
    intro e he
    simpa using hstat.ne_nil e he
  rw [ClauseSet.ofQuery_eq_ok_iff, hpieces, missingClause?_eq_none_iff]
  constructor
  · have hmandatory : ∀ c t, s.get? c = some t → c ∈ hidden.map (·.1) := by
      intro c t hc
      rw [hclauses]
      exact List.mem_map.mpr ⟨(c, t), ClauseSet.mem_peeled.mpr hc, rfl⟩
    obtain ⟨f, hf⟩ := Option.isSome_iff_exists.mp hs.fields
    obtain ⟨r, hr⟩ := Option.isSome_iff_exists.mp hs.source
    simp only [Clause.mandatory, List.forall_mem_cons]
    exact ⟨hmandatory .fields f hf, hmandatory .source r hr, by simp⟩
  · exact (congrArg ClauseSet.ofEntries hrestore).trans s.ofEntries_peeled

theorem ofQuery_written_with_joins :
    PlainTag "ref".toList ∧
      ClauseSet.Writable "ref".toList ⟨some "`a`, b".toList, some ['t'], some "Left  Join u".toList,
        none, some "`from`".toList, none, none, none⟩ ∧
      ClauseSet.ofQuery "ref".toList
          "sElect\t`a`, b FROM t Left  Join u\nGroup  By `from`".toList =
        .ok ⟨some "`a`, b".toList, some ['t'], some "Left  Join u".toList, none,
          some "`from`".toList, none, none, none⟩ := by
  have htag : PlainTag "ref".toList := by decide
  have htexts : ∀ e ∈ ClauseSet.peeled ⟨some "`a`, b".toList, some ['t'],
      some "Left  Join u".toList, none, some "`from`".toList, none, none, none⟩,
      WritableText "ref".toList e.1 e.2 := by
    decide +kernel
  have hs : ClauseSet.Writable "ref".toList ⟨some "`a`, b".toList, some ['t'],
      some "Left  Join u".toList, none, some "`from`".toList, none, none, none⟩ :=
    ⟨rfl, rfl, fun c t h => htexts (c, t) (ClauseSet.mem_peeled.mpr h), by decide +kernel⟩
  have hselect : Clause.fields.keyword.Spells "sElect".toList :=
    ⟨["SELECT".toList], by decide,
      SameWord.of_map_toLower (List.all_eq_true.mp (by decide)) (by decide)⟩
  have hfrom : Clause.source.keyword.Spells "FROM".toList :=
    ⟨["FROM".toList], by decide,
      SameWord.of_map_toLower (List.all_eq_true.mp (by decide)) (by decide)⟩
  have hgroup : Clause.grouping.keyword.Spells "Group  By".toList :=
    ⟨["GROUP".toList, "BY".toList], by decide, "Group".toList, "  ".toList, "By".toList, by decide,
      SameWord.of_map_toLower (List.all_eq_true.mp (by decide)) (by decide), by decide,
      SameWord.of_map_toLower (List.all_eq_true.mp (by decide)) (by decide)⟩
  have hfields := Clause.writes_of_spells (c := .fields) rfl hselect (g := ['\t']) (by decide)
    "`a`, b".toList
  have hsource := Clause.writes_of_spells (c := .source) rfl hfrom (g := [' ']) (by decide) ['t']
  have hjoins : Clause.joins.Writes "Left  Join u".toList "Left  Join u".toList := by
    rw [Clause.Writes, if_pos (by decide)]
  have hgrouping := Clause.writes_of_spells (c := .grouping) rfl hgroup (g := [' ']) (by decide)
    "`from`".toList
  have hquery := WrittenStatement.behind (g := ['\n']) (.behind (g := [' '])
    (.behind (g := [' ']) (.first hfields) (by decide) hsource) (by decide) hjoins) (by decide)
      hgrouping
  have hform : "sElect\t`a`, b FROM t Left  Join u\nGroup  By `from`".toList =
      "sElect".toList ++ ['\t'] ++ "`a`, b".toList ++ [' '] ++ ("FROM".toList ++ [' '] ++ ['t']) ++
        [' '] ++ "Left  Join u".toList ++ ['\n'] ++
          ("Group  By".toList ++ [' '] ++ "`from`".toList) := by
    decide
  rw [hform]
  exact ⟨htag, hs, ofQuery_written htag hs hquery⟩

end SqlOutline
