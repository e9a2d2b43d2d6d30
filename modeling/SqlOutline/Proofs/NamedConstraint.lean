import SqlOutline.Proofs.WrittenLine

/-!
Constraints in front of keys.

A key may stand behind the keyword of a constraint, with a name in between or without. It declares
what it declares alone, or is faulty with the same message (`Declaration.ofLine_constraint`). The
name may look like anything: the first word of a key is told from a name by what comes behind it,
which is another word of a key and never the front of one.
-/

namespace SqlOutline
open Unicode

namespace Keyword

/-- The keyword without the first word of each of its spellings. -/
def behindWord (k : Keyword) : Keyword := ⟨k.spellings.map List.tail⟩

/-- A keyword of several words that opens with a word in front of a gap goes on behind the gap. -/
theorem Spells.behindWord {k : Keyword} (hk : k.Plain) (hlong : ∀ p ∈ k.spellings, p.tail ≠ [])
    {f z w m t : Text} (hf : k.Spells f) (h : f ++ z = w ++ (m ++ t))
    (hw : Unspaced w) (hm : IsGap m) (ht : ∀ c ∈ t.head?, isWhiteSpace c = false) :
    ∃ r, k.behindWord.Spells r ∧ r ++ z = t := by
  obtain ⟨p, hp, hspell⟩ := hf
  obtain ⟨v, p, rfl⟩ := List.exists_cons_of_ne_nil (hk p hp).1.1
  have hlettered := (hk _ hp).1
  have hne : p ≠ [] := hlong _ hp
  obtain ⟨u, x, rfl, hu, hx⟩ := Phrase.spells_cons_iff.mp hspell
  obtain ⟨g, r, rfl, hg, hr⟩ := (hx.resolve_left fun hnil => hne hnil.1).2
  have hword : ∀ c ∈ u, isWhiteSpace c = false := fun c hc =>
    not_isWhiteSpace_of_isSolid (hu.isSolid (hlettered.alphanum (List.mem_cons_self ..)) c hc)
  have hrest : ∀ c ∈ (r ++ z).head?, isWhiteSpace c = false := fun c hc =>
    hr.head_not_isWhiteSpace (hlettered.of_subset hne (List.subset_cons_self v p)) hc
  rw [List.append_assoc, List.append_assoc] at h
  obtain ⟨b, rfl, hb⟩ := hm.split_word hword h
  -- What is left of the word in front of the gap belongs to the white space behind `u`.
  have hnil : b = [] := by
    cases b with
    | nil => rfl
    | cons c b =>
      obtain ⟨d, g, rfl⟩ := List.exists_cons_of_ne_nil hg.1
      obtain ⟨rfl, -⟩ := List.cons_eq_cons.mp hb
      have hspace := hw c (by simp)
      rw [hg.2 c (List.mem_cons_self ..)] at hspace
      exact absurd hspace.symm Bool.false_ne_true
  subst hnil
  obtain ⟨-, rfl⟩ := hm.agree hg ht hrest hb
  exact ⟨r, ⟨p, List.mem_map.mpr ⟨_, hp, rfl⟩, hr⟩, rfl⟩

end Keyword

namespace Declaration

/-- The keywords of keys. -/
def keyKeywords : List Keyword := [primaryKeyword, uniqueKeyword, foreignKeyword]

theorem keyKeywords_plain : ∀ k ∈ keyKeywords, k.Plain := by
  decide

/-- A text opens with a key where the keyword of one is spelled out and a word may end behind it. -/
theorem opensKey_iff {t : Text} :
    opensKey t = true ↔
      ∃ k ∈ keyKeywords, ∃ f z, f ++ z = t ∧ k.Spells f ∧ endsWord z = true := by
  have hread : opensKey t = true ↔ ∃ k ∈ keyKeywords, (k.readWhole t).isSome = true :=
    List.any_eq_true
  rw [hread]
  apply exists_congr
  intro k
  apply and_congr_right
  intro hk
  rw [Option.isSome_iff_exists]
  simp only [Prod.exists, Keyword.readWhole_eq_some_iff (keyKeywords_plain k hk)]

theorem exists_cons_of_opensKey {t : Text} (h : opensKey t = true) :
    ∃ c u, t = c :: u ∧ ∃ k ∈ keyKeywords, k.mayStartWith c = true ∧ isWhiteSpace c = false := by
  obtain ⟨k, hk, f, z, rfl, hf, -⟩ := opensKey_iff.mp h
  have hplain := keyKeywords_plain k hk
  obtain ⟨c, f, rfl⟩ := List.exists_cons_of_ne_nil (hf.ne_nil hplain)
  exact ⟨c, f ++ z, rfl, k, hk, hf.mayStartWith hplain, hf.head_not_isWhiteSpace hplain c rfl⟩

/-- No word in front of a key makes the front of another key with it. -/
theorem opensKey_word {w m t : Text} (hw : Unspaced w) (hm : IsGap m) (ht : opensKey t = true) :
    opensKey (w ++ (m ++ t)) = false := by
  have hlong : ∀ k ∈ keyKeywords, ∀ p ∈ k.spellings, p.tail ≠ [] := by decide
  have hbehind : ∀ k ∈ keyKeywords, k.behindWord.Plain := by decide
  have hapart : ∀ k ∈ keyKeywords, ∀ j ∈ keyKeywords,
      j.initials.any k.behindWord.mayStartWith = false := by
    decide
  rw [Bool.eq_false_iff]
  intro hopen
  obtain ⟨k, hk, f, z, hform, hf, -⟩ := opensKey_iff.mp hopen
  obtain ⟨c, u, rfl, j, hj, hstart, hspace⟩ := exists_cons_of_opensKey ht
  have hhead : ∀ x ∈ (c :: u).head?, isWhiteSpace x = false := by
    intro x hx
    rwa [← Option.some.inj hx]
  obtain ⟨r, hr, hrz⟩ := hf.behindWord (keyKeywords_plain k hk) (hlong k hk) hform hw hm hhead
  obtain ⟨d, r, rfl⟩ := List.exists_cons_of_ne_nil (hr.ne_nil (hbehind k hk))
  obtain ⟨rfl, -⟩ := List.cons_eq_cons.mp hrz
  have hno := Keyword.mayStartWith_eq_false (hapart k hk j hj) hstart
  rw [hr.mayStartWith (hbehind k hk)] at hno
  exact Bool.false_ne_true hno.symm

/-- What may stand between the keyword of a constraint and a key: nothing, or a name with white space
behind it. The name is any text between backticks, or a word that starts with no backtick. -/
inductive IsConstraintName : Text → Prop
  | absent : IsConstraintName []
  | quoted {n g : Text} (hn : backtick ∉ n) (hg : IsGap g) : IsConstraintName (enquote n ++ g)
  | bare {w g : Text} (hne : w ≠ []) (hw : Unspaced w) (htick : w.head? ≠ some backtick)
      (hg : IsGap g) : IsConstraintName (w ++ g)

/-- A bare name is skipped up to the white space behind it. -/
theorem skipName_word {w x : Text} (hne : w ≠ []) (hw : Unspaced w) (htick : w.head? ≠ some backtick)
    (hx : IsGap x) (y : Text) : skipName (w ++ (x ++ y)) = x ++ y := by
  obtain ⟨d, w, rfl⟩ := List.exists_cons_of_ne_nil hne
  have hd : d ≠ backtick := fun h => htick (congrArg some h)
  have hword : ∀ c ∈ d :: w, (!isWhiteSpace c) = true := by
    intro c hc
    rw [hw c hc]
    rfl
  obtain ⟨c, v, rfl⟩ := List.exists_cons_of_ne_nil hx.1
  have hc : isWhiteSpace c = true := hx.2 c (List.mem_cons_self ..)
  rw [List.cons_append, skipName, if_neg hd, ← List.cons_append,
    List.dropWhile_append_of_pos hword]
  simp [hc]

/-- A key is what stands behind its constraint. -/
theorem dropConstraint_key {k g n b t : Text} (hk : constraintKeyword.Spells k) (hg : IsGap g)
    (hn : IsConstraintName n) (hb : Blank b) (ht : opensKey t = true) :
    dropConstraint (k ++ (g ++ (n ++ (b ++ t)))) = t := by
  have hhead : ∀ c ∈ t.head?, isWhiteSpace c = false := by
    obtain ⟨d, u, rfl, -, -, -, hspace⟩ := exists_cons_of_opensKey ht
    intro c hc
    rwa [← Option.some.inj hc]
  have htrim : ∀ {m : Text}, Blank m → Text.trimStart (m ++ t) = t := fun hm =>
    Text.trimStart_eq_of_split hm hhead
  have hgap : ∀ {m : Text}, IsGap m → IsGap (m ++ b) := fun hm =>
    ⟨by simp [hm.1], List.forall_mem_append.mpr ⟨hm.2, hb⟩⟩
  cases hn with
  | absent =>
    have hrest : Text.trimStart (g ++ (b ++ t)) = t := by
      rw [← List.append_assoc]
      exact htrim (List.forall_mem_append.mpr ⟨hg.2, hb⟩)
    rw [List.nil_append, dropConstraint, readWhole_constraint hk hg]
    simp only [hrest, ht, if_true]
  | @quoted n m hn hm =>
    rw [List.append_assoc, dropConstraint_enquote hk hg hn, ← List.append_assoc]
    exact htrim (hgap hm).2
  | @bare w m hne hw htick hm =>
    rw [List.append_assoc, ← List.append_assoc m b t]
    rw [dropConstraint_named hk hg ?_ (opensKey_word hw (hgap hm) ht)
      (skipName_word hne hw htick (hgap hm) t)]
    · exact htrim (hgap hm).2
    · intro c hc
      rw [List.head?_append_of_ne_nil _ hne] at hc
      exact hw c (List.mem_of_head? hc)

/-- A key declares the same behind a constraint as alone, whatever the name of the constraint. -/
theorem ofLine_constraint {k g n line : Text} (hk : constraintKeyword.Spells k) (hg : IsGap g)
    (hn : IsConstraintName n) (hline : opensKey (Text.trim line) = true) :
    ofLine (k ++ (g ++ (n ++ line))) = ofLine line := by
  obtain ⟨b, b', hsplit, hb, hb', htrimmed⟩ := Text.trim_split line
  generalize Text.trim line = t at hline hsplit htrimmed
  subst hsplit
  obtain ⟨c, u, rfl, j, hj, hstart, -⟩ := exists_cons_of_opensKey hline
  have halone : dropConstraint (c :: u) = c :: u := by
    have hapart : ∀ j ∈ keyKeywords, j.initials.any constraintKeyword.mayStartWith = false := by
      decide
    have hc := Keyword.mayStartWith_eq_false (hapart j hj) hstart
    rw [dropConstraint, Keyword.readWhole_cons_eq_none constraintKeyword_plain hc]
  have hbehind := dropConstraint_key hk hg hn hb hline
  have htrim : Text.trim (k ++ (g ++ (n ++ (b ++ c :: u ++ b')))) =
      k ++ (g ++ (n ++ (b ++ c :: u))) := by
    have hends : IsTrimmed (k ++ (g ++ (n ++ b)) ++ c :: u) :=
      IsTrimmed.around ⟨hk.head_not_isWhiteSpace constraintKeyword_plain,
        hk.last_not_isWhiteSpace constraintKeyword_plain⟩ htrimmed
        (hk.ne_nil constraintKeyword_plain) (List.cons_ne_nil _ _) _
    have hsplit := Text.trim_eq_of_split .nil hb' hends
    simpa using hsplit
  unfold ofLine
  rw [htrim, hbehind, Text.trim_eq_of_split hb hb' htrimmed, halone]

/-- The name of a constraint may be the first word of a key, and the key may be faulty or not. -/
theorem ofLine_constraint_primary :
    (ofLine ("Constraint".toList ++ (['\t'] ++ ("PRIMARY".toList ++ [' '] ++
        " unique\tkey (a) ".toList))) = ofLine " unique\tkey (a) ".toList ∧
      ofLine " unique\tkey (a) ".toList = .error (.noLiteral "(a)".toList)) ∧
    ofLine ("Constraint".toList ++ (['\t'] ++ ("PRIMARY".toList ++ [' '] ++
        " unique\tkey `k` (`a`), ".toList))) = .ok (.uniqueIndex [['a']]) := by
  have hread : constraintKeyword.read "Constraint".toList = some ("Constraint".toList, []) := by
    decide +kernel
  have hk := ((Keyword.read_eq_some_iff constraintKeyword_plain).mp hread).2
  have hg : IsGap ['\t'] := by decide
  have hn : IsConstraintName ("PRIMARY".toList ++ [' ']) :=
    .bare (by decide) (by decide) (by decide) (by decide)
  have hfaulty : ofLine " unique\tkey (a) ".toList = .error (.noLiteral "(a)".toList) := by
    decide +kernel
  have hkey : ofLine " unique\tkey `k` (`a`), ".toList = .ok (.uniqueIndex [['a']]) := by
    decide +kernel
  exact ⟨⟨ofLine_constraint hk hg hn (by decide +kernel), hfaulty⟩,
    (ofLine_constraint hk hg hn (by decide +kernel)).trans hkey⟩

end Declaration
end SqlOutline
