import SqlOutline.Proofs.BoundedOccurrence
import SqlOutline.Proofs.Restoring
import SqlOutline.Proofs.Trimming

/-!
Cutting a text whose literals are hidden.

Where such a text is divided, the cut behind it is divided as well, unless the point is inside of a
placeholder (`Cut.split_hiddenAt`). White space and bounded keywords never end inside a placeholder.
Whether a keyword is bounded does not depend on the numbers of the placeholders around it.
-/

namespace SqlOutline
open Unicode Placeholder

theorem Placeholder.text_getLast? (tag : Text) (n : Nat) :
    (Placeholder.text tag n).getLast? = some '_' := by
  rw [Placeholder.text, List.getLast?_append_of_ne_nil _ (by simp [rail])]
  rfl

/-- What ends `y ++ t` and lacks the last character of `y` ends `t`. -/
theorem isSuffix_of_last_notMem {u y t : Text} (hu : u <:+ y ++ t) (hy : ∀ x ∈ y.getLast?, x ∉ u) :
    u <:+ t := by
  rcases List.suffix_or_suffix_of_suffix hu ⟨y, rfl⟩ with h | ⟨m, rfl⟩
  · exact h
  · by_cases hm : m = []
    · exact ⟨[], by simp [hm]⟩
    · exfalso
      obtain ⟨k, hk⟩ := hu
      rw [← List.append_assoc] at hk
      obtain rfl := List.append_cancel_right hk
      have hlast : m.getLast hm ∈ (k ++ m).getLast? := by
        rw [List.getLast?_append_of_ne_nil _ hm]
        exact List.getLast?_eq_some_getLast hm
      exact hy _ hlast (List.mem_append_left t (List.getLast_mem hm))

namespace Cut

/-- A hidden text is divided between two cuts or inside of a placeholder. -/
theorem split_hiddenAt {tag a b : Text} {i : Nat} {c : Cut} (h : c.hiddenAt tag i = a ++ b) :
    (∃ A B : Cut, A ++ B = c ∧ A.hiddenAt tag i = a ∧ B.hiddenAt tag (i + A.names.length) = b) ∨
      ∃ n u z x y, u ≠ [] ∧ z ≠ [] ∧ u ++ z = Placeholder.text tag n ∧ x ++ u = a ∧ z ++ y = b := by
  induction c using Cut.induction generalizing a i with
  | plain t =>
    left
    rw [hiddenAt_plain] at h
    exact ⟨plain a, plain b, by simp [h], by simp, by simp⟩
  | literal r l c ih =>
    rw [hiddenAt_literal] at h
    rcases List.append_eq_append_iff.mp h with ⟨k, rfl, hk⟩ | ⟨k, rfl, rfl⟩
    · rcases List.append_eq_append_iff.mp hk with ⟨m, rfl, hm⟩ | ⟨m, hm, rfl⟩
      · -- The point is behind the placeholder.
        rcases ih hm with ⟨A, B, rfl, rfl, rfl⟩ | ⟨n, u, z, x, y, hu, hz, hp, rfl, rfl⟩
        · left
          refine ⟨literal r l A, B, rfl, by simp, ?_⟩
          rw [names_literal, List.length_cons, Nat.add_assoc, Nat.add_comm 1]
        · right
          exact ⟨n, u, z, r ++ (Placeholder.text tag i ++ x), y, hu, hz, hp, by simp, rfl⟩
      · by_cases hkn : k = []
        · subst hkn
          left
          refine ⟨plain r, literal [] l c, by simp, by simp, ?_⟩
          rw [List.nil_append] at hm
          simp [hm]
        · by_cases hmn : m = []
          · subst hmn
            left
            rw [List.append_nil] at hm
            exact ⟨literal r l (plain []), c, by simp, by simp [hm], by simp⟩
          · right
            exact ⟨i, k, m, r, c.hiddenAt tag (i + 1), hkn, hmn, hm.symm, rfl, rfl⟩
    · left
      exact ⟨plain a, literal k l c, by simp, by simp, by simp⟩

/-- Without a low line there is no placeholder. -/
theorem eq_plain_of_lowLine_notMem {tag : Text} {i : Nat} {c : Cut}
    (h : '_' ∉ c.hiddenAt tag i) : plain (c.hiddenAt tag i) = c := by
  cases c using Cut.induction with
  | plain t => simp
  | literal r l c =>
    simp [Placeholder.text, rail] at h

@[simp] theorem hiddenAt_eq_nil_iff {tag : Text} {i : Nat} {c : Cut} :
    c.hiddenAt tag i = [] ↔ c.toText = [] := by
  cases c using Cut.induction with
  | plain t => simp
  | literal r l c => simp [Placeholder.text, rail, enquote]

/-- Hiding literals does not make white space at the ends of a text, nor take it away. -/
theorem isTrimmed_hiddenAt_iff {tag : Text} {i : Nat} {c : Cut} :
    IsTrimmed (c.hiddenAt tag i) ↔ IsTrimmed c.toText := by
  have hline : isWhiteSpace '_' = false := by decide
  have htick : isWhiteSpace backtick = false := by decide
  have hfront : (∀ x ∈ (c.hiddenAt tag i).head?, isWhiteSpace x = false) ↔
      ∀ x ∈ c.toText.head?, isWhiteSpace x = false := by
    cases c using Cut.induction with
    | plain t => simp
    | literal r l c => cases r <;> simp [Placeholder.text, rail, enquote, hline, htick]
  have hback : (∀ x ∈ (c.hiddenAt tag i).getLast?, isWhiteSpace x = false) ↔
      ∀ x ∈ c.toText.getLast?, isWhiteSpace x = false := by
    rcases c.snoc_cases with ⟨t, rfl⟩ | ⟨d, l, r, rfl⟩
    · simp
    · by_cases hr : r = []
      · subst hr
        have htext := text_getLast? tag (i + d.names.length)
        have hquote : (enquote l).getLast? = some backtick := by
          rw [enquote, List.getLast?_append_of_ne_nil _ (by simp)]
          rfl
        rw [hiddenAt_append, toText_append, hiddenAt_literal, toText_literal]
        simp only [hiddenAt_plain, toText_plain, List.nil_append, List.append_nil]
        rw [List.getLast?_append_of_ne_nil _ (by simp [Placeholder.text, rail]),
          List.getLast?_append_of_ne_nil _ (by simp [enquote]), htext, hquote]
        simp [hline, htick]
      · simp [hiddenAt_append, List.getLast?_append_of_ne_nil _ hr, ← List.append_assoc]
  constructor
  · intro h
    exact ⟨hfront.mp h.front, hback.mp h.back⟩
  · intro h
    exact ⟨hfront.mpr h.front, hback.mpr h.back⟩

/-- What ends a hidden text and has no low line in it ends the text. -/
theorem isSuffix_of_hiddenAt {tag u : Text} {i : Nat} {c : Cut} (h : u <:+ c.hiddenAt tag i)
    (hu : '_' ∉ u) : u <:+ c.toText := by
  rcases c.snoc_cases with ⟨t, rfl⟩ | ⟨d, l, r, rfl⟩
  · simpa using h
  · have hform : (d ++ literal [] l (plain r)).hiddenAt tag i =
        d.hiddenAt tag i ++ Placeholder.text tag (i + d.names.length) ++ r := by
      simp [hiddenAt_append]
    have hur : u <:+ r := by
      refine isSuffix_of_last_notMem (hform ▸ h) fun x hx => ?_
      rw [List.getLast?_append_of_ne_nil _ (by simp [Placeholder.text, rail]),
        text_getLast?] at hx
      obtain rfl : '_' = x := by simpa using hx
      exact hu
    exact hur.trans ⟨d.toText ++ enquote l, by simp⟩

end Cut

section
variable {tag : Text} (htag : PlainTag tag)
include htag

theorem isWordChar_of_mem_text {n : Nat} : ∀ c ∈ Placeholder.text tag n, isWordChar c = true :=
  (spells_text htag.railed_sameLetter n).isWordChar htag

/-- Characters of a kind that no placeholder has stand between literals alone. -/
theorem Cut.forall_mem_hiddenAt_iff {p : Char → Bool} (hp : ∀ x, isWordChar x = true → p x = false)
    {c : Cut} {i : Nat} :
    (∀ x ∈ c.hiddenAt tag i, p x = false) ↔ c.AllOutside (∀ x ∈ ·, p x = false) := by
  induction c using Cut.induction generalizing i with
  | plain t => simp
  | literal r l c ih =>
    have htoken : ∀ x ∈ Placeholder.text tag i, p x = false := fun x hx =>
      hp x (isWordChar_of_mem_text htag x hx)
    rw [hiddenAt_literal, List.forall_mem_append, List.forall_mem_append, ih, allOutside_literal,
      and_iff_right htoken]

theorem Cut.notMem_hiddenAt_iff {x : Char} (hx : isWordChar x = false) {c : Cut} {i : Nat} :
    x ∉ c.hiddenAt tag i ↔ c.AllOutside (x ∉ ·) := by
  have hp : ∀ y, isWordChar y = true → (y == x) = false := by
    intro y hy
    rw [beq_eq_false_iff_ne]
    rintro rfl
    rw [hx] at hy
    exact Bool.false_ne_true hy
  simpa only [beq_eq_false_iff_ne, ne_eq, List.forall_mem_ne'] using
    forall_mem_hiddenAt_iff htag hp (c := c) (i := i)

/-- No placeholder is divided where a character that is no word character stands. -/
theorem Cut.split_at_break {a b : Text} {i : Nat} {c : Cut} (h : c.hiddenAt tag i = a ++ b)
    (hbreak : (∀ x ∈ a.getLast?, isWordChar x = false) ∨ ∀ x ∈ b.head?, isWordChar x = false) :
    ∃ A B : Cut, A ++ B = c ∧ A.hiddenAt tag i = a ∧ B.hiddenAt tag (i + A.names.length) = b := by
  rcases split_hiddenAt h with hsplit | ⟨n, u, z, x, y, hu, hz, hp, rfl, rfl⟩
  · exact hsplit
  · exfalso
    have hword := isWordChar_of_mem_text (n := n) htag
    rw [← hp] at hword
    rcases hbreak with hlast | hhead
    · have hmem := List.getLast_mem hu
      have hno := hlast (u.getLast hu) (by simp [List.getLast?_eq_some_getLast hu])
      rw [hword _ (List.mem_append_left z hmem)] at hno
      exact Bool.false_ne_true hno.symm
    · obtain ⟨d, z, rfl⟩ := List.exists_cons_of_ne_nil hz
      have hno := hhead d (by simp)
      rw [hword d (by simp)] at hno
      exact Bool.false_ne_true hno.symm

variable {k : Keyword} (hk : k.Plain)
include hk

/-- Behind a bounded keyword no placeholder goes on. -/
theorem Bounded.not_before_rest {o : Occurrence} (ho : Bounded k tag o) {u z y d : Text}
    (hp : Placeholder.Spells sameLetter tag (u ++ z) d) (hu : u <:+ o.before ++ o.found)
    (hun : u ≠ []) (hz : z ≠ []) (hrest : z ++ y = o.after) : False := by
  obtain ⟨w, hw⟩ := hu
  obtain ⟨hsolid, hdigit⟩ : isSolid (u.getLast hun) = true ∧
      isDecimalDigit (u.getLast hun) = false := by
    apply ho.spelled.last_letter hk
    rw [← List.getLast?_append_of_ne_nil o.before (ho.found_ne_nil hk), ← hw,
      List.getLast?_append_of_ne_nil _ hun]
    exact List.getLast?_eq_some_getLast hun
  rcases hp.inside htag hun hz with hhead | ⟨m, e, rfl, hm, hin, -⟩
  · obtain ⟨c, z, rfl⟩ := List.exists_cons_of_ne_nil hz
    obtain rfl : c = '_' := by simpa using hhead
    rcases hp.before_lowLine htag _ (List.getLast?_eq_some_getLast hun) with he | he
    · rw [he] at hsolid
      exact absurd hsolid (by decide)
    · rw [he] at hdigit
      exact Bool.false_ne_true hdigit.symm
  · have hno := ho.right.head_not_isSolid htag (m.head hm)
      (by rw [← hrest, List.head?_append, List.head?_append, List.head?_eq_some_head hm]; rfl)
    rw [hin _ (List.head_mem hm)] at hno
    exact Bool.false_ne_true hno.symm

/-- A bounded keyword stands between two cuts, outside of all literals. -/
theorem Bounded.split {o : Occurrence} (ho : Bounded k tag o) {c : Cut} {i : Nat}
    (hc : c.hiddenAt tag i = o.text) :
    ∃ A B : Cut, A ++ (Cut.plain o.found ++ B) = c ∧ A.hiddenAt tag i = o.before ∧
      B.hiddenAt tag (i + A.names.length) = o.after := by
  have hspell := fun n => spells_text htag.railed_sameLetter n
  unfold Occurrence.text at hc
  obtain ⟨D, B, rfl, hD, hB⟩ : ∃ D B : Cut, D ++ B = c ∧
      D.hiddenAt tag i = o.before ++ o.found ∧
      B.hiddenAt tag (i + D.names.length) = o.after := by
    rcases Cut.split_hiddenAt hc with hsplit | ⟨n, u, z, x, y, hu, hz, hp, hx, hy⟩
    · exact hsplit
    · exact (ho.not_before_rest htag hk (hp ▸ hspell n) ⟨x, hx⟩ hu hz hy).elim
  obtain ⟨A, F, rfl, hA, hF⟩ : ∃ A F : Cut, A ++ F = D ∧ A.hiddenAt tag i = o.before ∧
      F.hiddenAt tag (i + A.names.length) = o.found := by
    rcases Cut.split_hiddenAt hD with hsplit | ⟨n, u, z, x, y, hu, hz, hp, hx, hy⟩
    · exact hsplit
    · have hno := (hp.symm ▸ hspell n).no_keyword_inside (y := y ++ o.after) htag hk hu hz
        ho.spelled ho.right
      rw [← List.append_assoc, hy] at hno
      exact absurd rfl hno
  have hline : '_' ∉ F.hiddenAt tag (i + A.names.length) := by
    rw [hF]
    exact ho.spelled.notMem hk (by decide) (by decide)
  have hplain := Cut.eq_plain_of_lowLine_notMem hline
  rw [hF] at hplain
  subst hplain
  exact ⟨A, B, by rw [Cut.append_assoc], hA, by simpa using hB⟩

end

/-! Placeholders with other numbers. -/

/-- Under two tags words break at the same places of the cut, whatever the numbers are. -/
structure Cut.SameBreaks (tag tag' : Text) (c : Cut) : Prop where
  ends : ∀ A B, A ++ B = c → ∀ i j,
    EndsInBreak tag (A.hiddenAt tag i) ↔ EndsInBreak tag' (A.hiddenAt tag' j)
  starts : ∀ A B, A ++ B = c → ∀ i j,
    StartsInBreak tag (B.hiddenAt tag i) ↔ StartsInBreak tag' (B.hiddenAt tag' j)

theorem Cut.SameBreaks.symm {tag tag' : Text} {c : Cut} (h : c.SameBreaks tag tag') :
    c.SameBreaks tag' tag where
  ends A B hAB i j := (h.ends A B hAB j i).symm
  starts A B hAB i j := (h.starts A B hAB j i).symm

section
variable {tag : Text} (htag : PlainTag tag)
include htag

/-- What comes behind the rail of a placeholder has no say in a break before it. -/
theorem StartsInBreak.change {r v : Text} (h : StartsInBreak tag (r ++ (rail ++ v))) (hr : r ≠ [])
    (v' : Text) : StartsInBreak tag (r ++ (rail ++ v')) := by
  right
  obtain ⟨x, r, rfl⟩ := List.exists_cons_of_ne_nil hr
  rcases h with hnil | ⟨g, y, hg, ⟨x', hx', rfl⟩ | ⟨d, hd⟩⟩
  · simp at hnil
  · obtain ⟨rfl, -⟩ := List.cons_eq_cons.mp hg
    exact ⟨[x'], r ++ (rail ++ v'), rfl, .inl ⟨x', hx', rfl⟩⟩
  · obtain ⟨e, he⟩ := hd.isPrefix_rail (u := x :: r) (v := v) htag.railed_sameLetter hr
      (by rw [hg, List.append_assoc])
    exact ⟨g, e ++ v', by rw [← List.append_assoc, he, List.append_assoc], .inr ⟨d, hd⟩⟩

/-- What comes before the rail of a placeholder has no say in a break behind it. -/
theorem EndsInBreak.change {u r : Text} (h : EndsInBreak tag (u ++ (rail ++ r))) (hr : r ≠ [])
    (u' : Text) : EndsInBreak tag (u' ++ (rail ++ r)) := by
  right
  rcases h with hnil | ⟨x, g, hg, ⟨y, hy, rfl⟩ | ⟨d, hd⟩⟩
  · simp [hr] at hnil
  · obtain ⟨e, rfl⟩ : ∃ e, r = e ++ [y] := by
      apply List.getLast?_eq_some_iff.mp
      rw [← List.getLast?_append_of_ne_nil rail hr,
        ← List.getLast?_append_of_ne_nil u (by simp [hr]), ← hg]
      simp
    exact ⟨u' ++ (rail ++ e), [y], by simp, .inl ⟨y, hy, rfl⟩⟩
  · obtain ⟨e, he⟩ := hd.isSuffix_rail (u := u) (v := r) (y := x) htag.railed_sameLetter hr
      (by rw [hg, List.append_assoc])
    exact ⟨u' ++ e, g, by rw [List.append_assoc, he], .inr ⟨d, hd⟩⟩

theorem StartsInBreak.renumber {c : Cut} {i : Nat} (h : StartsInBreak tag (c.hiddenAt tag i))
    (j : Nat) : StartsInBreak tag (c.hiddenAt tag j) := by
  cases c using Cut.induction with
  | plain t => simpa using h
  | literal r l c =>
    rw [Cut.hiddenAt_literal] at h ⊢
    by_cases hr : r = []
    · subst hr
      exact .inr ⟨Placeholder.text tag j, _, rfl, .inr ⟨_, spells_text htag.railed_sameLetter j⟩⟩
    · obtain ⟨v, hv⟩ := rail_isPrefix_text tag i (c.hiddenAt tag (i + 1))
      obtain ⟨v', hv'⟩ := rail_isPrefix_text tag j (c.hiddenAt tag (j + 1))
      rw [← hv] at h
      rw [← hv']
      exact h.change htag hr v'

theorem EndsInBreak.renumber {c : Cut} {i : Nat} (h : EndsInBreak tag (c.hiddenAt tag i))
    (j : Nat) : EndsInBreak tag (c.hiddenAt tag j) := by
  rcases c.snoc_cases with ⟨t, rfl⟩ | ⟨A, l, r, rfl⟩
  · simpa using h
  · have hform : ∀ n, (A ++ Cut.literal [] l (Cut.plain r)).hiddenAt tag n =
        A.hiddenAt tag n ++ (Placeholder.text tag (n + A.names.length) ++ r) := by
      intro n
      simp [Cut.hiddenAt_append]
    rw [hform] at h ⊢
    by_cases hr : r = []
    · subst hr
      rw [List.append_nil]
      exact .inr ⟨_, _, rfl, .inr ⟨_, spells_text htag.railed_sameLetter _⟩⟩
    · simp only [Placeholder.text, List.append_assoc] at h ⊢
      simp only [← List.append_assoc _ _ (rail ++ r)] at h ⊢
      exact h.change htag hr _

theorem Bounded.renumber {k : Keyword} {A B : Cut} {f : Text} {i j : Nat}
    (h : Bounded k tag ⟨A.hiddenAt tag i, f, B.hiddenAt tag j⟩) (i' j' : Nat) :
    Bounded k tag ⟨A.hiddenAt tag i', f, B.hiddenAt tag j'⟩ :=
  ⟨h.spelled, h.left.renumber htag i', h.right.renumber htag j'⟩

theorem Cut.sameBreaks_self (c : Cut) : c.SameBreaks tag tag where
  ends _ _ _ i j := ⟨fun h => h.renumber htag j, fun h => h.renumber htag i⟩
  starts _ _ _ i j := ⟨fun h => h.renumber htag j, fun h => h.renumber htag i⟩

end

/-! Two ways to hide the literals of one cut. -/

/-- Which of two fronts is the longer one does not depend on what hides the literals. -/
theorem Cut.length_hiddenAt_le {A B A' B' : Cut} (h : A ++ B = A' ++ B') {tag : Text} {i : Nat}
    (hle : (A.hiddenAt tag i).length ≤ (A'.hiddenAt tag i).length) (tag' : Text) (j : Nat) :
    (A.hiddenAt tag' j).length ≤ (A'.hiddenAt tag' j).length := by
  rcases front_or_front h with ⟨D, rfl⟩ | ⟨D, rfl⟩
  · simp [hiddenAt_append]
  · have hnil : D.hiddenAt tag (i + A'.names.length) = [] := by
      rw [hiddenAt_append, List.length_append] at hle
      exact List.length_eq_zero_iff.mp (by omega)
    have hplain := eq_plain_of_lowLine_notMem (c := D) (by rw [hnil]; simp)
    rw [hnil] at hplain
    simp [← hplain]

section
variable {tag tag' : Text} (htag : PlainTag tag) (htag' : PlainTag tag') {k : Keyword}
  (hk : k.Plain) {c : Cut} (hc : c.SameBreaks tag tag') {i : Nat}
include htag hk hc

/-- A bounded keyword divides the cut at a place where it is bounded in the other text too. -/
theorem Bounded.split_rehidden {o : Occurrence} (ho : Bounded k tag o)
    (ht : o.text = c.hiddenAt tag i) (j : Nat) :
    ∃ A B : Cut, A ++ (Cut.plain o.found ++ B) = c ∧ A.hiddenAt tag i = o.before ∧
      B.hiddenAt tag (i + A.names.length) = o.after ∧
      Bounded k tag' ⟨A.hiddenAt tag' j, o.found, B.hiddenAt tag' (j + A.names.length)⟩ := by
  obtain ⟨A, B, hAB, hA, hB⟩ := ho.split htag hk ht.symm
  refine ⟨A, B, hAB, hA, hB, ho.spelled, ?_, ?_⟩
  · exact (hc.ends A _ hAB i j).mp (hA ▸ ho.left)
  · rw [← Cut.append_assoc] at hAB
    exact (hc.starts _ B hAB (i + A.names.length) (j + A.names.length)).mp (hB ▸ ho.right)

namespace Keyword
include htag'

theorem find?_rehidden_none (h : k.find? tag (c.hiddenAt tag i) = none) (j : Nat) :
    k.find? tag' (c.hiddenAt tag' j) = none := by
  rw [find?_eq_none_iff htag hk] at h
  rw [find?_eq_none_iff htag' hk]
  intro o ht ho
  obtain ⟨A, B, rfl, -, -, hbounded⟩ := ho.split_rehidden htag' hk hc.symm ht i
  exact h _ (by simp [Occurrence.text, Cut.hiddenAt_append]) hbounded

/-- A keyword is found at the same place of the cut. -/
theorem find?_rehidden {o : Occurrence} (h : k.find? tag (c.hiddenAt tag i) = some o) (j : Nat) :
    ∃ A B : Cut, A ++ (Cut.plain o.found ++ B) = c ∧ A.hiddenAt tag i = o.before ∧
      B.hiddenAt tag (i + A.names.length) = o.after ∧
      k.find? tag' (c.hiddenAt tag' j) =
        some ⟨A.hiddenAt tag' j, o.found, B.hiddenAt tag' (j + A.names.length)⟩ := by
  obtain ⟨ht, ho, hfirst⟩ := (find?_eq_some_iff htag hk).mp h
  obtain ⟨A, B, hAB, hA, hB, hbounded⟩ := ho.split_rehidden htag hk hc ht j
  refine ⟨A, B, hAB, hA, hB, (find?_eq_some_iff htag' hk).mpr ⟨?_, hbounded, ?_⟩⟩
  · simp [← hAB, Occurrence.text, Cut.hiddenAt_append]
  · intro o' ht' ho'
    obtain ⟨A', B', hAB', hA', hB', hbounded'⟩ := ho'.split_rehidden htag' hk hc.symm ht' i
    have hle := hfirst _ (by simp [← hAB', Occurrence.text, Cut.hiddenAt_append]) hbounded'
    simp only [← hA, ← hA'] at hle ⊢
    exact Cut.length_hiddenAt_le (hAB.trans hAB'.symm) hle tag' j

end Keyword

end

/-- Whether a keyword is found does not depend on the numbers of the placeholders. -/
theorem find?_hiddenAt_eq_none {tag : Text} (htag : PlainTag tag) {k : Keyword} (hk : k.Plain)
    {c : Cut} {i : Nat} (h : k.find? tag (c.hiddenAt tag i) = none) (j : Nat) :
    k.find? tag (c.hiddenAt tag j) = none :=
  Keyword.find?_rehidden_none htag htag hk (c.sameBreaks_self htag) h j

/-! Texts between which literals cannot be open, and white space around a cut. -/

namespace Cut

section
variable {a m b : Text} (ha : a.count backtick % 2 = 0) (hm : backtick ∉ m)
include ha hm

theorem names_ofText_between :
    (ofText (a ++ m ++ b)).names = (ofText a).names ++ (ofText b).names := by
  rw [ofText_between ha hm]
  simp

theorem hiddenAt_ofText_between (tag : Text) (i : Nat) :
    (ofText (a ++ m ++ b)).hiddenAt tag i =
      (ofText a).hiddenAt tag i ++ m ++ (ofText b).hiddenAt tag (i + (ofText a).names.length) := by
  rw [ofText_between ha hm]
  simp [hiddenAt_append]

end

theorem hiddenAt_around_plain (tag : Text) (i : Nat) (g g' : Text) (c : Cut) :
    (plain g ++ c ++ plain g').hiddenAt tag i = g ++ c.hiddenAt tag i ++ g' := by
  simp [hiddenAt_append]

/-- White space at the ends of a text stands in front of its first literal and behind its last. -/
theorem exists_trimmed (c : Cut) :
    ∃ g C g', plain g ++ C ++ plain g' = c ∧ Blank g ∧ Blank g' ∧ IsTrimmed C.toText := by
  -- Any tag will do to find the places.
  have htag : PlainTag [] := by decide
  have hline : isWhiteSpace '_' = false := by decide
  obtain ⟨g, g', hsplit, hg, hg', htrim⟩ := Text.trim_split (c.hiddenAt [] 0)
  obtain ⟨D, G', rfl, hD, hG'⟩ := split_at_break htag hsplit.symm <|
    .inr fun x hx => not_isWordChar_of_isWhiteSpace (hg' x (List.mem_of_head? hx))
  obtain ⟨G, C, rfl, hG, hC⟩ := split_at_break htag hD <|
    .inl fun x hx => not_isWordChar_of_isWhiteSpace (hg x (List.mem_of_getLast? hx))
  have hGp := eq_plain_of_lowLine_notMem (hG ▸ hg.notMem hline)
  have hGp' := eq_plain_of_lowLine_notMem (hG' ▸ hg'.notMem hline)
  rw [hG] at hGp
  rw [hG'] at hGp'
  subst hGp hGp'
  rw [← hC, isTrimmed_hiddenAt_iff] at htrim
  exact ⟨g, C, g', rfl, hg, hg', htrim⟩

end Cut

/-! Parts of a hidden text with the literals that they stand for. -/

/-- The placeholders of the cut, numbered from `i`, stand for its literals in the store, and the
text around them can be restored. -/
structure Fits (s : LiteralStore) (i : Nat) (c : Cut) : Prop where
  paired : c.Paired
  stemFree : c.AllOutside (StemFree s.tag)
  names : c.names <+: s.names.drop i

theorem fits_ofText {tag t : Text} (h : (Cut.ofText t).AllOutside (StemFree tag)) :
    Fits (.ofText tag t) 0 (Cut.ofText t) :=
  ⟨Cut.paired_ofText t, h, by simp [LiteralStore.ofText]⟩

/-- What stands in a list from place `i` on stands there part by part. -/
theorem isPrefix_drop_of_append {α : Type} {x y l : List α} {i : Nat} (h : x ++ y <+: l.drop i) :
    x <+: l.drop i ∧ y <+: l.drop (i + x.length) := by
  obtain ⟨r, hr⟩ := h
  refine ⟨⟨y ++ r, by rw [← hr, List.append_assoc]⟩, ⟨r, ?_⟩⟩
  rw [← List.drop_drop, ← hr, List.append_assoc, List.drop_left]

namespace Fits
variable {s : LiteralStore} {i : Nat}

theorem of_append {A B : Cut} (h : Fits s i (A ++ B)) :
    Fits s i A ∧ Fits s (i + A.names.length) B := by
  obtain ⟨hA, hB⟩ := h.stemFree.of_append fun x y hxy =>
    ⟨hxy.of_infix List.infix_append_left, hxy.of_infix List.infix_append_right⟩
  obtain ⟨hnames, hnames'⟩ := isPrefix_drop_of_append (A.names_append B ▸ h.names)
  exact ⟨⟨h.paired.of_append.1, hA, hnames⟩, ⟨h.paired.of_append.2, hB, hnames'⟩⟩

theorem restore {c : Cut} (h : Fits s i c) (htag : PlainTag s.tag) :
    s.restore (c.hiddenAt s.tag i) = c.toText :=
  LiteralStore.restore_hiddenAt_of_stemFree htag.lowLine_notMem h.names h.stemFree

/-- Trimming a hidden part hides the trimmed part. -/
theorem trim {c : Cut} (h : Fits s i c) :
    ∃ C, Fits s i C ∧ C.hiddenAt s.tag i = Text.trim (c.hiddenAt s.tag i) ∧
      C.toText = Text.trim c.toText := by
  obtain ⟨g, C, g', rfl, hg, hg', htrim⟩ := c.exists_trimmed
  have hfits : Fits s i C := by simpa using h.of_append.1.of_append.2
  refine ⟨C, hfits, ?_, ?_⟩
  · rw [Cut.hiddenAt_around_plain]
    exact (Text.trim_eq_of_split hg hg' (Cut.isTrimmed_hiddenAt_iff.mpr htrim)).symm
  · rw [Cut.toText_append, Cut.toText_append, Cut.toText_plain, Cut.toText_plain]
    exact (Text.trim_eq_of_split hg hg' htrim).symm

/-- A part that is restored and hidden again differs in the numbers alone. -/
theorem hideLiterals_toText {c : Cut} (h : Fits s i c) (tag : Text) :
    (hideLiterals tag c.toText).1 = c.hiddenAt tag 0 := by
  rw [hideLiterals, Cut.ofText_toText h.paired, Cut.hidden_eq]

end Fits

/-- A text whose literals are in the store is restored. -/
theorem restore_hiddenAt_ofText {s : LiteralStore} (htag : PlainTag s.tag) {t : Text}
    (hfree : (Cut.ofText t).AllOutside (StemFree s.tag)) {i : Nat}
    (hnames : (Cut.ofText t).names <+: s.names.drop i) :
    s.restore ((Cut.ofText t).hiddenAt s.tag i) = t := by
  have hfits : Fits s i (Cut.ofText t) := ⟨Cut.paired_ofText t, hfree, hnames⟩
  rw [hfits.restore htag, Cut.toText_ofText]

/-- What is left of a text when it is trimmed hides what is left of the hidden text. -/
theorem fits_ofText_trim {tag t : Text} (h : (Cut.ofText t).AllOutside (StemFree tag)) :
    Fits (.ofText tag t) 0 (Cut.ofText (Text.trim t)) ∧
      (Cut.ofText (Text.trim t)).hiddenAt tag 0 = Text.trim ((Cut.ofText t).hiddenAt tag 0) := by
  obtain ⟨C, hC, hhidden, htext⟩ := (fits_ofText h).trim
  rw [Cut.toText_ofText] at htext
  rw [← htext, Cut.ofText_toText hC.paired]
  exact ⟨hC, hhidden⟩

end SqlOutline
