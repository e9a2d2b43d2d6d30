import SqlOutline.Proofs.TrailingBlank
import SqlOutline.Proofs.WrittenLine

/-!
Lines of columns and the white space between their words.

The name and the type of a column are told by the white space around them, whatever it is. An option
is not: it is looked for with one space in front of each of its words. So two lines with the same
words declare the same column exactly if they show the same options in this way
(`Declaration.ofLine_spacing_iff`).
-/

namespace SqlOutline
open Unicode

/-! What is not inside of a word. -/

section
variable {g w x y r : Text}

/-- A space and what comes behind it are not looked for inside of a word without spaces. -/
theorem infix_word_append (hw : ' ' ∉ w) : ' ' :: y <:+: w ++ x ↔ ' ' :: y <:+: x := by
  induction w with
  | nil => rfl
  | cons c w ih =>
    rw [List.mem_cons, not_or] at hw
    rw [List.cons_append, List.infix_cons_iff, ih hw.2, List.cons_prefix_cons]
    exact or_iff_right fun h => hw.1 h.1

/-- Of spaces and tabs in front of `x`, a space with a word behind it can only be the one that stands
alone. -/
theorem prefix_spacing_append (hg : g ≠ []) (hindent : Block.IsIndent g) (hy : y ≠ [])
    (hword : ∀ c ∈ y.head?, Block.isIndent c = false) :
    ' ' :: y <+: g ++ x ↔ g = [' '] ∧ y <+: x := by
  obtain ⟨c, g, rfl⟩ := List.exists_cons_of_ne_nil hg
  rw [List.cons_append, List.cons_prefix_cons]
  cases g with
  | nil => simp [eq_comm]
  | cons d g =>
    have hno : ¬ y <+: d :: g ++ x := by
      intro hprefix
      obtain ⟨e, y, rfl⟩ := List.exists_cons_of_ne_nil hy
      obtain ⟨rfl, -⟩ := List.cons_prefix_cons.mp hprefix
      have he := hindent e (by simp)
      rw [hword e rfl] at he
      exact Bool.false_ne_true he
    constructor
    · exact fun h => absurd h.2 hno
    · exact fun h => absurd h.1 (by simp)

/-- Among spaces and tabs that stand in front of `x`, the last one may be the space in front of a
word that `x` opens with. -/
theorem infix_spacing_append (hg : g ≠ []) (hindent : Block.IsIndent g) (hy : y ≠ [])
    (hword : ∀ c ∈ y.head?, Block.isIndent c = false) :
    ' ' :: y <:+: g ++ x ↔ (g.getLast? = some ' ' ∧ y <+: x) ∨ ' ' :: y <:+: x := by
  induction g with
  | nil => exact absurd rfl hg
  | cons c g ih =>
    rw [List.cons_append, List.infix_cons_iff, ← List.cons_append,
      prefix_spacing_append hg hindent hy hword]
    cases g with
    | nil => simp
    | cons d g =>
      have hrest := ih (List.cons_ne_nil d g) fun x hx => hindent x (List.mem_cons_of_mem c hx)
      rw [hrest, List.getLast?_cons_cons]
      simp

variable (hy : ∀ c ∈ y, Block.isIndent c = false) (hr : ∀ c ∈ r.head?, Block.isIndent c = true)
include hy hr

/-- A word without spaces and tabs goes no further than the word it is read from. -/
theorem prefix_word_append : y <+: w ++ r ↔ y <+: w := by
  constructor
  · rintro ⟨t, ht⟩
    rcases List.append_eq_append_iff.mp ht with ⟨b, rfl, -⟩ | ⟨v, rfl, hv⟩
    · exact List.prefix_append y b
    · cases v with
      | nil => rw [List.append_nil]
      | cons c v =>
        have hc := hr c (by rw [hv]; rfl)
        rw [hy c (by simp)] at hc
        exact absurd hc Bool.false_ne_true
  · exact fun h => h.trans (List.prefix_append w r)

/-- A word in front of a space is all of the word it is read from. -/
theorem prefix_words_append (hw : ' ' ∉ w) : y ++ ' ' :: x <+: w ++ r ↔ y = w ∧ ' ' :: x <+: r := by
  constructor
  · rintro ⟨t, ht⟩
    rw [List.append_assoc] at ht
    rcases List.append_eq_append_iff.mp ht with ⟨b, rfl, hb⟩ | ⟨v, rfl, hv⟩
    · cases b with
      | nil => exact ⟨(List.append_nil y).symm, t, hb⟩
      | cons c b =>
        obtain ⟨rfl, -⟩ := List.cons_eq_cons.mp hb
        exact absurd (by simp) hw
    · cases v with
      | nil => exact ⟨List.append_nil w, t, hv.symm⟩
      | cons c v =>
        have hc := hr c (by rw [hv]; rfl)
        rw [hy c (by simp)] at hc
        exact absurd hc Bool.false_ne_true
  · rintro ⟨rfl, hx⟩
    exact (List.prefix_append_right_inj y).mpr hx

end

/-! Upper case of spaces and words. -/

theorem upper_eq_self {t : Text} (ht : ∀ c ∈ t, c.toNat < 65) : upper t = t := by
  induction t with
  | nil => rfl
  | cons c t ih =>
    obtain ⟨hc, hrest⟩ := List.forall_mem_cons.mp ht
    have hcons : upper (c :: t) = upperChar c ++ upper t := rfl
    rw [hcons, upperChar_of_lt hc, ih hrest]
    rfl

theorem Block.IsIndent.toNat_lt {g : Text} (hg : Block.IsIndent g) : ∀ c ∈ g, c.toNat < 65 := by
  intro c hc
  have hindent : c = ' ' ∨ c = '\t' := by simpa [Block.isIndent] using hg c hc
  rcases hindent with rfl | rfl <;> decide

theorem mem_upper_iff {c : Char} (hpos : 0 < c.toNat) (hlow : c.toNat < 65) {t : Text} :
    c ∈ upper t ↔ c ∈ t := by
  rw [upper, List.mem_flatMap]
  constructor
  · rintro ⟨d, hd, hc⟩
    rwa [eq_of_mem_upperChar hpos hlow hc]
  · exact fun hc => ⟨c, hc, by rw [upperChar_of_lt hlow]; exact List.mem_singleton_self c⟩

/-- A space in the upper case of a text is a space of the text. -/
theorem exists_of_suffix_upper {t r : Text} (h : ' ' :: r <:+ upper t) :
    ∃ y z, y ++ ' ' :: z = t ∧ upper z = r := by
  induction t with
  | nil => exact absurd (List.suffix_nil.mp h) (List.cons_ne_nil _ _)
  | cons c t ih =>
    obtain ⟨q, hq⟩ := h
    have hcons : q ++ ' ' :: r = upperChar c ++ upper t := hq
    rcases List.append_eq_append_iff.mp hcons with ⟨b, hb, hr⟩ | ⟨b, -, hb⟩
    · cases b with
      | nil =>
        obtain ⟨y, z, rfl, hz⟩ := ih ⟨[], hr⟩
        exact ⟨c :: y, z, rfl, hz⟩
      | cons d b =>
        obtain ⟨rfl, rfl⟩ := List.cons_eq_cons.mp hr
        obtain rfl := eq_of_mem_upperChar (d := ' ') (by decide) (by decide)
          (by rw [hb]; simp : ' ' ∈ upperChar c)
        have hnil : b = [] := by
          have hlen := congrArg List.length hb
          rw [upperChar_of_lt (by decide), List.length_singleton, List.length_append,
            List.length_cons] at hlen
          exact List.length_eq_zero_iff.mp (by omega)
        subst hnil
        exact ⟨[], t, rfl, rfl⟩
    · obtain ⟨y, z, rfl, hz⟩ := ih ⟨b, hb.symm⟩
      exact ⟨c :: y, z, rfl, hz⟩

/-! What a column line declares. -/

namespace Column

/-- A type as a line may have it: its parentheses are balanced, white space stands inside of them
alone, and no line breaks in it. -/
structure IsTypeText (τ : Text) : Prop where
  ne_nil : τ ≠ []
  newline_notMem : '\n' ∉ τ
  enclosed : ∀ y c z, y ++ c :: z = τ → isWhiteSpace c = true → 0 < depthAfter 0 y
  balanced : depthAfter 0 τ = 0

instance (τ : Text) : Decidable (IsTypeText τ) :=
  decidable_of_iff (τ ≠ [] ∧ '\n' ∉ τ ∧
      (∀ i, ∀ h : i < τ.length, isWhiteSpace τ[i] = true → 0 < depthAfter 0 (τ.take i)) ∧
      depthAfter 0 τ = 0)
    ⟨fun ⟨h₁, h₂, h₃, h₄⟩ => ⟨h₁, h₂, enclosed_iff.mpr h₃, h₄⟩,
    fun ⟨h₁, h₂, h₃, h₄⟩ => ⟨h₁, h₂, enclosed_iff.mp h₃, h₄⟩⟩

/-- A type ends in front of white space. -/
theorem typeOf_append {τ s : Text} (hτ : IsTypeText τ)
    (hs : ∀ c ∈ s.head?, isWhiteSpace c = true) : typeOf (τ ++ s) = lower (dropCommas τ) := by
  have hspan : typeSpan 0 s = [] := by
    cases s with
    | nil => rfl
    | cons c s =>
      have hspace := hs c rfl
      have hopen : c ≠ '(' := fun heq => absurd (heq ▸ hspace) (by decide)
      have hclose : c ≠ ')' := fun heq => absurd (heq ▸ hspace) (by decide)
      rw [typeSpan, if_neg hopen, if_neg hclose, hspace]
      rfl
  rw [typeOf, typeSpan_append hτ.enclosed, hτ.balanced, hspan, List.append_nil]

theorem mem_of_depthAfter {z : Text} {depth : Nat} (hpos : 0 < depth)
    (h : depthAfter depth z = 0) : ')' ∈ z := by
  induction z generalizing depth with
  | nil =>
    rw [depthAfter] at h
    omega
  | cons c z ih =>
    rw [depthAfter] at h
    by_cases hclose : c = ')'
    · rw [hclose]
      exact List.mem_cons_self
    · apply List.mem_cons_of_mem c
      rw [if_neg hclose] at h
      split at h
      · exact ih (Nat.succ_pos depth) h
      · exact ih hpos h

/-- Behind a space in the upper case of a type comes the parenthesis that closes around it. -/
theorem IsTypeText.mem_of_suffix_upper {τ r : Text} (hτ : IsTypeText τ) (h : ' ' :: r <:+ upper τ) :
    ')' ∈ r := by
  obtain ⟨y, z, hform, rfl⟩ := exists_of_suffix_upper h
  obtain ⟨depth, hpos, hdepth⟩ :=
    depthAfter_of_space hτ.enclosed hτ.balanced hform (by decide)
  exact (mem_upper_iff (by decide) (by decide)).mpr (mem_of_depthAfter hpos hdepth)

/-- The words of an option, each with one space in front. -/
def optionText (os : List Text) : Text := os.flatMap (' ' :: ·)

/-- Words that can make up an option: neither empty nor with white space or parentheses. -/
def IsOption (os : List Text) : Prop :=
  os ≠ [] ∧ ∀ o ∈ os, o ≠ [] ∧ o.all (fun c => !Block.isIndent c && c != ')') = true

instance : DecidablePred IsOption := fun _ => inferInstanceAs (Decidable (_ ∧ _))

/-- Words, each behind what stands in front of it. -/
def spaced (ws : List (Text × Text)) : Text := ws.flatMap fun p => p.1 ++ p.2

/-- Whether words open with an option, with one space in front of each word of it. The last word may
go on. -/
def reads : List Text → List (Text × Text) → Bool
  | [], _ => true
  | _ :: _, [] => false
  | o :: os, (g, w) :: ws =>
    g == [' '] && if os.isEmpty then o.isPrefixOf (upper w) else o == upper w && reads os ws

/-- Whether words show an option: behind a space and whatever stands in front of that, they open
with it. -/
def shows (os : List Text) : List (Text × Text) → Bool
  | [] => false
  | (g, w) :: ws => (g.getLast? == some ' ' && reads os (([' '], w) :: ws)) || shows os ws

/-- Words of a column as they may stand behind its type: spaces and tabs, then no white space. -/
def IsWords (ws : List (Text × Text)) : Prop :=
  ∀ p ∈ ws, (p.1 ≠ [] ∧ Block.IsIndent p.1) ∧ p.2 ≠ [] ∧ Unspaced p.2

instance : DecidablePred IsWords := fun ws =>
  inferInstanceAs (Decidable (∀ p ∈ ws, (p.1 ≠ [] ∧ Block.IsIndent p.1) ∧ p.2 ≠ [] ∧ Unspaced p.2))

@[simp] theorem spaced_nil : spaced [] = [] := rfl

theorem spaced_cons (g w : Text) (ws : List (Text × Text)) :
    spaced ((g, w) :: ws) = g ++ (w ++ spaced ws) := by
  simp [spaced]

section
variable {ws : List (Text × Text)} (hws : IsWords ws)
include hws

theorem IsWords.head_isIndent : ∀ c ∈ (spaced ws).head?, Block.isIndent c = true := by
  cases ws with
  | nil => simp
  | cons p ws =>
    obtain ⟨g, w⟩ := p
    obtain ⟨⟨hne, hg⟩, -⟩ := hws _ (List.mem_cons_self ..)
    intro c hc
    rw [spaced_cons, List.head?_append_of_ne_nil _ hne] at hc
    exact hg c (List.mem_of_head? hc)

omit hws in
theorem upper_spaced_cons {g w : Text} (h : IsWords ((g, w) :: ws)) :
    upper (spaced ((g, w) :: ws)) = g ++ (upper w ++ upper (spaced ws)) := by
  obtain ⟨⟨-, hg⟩, -⟩ := h _ (List.mem_cons_self ..)
  rw [spaced_cons, upper_append, upper_append, upper_eq_self hg.toNat_lt]

theorem IsWords.spaced_ne_nil (hne : ws ≠ []) : spaced ws ≠ [] := by
  obtain ⟨p, ws, rfl⟩ := List.exists_cons_of_ne_nil hne
  obtain ⟨-, hword, -⟩ := hws p (List.mem_cons_self ..)
  simp [spaced, hword]

theorem IsWords.upper_head_isIndent :
    ∀ c ∈ (upper (spaced ws)).head?, Block.isIndent c = true := by
  cases ws with
  | nil => simp
  | cons p ws =>
    obtain ⟨g, w⟩ := p
    obtain ⟨⟨hne, hg⟩, -⟩ := hws _ (List.mem_cons_self ..)
    intro c hc
    rw [upper_spaced_cons hws, List.head?_append_of_ne_nil _ hne] at hc
    exact hg c (List.mem_of_head? hc)

theorem IsWords.space_notMem_upper {p : Text × Text} (hp : p ∈ ws) : ' ' ∉ upper p.2 := by
  rw [mem_upper_iff (by decide) (by decide)]
  intro hmem
  have hspace := (hws p hp).2.2 _ hmem
  exact absurd hspace (by decide)

end

section
variable {os : List Text} (hos : IsOption os)
include hos

theorem IsOption.word {o : Text} (ho : o ∈ os) :
    o ≠ [] ∧ (∀ c ∈ o, Block.isIndent c = false) ∧ ')' ∉ o := by
  obtain ⟨hne, hall⟩ := hos.2 o ho
  rw [List.all_eq_true] at hall
  refine ⟨hne, fun c hc => ?_, fun hmem => ?_⟩
  · have h := hall c hc
    simp only [Bool.and_eq_true, Bool.not_eq_true'] at h
    exact h.1
  · have h := hall _ hmem
    simp at h

theorem IsOption.tail {o : Text} {qs : List Text} (h : os = o :: qs) (hne : qs ≠ []) :
    IsOption qs := by
  subst h
  exact ⟨hne, fun q hq => hos.2 q (List.mem_cons_of_mem o hq)⟩

omit hos in
theorem optionText_cons (o : Text) (os : List Text) :
    optionText (o :: os) = ' ' :: (o ++ optionText os) := rfl

/-- Words open with an option where the text of them does. -/
theorem reads_iff {ws : List (Text × Text)} (hws : IsWords ws) :
    reads os ws = true ↔ optionText os <+: upper (spaced ws) := by
  induction os generalizing ws with
  | nil => exact absurd rfl hos.1
  | cons o os ih =>
    obtain ⟨hne, hindent, -⟩ := hos.word (List.mem_cons_self ..)
    rw [optionText_cons]
    cases ws with
    | nil => simp [reads]
    | cons p ws =>
      obtain ⟨g, w⟩ := p
      obtain ⟨⟨hgne, hg⟩, -⟩ := hws _ (List.mem_cons_self ..)
      have hrest : IsWords ws := fun q hq => hws q (List.mem_cons_of_mem _ hq)
      have hword : ' ' ∉ upper w := hws.space_notMem_upper (List.mem_cons_self ..)
      have hhead : ∀ c ∈ (o ++ optionText os).head?, Block.isIndent c = false := by
        intro c hc
        rw [List.head?_append_of_ne_nil _ hne] at hc
        exact hindent c (List.mem_of_head? hc)
      have hnil : o ++ optionText os ≠ [] := by simp [hne]
      rw [upper_spaced_cons hws, prefix_spacing_append hgne hg hnil hhead, reads,
        Bool.and_eq_true, beq_iff_eq]
      apply and_congr_right
      intro
      cases os with
      | nil =>
        have hone : o ++ optionText [] = o := List.append_nil o
        rw [hone, prefix_word_append hindent hrest.upper_head_isIndent]
        simp
      | cons q os =>
        have hnext := ih (hos.tail rfl (List.cons_ne_nil q os)) hrest
        rw [optionText_cons] at hnext ⊢
        rw [prefix_words_append hindent hrest.upper_head_isIndent hword, ← hnext]
        simp

theorem shows_iff {ws : List (Text × Text)} (hws : IsWords ws) :
    shows os ws = true ↔ optionText os <:+: upper (spaced ws) := by
  obtain ⟨o, qs, rfl⟩ := List.exists_cons_of_ne_nil hos.1
  obtain ⟨hne, hindent, -⟩ := hos.word (List.mem_cons_self ..)
  have hhead : ∀ c ∈ (o ++ optionText qs).head?, Block.isIndent c = false := by
    intro c hc
    rw [List.head?_append_of_ne_nil _ hne] at hc
    exact hindent c (List.mem_of_head? hc)
  have hnil : o ++ optionText qs ≠ [] := by simp [hne]
  induction ws with
  | nil => simp [shows, optionText_cons]
  | cons p ws ih =>
    obtain ⟨g, w⟩ := p
    obtain ⟨⟨hgne, hg⟩, hw⟩ := hws _ (List.mem_cons_self ..)
    have hrest : IsWords ws := fun q hq => hws q (List.mem_cons_of_mem _ hq)
    have hspace : Block.IsIndent [' '] := by decide
    have hone : IsWords (([' '], w) :: ws) :=
      List.forall_mem_cons.mpr ⟨⟨⟨List.cons_ne_nil _ _, hspace⟩, hw⟩, hrest⟩
    have hnext := (ih hrest).symm
    have hword : ' ' ∉ upper w := hws.space_notMem_upper (List.mem_cons_self ..)
    rw [upper_spaced_cons hws, optionText_cons, infix_spacing_append hgne hg hnil hhead,
      infix_word_append hword, ← optionText_cons, hnext, shows, Bool.or_eq_true,
      Bool.and_eq_true, beq_iff_eq, reads_iff hos hone, upper_spaced_cons hone, optionText_cons,
      prefix_spacing_append (List.cons_ne_nil _ _) hspace hnil hhead]
    simp

/-- No option goes over the end of a type. -/
theorem hasOption_spaced {option : String} (hoption : option.toList = optionText os) {τ : Text}
    (hτ : IsTypeText τ) {ws : List (Text × Text)} (hws : IsWords ws) :
    hasOption option (τ ++ spaced ws) = (hasOption option τ || shows os ws) := by
  have hparen : ')' ∉ optionText os := by
    rw [optionText, List.mem_flatMap]
    rintro ⟨o, ho, hmem⟩
    exact (hos.word ho).2.2 ((List.mem_cons.mp hmem).resolve_left (by decide))
  obtain ⟨y, hy⟩ : ∃ y, optionText os = ' ' :: y := by
    obtain ⟨o, qs, rfl⟩ := List.exists_cons_of_ne_nil hos.1
    exact ⟨_, optionText_cons o qs⟩
  rw [hasOption, hasOption, hoption, upper_append, Bool.eq_iff_iff, Bool.or_eq_true,
    Text.hasPart_iff, Text.hasPart_iff, shows_iff hos hws, List.infix_append_iff]
  apply or_congr_right
  constructor
  · rintro (hin | ⟨r, r', hsplit, hr, hr'⟩)
    · exact hin
    · cases r with
      | nil =>
        rw [hsplit]
        exact hr'.isInfix
      | cons c r =>
        have hform : c :: (r ++ r') = ' ' :: y := by rw [← hy, hsplit, List.cons_append]
        obtain ⟨rfl, -⟩ := List.cons_eq_cons.mp hform
        refine absurd ?_ hparen
        rw [hsplit]
        exact List.mem_append_left r' (List.mem_cons_of_mem _ (hτ.mem_of_suffix_upper hr))
  · exact Or.inl

end

/-- What is seen of the white space in front of a word: whether it is one space, and whether it ends
in a space. -/
def SameSpacing (p p' : Text × Text) : Prop :=
  (p.1 = [' '] ↔ p'.1 = [' ']) ∧ (p.1.getLast? = some ' ' ↔ p'.1.getLast? = some ' ')

section
variable {ws ws' : List (Text × Text)} (h : List.Forall₂ SameSpacing ws ws')
  (hwords : ws.map Prod.snd = ws'.map Prod.snd)
include h hwords

theorem reads_congr (os : List Text) : reads os ws = reads os ws' := by
  induction h generalizing os with
  | nil => rfl
  | @cons p p' ws ws' hp _ ih =>
    obtain ⟨g, w⟩ := p
    obtain ⟨g', w'⟩ := p'
    obtain ⟨rfl, hrest⟩ := List.cons_eq_cons.mp hwords
    cases os with
    | nil => rfl
    | cons o os =>
      have hgap : (g == [' ']) = (g' == [' ']) := by
        rw [Bool.eq_iff_iff, beq_iff_eq, beq_iff_eq]
        exact hp.1
      rw [reads, reads, hgap, ih hrest]

theorem shows_congr (os : List Text) : shows os ws = shows os ws' := by
  induction h with
  | nil => rfl
  | @cons p p' ws ws' hp hrest ih =>
    obtain ⟨g, w⟩ := p
    obtain ⟨g', w'⟩ := p'
    obtain ⟨rfl, hmap⟩ := List.cons_eq_cons.mp hwords
    have hlast : (g.getLast? == some ' ') = (g'.getLast? == some ' ') := by
      rw [Bool.eq_iff_iff, beq_iff_eq, beq_iff_eq]
      exact hp.2
    have hreads : reads os (([' '], w) :: ws) = reads os (([' '], w) :: ws') :=
      reads_congr (.cons ⟨Iff.rfl, Iff.rfl⟩ hrest) (by rw [List.map_cons, List.map_cons, hmap]) os
    rw [shows, shows, hlast, hreads, ih hmap]

end

end Column

/-- What a line declares that names a column and goes on with `d` behind white space. -/
theorem Declaration.ofLine_enquote {n g d : Text} (htick : backtick ∉ n) (hg : IsGap g)
    (hne : d ≠ []) (hd : IsTrimmed d) (hnewline : '\n' ∉ d) :
    ofLine (enquote n ++ (g ++ d)) = .ok (if n = [] then .other else .column {
      name := n
      dataType := Column.typeOf d
      nullable := !Column.hasOption " NOT NULL" d
      autoIncrement := Column.hasOption " AUTO_INCREMENT" d }) := by
  have htrim : IsTrimmed (enquote n ++ (g ++ d)) := by
    have hfront : IsTrimmed [backtick] := isTrimmed_of_ends rfl rfl (by decide) (by decide)
    have hends := hfront.around hd (List.cons_ne_nil _ _) hne (n ++ backtick :: g)
    simpa [enquote] using hends
  have hread := Column.readName?_enquote htick hg hd.front
  have hcolumn : Column.ofLine? (enquote n ++ (g ++ d)) = if n = [] then none else some {
      name := n
      dataType := Column.typeOf d
      nullable := !Column.hasOption " NOT NULL" d
      autoIncrement := Column.hasOption " AUTO_INCREMENT" d } := by
    rw [Column.ofLine?, hread]
    cases n with
    | nil => rfl
    | cons c n => simp [hne, hnewline]
  obtain ⟨x, hx⟩ : ∃ x, enquote n ++ (g ++ d) = backtick :: x := ⟨_, rfl⟩
  rw [hx] at htrim hcolumn ⊢
  rw [ofLine_cons startsNoKey_backtick (by decide) htrim, hcolumn]
  split <;> rfl

/-- A line that declares a column: a name without backticks, a type and words, with spaces and tabs
between them. -/
structure ColumnLine where
  name : Text
  gap : Text
  type : Text
  words : List (Text × Text)
  backtick_notMem : backtick ∉ name
  spacing : gap ≠ [] ∧ Block.IsIndent gap
  isType : Column.IsTypeText type
  isWords : Column.IsWords words

namespace ColumnLine

/-- What the line declares of the column behind its name. -/
def declaration (l : ColumnLine) : Text := l.type ++ Column.spaced l.words

def text (l : ColumnLine) : Text := enquote l.name ++ (l.gap ++ l.declaration)

/-- Whether the lines have the same words, whatever stands between them. -/
def SameWords (l l' : ColumnLine) : Prop :=
  l.name = l'.name ∧ l.type = l'.type ∧ l.words.map Prod.snd = l'.words.map Prod.snd

/-- Whether an option is read from the line, inside the parentheses of the type or behind it. -/
def showsOption (l : ColumnLine) (os : List Text) : Bool :=
  Text.hasPart (Column.optionText os) (upper l.type) || Column.shows os l.words

theorem isTrimmed_declaration (l : ColumnLine) : IsTrimmed l.declaration := by
  have hne := l.isType.ne_nil
  constructor
  · intro c hc
    rw [declaration, List.head?_append_of_ne_nil _ hne] at hc
    exact Column.head_not_isWhiteSpace l.isType.enclosed c hc
  · intro c hc
    rw [declaration] at hc
    rcases List.eq_nil_or_concat' l.words with hnil | ⟨us, p, hp⟩
    · rw [hnil, Column.spaced_nil, List.append_nil] at hc
      exact Column.last_not_isWhiteSpace l.isType.enclosed l.isType.balanced c hc
    · obtain ⟨-, hword, hspace⟩ := l.isWords p (by simp [hp])
      have hform : l.type ++ Column.spaced l.words =
          (l.type ++ (Column.spaced us ++ p.1)) ++ p.2 := by
        simp [hp, Column.spaced]
      rw [hform, List.getLast?_append_of_ne_nil _ hword] at hc
      exact hspace c (List.mem_of_getLast? hc)

theorem newline_notMem_declaration (l : ColumnLine) : '\n' ∉ l.declaration := by
  rw [declaration, List.mem_append, not_or]
  refine ⟨l.isType.newline_notMem, fun hmem => ?_⟩
  obtain ⟨p, hp, hin⟩ := List.mem_flatMap.mp hmem
  obtain ⟨⟨-, hindent⟩, -, hspace⟩ := l.isWords p hp
  rcases List.mem_append.mp hin with h | h
  · exact absurd (hindent _ h) (by decide)
  · exact absurd (hspace _ h) (by decide)

theorem declaration_ne_nil (l : ColumnLine) : l.declaration ≠ [] := by
  simp [declaration, l.isType.ne_nil]

theorem typeOf_declaration (l : ColumnLine) :
    Column.typeOf l.declaration = lower (Column.dropCommas l.type) :=
  Column.typeOf_append l.isType fun c hc =>
    Block.isWhiteSpace_of_isIndent (l.isWords.head_isIndent c hc)

theorem isGap (l : ColumnLine) : IsGap l.gap := ⟨l.spacing.1, l.spacing.2.blank⟩

end ColumnLine

/-- The words of an option that forbids null. -/
def Column.notNullWords : List Text := ["NOT".toList, "NULL".toList]

def Column.autoIncrementWords : List Text := ["AUTO_INCREMENT".toList]

namespace Declaration

theorem ofLine_columnLine (l : ColumnLine) :
    ofLine l.text = .ok (if l.name = [] then .other else .column {
      name := l.name
      dataType := lower (Column.dropCommas l.type)
      nullable := !l.showsOption Column.notNullWords
      autoIncrement := l.showsOption Column.autoIncrementWords }) := by
  have hnull : Column.hasOption " NOT NULL" l.declaration =
      l.showsOption Column.notNullWords :=
    Column.hasOption_spaced (by decide) rfl l.isType l.isWords
  have hauto : Column.hasOption " AUTO_INCREMENT" l.declaration =
      l.showsOption Column.autoIncrementWords :=
    Column.hasOption_spaced (by decide) rfl l.isType l.isWords
  rw [← l.typeOf_declaration, ← hnull, ← hauto]
  exact ofLine_enquote l.backtick_notMem l.isGap l.declaration_ne_nil l.isTrimmed_declaration
    l.newline_notMem_declaration

/-- A line declares the column of its name and type, whatever stands between the words. Lines with
the same words declare the same exactly if they show the same options, and so they do if the white
space in front of the words looks the same: one space or more, with a space last or a tab. -/
theorem ofLine_spacing_iff (l l' : ColumnLine) (h : l.SameWords l') :
    ofLine l.text = .ok (if l.name = [] then .other else .column {
        name := l.name
        dataType := lower (Column.dropCommas l.type)
        nullable := !l.showsOption Column.notNullWords
        autoIncrement := l.showsOption Column.autoIncrementWords }) ∧
      (ofLine l.text = ofLine l'.text ↔ l.name = [] ∨
        (l.showsOption Column.notNullWords = l'.showsOption Column.notNullWords ∧
          l.showsOption Column.autoIncrementWords = l'.showsOption Column.autoIncrementWords)) ∧
      (List.Forall₂ Column.SameSpacing l.words l'.words → ofLine l.text = ofLine l'.text) := by
  obtain ⟨hname, htype, hwords⟩ := h
  have hiff : ofLine l.text = ofLine l'.text ↔ l.name = [] ∨
      (l.showsOption Column.notNullWords = l'.showsOption Column.notNullWords ∧
        l.showsOption Column.autoIncrementWords = l'.showsOption Column.autoIncrementWords) := by
    rw [ofLine_columnLine, ofLine_columnLine, ← hname, ← htype]
    by_cases hnil : l.name = [] <;> simp [hnil]
  refine ⟨ofLine_columnLine l, hiff, fun hspacing => hiff.mpr (.inr ?_)⟩
  unfold ColumnLine.showsOption
  rw [htype, Column.shows_congr hspacing hwords, Column.shows_congr hspacing hwords]
  exact ⟨rfl, rfl⟩

/-- Tabs and more spaces do no harm where no single space is looked for. -/
theorem ofLine_spacing_tabs :
    ∃ l l' : ColumnLine, l.text = "`a` int NOT NULL Auto_Increment,".toList ∧
      l'.text = "`a`\tint\t NOT NULL  Auto_Increment,".toList ∧ l.SameWords l' ∧
      ofLine l.text = ofLine l'.text ∧
      ofLine l'.text = .ok (.column ⟨['a'], "int".toList, false, true⟩) := by
  let l : ColumnLine := ⟨['a'], [' '], "int".toList, [([' '], "NOT".toList), ([' '], "NULL".toList),
    ([' '], "Auto_Increment,".toList)], by decide, by decide, by decide, by decide⟩
  let l' : ColumnLine := ⟨['a'], ['\t'], "int".toList, [(['\t', ' '], "NOT".toList),
    ([' '], "NULL".toList), ([' ', ' '], "Auto_Increment,".toList)],
    by decide, by decide, by decide, by decide⟩
  have hwords : l.SameWords l' := ⟨rfl, rfl, rfl⟩
  have hnull : l.showsOption Column.notNullWords = l'.showsOption Column.notNullWords := by decide
  have hauto : l.showsOption Column.autoIncrementWords =
      l'.showsOption Column.autoIncrementWords := by decide
  have hsame := (ofLine_spacing_iff l l' hwords).2.1.mpr (.inr ⟨hnull, hauto⟩)
  have hread : ofLine l.text = .ok (.column ⟨['a'], "int".toList, false, true⟩) := by
    decide +kernel
  exact ⟨l, l', by decide, by decide, hwords, hsame, hsame.symm.trans hread⟩

/-- A second space between the words of an option hides it. -/
theorem ofLine_spacing_observed :
    ∃ l l' : ColumnLine, l.text = "`a` int NOT NULL".toList ∧
      l'.text = "`a` int NOT  NULL".toList ∧ l.SameWords l' ∧
      ofLine l.text = .ok (.column ⟨['a'], "int".toList, false, false⟩) ∧
      ofLine l'.text = .ok (.column ⟨['a'], "int".toList, true, false⟩) := by
  refine ⟨⟨['a'], [' '], "int".toList, [([' '], "NOT".toList), ([' '], "NULL".toList)],
      by decide, by decide, by decide, by decide⟩,
    ⟨['a'], [' '], "int".toList, [([' '], "NOT".toList), ([' ', ' '], "NULL".toList)],
      by decide, by decide, by decide, by decide⟩,
    by decide, by decide, ⟨rfl, rfl, rfl⟩, ?_, ?_⟩
  · decide +kernel
  · decide +kernel

end Declaration
end SqlOutline
