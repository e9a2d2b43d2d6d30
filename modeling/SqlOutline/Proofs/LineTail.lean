import SqlOutline.Proofs.ErrorFlow
import SqlOutline.Proofs.TrailingBlank
import SqlOutline.Proofs.WrittenLine

/-!
What comes behind the words of a line.

Keywords and names end in front of punctuation. So a key declares the same when punctuation or white
space comes behind it (`Declaration.ofLine_append_wordless`), and so does the line of a target.
-/

namespace SqlOutline
open Unicode

/-- A text without word characters and backticks. -/
def Wordless (s : Text) : Prop := ∀ c ∈ s, isWordChar c = false ∧ c ≠ backtick

instance : DecidablePred Wordless := fun s =>
  decidable_of_iff (s.all (fun c => !isWordChar c && c != backtick) = true) (by simp [Wordless])

theorem Blank.wordless {g : Text} (hg : Blank g) : Wordless g := by
  intro c hc
  have hspace := hg c hc
  refine ⟨not_isWordChar_of_isWhiteSpace hspace, ?_⟩
  rintro rfl
  exact absurd hspace (by decide)

namespace Wordless
variable {s : Text} (hs : Wordless s)
include hs

theorem append {s' : Text} (hs' : Wordless s') : Wordless (s ++ s') :=
  List.forall_mem_append.mpr ⟨hs, hs'⟩

theorem tail {c : Char} {t : Text} (h : s = c :: t) : Wordless t := by
  subst h
  exact fun d hd => hs d (List.mem_cons_of_mem c hd)

theorem trimEnd : Wordless (Text.trimEnd s) := by
  obtain ⟨⟨g, hg, -⟩, -⟩ := Text.trimEnd_split s
  intro c hc
  apply hs
  rw [← hg]
  exact List.mem_append_left g hc

theorem backtick_notMem : backtick ∉ s := fun h => (hs _ h).2 rfl

/-- A word that ends in front of the rest of its text may end in front of `s` too. -/
theorem endsWord_append (b : Text) : endsWord (b ++ s) = endsWord b := by
  cases b with
  | cons c b => rfl
  | nil =>
    cases s with
    | nil => rfl
    | cons c s =>
      have hc := (hs c (List.mem_cons_self ..)).1
      simp [endsWord, hc]

theorem names_append (t : Text) : (Cut.ofText (t ++ s)).names = (Cut.ofText t).names := by
  rw [Cut.ofText_append_of_notMem hs.backtick_notMem, Cut.names_append, Cut.names_plain,
    List.append_nil]

theorem requiredNames_append {t : Text} {names : List Text} (h : requiredNames t = .ok names) :
    requiredNames (t ++ s) = .ok names := by
  rw [requiredNames] at h ⊢
  rw [hs.names_append]
  cases hnames : (Cut.ofText t).names with
  | nil =>
    rw [hnames] at h
    cases h
  | cons n ns =>
    rw [hnames] at h
    exact h

theorem requiredName_append {t name : Text} (h : requiredName t = .ok name) :
    requiredName (t ++ s) = .ok name := by
  rw [requiredName] at h ⊢
  rw [hs.names_append]
  cases hnames : (Cut.ofText t).names with
  | nil =>
    rw [hnames] at h
    cases h
  | cons n ns =>
    rw [hnames] at h
    exact h

end Wordless

namespace Keyword
variable {k : Keyword} (hk : k.Plain) {s : Text} (hs : Wordless s)
include hk hs

theorem readWhole_append_wordless (t : Text) :
    k.readWhole (t ++ s) = (k.readWhole t).map fun p => (p.1, p.2 ++ s) := by
  apply Option.ext
  rintro ⟨f, r⟩
  rw [readWhole_eq_some_iff hk, Option.map_eq_some_iff]
  constructor
  · rintro ⟨hform, hf, hend⟩
    have hlast : ∀ c ∈ f.getLast?, c ∉ s := by
      intro c hc hmem
      have hword := isWordChar_of_isSolid (hf.last_letter hk hc).1
      rw [(hs c hmem).1] at hword
      exact Bool.false_ne_true hword
    obtain ⟨b, rfl, rfl⟩ := split_append_of_last hform hlast
    rw [hs.endsWord_append] at hend
    exact ⟨(f, b), (readWhole_eq_some_iff hk).mpr ⟨rfl, hf, hend⟩, rfl⟩
  · rintro ⟨⟨f', b⟩, hread, he⟩
    obtain ⟨rfl, rfl⟩ := Prod.mk.inj he
    obtain ⟨rfl, hf, hend⟩ := (readWhole_eq_some_iff hk).mp hread
    exact ⟨(List.append_assoc _ _ _).symm, hf, by rwa [hs.endsWord_append]⟩

theorem readWhole_wordless : k.readWhole s = none := by
  have hread := readWhole_append_wordless hk hs []
  rwa [List.nil_append, readWhole_nil hk] at hread

theorem findWhole?_wordless (inWord : Bool) : k.findWhole? inWord s = none := by
  induction s generalizing inWord with
  | nil => rfl
  | cons c s ih =>
    have hread := readWhole_wordless hk hs
    have hrest := ih (hs.tail rfl) (isWordChar c)
    rw [findWhole?, hread, hrest, ite_self]
    rfl

theorem findWhole?_append_wordless (inWord : Bool) (t : Text) :
    k.findWhole? inWord (t ++ s) =
      (k.findWhole? inWord t).map fun o => { o with after := o.after ++ s } := by
  induction t generalizing inWord with
  | nil =>
    rw [List.nil_append, findWhole?_wordless hk hs]
    rfl
  | cons c t ih =>
    have hread := readWhole_append_wordless hk hs (c :: t)
    rw [List.cons_append] at hread ⊢
    rw [findWhole?, findWhole?, hread, ih]
    cases inWord with
    | true =>
      simp only [if_true, Option.map_map]
      rfl
    | false =>
      simp only [Bool.false_eq_true, if_false]
      cases k.readWhole (c :: t) with
      | some p => rfl
      | none =>
        simp only [Option.map_none, Option.map_map]
        rfl

end Keyword

namespace Target

/-- A target is named between backticks. -/
theorem backtick_mem_of_ofLine {l : Text} {g : Target} (h : ofLine l = .ok (some g)) :
    backtick ∈ l := by
  by_contra hno
  obtain ⟨b, b', hl, -⟩ := Text.trim_split l
  rw [ofLine] at h
  cases hread : keyword.readWhole (Text.trim l) with
  | none =>
    rw [hread] at h
    cases h
  | some p =>
    have hrest : backtick ∉ p.2 := by
      intro hmem
      apply hno
      rw [← hl, ← keyword.readWhole_faithful hread]
      simp [hmem]
    simp only [hread, ofSegment, Cut.ofText_of_notMem hrest, Cut.names_plain] at h
    cases h

variable {s : Text} (hs : Wordless s)
include hs

theorem ofSegment_append_wordless {t : Text} {g : Target} (h : ofSegment t = .ok g) :
    ofSegment (t ++ s) = .ok g := by
  unfold ofSegment at h ⊢
  rw [hs.names_append]
  rcases hnames : (Cut.ofText t).names with _ | ⟨n, _ | ⟨m, _ | ⟨k, ns⟩⟩⟩ <;> rw [hnames] at h
  · cases h
  · cases h
  · exact h
  · exact h

/-- The line of a target has the same target with punctuation behind it. -/
theorem ofLine_append_wordless {l : Text} {g : Target} (h : ofLine l = .ok (some g)) :
    ofLine (l ++ s) = .ok (some g) := by
  obtain ⟨b, b', hl, hb, hb', htrim⟩ := Text.trim_split l
  rw [ofLine] at h ⊢
  generalize Text.trim l = u at h hl htrim
  have hne : u ≠ [] := by
    rintro rfl
    rw [Keyword.readWhole_nil keyword_plain] at h
    cases h
  have htail : Wordless (Text.trimEnd (b' ++ s)) := (hb'.wordless.append hs).trimEnd
  have hread := Keyword.readWhole_append_wordless keyword_plain htail u
  rw [← hl, List.append_assoc, List.append_assoc, Text.trim_append_of_trimmed hb hne htrim, hread]
  cases hu : keyword.readWhole u with
  | none =>
    rw [hu] at h
    cases h
  | some p =>
    rw [hu] at h
    obtain ⟨g', hg, hsome⟩ := exists_of_map_ok h
    simp only [Option.map_some, ofSegment_append_wordless htail hg]
    exact congrArg Except.ok hsome

end Target

namespace Declaration

/-- Dropping a constraint takes something off the front of the line. -/
theorem dropConstraint_suffix (line : Text) : dropConstraint line <:+ line := by
  have hskip : ∀ t, skipName t <:+ t := by
    intro t
    cases t with
    | nil => exact List.suffix_rfl
    | cons c t =>
      rw [skipName]
      split
      · cases hcut : Text.cutAt? (· == backtick) t with
        | none => exact List.nil_suffix
        | some p =>
          obtain ⟨-, d, -, hform⟩ := Text.cutAt?_eq_some hcut
          exact ⟨c :: (p.1 ++ [d]), by simp [hform]⟩
      · exact List.dropWhile_suffix _
  have hstart : ∀ t, Text.trimStart t <:+ t := fun t => List.dropWhile_suffix _
  rw [dropConstraint]
  split
  · exact List.suffix_rfl
  · rename_i f rest hread
    have hrest : rest <:+ line := ⟨f, constraintKeyword.readWhole_faithful hread⟩
    dsimp only
    split
    · exact (hstart rest).trans hrest
    · exact (((hstart _).trans (hskip _)).trans (hstart rest)).trans hrest

/-- The declarations of keys. -/
def IsKey : Declaration → Prop
  | .column _ | .other => False
  | _ => True

theorem ofBareLine_nil : ofBareLine [] = .ok .other := by
  decide

/-- A key stands behind the keyword of its kind. -/
theorem ofBareLine_cases {t : Text} {d : Declaration} (h : ofBareLine t = .ok d) (hd : d.IsKey) :
    (∃ p, primaryKeyword.readWhole t = some p ∧ (requiredNames p.2).map .primaryKey = .ok d) ∨
      (primaryKeyword.readWhole t = none ∧ ∃ p, uniqueKeyword.readWhole t = some p ∧
        (requiredNames p.2).map (fun names => .uniqueIndex names.tail) = .ok d) ∨
      (primaryKeyword.readWhole t = none ∧ uniqueKeyword.readWhole t = none ∧
        ∃ p, foreignKeyword.readWhole t = some p ∧ foreignKeyOf p.2 = .ok d) := by
  rw [ofBareLine] at h
  cases hp : primaryKeyword.readWhole t with
  | some p =>
    rw [hp] at h
    exact .inl ⟨p, rfl, h⟩
  | none =>
    right
    simp only [hp] at h
    cases hu : uniqueKeyword.readWhole t with
    | some p =>
      rw [hu] at h
      exact .inl ⟨rfl, p, rfl, h⟩
    | none =>
      right
      simp only [hu] at h
      cases hf : foreignKeyword.readWhole t with
      | some p =>
        rw [hf] at h
        exact ⟨rfl, rfl, p, rfl, h⟩
      | none =>
        exfalso
        simp only [hf] at h
        split at h
        · obtain rfl := Except.ok.inj h
          exact hd
        · obtain rfl := Except.ok.inj h
          exact hd

/-- A key names its columns between backticks. -/
theorem backtick_mem_of_isKey {l : Text} {d : Declaration} (h : ofLine l = .ok d) (hd : d.IsKey) :
    backtick ∈ l := by
  by_contra hno
  have htrim : backtick ∉ dropConstraint (Text.trim l) := by
    obtain ⟨b, b', hl, -⟩ := Text.trim_split l
    intro hmem
    apply hno
    rw [← hl]
    exact List.mem_append_left _
      (List.mem_append_right b ((dropConstraint_suffix _).subset hmem))
  rw [ofLine] at h
  generalize dropConstraint (Text.trim l) = t at h htrim
  have hcut : ∀ {u : Text}, backtick ∉ u → (Cut.ofText u).names = [] := by
    intro u hu
    rw [Cut.ofText_of_notMem hu, Cut.names_plain]
  have hrest : ∀ {k : Keyword} {p : Text × Text}, k.readWhole t = some p → backtick ∉ p.2 := by
    intro k p hread hmem
    apply htrim
    rw [← k.readWhole_faithful hread]
    exact List.mem_append_right p.1 hmem
  rcases ofBareLine_cases h hd with ⟨p, hp, h⟩ | ⟨-, p, hp, h⟩ | ⟨-, -, p, hp, h⟩
  · rw [requiredNames, hcut (hrest hp)] at h
    cases h
  · rw [requiredNames, hcut (hrest hp)] at h
    cases h
  · have hbody := hrest hp
    rw [foreignKeyOf] at h
    cases hfind : Target.keyword.findWhole? false p.2 with
    | none =>
      simp only [hfind, requiredName, hcut hbody] at h
      cases h
    | some o =>
      have hafter : backtick ∉ o.after := by
        intro hmem
        apply hbody
        rw [← Keyword.text_of_findWhole? hfind, Occurrence.text]
        exact List.mem_append_right _ hmem
      simp only [hfind, Target.ofSegment, hcut hafter] at h
      cases h

section
variable {s : Text} (hs : Wordless s)
include hs

theorem opensKey_append_wordless (t : Text) : opensKey (t ++ s) = opensKey t := by
  have hread : ∀ {k : Keyword}, k.Plain → (k.readWhole (t ++ s)).isSome = (k.readWhole t).isSome := by
    intro k hk
    rw [Keyword.readWhole_append_wordless hk hs, Option.isSome_map]
  simp only [opensKey, List.any_cons, List.any_nil, hread primaryKeyword_plain,
    hread uniqueKeyword_plain, hread foreignKeyword_plain]

omit hs in
theorem trimStart_append {t : Text} (h : Text.trimStart t ≠ []) (s : Text) :
    Text.trimStart (t ++ s) = Text.trimStart t ++ s :=
  (Block.span_append h s).2

omit hs in
theorem skipName_append {t : Text} (h : skipName t ≠ []) (s : Text) :
    skipName (t ++ s) = skipName t ++ s := by
  cases t with
  | nil => exact absurd rfl h
  | cons c t =>
    rw [skipName] at h
    rw [List.cons_append, skipName, skipName]
    by_cases hc : c = backtick
    · rw [if_pos hc] at h ⊢
      rw [if_pos hc]
      cases hcut : Text.cutAt? (· == backtick) t with
      | none =>
        rw [hcut] at h
        exact absurd rfl h
      | some p =>
        obtain ⟨hfront, d, hd, hform⟩ := Text.cutAt?_eq_some hcut
        have hlong : Text.cutAt? (· == backtick) (t ++ s) = some (p.1, p.2 ++ s) := by
          rw [hform, List.append_assoc]
          exact Text.cutAt?_append_cons hfront hd
        rw [hlong]
        rfl
    · rw [if_neg hc] at h ⊢
      rw [if_neg hc, ← List.cons_append, (Block.span_append h s).2]

/-- What stands behind a constraint keeps the punctuation behind it. -/
theorem dropConstraint_append_wordless {t : Text} (h : dropConstraint t ≠ []) :
    dropConstraint (t ++ s) = dropConstraint t ++ s := by
  rw [dropConstraint] at h
  rw [dropConstraint, dropConstraint, Keyword.readWhole_append_wordless constraintKeyword_plain hs]
  cases hc : constraintKeyword.readWhole t with
  | none => rfl
  | some p =>
    obtain ⟨f, rest⟩ := p
    rw [hc] at h
    simp only [Option.map_some] at h ⊢
    have hne : Text.trimStart rest ≠ [] := by
      intro hnil
      rw [hnil] at h
      exact h (by decide)
    rw [trimStart_append hne, opensKey_append_wordless hs]
    by_cases hopen : opensKey (Text.trimStart rest) = true
    · rw [if_pos hopen, if_pos hopen]
    · rw [if_neg hopen] at h ⊢
      have hskip : skipName (Text.trimStart rest) ≠ [] := by
        intro hnil
        rw [hnil] at h
        exact h rfl
      rw [if_neg hopen, skipName_append hskip, trimStart_append h]

theorem foreignKeyOf_append_wordless {t : Text} {d : Declaration} (h : foreignKeyOf t = .ok d) :
    foreignKeyOf (t ++ s) = .ok d := by
  rw [foreignKeyOf] at h ⊢
  rw [Keyword.findWhole?_append_wordless Target.keyword_plain hs]
  cases hfind : Target.keyword.findWhole? false t with
  | none =>
    simp only [hfind] at h
    simp only [Option.map_none]
    obtain ⟨n, hname, rfl⟩ := exists_of_map_ok h
    rw [hs.requiredName_append hname]
    rfl
  | some o =>
    simp only [hfind] at h
    simp only [Option.map_some]
    obtain ⟨g, htarget, hrest⟩ := exists_of_bind_ok h
    rw [Target.ofSegment_append_wordless hs htarget]
    exact hrest

theorem ofBareLine_append_wordless {t : Text} {d : Declaration} (h : ofBareLine t = .ok d)
    (hd : d.IsKey) : ofBareLine (t ++ s) = .ok d := by
  have hnames : ∀ {rest : Text} {f : List Text → Declaration},
      (requiredNames rest).map f = .ok d → (requiredNames (rest ++ s)).map f = .ok d := by
    intro rest f hrest
    obtain ⟨ns, hns, rfl⟩ := exists_of_map_ok hrest
    rw [hs.requiredNames_append hns]
    rfl
  rw [ofBareLine, Keyword.readWhole_append_wordless primaryKeyword_plain hs,
    Keyword.readWhole_append_wordless uniqueKeyword_plain hs,
    Keyword.readWhole_append_wordless foreignKeyword_plain hs]
  rcases ofBareLine_cases h hd with ⟨p, hp, h⟩ | ⟨hp, p, hu, h⟩ | ⟨hp, hu, p, hf, h⟩
  · rw [hp]
    exact hnames h
  · rw [hp, hu]
    exact hnames h
  · rw [hp, hu, hf]
    exact foreignKeyOf_append_wordless hs h

/-- A key declares the same with punctuation behind it. -/
theorem ofLine_append_wordless {l : Text} {d : Declaration} (h : ofLine l = .ok d)
    (hd : d.IsKey) : ofLine (l ++ s) = .ok d := by
  obtain ⟨b, b', hl, hb, hb', htrim⟩ := Text.trim_split l
  unfold ofLine at h ⊢
  generalize Text.trim l = u at h hl htrim
  have hdrop : dropConstraint u ≠ [] := by
    intro hnil
    rw [hnil, ofBareLine_nil] at h
    obtain rfl := Except.ok.inj h
    exact hd
  have hne : u ≠ [] := by
    rintro rfl
    exact hdrop (by decide)
  have htail : Wordless (Text.trimEnd (b' ++ s)) := (hb'.wordless.append hs).trimEnd
  rw [← hl, List.append_assoc, List.append_assoc, Text.trim_append_of_trimmed hb hne htrim,
    dropConstraint_append_wordless htail hdrop]
  exact ofBareLine_append_wordless htail h hd

end

end Declaration
end SqlOutline
