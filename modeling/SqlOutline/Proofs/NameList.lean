import SqlOutline.Proofs.CutAlgebra
import SqlOutline.Proofs.Reading

/-!
Lists of names as the lines of a statement have them.

Each name stands between backticks, and around them there are only separators. Whatever is inside
the names, they read back as they were written (`Lists.names_ofText`), and a keyword that none of
them holds is found behind all of them (`Keyword.findWhole?_behind_names`).
-/

namespace SqlOutline
open Unicode

/-- A name that can be written between backticks on one line. -/
structure IsName (n : Text) : Prop where
  ne_nil : n ≠ []
  backtick_notMem : backtick ∉ n
  newline_notMem : '\n' ∉ n

instance (n : Text) : Decidable (IsName n) :=
  decidable_of_iff (n ≠ [] ∧ backtick ∉ n ∧ '\n' ∉ n)
    ⟨fun ⟨h₁, h₂, h₃⟩ => ⟨h₁, h₂, h₃⟩, fun ⟨h₁, h₂, h₃⟩ => ⟨h₁, h₂, h₃⟩⟩

@[simp] theorem newline_mem_enquote {n : Text} : '\n' ∈ enquote n ↔ '\n' ∈ n := by
  have htick : '\n' ≠ backtick := by decide
  simp [enquote, htick]

/-- The characters that stand around the names of a line. -/
def isSeparator (c : Char) : Bool := [' ', ',', '.', '(', ')'].contains c

theorem not_isWordChar_of_isSeparator {c : Char} (h : isSeparator c = true) :
    isWordChar c = false := by
  have hall : [' ', ',', '.', '(', ')'].all (!isWordChar ·) = true := by decide
  simpa using List.all_eq_true.mp hall c (List.contains_iff_mem.mp h)

/-- A text of separators only. -/
def Separators (t : Text) : Prop := ∀ x ∈ t, isSeparator x = true

instance : DecidablePred Separators := fun t =>
  decidable_of_iff (t.all isSeparator = true) List.all_eq_true

theorem Separators.append {s t : Text} (hs : Separators s) (ht : Separators t) :
    Separators (s ++ t) :=
  List.forall_mem_append.mpr ⟨hs, ht⟩

theorem Separators.notMem {r : Text} (hr : Separators r) {c : Char} (hc : isSeparator c = false) :
    c ∉ r := by
  intro hmem
  rw [hr c hmem] at hc
  exact Bool.false_ne_true hc.symm

/-- `t` is a list of the names: each between backticks, with separators around them. -/
def Lists (names : List Text) (t : Text) : Prop :=
  ∃ c : Cut, c.toText = t ∧ c.names = names ∧ c.AllOutside Separators

theorem Lists.nil {r : Text} (hr : Separators r) : Lists [] r :=
  ⟨.plain r, by simp, rfl, Cut.allOutside_plain.mpr hr⟩

theorem Lists.cons {names : List Text} {r t : Text} (hr : Separators r) (h : Lists names t)
    (n : Text) : Lists (n :: names) (r ++ (enquote n ++ t)) := by
  obtain ⟨c, rfl, rfl, hout⟩ := h
  exact ⟨.literal r n c, by simp, by simp, Cut.allOutside_literal.mpr ⟨hr, hout⟩⟩

/-- Names with `sep` in between, all of them in parentheses. -/
def enlist (sep : Text) (names : List Text) : Text :=
  '(' :: (sep.intercalate (names.map enquote) ++ [')'])

@[simp] theorem getLast?_enlist (sep : Text) (names : List Text) :
    (enlist sep names).getLast? = some ')' := by
  rw [enlist, ← List.cons_append, List.getLast?_concat]

section
variable {sep r e : Text} (hsep : Separators sep) (he : Separators e)
include hsep he

theorem lists_intercalate (names : List Text) (hr : Separators r) :
    Lists names (r ++ (sep.intercalate (names.map enquote) ++ e)) := by
  induction names generalizing r with
  | nil => exact Lists.nil (hr.append he)
  | cons n names ih =>
    cases names with
    | nil => simpa using (Lists.nil he).cons hr n
    | cons m names =>
      have hrest := (ih hsep).cons hr n
      simpa [List.intercalate_cons_cons] using hrest

theorem lists_enlist (names : List Text) (hr : Separators r) :
    Lists names (r ++ (enlist sep names ++ e)) := by
  have hopen : Separators (r ++ ['(']) := hr.append (by decide)
  have hclose : Separators (')' :: e) := Separators.append (s := [')']) (by decide) he
  simpa [enlist] using lists_intercalate hsep hclose names hopen

end

/-- A list of names without line breaks is on one line. -/
theorem Lists.newline_notMem {names : List Text} {t : Text} (h : Lists names t)
    (hnames : ∀ n ∈ names, '\n' ∉ n) : '\n' ∉ t := by
  have hnewline : isSeparator '\n' = false := by decide
  obtain ⟨c, rfl, rfl, hout⟩ := h
  induction c using Cut.induction with
  | plain t => simpa using (Cut.allOutside_plain.mp hout).notMem hnewline
  | literal r l c ih =>
    obtain ⟨hr, hc⟩ := Cut.allOutside_literal.mp hout
    obtain ⟨hl, hrest⟩ : '\n' ∉ l ∧ ∀ n ∈ c.names, '\n' ∉ n := by simpa using hnames
    simp [hr.notMem hnewline, hl, ih hc hrest]

/-- Without backticks in and around the literals all backticks pair up. -/
theorem Cut.paired_of_notMem {c : Cut} (hout : c.AllOutside (backtick ∉ ·))
    (hnames : ∀ n ∈ c.names, backtick ∉ n) : c.Paired := by
  induction c using Cut.induction with
  | plain t =>
    rw [paired_plain, List.count_eq_zero.mpr (allOutside_plain.mp hout)]
    exact Nat.zero_le 1
  | literal r l c ih =>
    obtain ⟨hr, hc⟩ := allOutside_literal.mp hout
    obtain ⟨hl, hrest⟩ : backtick ∉ l ∧ ∀ n ∈ c.names, backtick ∉ n := by simpa using hnames
    exact paired_literal.mpr ⟨hr, hl, ih hc hrest⟩

/-- A name that was written reads back. -/
theorem Lists.names_ofText {names : List Text} {t : Text} (h : Lists names t)
    (hnames : ∀ n ∈ names, backtick ∉ n) : (Cut.ofText t).names = names := by
  obtain ⟨c, rfl, rfl, hout⟩ := h
  have htick : isSeparator backtick = false := by decide
  have hpaired := Cut.paired_of_notMem (hout.imp fun _ hr => hr.notMem htick) hnames
  rw [Cut.ofText_toText hpaired]

/-- A keyword may end in front of a list that has names. -/
theorem Lists.endsWord {names : List Text} {t : Text} (h : Lists names t) (hne : names ≠ [])
    (s : Text) : endsWord (t ++ s) = true := by
  have htick : isWordChar backtick = false := by decide
  obtain ⟨c, rfl, rfl, hout⟩ := h
  cases c using Cut.induction with
  | plain t => exact absurd rfl hne
  | literal r l c =>
    obtain ⟨hr, -⟩ := Cut.allOutside_literal.mp hout
    cases r with
    | nil => simp [SqlOutline.endsWord, enquote, htick]
    | cons x r =>
      have hx := not_isWordChar_of_isSeparator (hr x (by simp))
      simp [SqlOutline.endsWord, hx]

theorem Lists.ne_nil {names : List Text} {t : Text} (h : Lists names t) (hne : names ≠ []) :
    t ≠ [] := by
  obtain ⟨c, rfl, rfl, -⟩ := h
  cases c using Cut.induction with
  | plain t => exact absurd rfl hne
  | literal r l c => simp [enquote]

namespace Occurrence

theorem behind_behind (a b : Text) (o : Occurrence) :
    (o.behind b).behind a = o.behind (a ++ b) := by
  simp [behind]

end Occurrence

namespace Keyword
variable {k : Keyword} (hk : k.Plain)
include hk

/-- No keyword goes over a character that no spelling has. -/
theorem readWhole_append_cons_eq_none {x : Char} (hx : ∀ f, k.Spells f → x ∉ f) {u : Text}
    (hu : k.readWhole u = none) (s : Text) : k.readWhole (u ++ x :: s) = none := by
  rw [Option.eq_none_iff_forall_ne_some] at hu ⊢
  rintro ⟨f, b⟩ hread
  obtain ⟨ht, hf, hb⟩ := (readWhole_eq_some_iff hk).mp hread
  rcases List.append_eq_append_iff.mp ht with ⟨m, rfl, rfl⟩ | ⟨m, rfl, hm⟩
  · refine hu (f, m) ((readWhole_eq_some_iff hk).mpr ⟨rfl, hf, ?_⟩)
    cases m with
    | nil => rfl
    | cons c m => exact hb
  · cases m with
    | nil =>
      rw [List.append_nil] at hf
      exact hu (u, []) ((readWhole_eq_some_iff hk).mpr ⟨by simp, hf, rfl⟩)
    | cons c m =>
      obtain ⟨rfl, -⟩ := List.cons_eq_cons.mp hm
      exact hx _ hf (by simp)

theorem readWhole_nil : k.readWhole [] = none := by
  rw [Option.eq_none_iff_forall_ne_some]
  rintro ⟨f, b⟩ hread
  obtain ⟨ht, hf, -⟩ := (readWhole_eq_some_iff hk).mp hread
  exact hf.ne_nil hk (List.append_eq_nil_iff.mp ht).1

/-- A keyword at the front of a text is found there. -/
theorem findWhole?_of_readWhole {t a b : Text} (h : k.readWhole t = some (a, b)) :
    k.findWhole? false t = some ⟨[], a, b⟩ := by
  cases t with
  | nil =>
    rw [readWhole_nil hk] at h
    cases h
  | cons c t =>
    rw [findWhole?, if_neg Bool.false_ne_true, h]

/-- The search goes on behind a part without the keyword and a character that no spelling has. -/
theorem findWhole?_skip {x : Char} (hx : ∀ f, k.Spells f → x ∉ f) (hword : isWordChar x = false)
    {u : Text} {inWord : Bool} (hu : k.findWhole? inWord u = none) (s : Text) :
    k.findWhole? inWord (u ++ x :: s) = (k.findWhole? false s).map (·.behind (u ++ [x])) := by
  induction u generalizing inWord with
  | nil =>
    have hread : (if inWord then none else k.readWhole (x :: s)) = none := by
      split
      · rfl
      · exact readWhole_append_cons_eq_none hk hx (readWhole_nil hk) s
    rw [List.nil_append, findWhole?, hread, hword]
    rfl
  | cons c u ih =>
    rw [findWhole?] at hu
    split at hu
    · simp at hu
    · rename_i hread
      have hread' : (if inWord then none else k.readWhole (c :: (u ++ x :: s))) = none := by
        split
        · rfl
        · rename_i hin
          rw [if_neg hin] at hread
          exact readWhole_append_cons_eq_none hk hx hread s
      rw [List.cons_append, findWhole?, hread', ih (Option.map_eq_none_iff.mp hu)]
      simp [Function.comp_def, Occurrence.behind_behind]

variable {c : Cut} (hsolid : ∀ f, k.Spells f → ∀ x ∈ f, isWordChar x = true)
include hsolid

theorem findWhole?_behind_separators {r : Text} (hr : Separators r) (s : Text) :
    k.findWhole? false (r ++ s) = (k.findWhole? false s).map (·.behind r) := by
  induction r with
  | nil => simp [Occurrence.behind]
  | cons x r ih =>
    have hword := not_isWordChar_of_isSeparator (hr x (by simp))
    have hx : ∀ f, k.Spells f → x ∉ f := by
      intro f hf hmem
      rw [hsolid f hf x hmem] at hword
      exact Bool.false_ne_true hword.symm
    have hnil : k.findWhole? false [] = none := rfl
    have hskip := findWhole?_skip hk hx hword hnil (r ++ s)
    rw [List.nil_append, List.nil_append] at hskip
    rw [List.cons_append, hskip, ih fun y hy => hr y (by simp [hy])]
    simp only [Option.map_map, Function.comp_def, Occurrence.behind_behind, List.singleton_append]

/-- A whole keyword of one word that no name holds is found behind a list of the names. -/
theorem findWhole?_behind_names (hout : c.AllOutside Separators)
    (hnames : ∀ n ∈ c.names, k.findWhole? false n = none) (s : Text) :
    k.findWhole? false (c.toText ++ s) = (k.findWhole? false s).map (·.behind c.toText) := by
  have htick : isWordChar backtick = false := by decide
  have hx : ∀ f, k.Spells f → backtick ∉ f := fun f hf hmem => by
    rw [hsolid f hf _ hmem] at htick
    exact Bool.false_ne_true htick.symm
  induction c using Cut.induction with
  | plain t =>
    rw [Cut.toText_plain]
    exact findWhole?_behind_separators hk hsolid (Cut.allOutside_plain.mp hout) s
  | literal r l c ih =>
    obtain ⟨hr, hc⟩ := Cut.allOutside_literal.mp hout
    obtain ⟨hl, hrest⟩ : k.findWhole? false l = none ∧
        ∀ n ∈ c.names, k.findWhole? false n = none := by
      simpa using hnames
    have hform : (Cut.literal r l c).toText ++ s =
        r ++ ([] ++ backtick :: (l ++ backtick :: (c.toText ++ s))) := by
      simp [enquote]
    rw [hform, findWhole?_behind_separators hk hsolid hr, findWhole?_skip hk hx htick rfl,
      findWhole?_skip hk hx htick hl, ih hc hrest]
    simp [Function.comp_def, Occurrence.behind_behind, enquote]

end Keyword
end SqlOutline
