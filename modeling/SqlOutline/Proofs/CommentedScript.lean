import SqlOutline.Proofs.BlankAtLineEnd
import SqlOutline.Proofs.ErrorFlow

/-!
Scripts with comments behind their lines.

A comment leaves the blanks in front of it, and no reader sees these at the end of a line. So
whatever a comment says, the script declares the same tables or fails in the same way
(`comments_unobserved`), as long as no quote is left open on a line.
-/

namespace SqlOutline
open Unicode

namespace Comment

/-- The quote that is open behind a line; `quote` is the one open in front of it. -/
def openQuote (quote : Option Char) : Text → Option Char
  | [] => quote
  | c :: t =>
    match quote with
    | some q => openQuote (if c = q then none else some q) t
    | none => openQuote (if isQuote c then some c else none) t

/-- A line without comment, behind which no quote is open. -/
def Clean (l : Text) : Prop := live none l = l ∧ openQuote none l = none

instance (l : Text) : Decidable (Clean l) := inferInstanceAs (Decidable (_ ∧ _))

/-- What may be added to a line: nothing, or a space, other blanks and a comment. -/
inductive Remark : Text → Prop
  | none : Remark []
  | comment {g : Text} (hg : Block.IsIndent g) (t : Text) : Remark (' ' :: (g ++ '-' :: '-' :: t))

/-- The second script has the lines of the first one, which are clean, with remarks behind them. -/
def Commented (script commented : Text) : Prop :=
  List.Forall₂ (fun l l' => Clean l ∧ ∃ r, Remark r ∧ l ++ r = l')
    (script.splitOn '\n') (commented.splitOn '\n')

theorem remark_iff {r : Text} :
    Remark r ↔ r = [] ∨
      (r.head? = some ' ' ∧ (r.tail.dropWhile Block.isIndent).take 2 = ['-', '-']) := by
  constructor
  · intro h
    cases h with
    | none => exact .inl rfl
    | @comment g hg t =>
      have hdash : ('-' :: '-' :: t).dropWhile Block.isIndent = '-' :: '-' :: t := rfl
      right
      rw [List.head?_cons, List.tail_cons, List.dropWhile_append_of_pos hg, hdash]
      exact ⟨rfl, rfl⟩
  · rintro (rfl | ⟨hhead, hdash⟩)
    · exact .none
    · obtain ⟨t, rfl⟩ := List.head?_eq_some_iff.mp hhead
      have hrest := List.take_append_drop 2 (t.dropWhile Block.isIndent)
      rw [List.tail_cons] at hdash
      rw [hdash] at hrest
      rw [← List.takeWhile_append_dropWhile (p := Block.isIndent) (l := t), ← hrest]
      exact .comment (fun _ hc => List.mem_takeWhile_imp hc) _

instance : DecidablePred Remark := fun _ => decidable_of_iff _ remark_iff.symm

instance (l l' : Text) : Decidable (∃ r, Remark r ∧ l ++ r = l') :=
  decidable_of_iff (Remark (l'.drop l.length) ∧ l ++ l'.drop l.length = l')
    ⟨fun h => ⟨_, h⟩, by rintro ⟨r, hr, rfl⟩; simpa using hr⟩

instance (script commented : Text) : Decidable (Commented script commented) :=
  inferInstanceAs (Decidable (List.Forall₂ _ _ _))

/-- What stands behind a line without comment is scanned with the quote that is open there. -/
theorem live_append {quote : Option Char} {l r : Text} (hl : live quote l = l)
    (hr : r.head? ≠ some '-') : live quote (l ++ r) = l ++ live (openQuote quote l) r := by
  induction l generalizing quote with
  | nil => rfl
  | cons c l ih =>
    cases quote with
    | some q =>
      have htail := (List.cons_eq_cons.mp hl).2
      rw [List.cons_append, live, openQuote]
      simp only [ih htail, List.cons_append]
    | none =>
      rw [live] at hl
      have hopen : ¬ (c = '-' ∧ l.head? = some '-') := by
        intro h
        rw [if_pos h] at hl
        cases hl
      have hopen' : ¬ (c = '-' ∧ (l ++ r).head? = some '-') := by
        cases l with
        | nil => exact fun h => hr h.2
        | cons d l => exact hopen
      rw [if_neg hopen] at hl
      have htail := (List.cons_eq_cons.mp hl).2
      rw [List.cons_append, live, openQuote]
      simp only [if_neg hopen', ih htail, List.cons_append]

theorem live_comment {g : Text} (hg : Block.IsIndent g) (t : Text) :
    live none (g ++ '-' :: '-' :: t) = g := by
  induction g with
  | nil => rw [List.nil_append, live, if_pos ⟨rfl, rfl⟩]
  | cons c g ih =>
    have hdash : c ≠ '-' := by
      rintro rfl
      exact hg.notMem (by decide) (List.mem_cons_self ..)
    have hquote : isQuote c = false := by
      have hc : c = ' ' ∨ c = '\t' := by
        simpa [Block.isIndent] using hg c (List.mem_cons_self ..)
      rcases hc with rfl | rfl <;> decide
    rw [List.cons_append, live]
    simp only [hdash, false_and, if_false, hquote, Bool.false_eq_true,
      ih fun d hd => hg d (List.mem_cons_of_mem c hd)]

/-- Of a line with a remark the line and blanks are left. -/
theorem Clean.live_append_remark {l r : Text} (hl : Clean l) (hr : Remark r) :
    ∃ g, Block.IsIndent g ∧ live none (l ++ r) = l ++ g := by
  obtain ⟨hlive, hopen⟩ := hl
  cases hr with
  | none => exact ⟨[], .nil, by rw [List.append_nil, hlive]⟩
  | @comment g hg t =>
    have hspace : Block.IsIndent (' ' :: g) := List.forall_mem_cons.mpr ⟨by decide, hg⟩
    refine ⟨' ' :: g, hspace, ?_⟩
    rw [live_append hlive (by simp), hopen, ← List.cons_append, live_comment hspace]

end Comment

/-- Blanks behind the lines of a script are not seen. -/
theorem Script.tables_blank_behind_lines {ls ls' : List Text}
    (h : List.Forall₂ (fun l l' => ∃ g, Block.IsIndent g ∧ l' = l ++ g) ls ls') {x : Text}
    (hreturn : '\r' ∉ x ++ ['\n'].intercalate ls) :
    tables (x ++ ['\n'].intercalate ls') = tables (x ++ ['\n'].intercalate ls) := by
  induction h generalizing x with
  | nil => rfl
  | @cons l l' ls ls' hl hrest ih =>
    obtain ⟨g, hg, rfl⟩ := hl
    cases hrest with
    | nil =>
      have hfront : '\r' ∉ x ++ l := by simpa using hreturn
      have hblank := tables_blank_at_lineEnd hg hfront (y := []) rfl
      simpa using hblank
    | @cons m m' ms ms' hm hms =>
      rw [List.intercalate_cons_cons] at hreturn
      simp only [List.mem_append, not_or] at hreturn
      obtain ⟨hx, ⟨hl, hbreak⟩, hrest⟩ := hreturn
      have hfront : '\r' ∉ x ++ l := by simp [hx, hl]
      have hnext : '\r' ∉ (x ++ (l ++ (g ++ ['\n']))) ++ ['\n'].intercalate (m :: ms) := by
        simp only [List.mem_append, not_or]
        exact ⟨⟨hx, hl, hg.notMem (by decide), hbreak⟩, hrest⟩
      have hblank := tables_blank_at_lineEnd hg hfront
        (y := '\n' :: ['\n'].intercalate (m :: ms)) rfl
      have htail := ih hnext
      rw [List.intercalate_cons_cons, List.intercalate_cons_cons]
      simp only [List.append_assoc, List.singleton_append] at htail hblank ⊢
      rw [htail, hblank]

/-- A script with comments behind its lines declares the tables of the script without them, or fails
with the same error. The comments may hold whatever they like. -/
theorem comments_unobserved {script commented : Text} (hreturn : '\r' ∉ script)
    (h : Comment.Commented script commented) :
    Script.commentedTables commented = Script.tables script := by
  have hlines : List.Forall₂ (fun l l' => ∃ g, Block.IsIndent g ∧ l' = l ++ g)
      (script.splitOn '\n') ((commented.splitOn '\n').map (Comment.live none)) := by
    rw [List.forall₂_map_right_iff]
    refine List.Forall₂.imp ?_ h
    rintro l _ ⟨hl, r, hr, rfl⟩
    exact hl.live_append_remark hr
  have htables := Script.tables_blank_behind_lines hlines (x := [])
  rw [List.nil_append, List.nil_append, List.intercalate_splitOn] at htables
  exact htables hreturn

/-- The comments look like quotes, ends of statements and keys. A faulty script stays as faulty, and
one that reads has the same table. -/
theorem comments_unobserved_lookalikes :
    (∃ script commented : Text,
      script = "CREATE TABLE `t` (\n`a` int,\nPRIMARY KEY ()\n);".toList ∧
      commented =
        "CREATE TABLE `t` ( -- it's `;\n`a` int, \t--);\nPRIMARY KEY () -- KEY `a`\n);".toList ∧
      '\r' ∉ script ∧ Comment.Commented script commented ∧
      Script.commentedTables commented = .error (.noLiteral "()".toList)) ∧
    ∃ script commented : Text,
      script = "CREATE TABLE `t` (\n`a` int,\nPRIMARY KEY (`a`)\n);".toList ∧
      commented =
        "CREATE TABLE `t` ( -- it's `;\n`a` int, \t--);\nPRIMARY KEY (`a`) -- , `b`\n);".toList ∧
      '\r' ∉ script ∧ Comment.Commented script commented ∧
      ∃ t, Script.commentedTables commented = .ok [t] ∧ t.primaryKey = [['a']] ∧
        t.columnOrder = [['a']] := by
  constructor
  · have hcommented : Comment.Commented
        "CREATE TABLE `t` (\n`a` int,\nPRIMARY KEY ()\n);".toList
        "CREATE TABLE `t` ( -- it's `;\n`a` int, \t--);\nPRIMARY KEY () -- KEY `a`\n);".toList := by
      decide +kernel
    have htables : Script.tables "CREATE TABLE `t` (\n`a` int,\nPRIMARY KEY ()\n);".toList =
        .error (.noLiteral "()".toList) := by
      decide +kernel
    exact ⟨_, _, rfl, rfl, by decide, hcommented,
      (comments_unobserved (by decide) hcommented).trans htables⟩
  · have hcommented : Comment.Commented
        "CREATE TABLE `t` (\n`a` int,\nPRIMARY KEY (`a`)\n);".toList
        "CREATE TABLE `t` ( -- it's `;\n`a` int, \t--);\nPRIMARY KEY (`a`) -- , `b`\n);".toList := by
      decide +kernel
    have htables : (Script.tables
        "CREATE TABLE `t` (\n`a` int,\nPRIMARY KEY (`a`)\n);".toList).map
          (·.map fun t => (t.primaryKey, t.columnOrder)) = .ok [([['a']], [['a']])] := by
      decide +kernel
    obtain ⟨t, ht, hread⟩ := exists_singleton_of_map_ok htables
    obtain ⟨hkey, hcolumns⟩ := Prod.mk.inj hread
    exact ⟨_, _, rfl, rfl, by decide, hcommented, t,
      (comments_unobserved (by decide) hcommented).trans ht, hkey, hcolumns⟩

end SqlOutline
