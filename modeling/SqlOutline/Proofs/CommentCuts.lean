import SqlOutline.Proofs.CommentedScript

/-!
Where lines are cut at their comments.

A line loses what stands behind its first comment, and what is left has none (`strip_lines`). Quotes
are told line by line. A scan of the whole text, in which quotes reach over line breaks
(`stripAcross`), finds the same comments exactly if no quote carried into a line changes where that
line is cut (`strip_eq_stripAcross_iff`).
-/

namespace SqlOutline

namespace Text

theorem notMem_of_mem_splitOn {x : Char} {t l : Text} (h : l ∈ t.splitOn x) : x ∉ l := by
  induction t generalizing l with
  | nil =>
    obtain rfl : l = [] := by simpa using h
    exact List.not_mem_nil
  | cons c t ih =>
    obtain ⟨m, ms, hsplit⟩ := List.exists_cons_of_ne_nil (List.splitOn_ne_nil x t)
    rw [List.splitOn_cons_eq_if_modifyHead, hsplit] at h
    rw [hsplit] at ih
    split at h
    · rcases List.mem_cons.mp h with rfl | h
      · exact List.not_mem_nil
      · exact ih h
    · rename_i hc
      rcases List.mem_cons.mp h with rfl | h
      · have hm := ih (List.mem_cons_self ..)
        have hx : x ≠ c := fun hx => hc (by simp [hx])
        simp [hm, hx]
      · exact ih (List.mem_cons_of_mem m h)

/-- Every separator starts one more part. -/
theorem length_splitOn (x : Char) (t : Text) : (t.splitOn x).length = t.count x + 1 := by
  induction t with
  | nil => rfl
  | cons c t ih =>
    obtain ⟨m, ms, hsplit⟩ := List.exists_cons_of_ne_nil (List.splitOn_ne_nil x t)
    rw [List.splitOn_cons_eq_if_modifyHead, hsplit]
    rw [hsplit] at ih
    split
    · rename_i hc
      obtain rfl : c = x := by simpa using hc
      rw [List.count_cons_self, ← ih]
      rfl
    · rename_i hc
      have hx : c ≠ x := fun hx => hc (by simp [hx])
      rw [List.count_cons_of_ne hx, ← ih]
      rfl

end Text

namespace Comment

/-! The cut of one line. -/

/-- Whether a comment of the line `l` starts behind `u`: two hyphens with no quote open in front of
them; `quote` is the quote open in front of the line. -/
def StartsBehind (quote : Option Char) (u l : Text) : Prop :=
  openQuote quote u = none ∧ u ++ ['-', '-'] <+: l

instance (quote : Option Char) (u l : Text) : Decidable (StartsBehind quote u l) :=
  inferInstanceAs (Decidable (_ ∧ _))

theorem openQuote_cons (quote : Option Char) (c : Char) (t : Text) :
    openQuote quote (c :: t) = openQuote (openQuote quote [c]) t := by
  cases quote <;> rfl

theorem startsBehind_nil_iff {quote : Option Char} {c : Char} {t : Text} :
    StartsBehind quote [] (c :: t) ↔ quote = none ∧ c = '-' ∧ t.head? = some '-' := by
  rw [StartsBehind, openQuote, List.nil_append, List.cons_prefix_cons]
  cases t with
  | nil => simp
  | cons d t => simp [List.cons_prefix_cons, eq_comm]

/-- One step of the scan. -/
theorem live_cons (quote : Option Char) (c : Char) (t : Text) :
    live quote (c :: t) =
      if StartsBehind quote [] (c :: t) then [] else c :: live (openQuote quote [c]) t := by
  simp only [startsBehind_nil_iff]
  cases quote with
  | some q => simp [live, openQuote]
  | none => simp [live, openQuote]

theorem startsBehind_cons_iff {quote : Option Char} {c d : Char} {u l : Text} :
    StartsBehind quote (c :: u) (d :: l) ↔
      c = d ∧ StartsBehind (openQuote quote [c]) u l := by
  rw [StartsBehind, StartsBehind, openQuote_cons, List.cons_append, List.cons_prefix_cons]
  exact and_left_comm

theorem StartsBehind.of_isPrefix {quote : Option Char} {u l l' : Text}
    (h : StartsBehind quote u l) (hl : l <+: l') : StartsBehind quote u l' :=
  ⟨h.1, h.2.trans hl⟩

/-- Nothing is left of the first comment of a line. -/
theorem StartsBehind.live_isPrefix {quote : Option Char} {u l : Text}
    (h : StartsBehind quote u l) : live quote l <+: u := by
  induction u generalizing quote l with
  | nil =>
    cases l with
    | nil => exact List.nil_prefix
    | cons d l =>
      rw [live_cons, if_pos h]
  | cons c u ih =>
    cases l with
    | nil => exact List.nil_prefix
    | cons d l =>
      obtain ⟨rfl, hrest⟩ := startsBehind_cons_iff.mp h
      rw [live_cons]
      split
      · exact List.nil_prefix
      · exact List.cons_prefix_cons.mpr ⟨rfl, ih hrest⟩

/-- A line is cut only where a comment starts. -/
theorem startsBehind_live {quote : Option Char} {l : Text} (h : live quote l ≠ l) :
    StartsBehind quote (live quote l) l := by
  induction l generalizing quote with
  | nil => exact absurd rfl h
  | cons c l ih =>
    rw [live_cons] at h ⊢
    split at h
    · rename_i hstart
      rwa [if_pos hstart]
    · rename_i hstart
      rw [if_neg hstart]
      exact startsBehind_cons_iff.mpr ⟨rfl, ih fun hl => h (congrArg _ hl)⟩

/-- What is left of a line has no comment. -/
theorem not_startsBehind_live (quote : Option Char) (u l : Text) :
    ¬ StartsBehind quote u (live quote l) := by
  intro h
  -- Nothing is left of its hyphens, but it is read off what is left.
  have hleft := (h.of_isPrefix (Comment.live_isPrefix quote l)).live_isPrefix
  have hlen := (h.2.trans hleft).length_le
  rw [List.length_append, List.length_cons] at hlen
  omega

theorem live_live (quote : Option Char) (l : Text) :
    live quote (live quote l) = live quote l := by
  by_contra h
  exact not_startsBehind_live quote _ l (startsBehind_live h)

/-! The lines of a text. -/

theorem newline_notMem_live {l : Text} (hl : '\n' ∉ l) (quote : Option Char) :
    '\n' ∉ live quote l :=
  fun h => hl ((Comment.live_isPrefix quote l).subset h)

/-- The lines are cut one by one. -/
theorem splitOn_strip (sql : Text) :
    (strip sql).splitOn '\n' = (sql.splitOn '\n').map (live none) := by
  apply List.splitOn_intercalate
  · rw [List.forall_mem_map]
    exact fun l hl => newline_notMem_live (Text.notMem_of_mem_splitOn hl) none
  · rw [ne_eq, List.map_eq_nil_iff]
    exact List.splitOn_ne_nil '\n' sql

/-- `l'` is the line `l` up to its first comment. -/
structure IsCut (l l' : Text) : Prop where
  front : l' <+: l
  comment : l' ≠ l → StartsBehind none l' l
  first : ∀ u, StartsBehind none u l → l' <+: u
  clear : ∀ u, ¬ StartsBehind none u l'

theorem isCut_live (l : Text) : IsCut l (live none l) where
  front := Comment.live_isPrefix none l
  comment := startsBehind_live
  first _ h := h.live_isPrefix
  clear u := not_startsBehind_live none u l

/-- Every line is cut at its first comment and nowhere else. No line gets lost, and what is left has
no comments to strip. -/
theorem strip_lines (sql : Text) :
    List.Forall₂ IsCut (sql.splitOn '\n') ((strip sql).splitOn '\n') ∧
      (strip sql).count '\n' = sql.count '\n' ∧ strip (strip sql) = strip sql := by
  refine ⟨?_, ?_, ?_⟩
  · rw [splitOn_strip, List.forall₂_map_right_iff, List.forall₂_same]
    exact fun l _ => isCut_live l
  · have hlen := congrArg List.length (splitOn_strip sql)
    rw [List.length_map, Text.length_splitOn, Text.length_splitOn] at hlen
    exact Nat.succ_injective hlen
  · have hlive : live none ∘ live none = live none := funext (live_live none)
    rw [strip, splitOn_strip, List.map_map, hlive]
    rfl

/-! Quotes that reach over line breaks. -/

/-- Where a scan of a whole text is: in a comment, or in front of more text with a quote open or
none. -/
inductive Region where
  | text (quote : Option Char)
  | comment
  deriving DecidableEq, Repr

/-- What a scan leaves of a text. Quotes reach over line breaks, and comments end in front of
them. -/
def keep : Region → Text → Text
  | _, [] => []
  | .text (some q), c :: t => c :: keep (.text (if c = q then none else some q)) t
  | .text none, c :: t =>
    if c = '-' ∧ t.head? = some '-' then keep .comment t
    else c :: keep (.text (if isQuote c then some c else none)) t
  | .comment, c :: t => if c = '\n' then c :: keep (.text none) t else keep .comment t

/-- `sql` without its line comments, where quotes reach over line breaks. -/
def stripAcross (sql : Text) : Text := keep (.text none) sql

/-- What is left of the lines when quotes reach on into the next line. -/
def cuts (quote : Option Char) : List Text → List Text
  | [] => []
  | l :: ls => live quote l :: cuts (openQuote quote (live quote l)) ls

/-- Whether all lines are cut in the same place with the quote carried over from the lines in front
of them as without it. -/
def CutAlike (quote : Option Char) : List Text → Prop
  | [] => True
  | l :: ls => live quote l = live none l ∧ CutAlike (openQuote quote (live quote l)) ls

instance decidableCutAlike :
    (quote : Option Char) → (ls : List Text) → Decidable (CutAlike quote ls)
  | _, [] => .isTrue trivial
  | quote, l :: ls =>
    have := decidableCutAlike (openQuote quote (live quote l)) ls
    inferInstanceAs (Decidable (_ ∧ _))

theorem map_live_eq_cuts_iff {quote : Option Char} {ls : List Text} :
    ls.map (live none) = cuts quote ls ↔ CutAlike quote ls := by
  induction ls generalizing quote with
  | nil => exact iff_of_true rfl trivial
  | cons l ls ih =>
    rw [List.map_cons, cuts, CutAlike, List.cons.injEq, ih, eq_comm]

/-- Where all quotes close on their lines, nothing is carried over. -/
theorem cutAlike_of_closed {ls : List Text} (h : ∀ l ∈ ls, openQuote none (live none l) = none) :
    CutAlike none ls := by
  induction ls with
  | nil => trivial
  | cons l ls ih =>
    obtain ⟨hl, hrest⟩ := List.forall_mem_cons.mp h
    refine ⟨rfl, ?_⟩
    rw [hl]
    exact ih hrest

/-- One step of the scan. -/
theorem keep_cons (quote : Option Char) (c : Char) (t : Text) :
    keep (.text quote) (c :: t) =
      if StartsBehind quote [] (c :: t) then keep .comment t
      else c :: keep (.text (openQuote quote [c])) t := by
  simp only [startsBehind_nil_iff]
  cases quote with
  | some q => simp [keep, openQuote]
  | none => simp [keep, openQuote]

theorem newline_ne_openQuote {quote : Option Char} (h : quote ≠ some '\n') (t : Text) :
    openQuote quote t ≠ some '\n' := by
  induction t generalizing quote with
  | nil => exact h
  | cons c t ih =>
    rw [openQuote_cons]
    apply ih
    cases quote with
    | some q =>
      rw [openQuote, openQuote]
      split
      · exact (Option.some_ne_none '\n').symm
      · exact h
    | none =>
      rw [openQuote, openQuote]
      split
      · rename_i hc
        intro heq
        obtain rfl := Option.some.inj heq
        exact absurd hc (by decide)
      · exact h

theorem keep_newline {quote : Option Char} (h : quote ≠ some '\n') (t : Text) :
    keep (.text quote) ('\n' :: t) = '\n' :: keep (.text quote) t := by
  have hstart : ¬ StartsBehind quote [] ('\n' :: t) := by
    rw [startsBehind_nil_iff]
    exact fun hstart => absurd hstart.2.1 (by decide)
  have hopen : openQuote quote ['\n'] = quote := by
    cases quote with
    | none => rfl
    | some q =>
      have hq : '\n' ≠ q := fun hq => h (congrArg some hq.symm)
      rw [openQuote, openQuote, if_neg hq]
  rw [keep_cons, if_neg hstart, hopen]

section
variable {l z : Text} (hl : '\n' ∉ l) (hz : Block.atLineEnd z = true)
include hl hz

/-- A comment ends with its line. -/
theorem keep_comment : keep .comment (l ++ z) = keep (.text none) z := by
  induction l with
  | nil =>
    rcases Block.atLineEnd_cases hz with rfl | ⟨t, rfl⟩
    · rfl
    · have hnone : (none : Option Char) ≠ some '\n' := nofun
      rw [keep_newline hnone]
      rfl
  | cons c l ih =>
    rw [List.mem_cons, not_or] at hl
    rw [List.cons_append, keep, if_neg (Ne.symm hl.1), ih hl.2]

/-- A scan that comes to a line leaves of it what the cut of the line leaves, and goes on with the
quote that is open there. -/
theorem keep_line (quote : Option Char) :
    keep (.text quote) (l ++ z) =
      live quote l ++ keep (.text (openQuote quote (live quote l))) z := by
  induction l generalizing quote with
  | nil => rfl
  | cons c l ih =>
    -- No comment starts with the last hyphen of the line: a line break or nothing is behind it.
    have hstart : StartsBehind quote [] (c :: (l ++ z)) ↔ StartsBehind quote [] (c :: l) := by
      rw [startsBehind_nil_iff, startsBehind_nil_iff]
      cases l with
      | cons d l => rfl
      | nil =>
        rcases Block.atLineEnd_cases hz with rfl | ⟨t, rfl⟩
        · rfl
        · simp
    have hrest : '\n' ∉ l := fun h => hl (List.mem_cons_of_mem c h)
    rw [List.cons_append, keep_cons, live_cons]
    by_cases h : StartsBehind quote [] (c :: l)
    · rw [if_pos h, if_pos (hstart.mpr h), keep_comment hrest hz, h.1]
      rfl
    · rw [if_neg h, if_neg (mt hstart.mp h), ih hrest,
        openQuote_cons quote c (live (openQuote quote [c]) l), List.cons_append]

end

theorem keep_lines {quote : Option Char} (h : quote ≠ some '\n') {ls : List Text}
    (hls : ∀ l ∈ ls, '\n' ∉ l) :
    keep (.text quote) (['\n'].intercalate ls) = ['\n'].intercalate (cuts quote ls) := by
  induction ls generalizing quote with
  | nil => rfl
  | cons l ls ih =>
    obtain ⟨hl, hrest⟩ := List.forall_mem_cons.mp hls
    cases ls with
    | nil =>
      have hlast := keep_line hl (z := []) rfl quote
      simpa [cuts, keep] using hlast
    | cons m ms =>
      have hopen := newline_ne_openQuote h (live quote l)
      have hnext := ih hopen hrest
      rw [cuts] at hnext ⊢
      rw [cuts, List.intercalate_cons_cons, List.intercalate_cons_cons, ← hnext, List.append_assoc,
        keep_line hl rfl, List.singleton_append, keep_newline hopen, List.append_assoc,
        List.singleton_append]

theorem newline_notMem_cuts {quote : Option Char} {ls : List Text} (hls : ∀ l ∈ ls, '\n' ∉ l) :
    ∀ l ∈ cuts quote ls, '\n' ∉ l := by
  induction ls generalizing quote with
  | nil => exact List.forall_mem_nil _
  | cons l ls ih =>
    obtain ⟨hl, hrest⟩ := List.forall_mem_cons.mp hls
    exact List.forall_mem_cons.mpr ⟨newline_notMem_live hl quote, ih hrest⟩

/-- Cutting line by line finds the comments of a scan in which quotes reach over line breaks exactly
if no quote carried into a line changes where it is cut. So it does where all quotes close on their
lines. -/
theorem strip_eq_stripAcross_iff (sql : Text) :
    (strip sql = stripAcross sql ↔ CutAlike none (sql.splitOn '\n')) ∧
      ((∀ l ∈ sql.splitOn '\n', openQuote none (live none l) = none) →
        strip sql = stripAcross sql) := by
  have hlines : ∀ l ∈ sql.splitOn '\n', '\n' ∉ l := fun _ => Text.notMem_of_mem_splitOn
  have hacross : stripAcross sql = ['\n'].intercalate (cuts none (sql.splitOn '\n')) := by
    have hnone : (none : Option Char) ≠ some '\n' := nofun
    rw [stripAcross, ← keep_lines hnone hlines, List.intercalate_splitOn]
  have hne : cuts none (sql.splitOn '\n') ≠ [] := by
    obtain ⟨l, ls, hsplit⟩ := List.exists_cons_of_ne_nil (List.splitOn_ne_nil '\n' sql)
    rw [hsplit]
    exact List.cons_ne_nil _ _
  have hiff : strip sql = stripAcross sql ↔ CutAlike none (sql.splitOn '\n') := by
    rw [← map_live_eq_cuts_iff]
    constructor
    · intro h
      rw [← splitOn_strip, h, hacross]
      exact List.splitOn_intercalate '\n' (newline_notMem_cuts hlines) hne
    · intro h
      rw [hacross, ← h]
      rfl
  exact ⟨hiff, fun h => hiff.mpr (cutAlike_of_closed h)⟩

/-- A quote that reaches over a line break does no harm to lines without hyphens outside of it, and
quotes in comments do none. -/
theorem strip_eq_stripAcross_over_break :
    CutAlike none ("'a--\nb' int\n-- it's\n`c--d`".toList.splitOn '\n') ∧
      strip "'a--\nb' int\n-- it's\n`c--d`".toList =
        stripAcross "'a--\nb' int\n-- it's\n`c--d`".toList ∧
      (∀ l ∈ "`c--d` -- it's\ne".toList.splitOn '\n', openQuote none (live none l) = none) ∧
      strip "`c--d` -- it's\ne".toList = stripAcross "`c--d` -- it's\ne".toList := by
  have halike : CutAlike none ("'a--\nb' int\n-- it's\n`c--d`".toList.splitOn '\n') := by decide
  have hclosed : ∀ l ∈ "`c--d` -- it's\ne".toList.splitOn '\n',
      openQuote none (live none l) = none := by
    have hlines : "`c--d` -- it's\ne".toList.splitOn '\n' =
        ["`c--d` -- it's".toList, ['e']] := by decide
    rw [hlines, List.forall_mem_cons, List.forall_mem_singleton]
    decide
  exact ⟨halike, (strip_eq_stripAcross_iff _).1.mpr halike, hclosed,
    (strip_eq_stripAcross_iff _).2 hclosed⟩

/-- Hyphens in a quote that was opened on the line before are taken for a comment. -/
theorem strip_quote_over_break :
    stripAcross "`a` text COMMENT 'b\n-- c',".toList = "`a` text COMMENT 'b\n-- c',".toList ∧
      strip "`a` text COMMENT 'b\n-- c',".toList = "`a` text COMMENT 'b\n".toList := by
  decide

end Comment
end SqlOutline
