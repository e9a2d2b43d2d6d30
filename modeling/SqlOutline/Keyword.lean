import SqlOutline.Text.Reader
import SqlOutline.Unicode.CaseFold
import SqlOutline.Unicode.Word

/-!
Keywords of one or more words, found in a text without regard to case.

Between two words of a keyword stands any white space. A keyword is whole when no word character
touches it.
-/

namespace SqlOutline
open Unicode

/-- The words of a keyword in their order. -/
abbrev Phrase := List Text

/-- Reads the words of a phrase, with white space between them. -/
def Phrase.read : Phrase → Reader
  | [] => Reader.letters sameLetter []
  | [w] => Reader.letters sameLetter w
  | w :: v :: ws =>
    (Reader.letters sameLetter w).andThen ((Reader.run isWhiteSpace).andThen (Phrase.read (v :: ws)))

theorem Phrase.read_faithful (p : Phrase) : p.read.Faithful := by
  fun_induction Phrase.read p with
  | case1 => exact Reader.letters_faithful sameLetter []
  | case2 w => exact Reader.letters_faithful sameLetter w
  | case3 w v ws ih =>
    exact Reader.andThen_faithful (Reader.letters_faithful sameLetter w)
      (Reader.andThen_faithful (Reader.run_faithful isWhiteSpace) ih)

/-- A keyword with the phrases that spell it; an earlier spelling wins over a later one. -/
structure Keyword where
  spellings : List Phrase
  deriving DecidableEq, Repr

/-- Where a keyword was found: the text before it, its spelling there, and the text after it. -/
structure Occurrence where
  before : Text
  found : Text
  after : Text
  deriving DecidableEq, Repr

namespace Occurrence

/-- The text in which the keyword was found. -/
def text (o : Occurrence) : Text := o.before ++ o.found ++ o.after

/-- The offset of the keyword in UTF-8. -/
def start (o : Occurrence) : Nat := o.before.byteSize

/-- The offset of the end of the keyword in UTF-8. -/
def stop (o : Occurrence) : Nat := o.start + o.found.byteSize

/-- The same occurrence with `a` in front of its text. -/
def behind (a : Text) (o : Occurrence) : Occurrence := { o with before := a ++ o.before }

@[simp] theorem text_behind (a : Text) (o : Occurrence) : (o.behind a).text = a ++ o.text := by
  simp [behind, text]

end Occurrence

/-- Whether a word may end in front of `t`. -/
def endsWord (t : Text) : Bool := !t.head?.any isWordChar

namespace Keyword

/-- The keyword spelled by the given phrases, their words parted by single spaces. -/
def ofPhrases (ps : List String) : Keyword := ⟨ps.map fun p => p.toList.splitOn ' '⟩

/-- The keyword of the single word `w`. -/
def ofWord (w : Text) : Keyword := ⟨[[w]]⟩

/-- Reads the keyword, whatever comes after it. -/
def read (k : Keyword) : Reader := Reader.firstOf (k.spellings.map Phrase.read)

/-- Reads the keyword where its last word ends. -/
def readWhole (k : Keyword) : Reader := k.read.upTo endsWord

theorem read_faithful (k : Keyword) : k.read.Faithful := by
  refine Reader.firstOf_faithful fun r hr => ?_
  obtain ⟨p, -, rfl⟩ := List.mem_map.mp hr
  exact p.read_faithful

theorem readWhole_faithful (k : Keyword) : k.readWhole.Faithful :=
  Reader.upTo_faithful k.read_faithful endsWord

/-- The first whole occurrence of the keyword in `t`; `inWord` tells whether a word character stands
right before `t`. -/
def findWhole? (k : Keyword) (inWord : Bool) : Text → Option Occurrence
  | [] => none
  | c :: t =>
    match if inWord then none else k.readWhole (c :: t) with
    | some (found, after) => some ⟨[], found, after⟩
    | none => (k.findWhole? (isWordChar c) t).map (·.behind [c])

theorem text_of_findWhole? {k : Keyword} {inWord : Bool} {t : Text} {o : Occurrence}
    (h : k.findWhole? inWord t = some o) : o.text = t := by
  induction t generalizing inWord o with
  | nil => simp [findWhole?] at h
  | cons c t ih =>
    rw [findWhole?] at h
    split at h
    · rename_i found after hr
      obtain rfl : (⟨[], found, after⟩ : Occurrence) = o := by simpa using h
      cases inWord with
      | true => simp at hr
      | false => exact k.readWhole_faithful (by simpa using hr)
    · obtain ⟨o', ho, rfl⟩ := Option.map_eq_some_iff.mp h
      simp [ih ho]

end Keyword
end SqlOutline
