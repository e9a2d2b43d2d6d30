import SqlOutline.Unicode.WhiteSpace

/-!
Texts as lists of characters, and the ways in which they are trimmed and cut.
-/

namespace SqlOutline

/-- A text, character by character. -/
abbrev Text := List Char

/-- The quote that SQL puts around names. -/
def backtick : Char := '\x60'

namespace Text
open Unicode

/-- `t` without the white space at its front. -/
def trimStart (t : Text) : Text := t.dropWhile isWhiteSpace

/-- `t` without the white space at its end. -/
def trimEnd (t : Text) : Text := (t.reverse.dropWhile isWhiteSpace).reverse

/-- `t` without the white space at its two ends. -/
def trim (t : Text) : Text := trimEnd (trimStart t)

/-- The parts of `t` before and after its first character that satisfies `p`. -/
def cutAt? (p : Char → Bool) : Text → Option (Text × Text)
  | [] => none
  | c :: t => if p c then some ([], t) else (cutAt? p t).map fun (a, b) => (c :: a, b)

theorem cutAt?_eq_some {p : Char → Bool} {t a b : Text} (h : cutAt? p t = some (a, b)) :
    (∀ c ∈ a, p c = false) ∧ ∃ c, p c = true ∧ t = a ++ c :: b := by
  induction t generalizing a with
  | nil => simp [cutAt?] at h
  | cons c t ih =>
    rw [cutAt?] at h
    split at h
    · obtain ⟨rfl, rfl⟩ : [] = a ∧ t = b := by simpa using h
      exact ⟨by simp, c, by assumption, rfl⟩
    · obtain ⟨⟨a', b'⟩, ht, he⟩ := Option.map_eq_some_iff.mp h
      obtain ⟨rfl, rfl⟩ : c :: a' = a ∧ b' = b := by simpa using he
      obtain ⟨hp, d, hd, rfl⟩ := ih ht
      refine ⟨?_, d, hd, rfl⟩
      intro x hx
      rcases List.mem_cons.mp hx with rfl | hx
      · simpa using (by assumption : ¬p x = true)
      · exact hp x hx

theorem cutAt?_eq_none {p : Char → Bool} {t : Text} :
    cutAt? p t = none ↔ ∀ c ∈ t, p c = false := by
  induction t with
  | nil => simp [cutAt?]
  | cons c t ih => by_cases hc : p c <;> simp [cutAt?, hc, ih]

/-- A text is cut where the first character of a kind is known to stand. -/
theorem cutAt?_append_cons {p : Char → Bool} {a b : Text} {x : Char} (ha : ∀ c ∈ a, p c = false)
    (hx : p x = true) : cutAt? p (a ++ x :: b) = some (a, b) := by
  induction a with
  | nil => simp [cutAt?, hx]
  | cons c a ih =>
    have hc : p c = false := ha c (by simp)
    simp [cutAt?, hc, ih fun d hd => ha d (by simp [hd])]

/-- A qualified name in two: the qualifier before the first dot, if there is a dot, and the name. -/
def splitQualifier (t : Text) : Option Text × Text :=
  match cutAt? (· == '.') t with
  | some (qualifier, name) => (some qualifier, name)
  | none => (none, t)

/-- The longest runs of `t` without white space, from left to right. -/
def words (t : Text) : List Text := (t.splitOnP isWhiteSpace).filter (!·.isEmpty)

/-- Whether `part` stands anywhere in a text. -/
def hasPart (part : Text) : Text → Bool
  | [] => part.isEmpty
  | c :: t => part.isPrefixOf (c :: t) || hasPart part t

theorem hasPart_iff {part t : Text} : hasPart part t = true ↔ part <:+: t := by
  induction t with
  | nil => simp [hasPart]
  | cons c t ih => simp [hasPart, ih, List.infix_cons_iff]

/-- The size of `t` in UTF-8. -/
def byteSize (t : Text) : Nat := t.foldr (fun c size => c.utf8Size + size) 0

@[simp] theorem byteSize_append (s t : Text) : byteSize (s ++ t) = byteSize s + byteSize t := by
  induction s with
  | nil => simp [byteSize]
  | cons c s ih =>
    have hcons : ∀ u, byteSize (c :: u) = c.utf8Size + byteSize u := fun _ => rfl
    rw [List.cons_append, hcons, hcons, ih, Nat.add_assoc]

end Text
end SqlOutline
