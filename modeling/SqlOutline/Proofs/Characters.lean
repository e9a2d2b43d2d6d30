import SqlOutline.Unicode.CaseFold
import SqlOutline.Unicode.CaseMap
import SqlOutline.Unicode.WhiteSpace
import SqlOutline.Unicode.Word

/-!
What the characters of a keyword and of a tag can be.

An ASCII letter stands for its two cases and, if it is `k` or `s`, for one character outside ASCII.
All of these are word characters, and none of them is the low line, a digit or white space. Signs of
ASCII below its letters are no capitals of anything else.
-/

namespace SqlOutline.Unicode

/-- Whether `c` is a word character other than the low line. -/
def isSolid (c : Char) : Bool := isWordChar c && c != '_'

/-- What holds of every code point of ASCII holds of every ASCII character. -/
private theorem of_ascii {p : Char → Prop} (h : ∀ n : Fin 128, p (Char.ofNat n)) {c : Char}
    (hc : c.toNat < 128) : p c := by
  have hn := h ⟨c.toNat, hc⟩
  rwa [Char.ofNat_toNat] at hn

theorem toNat_lt_of_isAlphanum {c : Char} (h : c.isAlphanum = true) : c.toNat < 128 := by
  change (decide (c.val ≥ 'A'.val ∧ c.val ≤ 'Z'.val) ||
    decide (c.val ≥ 'a'.val) && decide (c.val ≤ 'z'.val) ||
    decide (c.val ≥ '0'.val) && decide (c.val ≤ '9'.val)) = true at h
  simp only [Bool.or_eq_true, Bool.and_eq_true, decide_eq_true_eq, ge_iff_le,
    UInt32.le_iff_toNat_le] at h
  change c.val.toNat < 128
  have hZ : 'Z'.val.toNat = 90 := rfl
  have hz : 'z'.val.toNat = 122 := rfl
  have h9 : '9'.val.toNat = 57 := rfl
  omega

theorem isAlphanum_of_isAlpha {c : Char} (h : c.isAlpha = true) : c.isAlphanum = true := by
  simp [Char.isAlphanum, h]

private theorem toLower_lt {c : Char} (h : c.toNat < 128) : c.toLower.toNat < 128 :=
  of_ascii (p := fun c => c.toLower.toNat < 128) (by decide) h

private theorem toNat_lt_of_toLower {c : Char} (h : c.toLower.toNat < 128) : c.toNat < 128 := by
  unfold Char.toLower at h
  split at h
  · rename_i hupper
    have hZ : c.val.toNat ≤ 90 := hupper.2
    show c.val.toNat < 128
    omega
  · exact h

/-- An ASCII letter stands for its two cases. -/
theorem sameLetter_of_toLower {l c : Char} (hl : l.toNat < 128) (h : c.toLower = l.toLower) :
    sameLetter l c = true := by
  have hc : c.toNat < 128 := toNat_lt_of_toLower (h ▸ toLower_lt hl)
  unfold sameLetter foldCode
  rw [if_pos hl, if_pos hc, h]
  simp

/-- Outside ASCII only the long s and the kelvin sign fold to an ASCII letter. -/
private theorem eq_of_foldCode_lt {c : Char} (hc : ¬ c.toNat < 128) (h : foldCode c < 128) :
    c = '\u017f' ∨ c = '\u212a' := by
  have table : ∀ r ∈ foldRuns, 128 ≤ r.image ∨ (r.first = 0x17f ∧ r.last = 0x17f) ∨
      (r.first = 0x212a ∧ r.last = 0x212a) := by decide +kernel
  rw [foldCode, if_neg hc, applyRuns] at h
  cases hr : foldRuns.findSome? (·.send? c.toNat) with
  | none =>
    rw [hr] at h
    exact absurd h hc
  | some m =>
    rw [hr] at h
    obtain ⟨r, hmem, hsend⟩ := List.exists_of_findSome?_eq_some hr
    unfold Run.send? at hsend
    split at hsend
    · rename_i hrange
      have hm : r.image + (c.toNat - r.first) = m := by simpa using hsend
      have hlt : m < 128 := h
      have hcode : c.toNat = 0x17f ∨ c.toNat = 0x212a := by
        have ht := table r hmem
        omega
      rcases hcode with hcode | hcode
      · left
        rw [← Char.ofNat_toNat c, hcode]
      · right
        rw [← Char.ofNat_toNat c, hcode]
    · simp at hsend

/-- The characters that an ASCII character stands for. -/
theorem eq_of_sameLetter {l c : Char} (hl : l.toNat < 128) (h : sameLetter l c = true) :
    (c.toNat < 128 ∧ c.toLower = l.toLower) ∨ c = '\u017f' ∨ c = '\u212a' := by
  have hcode : foldCode l = foldCode c := by simpa [sameLetter] using h
  rw [foldCode, if_pos hl] at hcode
  by_cases hc : c.toNat < 128
  · left
    rw [foldCode, if_pos hc] at hcode
    exact ⟨hc, (Char.toNat_inj.mp hcode).symm⟩
  · right
    exact eq_of_foldCode_lt hc (hcode ▸ toLower_lt hl)

theorem eq_lowLine_of_sameLetter {c : Char} (h : sameLetter '_' c = true) : c = '_' := by
  rcases eq_of_sameLetter (by decide) h with ⟨hc, he⟩ | rfl | rfl
  · exact of_ascii (p := fun c => c.toLower = '_'.toLower → c = '_') (by decide) hc he
  · exact absurd h (by decide)
  · exact absurd h (by decide)

theorem isSolid_of_isAlphanum {c : Char} (h : c.isAlphanum = true) : isSolid c = true :=
  of_ascii (p := fun c => c.isAlphanum = true → isSolid c = true) (by decide)
    (toNat_lt_of_isAlphanum h) h

/-- A letter or digit of a tag stands for solid characters alone. -/
theorem isSolid_of_sameLetter {l c : Char} (hl : l.isAlphanum = true)
    (h : sameLetter l c = true) : isSolid c = true := by
  have lowered : ∀ {c : Char}, c.toNat < 128 → c.toLower.isAlphanum = c.isAlphanum :=
    of_ascii (p := fun c => c.toLower.isAlphanum = c.isAlphanum) (by decide)
  rcases eq_of_sameLetter (toNat_lt_of_isAlphanum hl) h with ⟨hc, he⟩ | rfl | rfl
  · apply isSolid_of_isAlphanum
    rw [← lowered hc, he, lowered (toNat_lt_of_isAlphanum hl), hl]
  · decide +kernel
  · decide +kernel

/-- A letter stands for no digit. -/
theorem not_isDecimalDigit_of_sameLetter {l c : Char} (hl : l.isAlpha = true)
    (h : sameLetter l c = true) : isDecimalDigit c = false := by
  have lowered : ∀ {c : Char}, c.toNat < 128 → c.toLower.isAlpha = c.isAlpha :=
    of_ascii (p := fun c => c.toLower.isAlpha = c.isAlpha) (by decide)
  have letter : ∀ {c : Char}, c.toNat < 128 → c.isAlpha = true → isDecimalDigit c = false :=
    of_ascii (p := fun c => c.isAlpha = true → isDecimalDigit c = false) (by decide)
  have hl' := toNat_lt_of_isAlphanum (isAlphanum_of_isAlpha hl)
  rcases eq_of_sameLetter hl' h with ⟨hc, he⟩ | rfl | rfl
  · apply letter hc
    rw [← lowered hc, he, lowered hl', hl]
  · decide
  · decide

theorem isDecimalDigit_of_isDigit {c : Char} (h : c.isDigit = true) : isDecimalDigit c = true := by
  have hc : c.toNat < 128 := toNat_lt_of_isAlphanum (by simp [Char.isAlphanum, h])
  simpa [isDecimalDigit, hc] using h

theorem isSolid_of_isDecimalDigit {c : Char} (h : isDecimalDigit c = true) : isSolid c = true := by
  have table : digitRanges.all (fun r => wordRanges.any fun w =>
      w.1.ble r.1 && r.2.ble w.2) = true := by decide +kernel
  simp only [List.all_eq_true, List.any_eq_true, Bool.and_eq_true, Nat.ble_eq] at table
  by_cases hc : c.toNat < 128
  · rw [isDecimalDigit, if_pos hc] at h
    exact isSolid_of_isAlphanum (by simp [Char.isAlphanum, h])
  · rw [isDecimalDigit, if_neg hc, inRanges_eq_true_iff] at h
    obtain ⟨r, hr, hlow, hhigh⟩ := h
    obtain ⟨w, hw, hwlow, hwhigh⟩ := table r hr
    have hword : isWordChar c = true := by
      rw [isWordChar, if_neg hc, inRanges_eq_true_iff]
      exact ⟨w, hw, by omega, by omega⟩
    have hne : c ≠ '_' := by
      rintro rfl
      exact hc (by decide)
    simp [isSolid, hword, hne]

/-- White space ends a word. -/
theorem not_isWordChar_of_isWhiteSpace {c : Char} (h : isWhiteSpace c = true) :
    isWordChar c = false := by
  have ascii : ∀ {c : Char}, c.toNat < 128 → isWhiteSpace c = true → isWordChar c = false :=
    of_ascii (p := fun c => isWhiteSpace c = true → isWordChar c = false) (by decide)
  have table : ∀ r ∈ wordRanges, (r.2 < 0x85 ∨ 0x85 < r.1) ∧ (r.2 < 0xa0 ∨ 0xa0 < r.1) ∧
      (r.2 < 0x1680 ∨ 0x1680 < r.1) ∧ (r.2 < 0x2000 ∨ 0x200a < r.1) ∧
      (r.2 < 0x2028 ∨ 0x2029 < r.1) ∧ (r.2 < 0x202f ∨ 0x202f < r.1) ∧
      (r.2 < 0x205f ∨ 0x205f < r.1) ∧ (r.2 < 0x3000 ∨ 0x3000 < r.1) := by decide +kernel
  by_cases hc : c.toNat < 128
  · exact ascii hc h
  · rw [isWordChar, if_neg hc, Bool.eq_false_iff, ne_eq, inRanges_eq_true_iff]
    rintro ⟨r, hr, hlow, hhigh⟩
    have ht := table r hr
    simp only [isWhiteSpace, Bool.or_eq_true, Bool.and_eq_true, decide_eq_true_eq,
      beq_iff_eq] at h
    omega

theorem isWordChar_of_isSolid {c : Char} (h : isSolid c = true) : isWordChar c = true := by
  simp only [isSolid, Bool.and_eq_true] at h
  exact h.1

theorem ne_lowLine_of_isSolid {c : Char} (h : isSolid c = true) : c ≠ '_' := by
  simp only [isSolid, Bool.and_eq_true, bne_iff_ne] at h
  exact h.2

theorem not_isWhiteSpace_of_isWordChar {c : Char} (h : isWordChar c = true) :
    isWhiteSpace c = false := by
  rw [Bool.eq_false_iff]
  intro hw
  rw [not_isWordChar_of_isWhiteSpace hw] at h
  exact Bool.false_ne_true h

theorem not_isWhiteSpace_of_isSolid {c : Char} (h : isSolid c = true) : isWhiteSpace c = false :=
  not_isWhiteSpace_of_isWordChar (isWordChar_of_isSolid h)

theorem toNat_eq_of_ofNat {d : Char} {n : Nat} (hpos : 0 < d.toNat) (h : d = Char.ofNat n) :
    d.toNat = n := by
  by_cases hvalid : n.isValidChar
  · rw [h, Char.ofNat, dif_pos hvalid]
    rfl
  · rw [h, Char.ofNat, dif_neg hvalid] at hpos
    exact absurd hpos (by decide)

/-- The runs of the upper case lead to no code below the letters. -/
theorem le_applyRuns_upperRuns {n : Nat} (hn : 65 ≤ n) : 65 ≤ applyRuns upperRuns n := by
  have runs : ∀ r ∈ upperRuns, 65 ≤ r.image := by decide +kernel
  rw [applyRuns]
  cases hr : upperRuns.findSome? (·.send? n) with
  | none => exact hn
  | some m =>
    obtain ⟨r, hmem, hsend⟩ := List.exists_of_findSome?_eq_some hr
    have himage := runs r hmem
    unfold Run.send? at hsend
    split at hsend
    · obtain rfl := Option.some.inj hsend
      exact Nat.le_trans himage (Nat.le_add_right _ _)
    · cases hsend

/-- No other character has one below the letters in its upper case. -/
theorem eq_of_mem_upperChar {c d : Char} (hpos : 0 < d.toNat) (hd : d.toNat < 65)
    (h : d ∈ upperChar c) : d = c := by
  have ascii : ∀ {c : Char}, c.toNat < 128 → c.toUpper = c ∨ 65 ≤ c.toUpper.toNat :=
    of_ascii (p := fun c => c.toUpper = c ∨ 65 ≤ c.toUpper.toNat) (by decide)
  have expansions : ∀ e ∈ upperExpansions, ∀ n ∈ e.2, 65 ≤ n := by decide +kernel
  rw [upperChar] at h
  split at h
  · rename_i hc
    obtain rfl := List.mem_singleton.mp h
    exact (ascii hc).resolve_right (by omega)
  · rename_i hc
    exfalso
    split at h
    · rename_i codes hlookup
      obtain ⟨n, hn, hcode⟩ := List.mem_map.mp h
      obtain ⟨es, es', hform, -⟩ := List.lookup_eq_some_iff.mp hlookup
      have hmem : (c.toNat, codes) ∈ upperExpansions := hform ▸ by simp
      have hlow := expansions _ hmem n hn
      have hsame := toNat_eq_of_ofNat hpos hcode.symm
      omega
    · have hlow := le_applyRuns_upperRuns (n := c.toNat) (by omega)
      have hsame := toNat_eq_of_ofNat hpos (List.mem_singleton.mp h)
      omega

/-- A character below the letters is its own upper case. -/
theorem upperChar_of_lt {c : Char} (hc : c.toNat < 65) : upperChar c = [c] := by
  have ascii : ∀ {c : Char}, c.toNat < 128 → c.toNat < 65 → upperChar c = [c] :=
    of_ascii (p := fun c => c.toNat < 65 → upperChar c = [c]) (by decide)
  exact ascii (by omega) hc

end SqlOutline.Unicode
