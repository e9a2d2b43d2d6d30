import SqlOutline.Proofs.LiteralEntries
import SqlOutline.Proofs.PlaceholderScan

/-!
Which placeholders a store answers for.

A store issues one placeholder for each of its literals, with a number that does not start with a
zero unless it is zero. A placeholder that is read counts by the value of its number, and so the
store answers as well for issued ones with zeros put in front of the number, but for nothing else
(`LiteralStore.get?_eq_some_iff`). Where none of these are read, getting and restoring go by the
entries of the store (`LiteralStore.get?_eq_some_iff_mem_entries`).
-/

namespace SqlOutline
open Unicode Placeholder

namespace Placeholder

/-- The placeholder numbered `i`, with `z` zeros in front of its number. -/
def padded (tag : Text) (z i : Nat) : Text :=
  rail ++ tag ++ (List.replicate z '0' ++ Nat.toDigits 10 i) ++ rail

@[simp] theorem padded_zero (tag : Text) (i : Nat) : padded tag 0 i = text tag i := by
  simp [padded, text]

theorem isDigit_of_mem_padded {z i : Nat} :
    ∀ c ∈ List.replicate z '0' ++ Nat.toDigits 10 i, c.isDigit = true := by
  intro c hc
  rcases List.mem_append.mp hc with hc | hc
  · obtain ⟨-, rfl⟩ := List.mem_replicate.mp hc
    rfl
  · exact Nat.isDigit_of_mem_toDigits (by decide) (by decide) hc

theorem spells_padded (tag : Text) (z i : Nat) :
    Spells (· == ·) tag (padded tag z i) (List.replicate z '0' ++ Nat.toDigits 10 i) := by
  have hne : List.replicate z '0' ++ Nat.toDigits 10 i ≠ [] := by simp [Nat.toDigits_ne_nil]
  exact spells_beq_iff.mpr
    ⟨hne, fun c hc => isDecimalDigit_of_isDigit (isDigit_of_mem_padded c hc), rfl⟩

@[simp] theorem number?_padded (z i : Nat) :
    number? (List.replicate z '0' ++ Nat.toDigits 10 i) = some i := by
  rw [number?, if_pos (List.all_eq_true.mpr isDigit_of_mem_padded), Nat.ofDigitChars_append,
    Nat.ofDigitChars_replicate_zero, Nat.mul_zero, Nat.ofDigitChars_ten_toDigits]

/-- Every digit of ASCII is a number below ten. -/
theorem exists_toDigits_eq {c : Char} (h : c.isDigit = true) :
    ∃ n < 10, Nat.toDigits 10 n = [c] := by
  obtain ⟨hlow, hhigh⟩ := Char.isDigit_iff_toNat.mp h
  have hzero : '0'.toNat = 48 := rfl
  have hnine : '9'.toNat = 57 := rfl
  have hlt : c.toNat - 48 < 10 := by omega
  refine ⟨c.toNat - 48, hlt, ?_⟩
  have hcode : (c.toNat - 48).digitChar.toNat = c.toNat := by
    rw [Nat.toNat_digitChar_of_lt_ten hlt]
    omega
  rw [Nat.toDigits_of_lt_base hlt, Char.toNat_inj.mp hcode]

/-- Digits of ASCII are some zeros and then a number without needless ones. -/
theorem exists_padded {d : Text} (hd : ∀ c ∈ d, c.isDigit = true) (hne : d ≠ []) :
    ∃ z i, List.replicate z '0' ++ Nat.toDigits 10 i = d := by
  induction d using List.reverseRecOn with
  | nil => exact absurd rfl hne
  | append_singleton d c ih =>
    obtain ⟨n, hn, hc⟩ := exists_toDigits_eq (hd c (by simp))
    rw [← hc]
    by_cases hnil : d = []
    · exact ⟨0, n, by simp [hnil]⟩
    · obtain ⟨z, i, rfl⟩ := ih (fun x hx => hd x (by simp [hx])) hnil
      rcases Nat.eq_zero_or_pos i with rfl | hi
      · exact ⟨z + 1, n, by simp [List.replicate_succ']⟩
      · refine ⟨z, 10 * i + n, ?_⟩
        rw [List.append_assoc, Nat.toDigits_append_toDigits (by decide) hi hn]

theorem number?_eq_some_iff {d : Text} (hne : d ≠ []) {i : Nat} :
    number? d = some i ↔ ∃ z, List.replicate z '0' ++ Nat.toDigits 10 i = d := by
  constructor
  · intro h
    have hdigits : ∀ c ∈ d, c.isDigit = true := by
      unfold number? at h
      split at h
      · exact List.all_eq_true.mp (by assumption)
      · simp at h
    obtain ⟨z, j, rfl⟩ := exists_padded hdigits hne
    rw [number?_padded] at h
    exact ⟨z, by rw [Option.some.inj h]⟩
  · rintro ⟨z, rfl⟩
    exact number?_padded z i

/-- A placeholder with zeros in front of its number is no other one without. -/
theorem padded_inj {tag : Text} {z z' i i' : Nat} (h : padded tag z i = padded tag z' i') :
    z = z' ∧ i = i' := by
  simp only [padded, List.append_assoc] at h
  have hrest := List.append_cancel_left (List.append_cancel_left h)
  rw [← List.append_assoc, ← List.append_assoc] at hrest
  have hdigits := List.append_cancel_right hrest
  obtain rfl : i = i' := by
    apply Option.some.inj
    rw [← number?_padded z i, hdigits, number?_padded]
  have hlen := congrArg List.length hdigits
  simp only [List.length_append, List.length_replicate] at hlen
  exact ⟨by omega, rfl⟩

end Placeholder

namespace LiteralStore
variable {s : LiteralStore}

/-- `p` is a placeholder that the store has issued, but for zeros in front of its number. -/
def IsPadded (s : LiteralStore) (p : Text) : Prop :=
  ∃ z i, 0 < z ∧ i < s.size ∧ padded s.tag z i = p

section
variable (htag : '_' ∉ s.tag)
include htag

theorem get?_eq_some_iff {p l : Text} :
    s.get? p = some l ↔ ∃ z i, padded s.tag z i = p ∧ s.names[i]? = some l := by
  constructor
  · intro h
    unfold get? at h
    split at h
    · rename_i p' d hread
      obtain ⟨hp, hspell⟩ := (read?_eq_some_iff (railed_beq htag)).mp hread
      obtain ⟨hne, -, hform⟩ := spells_beq_iff.mp hspell
      obtain ⟨i, hi, hl⟩ := Option.bind_eq_some_iff.mp h
      obtain ⟨z, rfl⟩ := (number?_eq_some_iff hne).mp hi
      refine ⟨z, i, ?_, hl⟩
      rw [← hp, List.append_nil]
      exact hform
    · simp at h
  · rintro ⟨z, i, rfl, hl⟩
    have hread : s.read? (padded s.tag z i) = some ⟨padded s.tag z i, _, []⟩ :=
      (read?_eq_some_iff (railed_beq htag)).mpr ⟨List.append_nil _, spells_padded s.tag z i⟩
    rw [get?, hread]
    simp [named?, hl]

theorem get?_of_mem_entries {p l : Text} (h : (p, l) ∈ s.entries) : s.get? p = some l := by
  obtain ⟨i, rfl, hl⟩ := mem_entries_iff.mp h
  exact (get?_eq_some_iff htag).mpr ⟨0, i, padded_zero s.tag i, hl⟩

/-- The store answers as its entries do for all but issued placeholders with zeros in front. -/
theorem get?_eq_lookup_iff {p : Text} : s.get? p = s.entries.lookup p ↔ ¬ s.IsPadded p := by
  constructor
  · rintro hsame ⟨z, i, hz, hi, rfl⟩
    have hget : s.get? (padded s.tag z i) = some s.names[i] :=
      (get?_eq_some_iff htag).mpr ⟨z, i, rfl, List.getElem?_eq_getElem hi⟩
    rw [hsame, lookup_eq_some_iff_mem s.nodup_entries, mem_entries_iff] at hget
    obtain ⟨j, hj, -⟩ := hget
    obtain ⟨hzero, -⟩ := padded_inj ((padded_zero s.tag j).trans hj)
    omega
  · intro hpadded
    apply Option.ext
    intro l
    rw [lookup_eq_some_iff_mem s.nodup_entries]
    refine ⟨fun h => ?_, get?_of_mem_entries htag⟩
    obtain ⟨z, i, rfl, hl⟩ := (get?_eq_some_iff htag).mp h
    rcases Nat.eq_zero_or_pos z with rfl | hz
    · exact mem_entries_iff.mpr ⟨i, (padded_zero s.tag i).symm, hl⟩
    · exact absurd ⟨z, i, hz, (List.getElem?_eq_some_iff.mp hl).1, rfl⟩ hpadded

/-- A store answers for the placeholders of its entries, whatever zeros stand in front of their
numbers. So it knows just its entries, and restores just these in a text, where no issued
placeholder is read with needless zeros; everywhere else it does not. -/
theorem get?_eq_some_iff_mem_entries :
    (∀ p l, s.get? p = some l ↔
        ∃ z i, padded s.tag z i = p ∧ (s.placeholder i, l) ∈ s.entries) ∧
      (∀ p, (∀ l, s.get? p = some l ↔ (p, l) ∈ s.entries) ↔ ¬ s.IsPadded p) ∧
      ∀ t, s.restore t = substitute s.tag (fun p => s.entries.lookup p) t ↔
        ∀ r ∈ readings s.tag t, ¬ s.IsPadded r.spelling := by
  refine ⟨fun p l => ?_, fun p => ?_, fun t => ?_⟩
  · have hissued : ∀ i, (s.placeholder i, l) ∈ s.entries ↔ s.names[i]? = some l := by
      intro i
      rw [mem_entries_iff]
      constructor
      · rintro ⟨j, hj, hl⟩
        rwa [← text_injective s.tag hj]
      · exact fun hl => ⟨i, rfl, hl⟩
    simp only [get?_eq_some_iff htag, hissued]
  · rw [← get?_eq_lookup_iff htag, Option.ext_iff]
    simp only [lookup_eq_some_iff_mem s.nodup_entries]
  · have hmore : ∀ p l, s.entries.lookup p = some l → s.get? p = some l := by
      intro p l h
      exact get?_of_mem_entries htag ((lookup_eq_some_iff_mem s.nodup_entries).mp h)
    rw [restore_eq_substitute htag, substitute_eq_iff htag hmore]
    simp only [get?_eq_lookup_iff htag]

end

/-- Numbers past the last literal and numbers in other digits are nobody's. -/
theorem get?_eq_some_iff_mem_entries_strangers :
    ∃ s : LiteralStore, s = (hideLiterals "ref".toList "`a` `b`".toList).2 ∧ '_' ∉ s.tag ∧
      s.get? "__ref0001__".toList = some "b".toList ∧
      (∀ r ∈ readings s.tag "__ref1____ref2____ref٠__".toList, ¬ s.IsPadded r.spelling) ∧
      s.restore "__ref1____ref2____ref٠__".toList =
        substitute s.tag (fun p => s.entries.lookup p) "__ref1____ref2____ref٠__".toList := by
  have htag : '_' ∉ (hideLiterals "ref".toList "`a` `b`".toList).2.tag := by decide
  have hreadings : readings "ref".toList "__ref1____ref2____ref٠__".toList =
      [⟨"__ref1__".toList, ['1'], "__ref2____ref٠__".toList⟩,
        ⟨"__ref2__".toList, ['2'], "__ref٠__".toList⟩, ⟨"__ref٠__".toList, ['٠'], []⟩] := by
    rw [readings_of_read (r := ⟨"__ref1__".toList, ['1'], "__ref2____ref٠__".toList⟩) (by decide),
      readings_of_read (r := ⟨"__ref2__".toList, ['2'], "__ref٠__".toList⟩) (by decide),
      readings_of_read (r := ⟨"__ref٠__".toList, ['٠'], []⟩) (by decide), readings_nil]
  obtain ⟨hget, -, hrestore⟩ := get?_eq_some_iff_mem_entries htag
  have hpadded : ∀ r ∈ readings "ref".toList "__ref1____ref2____ref٠__".toList,
      ¬ (hideLiterals "ref".toList "`a` `b`".toList).2.IsPadded r.spelling := by
    rw [hreadings]
    simp only [← get?_eq_lookup_iff htag]
    decide
  exact ⟨_, rfl, htag, (hget _ _).mpr ⟨3, 1, by decide, by decide⟩, hpadded,
    (hrestore _).mpr hpadded⟩

/-- A second zero is as good as the issued one. -/
theorem get?_padded_zero :
    (hideLiterals "ref".toList "`a`".toList).2.get? "__ref00__".toList = some "a".toList ∧
      ("__ref00__".toList, "a".toList) ∉ (hideLiterals "ref".toList "`a`".toList).2.entries ∧
      (hideLiterals "ref".toList "`a`".toList).2.restore "__ref00__".toList = "`a`".toList := by
  have hread : (hideLiterals "ref".toList "`a`".toList).2.read? "__ref00__".toList =
      some ⟨"__ref00__".toList, ['0', '0'], []⟩ := by decide
  refine ⟨by decide, by decide, ?_⟩
  rw [restore_of_read hread, restore_nil]
  decide

end LiteralStore
end SqlOutline
