import SqlOutline.Proofs.Restoring

/-!
The placeholders that a scan of a text reads.

Restoring is one such scan in which the store is asked for each placeholder that is read
(`LiteralStore.restore_eq_substitute`). So two ways to answer for placeholders restore a text alike
exactly if they agree on those that the scan reads (`Placeholder.substitute_eq_iff`).
-/

namespace SqlOutline
open Unicode Placeholder

/-- The placeholders that a scan from left to right reads in a text. -/
def Placeholder.readings (tag : Text) : Text → List Reading
  | [] => []
  | c :: t =>
    match _h : read? (· == ·) tag (c :: t) with
    | some r => r :: readings tag r.rest
    | none => readings tag t
termination_by t => t.length
decreasing_by
  · exact rest_length_lt (by assumption)
  · simp

namespace Placeholder
variable {tag : Text}

theorem readings_of_read {t : Text} {r : Reading} (h : read? (· == ·) tag t = some r) :
    readings tag t = r :: readings tag r.rest := by
  cases t with
  | nil => exact absurd (rest_length_lt h) (by simp)
  | cons c t => rw [readings]; split <;> simp_all

theorem readings_cons {c : Char} {t : Text} (h : read? (· == ·) tag (c :: t) = none) :
    readings tag (c :: t) = readings tag t := by
  rw [readings]; split <;> simp_all

@[simp] theorem readings_nil : readings tag [] = [] := by
  rw [readings]

/-- What no placeholder is read from adds none. -/
theorem readings_append {r t : Text} (h : Unread tag r t) :
    readings tag (r ++ t) = readings tag t := by
  induction r with
  | nil => rfl
  | cons c r ih =>
    have hc : read? (· == ·) tag (c :: (r ++ t)) = none := h (c :: r) (by simp) List.suffix_rfl
    have hr : Unread tag r t := fun v hv hs => h v hv (hs.trans (List.suffix_cons c r))
    rw [List.cons_append, readings_cons hc, ih hr]

end Placeholder

/-- What becomes of the placeholder `p`: the literal that `known` has for it, between backticks, or
`p` itself. -/
def Placeholder.exchange (known : Text → Option Text) (p : Text) : Text :=
  match known p with
  | some l => enquote l
  | none => p

/-- Scans a text from left to right and exchanges the placeholders that it reads. -/
def Placeholder.substitute (tag : Text) (known : Text → Option Text) : Text → Text
  | [] => []
  | c :: t =>
    match _h : read? (· == ·) tag (c :: t) with
    | some r => exchange known r.spelling ++ substitute tag known r.rest
    | none => c :: substitute tag known t
termination_by t => t.length
decreasing_by
  · exact rest_length_lt (by assumption)
  · simp

namespace Placeholder
variable {tag : Text}

section
variable {known : Text → Option Text}

@[simp] theorem substitute_nil : substitute tag known [] = [] := by
  rw [substitute]

theorem substitute_of_read {t : Text} {r : Reading} (h : read? (· == ·) tag t = some r) :
    substitute tag known t = exchange known r.spelling ++ substitute tag known r.rest := by
  cases t with
  | nil => exact absurd (rest_length_lt h) (by simp)
  | cons c t => rw [substitute]; split <;> simp_all

theorem substitute_cons {c : Char} {t : Text} (h : read? (· == ·) tag (c :: t) = none) :
    substitute tag known (c :: t) = c :: substitute tag known t := by
  rw [substitute]; split <;> simp_all

end

/-- Whether a placeholder is known shows in how the text starts that it is exchanged for. -/
theorem exchange_append_eq_iff (htag : '_' ∉ tag) {known known' : Text → Option Text} {p d u v : Text}
    (hp : Spells (· == ·) tag p d) (hmore : ∀ l, known' p = some l → known p = some l) :
    exchange known p ++ u = exchange known' p ++ v ↔ known p = known' p ∧ u = v := by
  constructor
  · intro h
    rw [exchange, exchange] at h
    cases hknown' : known' p with
    | some l =>
      rw [hmore l hknown', hknown'] at h
      exact ⟨hmore l hknown', List.append_cancel_left h⟩
    | none =>
      cases hknown : known p with
      | none =>
        rw [hknown, hknown'] at h
        exact ⟨rfl, List.append_cancel_left h⟩
      | some l =>
        rw [hknown, hknown'] at h
        have hhead := congrArg List.head? h
        rw [List.head?_append_of_ne_nil _ (hp.ne_nil (railed_beq htag)),
          hp.head?_eq (railed_beq htag)] at hhead
        simp [enquote, backtick] at hhead
  · rintro ⟨hsame, rfl⟩
    rw [exchange, exchange, hsame]

/-- A placeholder that one table knows and another does not makes a difference right where it
stands. -/
theorem substitute_eq_iff (htag : '_' ∉ tag) {known known' : Text → Option Text}
    (hmore : ∀ p l, known' p = some l → known p = some l) {t : Text} :
    substitute tag known t = substitute tag known' t ↔
      ∀ r ∈ readings tag t, known r.spelling = known' r.spelling := by
  fun_induction readings tag t with
  | case1 => simp
  | case2 c t r hread ih =>
    obtain ⟨-, hspell⟩ := (read?_eq_some_iff (railed_beq htag)).mp hread
    rw [substitute_of_read hread, substitute_of_read hread,
      exchange_append_eq_iff htag hspell (hmore r.spelling), ih, List.forall_mem_cons]
  | case3 c t hread ih =>
    rw [substitute_cons hread, substitute_cons hread, List.cons_inj_right, ih]

end Placeholder

namespace LiteralStore
variable {s : LiteralStore}

/-- A placeholder alone is read from the store as it is where it stands in a text. -/
theorem get?_spelling (htag : '_' ∉ s.tag) {t : Text} {r : Reading} (h : s.read? t = some r) :
    s.get? r.spelling = s.named? r.digits := by
  obtain ⟨-, hspell⟩ := (read?_eq_some_iff (railed_beq htag)).mp h
  have halone : s.read? r.spelling = some ⟨r.spelling, r.digits, []⟩ :=
    (read?_eq_some_iff (railed_beq htag)).mpr ⟨List.append_nil _, hspell⟩
  rw [get?, halone]

theorem resolve_eq_exchange (htag : '_' ∉ s.tag) {t : Text} {r : Reading} (h : s.read? t = some r) :
    s.resolve r = exchange s.get? r.spelling := by
  have hname := get?_spelling htag h
  cases hlit : s.named? r.digits with
  | some l => simp [resolve, exchange, hname, hlit]
  | none => simp [resolve, exchange, hname, hlit]

/-- Restoring asks the store for each placeholder of the scan. -/
theorem restore_eq_substitute (htag : '_' ∉ s.tag) (t : Text) :
    s.restore t = substitute s.tag s.get? t := by
  fun_induction substitute s.tag s.get? t with
  | case1 => exact s.restore_nil
  | case2 c t r hread ih =>
    rw [restore_of_read hread, ih, resolve_eq_exchange htag hread]
  | case3 c t hread ih => rw [restore_cons hread, ih]

/-- Of the literals nothing counts but what becomes of the placeholders that are read. -/
theorem restore_congr {tag t : Text} {names names' : List Text}
    (h : ∀ r ∈ readings tag t, resolve ⟨tag, names⟩ r = resolve ⟨tag, names'⟩ r) :
    restore ⟨tag, names⟩ t = restore ⟨tag, names'⟩ t := by
  fun_induction readings tag t with
  | case1 => simp
  | case2 c t r hread ih =>
    obtain ⟨hr, hrest⟩ := List.forall_mem_cons.mp h
    rw [restore_of_read (s := ⟨tag, names⟩) hread, restore_of_read (s := ⟨tag, names'⟩) hread, hr,
      ih hrest]
  | case3 c t hread ih =>
    rw [restore_cons (s := ⟨tag, names⟩) hread, restore_cons (s := ⟨tag, names'⟩) hread, ih h]

/-- What becomes of a placeholder that is read stands in the restored text. -/
theorem resolve_isInfix_restore {t : Text} {r : Reading} (hr : r ∈ readings s.tag t) :
    s.resolve r <:+: s.restore t := by
  fun_induction readings s.tag t with
  | case1 => cases hr
  | case2 c t r' hread ih =>
    rw [restore_of_read hread]
    rcases List.mem_cons.mp hr with rfl | hr
    · exact (List.prefix_append _ _).isInfix
    · exact (ih hr).trans (List.suffix_append _ _).isInfix
  | case3 c t hread ih =>
    rw [restore_cons hread]
    exact (ih hr).trans (List.suffix_cons c _).isInfix

end LiteralStore
end SqlOutline
