import Mathlib.Data.Option.Basic
import SqlOutline.Proofs.CutOrder
import SqlOutline.Proofs.LiteralEntries

/-!
What is inside of literals.

A query is cut while its literals are hidden, so that queries which differ inside of literals alone
are cut at the same places. The literals of a clause are a run of the literals of the query, and
where that run starts is the same for all these queries (`literals_unobserved`).
-/

namespace SqlOutline
open Placeholder

namespace Cut

/-- The texts around the literals, in their order. -/
def outside (c : Cut) : List Text := c.lead :: c.literals.map (·.2)

/-- The cut with the first of the names `ns` in place of its literals. -/
def withNames (ns : List Text) (c : Cut) : Cut :=
  ⟨c.lead, List.zipWith (fun n x => (n, x.2)) ns c.literals⟩

@[simp] theorem withNames_plain (ns : List Text) (t : Text) :
    (plain t).withNames ns = plain t := by
  simp [withNames, plain]

@[simp] theorem withNames_literal (n : Text) (ns : List Text) (r l : Text) (c : Cut) :
    (literal r l c).withNames (n :: ns) = literal r n (c.withNames ns) := rfl

@[simp] theorem outside_plain (t : Text) : (plain t).outside = [t] := rfl

@[simp] theorem outside_literal (r l : Text) (c : Cut) :
    (literal r l c).outside = r :: c.outside := rfl

/-- A cut is known by its literals and the texts around them. -/
theorem withNames_of_outside_eq {c d : Cut} (h : d.outside = c.outside) :
    c.withNames d.names = d := by
  induction c using Cut.induction generalizing d with
  | plain t =>
    cases d using Cut.induction with
    | plain s =>
      have hts : s = t := by simpa using h
      simp [hts]
    | literal r l d => simp [outside, plain, literal] at h
  | literal r l c ih =>
    cases d using Cut.induction with
    | plain s => simp [outside, plain, literal] at h
    | literal s m d =>
      obtain ⟨hsr, hdc⟩ : s = r ∧ d.outside = c.outside := by simpa using h
      rw [names_literal, withNames_literal, ih hdc, hsr]

theorem length_names_of_outside_eq {c d : Cut} (h : d.outside = c.outside) :
    d.names.length = c.names.length := by
  have hlen := congrArg List.length h
  simpa [outside, names] using hlen

section
variable {c : Cut} {ns : List Text} (h : c.names.length ≤ ns.length)
include h

/-- Whatever the literals are, hiding them leaves the same text. -/
theorem hiddenAt_withNames (tag : Text) (i : Nat) :
    (c.withNames ns).hiddenAt tag i = c.hiddenAt tag i := by
  induction c using Cut.induction generalizing ns i with
  | plain t => simp
  | literal r l c ih =>
    cases ns with
    | nil => simp at h
    | cons n ns =>
      rw [withNames_literal, hiddenAt_literal, hiddenAt_literal, ih (by simpa using h)]

theorem names_withNames : (c.withNames ns).names = ns.take c.names.length := by
  induction c using Cut.induction generalizing ns with
  | plain t => simp
  | literal r l c ih =>
    cases ns with
    | nil => simp at h
    | cons n ns =>
      rw [withNames_literal, names_literal, names_literal, ih (by simpa using h)]
      rfl

theorem AllOutside.withNames {p : Text → Prop} (hc : c.AllOutside p) :
    (c.withNames ns).AllOutside p := by
  induction c using Cut.induction generalizing ns with
  | plain t => simpa using hc
  | literal r l c ih =>
    cases ns with
    | nil => simp at h
    | cons n ns =>
      obtain ⟨hr, hrest⟩ := allOutside_literal.mp hc
      exact allOutside_literal.mpr ⟨hr, ih (by simpa using h) hrest⟩

theorem Paired.withNames (hc : c.Paired) (hns : ∀ n ∈ ns, backtick ∉ n) :
    (c.withNames ns).Paired := by
  induction c using Cut.induction generalizing ns with
  | plain t => simpa using hc
  | literal r l c ih =>
    cases ns with
    | nil => simp at h
    | cons n ns =>
      obtain ⟨hr, -, hrest⟩ := paired_literal.mp hc
      obtain ⟨hn, hns⟩ := List.forall_mem_cons.mp hns
      exact paired_literal.mpr ⟨hr, hn, ih (by simpa using h) hrest hns⟩

end

theorem Paired.backtick_notMem {c : Cut} (h : c.Paired) : ∀ n ∈ c.names, backtick ∉ n := by
  induction c using Cut.induction with
  | plain t => simp
  | literal r l c ih =>
    obtain ⟨-, hl, hc⟩ := paired_literal.mp h
    exact List.forall_mem_cons.mpr ⟨hl, ih hc⟩

end Cut

/-- Another store with as many literals has enough of them for a part. -/
theorem Fits.length_names_le {s s' : LiteralStore} {i : Nat} {c : Cut} (h : Fits s i c)
    (hlen : s'.names.length = s.names.length) : c.names.length ≤ (s'.names.drop i).length := by
  have hle := h.names.length_le
  rw [List.length_drop] at hle ⊢
  omega

/-- A part of a hidden text stands for other literals in another store of as many. -/
theorem Fits.withNames {s s' : LiteralStore} {i : Nat} {c : Cut} (h : Fits s i c)
    (htag : s'.tag = s.tag) (hlen : s'.names.length = s.names.length)
    (hnames : ∀ n ∈ s'.names, backtick ∉ n) : Fits s' i (c.withNames (s'.names.drop i)) := by
  have henough := h.length_names_le hlen
  refine ⟨h.paired.withNames henough fun n hn => hnames n (List.mem_of_mem_drop hn), ?_, ?_⟩
  · rw [htag]
    exact h.stemFree.withNames henough
  · rw [Cut.names_withNames henough]
    exact List.take_prefix _ _

/-- What a part is restored to has the literals that the store has from the place of the part on. -/
theorem Fits.ofText_restore {s s' : LiteralStore} {i : Nat} {c : Cut} (h : Fits s i c)
    (hplain : PlainTag s.tag) (htag : s'.tag = s.tag) (hlen : s'.names.length = s.names.length)
    (hnames : ∀ n ∈ s'.names, backtick ∉ n) :
    Cut.ofText (s'.restore (c.hiddenAt s.tag i)) =
      (Cut.ofText (s.restore (c.hiddenAt s.tag i))).withNames (s'.names.drop i) := by
  have hfits := h.withNames htag hlen hnames
  have henough := h.length_names_le hlen
  have hrestored := hfits.restore (htag ▸ hplain)
  rw [Cut.hiddenAt_withNames henough, htag] at hrestored
  rw [hrestored, h.restore hplain, Cut.ofText_toText hfits.paired, Cut.ofText_toText h.paired]

theorem lookup_restored (f : Text → Text) (es : List (Clause × Text)) (c : Clause) :
    (es.map fun e => (e.1, f e.2)).lookup c = (es.lookup c).map f := by
  induction es with
  | nil => rfl
  | cons e es ih =>
    obtain ⟨d, u⟩ := e
    rw [List.map_cons, List.lookup_cons, List.lookup_cons, ih]
    cases c == d <;> rfl

namespace ClauseSet

/-- A set of entries for different clauses has for each clause the text that a look-up gives. -/
theorem get?_ofEntries_eq_lookup {es : List (Clause × Text)} (h : (es.map (·.1)).Nodup)
    (c : Clause) : (ofEntries es).get? c = es.lookup c := by
  apply Option.ext
  intro t
  rw [get?_ofEntries h, lookup_eq_some_iff_mem h]

variable {tag query : Text}

/-- The text of a clause is its piece with the literals back. -/
theorem get?_of_ofQuery {s : ClauseSet} (h : ofQuery tag query = .ok s) (c : Clause) :
    s.get? c = ((clausePieces tag (hideLiterals tag query).1).lookup c).map
      (LiteralStore.ofText tag query).restore := by
  obtain ⟨-, rfl⟩ := ofQuery_eq_ok_iff.mp h
  have hnodup := clausePieces_nodup tag (hideLiterals tag query).1
  rw [get?_ofEntries_eq_lookup (by rwa [List.map_map])]
  exact lookup_restored _ _ c

end ClauseSet

/-- Each piece of a query stands for the literals from some place on. -/
theorem exists_place {tag query : Text} (htag : PlainTag tag)
    (hfree : (Cut.ofText query).AllOutside (StemFree tag)) (c : Clause) :
    ∃ i, ∀ b ∈ (clausePieces tag (hideLiterals tag query).1).lookup c,
      ∃ C, Fits (.ofText tag query) i C ∧ C.hiddenAt tag i = b := by
  cases hb : (clausePieces tag (hideLiterals tag query).1).lookup c with
  | none => exact ⟨0, by simp⟩
  | some b =>
    obtain ⟨xs, ys, hpieces, -⟩ := List.lookup_eq_some_iff.mp hb
    have hmem : (c, b) ∈ clausePieces tag (hideLiterals tag query).1 := by
      rw [hpieces]
      simp
    obtain ⟨C, i, hC, hhidden⟩ := peel_fits htag (fits_ofText hfree) _ (List.mem_filter.mp hmem).1
    refine ⟨i, fun b' hb' => ?_⟩
    obtain rfl : b = b' := by simpa using hb'
    exact ⟨C, hC, hhidden⟩

/-- Queries that differ inside of their literals alone lack the same clause or have the same
clauses. The text of a clause has the same words around its literals in all of them, and as its
literals those that its query has from one place on, which is the same for all. -/
theorem literals_unobserved {tag query : Text} (htag : PlainTag tag)
    (hfree : (Cut.ofText query).AllOutside (StemFree tag)) :
    ∃ place : Clause → Nat, ∀ query', (Cut.ofText query').outside = (Cut.ofText query).outside →
      (∀ e, ClauseSet.ofQuery tag query = .error e →
        ∃ c, e = .missingClause c (Text.trim query) ∧
          ClauseSet.ofQuery tag query' = .error (.missingClause c (Text.trim query'))) ∧
      ∀ s, ClauseSet.ofQuery tag query = .ok s →
        ∃ s', ClauseSet.ofQuery tag query' = .ok s' ∧
          ∀ c, Option.Rel (fun t t' => Cut.ofText t' =
            (Cut.ofText t).withNames ((Cut.ofText query').names.drop (place c)))
              (s.get? c) (s'.get? c) := by
  choose place hplace using exists_place htag hfree
  refine ⟨place, fun query' hout => ?_⟩
  have hlen := Cut.length_names_of_outside_eq hout
  have hhidden : (hideLiterals tag query').1 = (hideLiterals tag query).1 := by
    have hsame := Cut.hiddenAt_withNames hlen.ge tag 0
    rwa [Cut.withNames_of_outside_eq hout] at hsame
  cases hmissing : missingClause? (clausePieces tag (hideLiterals tag query).1) with
  | some c =>
    have herror := ClauseSet.ofQuery_of_missing hmissing
    have herror' := ClauseSet.ofQuery_of_missing (hhidden ▸ hmissing)
    constructor
    · intro e he
      exact ⟨c, Except.error.inj (he.symm.trans herror), herror'⟩
    · intro s hs
      rw [herror] at hs
      cases hs
  | none =>
    have hok := ClauseSet.ofQuery_eq_ok_iff.mpr ⟨hmissing, rfl⟩
    have hok' := ClauseSet.ofQuery_eq_ok_iff.mpr ⟨hhidden ▸ hmissing, rfl⟩
    constructor
    · intro e he
      rw [hok] at he
      cases he
    · intro s hs
      refine ⟨_, hok', fun c => ?_⟩
      rw [ClauseSet.get?_of_ofQuery hs, ClauseSet.get?_of_ofQuery hok', hhidden]
      cases hb : (clausePieces tag (hideLiterals tag query).1).lookup c with
      | none => exact .none
      | some b =>
        obtain ⟨C, hC, rfl⟩ := hplace c b hb
        have htags : (LiteralStore.ofText tag query').tag = (LiteralStore.ofText tag query).tag :=
          rfl
        apply Option.Rel.some
        exact hC.ofText_restore htag htags hlen (Cut.paired_ofText query').backtick_notMem

/-- A comma, white space, a keyword and a placeholder inside of literals change no clause. -/
theorem literals_unobserved_lookalikes :
    ∃ query query' : Text, query = "SELECT `a` FROM `t`, `t` WHERE`x`".toList ∧
      query' = "SELECT ` from ,` FROM `__ref3__`, `where` WHERE``".toList ∧
      PlainTag "ref".toList ∧ (Cut.ofText query).AllOutside (StemFree "ref".toList) ∧
      (Cut.ofText query').outside = (Cut.ofText query).outside ∧
      ∃ s' t', ClauseSet.ofQuery "ref".toList query' = .ok s' ∧ s'.source = some t' ∧
        ∃ i, Cut.ofText t' =
          (Cut.ofText "`t`, `t`".toList).withNames ((Cut.ofText query').names.drop i) := by
  have htag : PlainTag "ref".toList := by decide
  have hfree : (Cut.ofText "SELECT `a` FROM `t`, `t` WHERE`x`".toList).AllOutside
      (StemFree "ref".toList) := by
    decide
  have hout : (Cut.ofText "SELECT ` from ,` FROM `__ref3__`, `where` WHERE``".toList).outside =
      (Cut.ofText "SELECT `a` FROM `t`, `t` WHERE`x`".toList).outside := by
    decide
  have hquery : ClauseSet.ofQuery "ref".toList "SELECT `a` FROM `t`, `t` WHERE`x`".toList =
      .ok { fields := some "`a`".toList, source := some "`t`, `t`".toList,
            filter := some "`x`".toList } := by
    rw [ClauseSet.ofQuery_eq_ok_iff]
    decide +kernel
  obtain ⟨place, hplace⟩ := literals_unobserved htag hfree
  obtain ⟨s', hs', hsame⟩ := (hplace _ hout).2 _ hquery
  have hsource := hsame .source
  obtain ⟨t', ht'⟩ : ∃ t', s'.get? .source = some t' := by
    cases hget : s'.get? .source with
    | none =>
      rw [hget] at hsource
      cases hsource
    | some t' => exact ⟨t', rfl⟩
  rw [ht'] at hsource
  cases hsource with
  | some hcut => exact ⟨_, _, rfl, rfl, htag, hfree, hout, s', t', hs', ht', _, hcut⟩

end SqlOutline
