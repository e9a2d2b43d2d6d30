import Mathlib.Data.List.TakeWhile
import SqlOutline.Proofs.ErrorFlow
import SqlOutline.Proofs.HeadFront
import SqlOutline.Schema.Script

/-!
Scripts one behind the other.

No keyword goes over a semicolon, and a statement ends at the first line that ends in one. So where
a script ends in a semicolon its statements do not depend on the lines behind it, and these are read
as on their own (`tables_append`).
-/

namespace SqlOutline
open Unicode

namespace Reader

/-- What the reader takes off the front of `t` does not depend on `s` behind it. -/
def Ignores (r : Reader) (s t : Text) : Prop := r (t ++ s) = (r t).map fun (a, b) => (a, b ++ s)

theorem Ignores.andThen {r r' : Reader} {s t : Text} (h : r.Ignores s t)
    (h' : ∀ a b, r t = some (a, b) → r'.Ignores s b) : (r.andThen r').Ignores s t := by
  rw [Ignores, Reader.andThen, Reader.andThen, h]
  cases hr : r t with
  | none => rfl
  | some p =>
    obtain ⟨a, b⟩ := p
    have hb := h' a b hr
    rw [Ignores] at hb
    simp only [Option.map_some, Option.bind_eq_bind, Option.bind_some, hb]
    cases r' b <;> rfl

end Reader

/-- A keyword ends before any character that it cannot have. -/
theorem Keyword.readWhole_ignores {k : Keyword} (hk : k.Plain) {x : Char}
    (hsolid : isSolid x = false) (hspace : isWhiteSpace x = false) {t : Text} (hx : x ∈ t)
    (s : Text) : k.readWhole.Ignores s t := by
  have ends_append : ∀ {b : Text}, x ∈ b → endsWord (b ++ s) = endsWord b := by
    intro b hb
    rw [endsWord, List.head?_append_of_ne_nil _ (List.ne_nil_of_mem hb), endsWord]
  apply Option.ext
  rintro ⟨f, r⟩
  rw [readWhole_eq_some_iff hk, Option.map_eq_some_iff]
  constructor
  · rintro ⟨ht, hf, hend⟩
    have hxf : x ∉ f := hf.notMem hk hsolid hspace
    rcases List.append_eq_append_iff.mp ht with ⟨b, rfl, rfl⟩ | ⟨b, rfl, -⟩
    · have hxb : x ∈ b := (List.mem_append.mp hx).resolve_left hxf
      rw [ends_append hxb] at hend
      exact ⟨(f, b), (readWhole_eq_some_iff hk).mpr ⟨rfl, hf, hend⟩, rfl⟩
    · exact absurd (List.mem_append_left b hx) hxf
  · rintro ⟨⟨f', b⟩, hread, he⟩
    obtain ⟨rfl, rfl⟩ := Prod.mk.inj he
    obtain ⟨rfl, hf, hend⟩ := (readWhole_eq_some_iff hk).mp hread
    have hxb : x ∈ b := (List.mem_append.mp hx).resolve_left (hf.notMem hk hsolid hspace)
    exact ⟨by simp, hf, by rwa [ends_append hxb]⟩

namespace Block

/-- The text ends in a semicolon, behind which only spaces, tabs and then one carriage return may
stand. -/
def EndsStatement (t : Text) : Prop :=
  ∃ x g e, x ++ ';' :: (g ++ e) = t ∧ (∀ c ∈ g, isIndent c = true) ∧ (e = [] ∨ e = ['\r'])

namespace EndsStatement
variable {t : Text}

theorem semicolon_mem (h : EndsStatement t) : ';' ∈ t := by
  obtain ⟨x, g, e, rfl, -⟩ := h
  simp

theorem ne_nil (h : EndsStatement t) : t ≠ [] := List.ne_nil_of_mem h.semicolon_mem

/-- What is left behind a part without semicolons ends as the whole does. -/
theorem of_append {u : Text} (h : EndsStatement (u ++ t)) (hu : ';' ∉ u) : EndsStatement t := by
  obtain ⟨x, g, e, ht, hg, he⟩ := h
  rcases List.append_eq_append_iff.mp ht with ⟨m, rfl, hm⟩ | ⟨m, rfl, rfl⟩
  · cases m with
    | nil => exact ⟨[], g, e, by simpa using hm, hg, he⟩
    | cons c m =>
      obtain ⟨rfl, -⟩ := List.cons_eq_cons.mp hm
      simp at hu
  · exact ⟨m, g, e, rfl, hg, he⟩

/-- What is left at the end of a line is empty or ends as the whole does. -/
theorem of_lineEnd {u : Text} (h : EndsStatement (u ++ t)) (ht : atLineEnd t = true) :
    t = [] ∨ EndsStatement t := by
  obtain ⟨x, g, e, hx, hg, he⟩ := h
  rcases List.append_eq_append_iff.mp hx with ⟨m, rfl, hm⟩ | ⟨m, rfl, rfl⟩
  · left
    by_contra hne
    obtain ⟨c, t, rfl⟩ := List.exists_cons_of_ne_nil hne
    obtain rfl : c = '\n' := by simpa [atLineEnd] using ht
    have hmem : '\n' ∈ ';' :: (g ++ e) := hm ▸ by simp
    have hge : '\n' ∈ g ∨ '\n' ∈ e := by simpa using hmem
    rcases hge with hin | hin
    · exact absurd (hg _ hin) (by decide)
    · rcases he with rfl | rfl <;> simp at hin
  · exact .inr ⟨m, g, e, rfl, hg, he⟩

end EndsStatement

/-- A run that stops in `t` takes nothing of what comes behind `t`. -/
theorem span_append {p : Char → Bool} {t : Text} (h : t.dropWhile p ≠ []) (s : Text) :
    (t ++ s).takeWhile p = t.takeWhile p ∧ (t ++ s).dropWhile p = t.dropWhile p ++ s := by
  have hall : ¬ (t.takeWhile p).length = t.length := by
    intro hlen
    have hsum := congrArg List.length (List.takeWhile_append_dropWhile (p := p) (l := t))
    rw [List.length_append] at hsum
    exact h (List.length_eq_zero_iff.mp (by omega))
  rw [List.takeWhile_append, if_neg hall, List.dropWhile_append, if_neg (by simpa using h)]
  exact ⟨rfl, rfl⟩

theorem readIndent_ignores {t : Text} {x : Char} (hx : x ∈ t) (hindent : isIndent x = false)
    (s : Text) : readIndent.Ignores s t := by
  have hne : t.dropWhile isIndent ≠ [] := by
    rw [ne_eq, List.dropWhile_eq_nil_iff]
    intro hall
    rw [hall x hx] at hindent
    exact Bool.false_ne_true hindent.symm
  obtain ⟨htake, hdrop⟩ := span_append hne s
  rw [Reader.Ignores, readIndent, readIndent, htake, hdrop, Option.map_some]

/-- The end of a line is read in the same way when another line comes behind. -/
theorem readLineEnd_ignores (s t : Text) : readLineEnd.Ignores ('\n' :: s) t := by
  have hnewline : isIndent '\n' = false := by decide
  rw [Reader.Ignores, readLineEnd, readLineEnd]
  by_cases hne : t.dropWhile isIndent = []
  · have hall : ∀ c ∈ t, isIndent c = true := List.dropWhile_eq_nil_iff.mp hne
    rw [List.dropWhile_append_of_pos hall, List.takeWhile_append_of_pos hall, hne]
    simp [hnewline]
  · obtain ⟨htake, hdrop⟩ := span_append hne ('\n' :: s)
    obtain ⟨c, rest, hc⟩ := List.exists_cons_of_ne_nil hne
    have hend : atLineEnd (rest ++ '\n' :: s) = atLineEnd rest := by
      cases rest <;> simp [atLineEnd]
    rw [htake, hdrop, hc]
    simp only [List.cons_append, hend]
    split
    · rfl
    · split <;> rfl

theorem atLineEnd_of_readLineEnd {t a b : Text} (h : readLineEnd t = some (a, b)) :
    atLineEnd b = true := by
  rw [readLineEnd] at h
  split at h
  · obtain ⟨rfl, rfl⟩ : t = a ∧ [] = b := by simpa using h
    rfl
  · split at h
    · rename_i c rest hd hc
      obtain ⟨-, rfl⟩ : t.takeWhile isIndent = a ∧ c :: rest = b := by simpa using h
      simp [atLineEnd, hc]
    · split at h
      · rename_i hc
        obtain ⟨-, rfl⟩ := Prod.mk.inj (Option.some.inj h)
        simp_all
      · simp at h

theorem readToEnd_append {t a b : Text} (h : readToEnd t = some (a, b)) (s : Text) :
    readToEnd (t ++ '\n' :: s) = some (a, b ++ '\n' :: s) := by
  induction t generalizing a with
  | nil => simp [readToEnd] at h
  | cons c t ih =>
    have hend : (if c = ';' then readLineEnd (t ++ '\n' :: s) else none) =
        (if c = ';' then readLineEnd t else none).map fun (a, b) => (a, b ++ '\n' :: s) := by
      split
      · exact readLineEnd_ignores s t
      · rfl
    rw [readToEnd] at h
    rw [List.cons_append, readToEnd, hend]
    cases hread : (if c = ';' then readLineEnd t else none) with
    | some p =>
      rw [hread] at h
      obtain ⟨rfl, rfl⟩ : c :: p.1 = a ∧ p.2 = b := by simpa using h
      rfl
    | none =>
      rw [hread] at h
      obtain ⟨⟨a', b'⟩, ht, he⟩ := Option.map_eq_some_iff.mp h
      obtain ⟨rfl, rfl⟩ : c :: a' = a ∧ b' = b := by simpa using he
      simp [ih ht]

theorem atLineEnd_of_readToEnd {t a b : Text} (h : readToEnd t = some (a, b)) :
    atLineEnd b = true := by
  induction t generalizing a with
  | nil => simp [readToEnd] at h
  | cons c t ih =>
    rw [readToEnd] at h
    split at h
    · rename_i a' b' hread
      obtain ⟨-, rfl⟩ : c :: a' = a ∧ b' = b := by simpa using h
      split at hread
      · exact atLineEnd_of_readLineEnd hread
      · simp at hread
    · obtain ⟨⟨a', b'⟩, ht, he⟩ := Option.map_eq_some_iff.mp h
      obtain ⟨-, rfl⟩ : c :: a' = a ∧ b' = b := by simpa using he
      exact ih ht

theorem readLineEnd_of_indent {g e : Text} (hg : ∀ c ∈ g, isIndent c = true)
    (he : e = [] ∨ e = ['\r']) : (readLineEnd (g ++ e)).isSome = true := by
  have hreturn : isIndent '\r' = false := by decide
  rw [readLineEnd, List.dropWhile_append_of_pos hg, List.takeWhile_append_of_pos hg]
  rcases he with rfl | rfl
  · rfl
  · simp [hreturn, atLineEnd]

theorem EndsStatement.readToEnd_isSome {t : Text} (h : EndsStatement t) :
    (readToEnd t).isSome = true := by
  obtain ⟨x, g, e, rfl, hg, he⟩ := h
  induction x with
  | nil =>
    obtain ⟨p, hp⟩ := Option.isSome_iff_exists.mp (readLineEnd_of_indent hg he)
    rw [List.nil_append, readToEnd, if_pos rfl, hp]
    rfl
  | cons c x ih =>
    rw [List.cons_append, readToEnd]
    split
    · rfl
    · rw [Option.isSome_map]
      exact ih

/-- The parts into which a statement is read. -/
theorem read_eq_some_iff {t a b : Text} :
    read t = some (a, b) ↔ ∃ f z, t.takeWhile isIndent ++ (f ++ z) = a ∧
      ∃ t', TableName.createKeyword.readWhole (t.dropWhile isIndent) = some (f, t') ∧
        readToEnd t' = some (z, b) := by
  simp only [read, readIndent, Reader.andThen, Option.bind_eq_bind, Option.bind_some,
    Option.bind_eq_some_iff, Option.pure_def, Option.some.injEq, Prod.mk.injEq, Prod.exists]
  constructor
  · rintro ⟨x, y, ⟨f, t', hf, z, b', hz, rfl, rfl⟩, rfl, rfl⟩
    exact ⟨f, z, rfl, t', hf, hz⟩
  · rintro ⟨f, z, rfl, t', hf, hz⟩
    exact ⟨f ++ z, b, ⟨f, t', hf, z, b, hz, rfl, rfl⟩, rfl, rfl⟩

theorem EndsStatement.dropIndent {t : Text} (h : EndsStatement t) :
    EndsStatement (t.dropWhile isIndent) := by
  rw [← List.takeWhile_append_dropWhile (p := isIndent) (l := t)] at h
  exact h.of_append fun hin => absurd (List.mem_takeWhile_imp hin) (by decide)

theorem EndsStatement.behindKeyword {t f t' : Text} (h : EndsStatement t)
    (hf : TableName.createKeyword.readWhole t = some (f, t')) : EndsStatement t' := by
  have hread : TableName.createKeyword.read t = some (f, t') := (Option.filter_eq_some_iff.mp hf).1
  obtain ⟨rfl, hspell⟩ := (Keyword.read_eq_some_iff TableName.createKeyword_plain).mp hread
  exact h.of_append (hspell.notMem TableName.createKeyword_plain (by decide) (by decide))

theorem EndsStatement.read_ignores {t : Text} (h : EndsStatement t) (s : Text) :
    read.Ignores ('\n' :: s) t := by
  refine (readIndent_ignores h.semicolon_mem (by decide) _).andThen fun a b hindent => ?_
  obtain ⟨-, rfl⟩ : t.takeWhile isIndent = a ∧ t.dropWhile isIndent = b := by
    simpa [readIndent] using hindent
  refine (Keyword.readWhole_ignores TableName.createKeyword_plain (x := ';') (by decide)
    (by decide) h.dropIndent.semicolon_mem _).andThen fun f t' hf => ?_
  obtain ⟨⟨z, b⟩, hz⟩ :=
    Option.isSome_iff_exists.mp (h.dropIndent.behindKeyword hf).readToEnd_isSome
  rw [Reader.Ignores, hz, readToEnd_append hz]
  rfl

theorem EndsStatement.of_read {t a b : Text} (h : EndsStatement t) (hread : read t = some (a, b)) :
    b = [] ∨ EndsStatement b := by
  obtain ⟨f, z, -, t', hf, hz⟩ := read_eq_some_iff.mp hread
  have ht' := h.dropIndent.behindKeyword hf
  rw [← readToEnd_faithful hz] at ht'
  exact ht'.of_lineEnd (atLineEnd_of_readToEnd hz)

theorem allFrom_of_read {t a b : Text} (h : read t = some (a, b)) :
    allFrom true t = a :: allFrom false b := by
  cases t with
  | nil => exact absurd (rest_length_lt h) (by simp)
  | cons c t => rw [allFrom]; split <;> simp_all

theorem allFrom_cons {lineStart : Bool} {c : Char} {t : Text}
    (h : lineStart = true → read (c :: t) = none) :
    allFrom lineStart (c :: t) = allFrom (c == '\n') t := by
  rw [allFrom]; split <;> simp_all

@[simp] theorem allFrom_nil (lineStart : Bool) : allFrom lineStart [] = [] := by
  rw [allFrom]

/-- On the rest of a line there is no statement. -/
theorem allFrom_restOfLine {t : Text} (ht : '\n' ∉ t) (s : Text) :
    allFrom false (t ++ '\n' :: s) = all s := by
  induction t with
  | nil =>
    rw [List.nil_append, allFrom_cons (by simp)]
    rfl
  | cons c t ih =>
    rw [List.mem_cons, not_or] at ht
    have hc : (c == '\n') = false := by simpa using Ne.symm ht.1
    rw [List.cons_append, allFrom_cons (by simp), hc, ih ht.2]

theorem allFrom_line {t : Text} (ht : '\n' ∉ t) : allFrom false t = [] := by
  induction t with
  | nil => exact allFrom_nil false
  | cons c t ih =>
    rw [List.mem_cons, not_or] at ht
    have hc : (c == '\n') = false := by simpa using Ne.symm ht.1
    rw [allFrom_cons (by simp), hc, ih ht.2]

/-- What is left behind the first character ends as the whole does, or is the rest of a line. -/
theorem EndsStatement.of_cons {c : Char} {t : Text} (h : EndsStatement (c :: t)) :
    EndsStatement t ∨ c = ';' ∧ '\n' ∉ t := by
  obtain ⟨x, g, e, hx, hg, he⟩ := h
  cases x with
  | nil =>
    right
    obtain ⟨rfl, rfl⟩ := List.cons_eq_cons.mp hx
    refine ⟨rfl, fun hmem => ?_⟩
    rcases List.mem_append.mp hmem with hin | hin
    · exact absurd (hg _ hin) (by decide)
    · rcases he with rfl | rfl <;> simp at hin
  | cons d x =>
    obtain ⟨rfl, rfl⟩ := List.cons_eq_cons.mp hx
    exact .inl ⟨x, g, e, rfl, hg, he⟩

theorem allFrom_append {t : Text} (ht : EndsStatement t) (lineStart : Bool) (s : Text) :
    allFrom lineStart (t ++ '\n' :: s) = allFrom lineStart t ++ all s := by
  induction hn : t.length using Nat.strongRecOn generalizing t lineStart with
  | _ n ih =>
    have hread := ht.read_ignores s
    rw [Reader.Ignores] at hread
    by_cases hblock : lineStart = true ∧ (read t).isSome = true
    · obtain ⟨rfl, hsome⟩ := hblock
      obtain ⟨⟨block, rest⟩, hr⟩ := Option.isSome_iff_exists.mp hsome
      rw [hr] at hread
      rw [allFrom_of_read hr, allFrom_of_read hread, List.cons_append]
      rcases ht.of_read hr with rfl | hrest
      · have hline := allFrom_restOfLine (t := []) (by simp) s
        rw [List.nil_append] at hline ⊢
        rw [hline, allFrom_nil, List.nil_append]
      · rw [ih rest.length (hn ▸ rest_length_lt hr) hrest false rfl]
    · -- No statement is read here, neither in the text alone nor with `s` behind it.
      obtain ⟨c, t, rfl⟩ := List.exists_cons_of_ne_nil ht.ne_nil
      have hnone : lineStart = true → read (c :: t) = none := by
        intro hstart
        rw [← Option.not_isSome_iff_eq_none]
        exact fun hsome => hblock ⟨hstart, hsome⟩
      have hnone' : lineStart = true → read (c :: (t ++ '\n' :: s)) = none := by
        intro hstart
        rw [← List.cons_append, hread, hnone hstart]
        rfl
      rw [List.cons_append, allFrom_cons hnone, allFrom_cons hnone']
      rcases ht.of_cons with hrest | ⟨rfl, hline⟩
      · exact ih t.length (hn ▸ Nat.lt_succ_self _) hrest _ rfl
      · have hc : (';' == '\n') = false := by decide
        rw [hc, allFrom_restOfLine hline, allFrom_line hline, List.nil_append]

/-- Behind a script that ends in a semicolon another one has its own statements. -/
theorem all_append {a : Text} (ha : EndsStatement a) (b : Text) :
    all (a ++ '\n' :: b) = all a ++ all b :=
  allFrom_append ha true b

end Block

/-- The tables of a script that ends in a semicolon, and then those of the lines behind it. The
first error in this order is that of the whole. -/
theorem tables_append {a : Text} (ha : Block.EndsStatement a) (b : Text) :
    Script.tables (a ++ '\n' :: b) =
      match Script.tables a with
      | .error e => .error e
      | .ok xs =>
        match Script.tables b with
        | .error e => .error e
        | .ok ys => .ok (xs ++ ys) := by
  rw [Script.tables, Block.all_append ha, List.mapM_append]
  show (Script.tables a >>= fun xs => Script.tables b >>= fun ys => pure (xs ++ ys)) = _
  cases Script.tables a with
  | error e => rfl
  | ok xs => cases Script.tables b <;> rfl

/-- Behind a table that reads, a faulty statement fails the script and another table joins it. -/
theorem tables_append_faulty :
    Block.EndsStatement "CREATE TABLE `t`\n(`a` int;b\n); \t\r".toList ∧
      Script.tables "CREATE TABLE `t`\n(`a` int;b\n); \t\r\nCREATE TABLE (\n);".toList =
        .error (.noTableName "CREATE TABLE".toList) ∧
      ∃ t u, Script.tables "CREATE TABLE `t`\n(`a` int;b\n); \t\r".toList = .ok [t] ∧
        Script.tables
          "CREATE TABLE `t`\n(`a` int;b\n); \t\r\nCREATE TABLE `u` (\n`c` text\n);".toList =
            .ok [t, u] ∧
        t.name = ⟨none, ['t']⟩ ∧ u.columns = [(['c'], "text".toList, true)] := by
  have ha : Block.EndsStatement "CREATE TABLE `t`\n(`a` int;b\n); \t\r".toList :=
    ⟨"CREATE TABLE `t`\n(`a` int;b\n)".toList, [' ', '\t'], ['\r'], by decide,
      List.all_eq_true.mp (by decide), by decide⟩
  have hfirst : (Script.tables "CREATE TABLE `t`\n(`a` int;b\n); \t\r".toList).map
      (·.map Table.name) = .ok [⟨none, ['t']⟩] := by
    decide +kernel
  have hfaulty : Script.tables "CREATE TABLE (\n);".toList =
      .error (.noTableName "CREATE TABLE".toList) := by
    decide +kernel
  have hsecond : (Script.tables "CREATE TABLE `u` (\n`c` text\n);".toList).map
      (·.map Table.columns) = .ok [[(['c'], "text".toList, true)]] := by
    decide +kernel
  obtain ⟨t, ht, hname⟩ := exists_singleton_of_map_ok hfirst
  obtain ⟨u, hu, hcolumns⟩ := exists_singleton_of_map_ok hsecond
  have hfails := tables_append ha "CREATE TABLE (\n);".toList
  have hreads := tables_append ha "CREATE TABLE `u` (\n`c` text\n);".toList
  rw [ht, hfaulty] at hfails
  rw [ht, hu] at hreads
  exact ⟨ha, hfails, t, u, ht, hreads, hname, hcolumns⟩

end SqlOutline
