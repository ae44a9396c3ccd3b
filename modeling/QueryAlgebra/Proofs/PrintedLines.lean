import QueryAlgebra.Audit.TimeShare
import QueryAlgebra.Proofs.CoverageNotes
import QueryAlgebra.Proofs.RoundCompletion

/-!
# Reports on one line

The written form of a JSON value is made of printable ASCII characters, whatever texts and
numbers stand in it: everything else is escaped.  None of these characters ends a line, so a
value with a line end behind it is one line, and who takes the last line of it takes the whole
value.  The self-check and the time shares are reported in this way for every suite in which
nothing fails fatally, however its benches and parameters are named and whatever their
failures say.

Main results:

- Theorem `Json.printable_render`: the written form of a value is printable.
- Theorem `Json.lines_render`: with a line end behind it, it is a single line.
- Theorems `SelfCheck.rows_of_harmless` and `TimeShare.rows_of_harmless`: if nothing fails
  fatally, every bench has the row that it has on its own.
- Theorem `reports_on_one_line`: both reports on such a suite are one line each.
-/

namespace QueryAlgebra

/-! ## Printable texts -/

/-- An ASCII character from the space to the tilde. -/
def IsPrintable (c : Char) : Prop :=
  0x20 ≤ c.toNat ∧ c.toNat ≤ 0x7E

instance (c : Char) : Decidable (IsPrintable c) :=
  inferInstanceAs (Decidable (_ ∧ _))

/-- A text of printable ASCII characters. -/
def Printable (s : Text) : Prop :=
  ∀ c ∈ s, IsPrintable c

instance (s : Text) : Decidable (Printable s) :=
  Scan.decidableForallMem IsPrintable s

@[simp] theorem printable_nil : Printable [] :=
  fun _ hc => absurd hc List.not_mem_nil

theorem printable_cons {c : Char} {s : Text} (hc : IsPrintable c) (hs : Printable s) :
    Printable (c :: s) :=
  List.forall_mem_cons.mpr ⟨hc, hs⟩

namespace Printable

variable {s t : Text}

theorem append (hs : Printable s) (ht : Printable t) : Printable (s ++ t) := by
  intro c hc
  exact (List.mem_append.mp hc).elim (hs c) (ht c)

theorem subset (ht : Printable t) (hst : s ⊆ t) : Printable s :=
  fun c hc => ht c (hst hc)

theorem replicate {c : Char} (hc : IsPrintable c) (k : Nat) : Printable (List.replicate k c) := by
  intro d hd
  rwa [List.eq_of_mem_replicate hd]

theorem flatMap {α : Type} {items : List α} {f : α → Text} (hf : ∀ item, Printable (f item)) :
    Printable (items.flatMap f) := by
  intro c hc
  rcases List.mem_flatMap.mp hc with ⟨item, -, hmem⟩
  exact hf item c hmem

theorem ite {p : Prop} [Decidable p] (hs : Printable s) (ht : Printable t) :
    Printable (if p then s else t) := by
  split
  · exact hs
  · exact ht

end Printable

/-! ## Numbers -/

theorem printable_decimalDigits (n : Nat) : Printable (decimalDigits n) := by
  intro c hc
  have hdigit := isDigit_of_mem_decimalDigits hc
  rw [Char.isDigit_iff_toNat] at hdigit
  exact ⟨le_trans (by decide) hdigit.1, le_trans hdigit.2 (by decide)⟩

theorem printable_intText (n : Int) : Printable (intText n) := by
  rw [intText]
  exact .ite (printable_cons (by decide) (printable_decimalDigits _)) (printable_decimalDigits _)

namespace NumberStyle

theorem printable_sign (negative : Bool) : Printable (sign negative) := by
  revert negative
  decide

theorem printable_pointed {digits : Text} (hdigits : Printable digits) :
    Printable (pointed digits) := by
  unfold pointed
  split
  · exact printable_nil
  · exact hdigits
  · next d more _ =>
    rcases List.forall_mem_cons.mp hdigits with ⟨hd, hmore⟩
    exact printable_cons hd (printable_cons (by decide) hmore)

theorem printable_positional {digits : Text} (hdigits : Printable digits) (top : Int) :
    Printable (positional digits top) := by
  have hzeros := Printable.replicate (c := '0') (by decide)
  unfold positional
  split
  · exact (Printable.append (by decide) (hzeros _)).append hdigits
  · refine .ite ((hdigits.append (hzeros _)).append (by decide)) ?_
    have hstart := hdigits.subset (List.take_subset (top.toNat + 1) digits)
    have hend := hdigits.subset (List.drop_subset (top.toNat + 1) digits)
    exact (hstart.append (by decide)).append hend

theorem printable_exponentText (style : NumberStyle) (top : Int) :
    Printable (style.exponentText top) := by
  have hsign : Printable ['e', if top < 0 then '-' else '+'] := by
    split <;> decide
  exact (hsign.append (.replicate (by decide) _)).append (printable_decimalDigits _)

/-- Decimals are printable in every style. -/
theorem printable_decimalText (style : NumberStyle) (d : Decimal) :
    Printable (style.decimalText d) := by
  have hdigits := printable_decimalDigits d.coefficient
  refine (printable_sign _).append (.ite ?_ (printable_positional hdigits _))
  exact (printable_pointed hdigits).append (printable_exponentText style _)

/-- A style whose words are printable writes every number so. -/
theorem printable_text {style : NumberStyle} (hinfinity : Printable style.infinityWord)
    (hnan : Printable style.nanWord) (x : Binary64) : Printable (style.text x) := by
  cases x with
  | nan => exact hnan
  | infinite negative => exact (printable_sign negative).append hinfinity
  | finite negative m q h => exact printable_decimalText style _

end NumberStyle

/-! ## Written JSON -/

namespace Json

theorem printable_digitChar : ∀ d < 16, IsPrintable (Nat.digitChar d) := by
  decide

theorem printable_toDigits (n : Nat) : Printable (Nat.toDigits 16 n) := by
  induction n using Nat.strongRecOn with
  | _ n ih =>
      rcases Nat.lt_or_ge n 16 with hsmall | hlarge
      · rw [Nat.toDigits_of_lt_base hsmall]
        exact printable_cons (printable_digitChar n hsmall) printable_nil
      · rw [Nat.toDigits_of_base_le (by decide) hlarge]
        have hlast := printable_digitChar (n % 16) (Nat.mod_lt n (by decide))
        exact (ih (n / 16) (by omega)).append (printable_cons hlast printable_nil)

theorem printable_unitEscape (n : Nat) : Printable (unitEscape n) :=
  Printable.append (by decide) ((Printable.replicate (by decide) _).append (printable_toDigits n))

/-- Every character has a printable form within quotes. -/
theorem printable_charText (c : Char) : Printable (charText c) := by
  unfold charText
  iterate 7 refine .ite (by decide) ?_
  split
  · next hself => exact printable_cons hself printable_nil
  · exact .ite (printable_unitEscape _) ((printable_unitEscape _).append (printable_unitEscape _))

/-- A quoted text is printable, whatever the text is. -/
theorem printable_quoted (s : Text) : Printable (quoted s) :=
  (Printable.append (by decide) (.flatMap printable_charText)).append (by decide)

mutual

/-- The written form of a value is made of printable ASCII characters. -/
theorem printable_render : ∀ j : Json, Printable (render j)
  | null => by
      rw [render]
      decide
  | bool true => by
      rw [render]
      decide
  | bool false => by
      rw [render]
      decide
  | int n => by
      rw [render]
      exact printable_intText n
  | float x => by
      rw [render]
      exact NumberStyle.printable_text (by decide) (by decide) x
  | str s => by
      rw [render]
      exact printable_quoted s.toList
  | arr [] => by
      rw [render, renderItems]
      decide
  | arr (item :: items) => by
      rw [render, renderItems]
      exact printable_cons (by decide)
        ((printable_render item).append (printable_renderMoreItems items))
  | obj [] => by
      rw [render, renderFields]
      decide
  | obj ((key, value) :: fields) => by
      rw [render, renderFields]
      have hkey := (printable_quoted key.toList).append (t := [':', ' ']) (by decide)
      exact printable_cons (by decide)
        ((hkey.append (printable_render value)).append (printable_renderMoreFields fields))

/-- So are the items of an array. -/
theorem printable_renderMoreItems : ∀ items : List Json, Printable (renderMoreItems items)
  | [] => by
      rw [renderMoreItems]
      decide
  | item :: items => by
      rw [renderMoreItems]
      exact (Printable.append (by decide) (printable_render item)).append
        (printable_renderMoreItems items)

/-- So are the fields of an object. -/
theorem printable_renderMoreFields :
    ∀ fields : List (String × Json), Printable (renderMoreFields fields)
  | [] => by
      rw [renderMoreFields]
      decide
  | (key, value) :: fields => by
      rw [renderMoreFields]
      have hkey := (Printable.append (s := [',', ' ']) (by decide)
        (printable_quoted key.toList)).append (t := [':', ' ']) (by decide)
      exact (hkey.append (printable_render value)).append (printable_renderMoreFields fields)

end

end Json

/-! ## Lines -/

namespace Text

/-- A printable character ends no line. -/
theorem linesFrom_cons_of_printable {c : Char} (hc : IsPrintable c) (line rest : Text) :
    linesFrom line (c :: rest) = linesFrom (c :: line) rest := by
  have hreturn : c ≠ '\r' := by
    rintro rfl
    revert hc
    decide
  have hends : endsLine c = false := by
    unfold IsPrintable at hc
    simp only [endsLine, Bool.or_eq_false_iff, Bool.and_eq_false_iff, decide_eq_false_iff_not,
      beq_eq_false_iff_ne]
    omega
  rw [linesFrom]
  · simp [hends]
  · intro more hcons
    exact absurd hcons hreturn

/-- A printable stretch stays on its line. -/
theorem linesFrom_append_of_printable {s : Text} (hs : Printable s) (line rest : Text) :
    linesFrom line (s ++ rest) = linesFrom (s.reverse ++ line) rest := by
  induction s generalizing line with
  | nil => rfl
  | cons c s ih =>
      rcases List.forall_mem_cons.mp hs with ⟨hc, hs⟩
      rw [List.cons_append, linesFrom_cons_of_printable hc, ih hs]
      simp

/-- A printable text with a line end behind it is a single line. -/
theorem lines_of_printable {s : Text} (hs : Printable s) : lines (s ++ ['\n']) = [s] := by
  have hend : linesFrom s.reverse ['\n'] = [s] := by
    simp [linesFrom, endsLine]
  rw [lines, linesFrom_append_of_printable hs, List.append_nil, hend]

end Text

/-- The written form of a value with a line end behind it is a single line. -/
theorem Json.lines_render (j : Json) : Text.lines (j.render ++ ['\n']) = [j.render] :=
  Text.lines_of_printable j.printable_render

namespace Audit

/-! ## What can fail -/

/-- What fails in a list of items that cannot all be read fails in one of them. -/
theorem exists_error_of_mapM {α β ε : Type} {f : α → Except ε β} {xs : List α} {e : ε}
    (hread : xs.mapM f = .error e) : ∃ x ∈ xs, f x = .error e := by
  induction xs with
  | nil => cases hread
  | cons x xs ih =>
      rw [List.mapM_cons] at hread
      cases hx : f x with
      | error e' =>
          rw [hx] at hread
          cases hread
          exact ⟨x, List.mem_cons_self, hx⟩
      | ok y =>
          cases hxs : xs.mapM f with
          | error e' =>
              rw [hx, hxs] at hread
              cases hread
              rcases ih hxs with ⟨item, hitem, hfails⟩
              exact ⟨item, List.mem_cons_of_mem x hitem, hfails⟩
          | ok ys =>
              rw [hx, hxs] at hread
              cases hread

/-- Items that can all be read one by one are read together. -/
theorem mapM_eq_ok_map {α β ε : Type} {f : α → Except ε β} {g : α → β} {xs : List α}
    (hread : ∀ x ∈ xs, f x = .ok (g x)) : xs.mapM f = .ok (xs.map g) := by
  induction xs with
  | nil => rfl
  | cons x xs ih =>
      rcases List.forall_mem_cons.mp hread with ⟨hx, hxs⟩
      rw [List.mapM_cons, hx, ih hxs]
      rfl

/-- No run fails fatally, whatever ran before and with any parameters. -/
def Body.Harmless (body : Body) : Prop :=
  ∀ earlier setting f, body.run earlier setting = .error f → f.fatal = false

namespace Suite

/-- No run of a bench fails fatally, and loading the benches does not either. -/
def Harmless : Suite → Prop
  | loaded entries => ∀ b ∈ entries, ∀ body, b.body? = some body → body.Harmless
  | unloadable f => f.fatal = false

/-- Sorting entries adds none. -/
theorem mem_of_mem_ascending {entries : List Bench} {b : Bench} (hb : b ∈ ascending entries) :
    b ∈ entries := by
  rcases List.mem_map.mp (List.mem_mergeSort.mp hb) with ⟨entry, hentry, rfl⟩
  rcases List.mem_map.mp (Entries.mem_of_mem_ofList hentry) with ⟨given, hgiven, rfl⟩
  exact hgiven

/-- The benches of a suite are entries with a body. -/
theorem body?_of_mem_benches {entries : List Bench} {b : Bench} {body : Body}
    (hb : (b, body) ∈ benches entries) : b ∈ entries ∧ b.body? = some body := by
  rcases List.mem_filterMap.mp hb with ⟨found, hascending, hfound⟩
  rcases Option.map_eq_some_iff.mp hfound with ⟨body', hbody, hpair⟩
  cases hpair
  exact ⟨mem_of_mem_ascending hascending, hbody⟩

/-- No bench of a harmless suite fails fatally. -/
theorem Harmless.body_harmless {entries : List Bench} (hentries : (loaded entries).Harmless)
    {b : Bench} {body : Body} (hb : (b, body) ∈ benches entries) : body.Harmless := by
  rcases body?_of_mem_benches hb with ⟨hmem, hbody⟩
  exact hentries b hmem body hbody

end Suite

/-! ## Rows -/

namespace SelfCheck

/-- A value without a fingerprint is no fatal failure. -/
theorem fatal_of_printOf {v : Value} {f : Failure} (hprint : printOf v = .error f) :
    f.fatal = false := by
  unfold printOf at hprint
  split at hprint
  · cases hprint
  · cases hprint
    rfl

section Harmless

variable {b : Bench} {body : Body} (hbody : body.Harmless) {f : Failure}
include hbody

/-- What fails in observing a harmless bench is not fatal. -/
theorem fatal_of_observe {earlier : Nat} {setting : Setting}
    (hobserve : observe b body earlier setting = .error f) : f.fatal = false := by
  rw [observe, Bench.run_eq] at hobserve
  cases hrun : body.run earlier setting with
  | error g =>
      rw [hrun] at hobserve
      cases hobserve
      exact hbody earlier setting f hrun
  | ok v =>
      rw [hrun] at hobserve
      cases hprint : printOf v with
      | error g =>
          simp only [Except.bind, hprint, Except.map] at hobserve
          cases hobserve
          exact fatal_of_printOf hprint
      | ok print =>
          simp only [Except.bind, hprint, Except.map] at hobserve
          cases hobserve

/-- The failure that ends the runs with settings is one of a run or of a fingerprint. -/
theorem fatal_of_settingRuns {settings : List Setting} {earlier : Nat} {row : Row}
    (hruns : (settingRuns b body earlier settings row).2 = some f) : f.fatal = false := by
  induction settings generalizing earlier row with
  | nil => cases hruns
  | cons setting more ih =>
      unfold settingRuns at hruns
      split at hruns
      · rename_i g hobserve
        cases hruns
        exact fatal_of_observe hbody hobserve
      · split at hruns
        · rename_i g hprints
          cases hruns
          rcases exists_error_of_mapM hprints with ⟨entry, -, hprint⟩
          exact fatal_of_printOf hprint
        · exact ih hruns

/-- The failure that ends the runs of a harmless bench is not fatal. -/
theorem fatal_of_runs (hruns : (runs b body).2 = some f) : f.fatal = false := by
  unfold runs at hruns
  split at hruns
  · rename_i g hobserve
    cases hruns
    exact fatal_of_observe hbody hobserve
  · split at hruns
    · rename_i g hobserve
      cases hruns
      exact fatal_of_observe hbody hobserve
    · exact fatal_of_settingRuns hbody hruns

end Harmless

/-- The row that a bench gets if it does not fail fatally. -/
def shownRow (b : Bench) (body : Body) : Row :=
  match (runs b body).2 with
  | none => (runs b body).1
  | some f => (runs b body).1.markFailed f

/-- A harmless bench always has a row. -/
theorem rowOf_of_harmless (b : Bench) {body : Body} (hbody : body.Harmless) :
    rowOf b body = .ok (shownRow b body) := by
  unfold rowOf shownRow
  rcases hruns : runs b body with ⟨row, _ | f⟩
  · rfl
  · have hfatal := fatal_of_runs (b := b) (f := f) hbody (by rw [hruns])
    simp [hfatal]

/-- If nothing fails fatally, every bench has the row that it has on its own. -/
theorem rows_of_harmless {entries : List Bench} (hentries : (Suite.loaded entries).Harmless) :
    rows entries =
      .ok ((Suite.benches entries).map fun e => (e.1.name, shownRow e.1 e.2)) := by
  refine mapM_eq_ok_map ?_
  rintro ⟨b, body⟩ hb
  simp only [rowOf_of_harmless b (hentries.body_harmless hb), Except.map]

/-- Rows as JSON. -/
def rowsJson (found : List (String × Row)) : List (String × Json) :=
  found.map fun entry => (entry.1, entry.2.toJson)

end SelfCheck

namespace TimeShare

/-- The row that a bench gets if it does not fail fatally. -/
def shownRow (b : Bench) (body : Body) : Row :=
  match body.run 0 [] with
  | .ok _ => rowOf (b.profile 0)
  | .error f => Row.failed f

/-- If nothing fails fatally, every bench has the row that it has on its own. -/
theorem rows_of_harmless {entries : List Bench} (hentries : (Suite.loaded entries).Harmless) :
    rows entries =
      .ok ((Suite.benches entries).map fun e => (e.1.name, shownRow e.1 e.2)) := by
  refine mapM_eq_ok_map ?_
  rintro ⟨b, body⟩ hb
  simp only [Bench.run_eq, shownRow]
  cases hrun : body.run 0 [] with
  | ok v => rfl
  | error f =>
      have hfatal := hentries.body_harmless hb 0 [] f hrun
      simp [Failure.recover, Except.map, hfatal]

end TimeShare

/-! ## Reports -/

/-- What is written is a JSON object on a single line of printable characters. -/
structure Output.OneLine (out : Output) (j : Json) : Prop where
  stdout : out.stdout = j.render ++ ['\n']
  printable : Printable j.render
  lines : Text.lines out.stdout = [j.render]
  last : Reading.lastLine out.stdout = some j.render

/-- Who takes the last line of a value with a line end behind it takes the whole value. -/
theorem Reading.lastLine_render (j : Json) : lastLine (j.render ++ ['\n']) = some j.render := by
  rcases j.render_head with ⟨c, more, hrender, -⟩
  rw [lastLine, Json.lines_render, hrender]
  rfl

/-- A value with a line end behind it is written on one line. -/
theorem Output.oneLine_render (j : Json) (exit : Option Int) :
    OneLine ⟨j.render ++ ['\n'], exit⟩ j :=
  ⟨rfl, j.printable_render, j.lines_render, Reading.lastLine_render j⟩

/-- The report that the benches could not be loaded. -/
theorem Output.oneLine_unloadable (f : Failure) :
    (unloadable f).OneLine (.obj [("_import_error", .str f.text)]) :=
  oneLine_render _ _

/-- The self-check reports the rows of all benches. -/
theorem SelfCheck.report_of_rows {entries : List Bench} {found : List (String × Row)}
    (hrows : rows entries = .ok found) :
    report (.loaded entries) =
      .ok ⟨(Json.obj [("semcheck", .obj (rowsJson found))]).render ++ ['\n'], none⟩ := by
  rw [report, hrows]
  rfl

/-- The time shares report the rows of all benches. -/
theorem TimeShare.report_of_rows {entries : List Bench} {found : List (String × Row)}
    (hrows : rows entries = .ok found) :
    report (.loaded entries) = .ok ⟨(rowsJson found).render ++ ['\n'], none⟩ := by
  rw [report, hrows]
  rfl

/--
Both reports on a suite in which nothing fails fatally are there, and each is one line that
holds a whole JSON value.  This is so even where the benches could not be loaded.
-/
theorem reports_on_one_line {suite : Suite} (hsuite : suite.Harmless) :
    (∃ out j, SelfCheck.report suite = .ok out ∧ out.OneLine j) ∧
      ∃ out j, TimeShare.report suite = .ok out ∧ out.OneLine j := by
  cases suite with
  | loaded entries =>
      have hcheck := SelfCheck.report_of_rows (SelfCheck.rows_of_harmless hsuite)
      have hshares := TimeShare.report_of_rows (TimeShare.rows_of_harmless hsuite)
      exact ⟨⟨_, _, hcheck, Output.oneLine_render _ none⟩,
        ⟨_, _, hshares, Output.oneLine_render _ none⟩⟩
  | unloadable f =>
      have hfatal : ¬ f.fatal = true := by
        rw [show f.fatal = false from hsuite]
        exact Bool.false_ne_true
      exact ⟨⟨_, _, if_neg hfatal, Output.oneLine_unloadable f⟩,
        ⟨_, _, if_neg hfatal, Output.oneLine_unloadable f⟩⟩

/-- A bench that fails, and whose name and failure hold line ends and a separator. -/
def brokenBench : Bench :=
  ⟨"bench_\n\u2028", some (.failing ⟨"E\u0085", "\r\n😀", false⟩), true, [[("n", .text ['\n'])]], []⟩

/-- Names and messages that hold line ends are written on one line too. -/
theorem reports_of_brokenBench :
    (Suite.loaded [brokenBench]).Harmless ∧ brokenBench.isBench = true ∧
      (∃ out j, SelfCheck.report (.loaded [brokenBench]) = .ok out ∧ out.OneLine j) ∧
      ∃ out j, TimeShare.report (.loaded [brokenBench]) = .ok out ∧ out.OneLine j := by
  have hharmless : (Suite.loaded [brokenBench]).Harmless := by
    intro b hb body hbody earlier setting f hrun
    rw [List.mem_singleton.mp hb] at hbody
    cases hbody
    cases hrun
    rfl
  exact ⟨hharmless, by decide, reports_on_one_line hharmless⟩

/-- A message that holds line ends is written on one line too. -/
example : Text.lines (Output.unloadable ⟨"E", "\n\r", false⟩).stdout =
    ["\x7b\"_import_error\": \"E: \\n\\r\"\x7d".toList] := by
  decide

end Audit
end QueryAlgebra
