import QueryAlgebra.Proofs.Pieces
import QueryAlgebra.Proofs.Plateau
import QueryAlgebra.Proofs.PrintedLines

/-!
# The log over many rounds

Rounds are run one after another, the first without a log and each further one with the log
that the one before it left.  Whatever the conditions of the rounds are, a round either
leaves the log as it is or appends one line to it, with one JSON object in it: so every line
of the log can be read, and the line at a place has the number of this place as its round.
Since a round can read all lines that rounds have written, it never gives up the log because
of them: it appends its line if and only if the coverage measurement has finished, its report
and the other children give findings, and the failures among these can be counted.

Main results:

- Theorem `Log.lines_textOf`: the lines of a text of JSON objects are these objects.
- Theorem `Findings.isEntry_logLine`: the line of a round can be read back.
- Theorem `Round.isLog_step`: what one round does to a log.
- Theorem `Round.isLog_logAfter`: what any number of rounds leave as a log.
- Theorem `Round.log_of_rounds`: the log after any number of rounds, and after one more.
-/

namespace QueryAlgebra

/-! ## Lines of a log -/

namespace Text

/-- A text without carriage returns keeps its line ends. -/
theorem unified_of_not_mem {s : Text} (hs : '\r' ∉ s) : unified s = s := by
  induction s with
  | nil => rfl
  | cons c s ih =>
      rw [List.mem_cons, not_or] at hs
      rw [unified, if_neg (Ne.symm hs.1), ih hs.2]
      intro rest hcons
      exact absurd hcons (Ne.symm hs.1)

/-- A text that starts with a character that is no blank is not blank. -/
theorem trim_ne_nil {c : Char} (hc : isBlank c = false) (s : Text) : trim (c :: s) ≠ [] := by
  intro htrim
  rw [trim, trimStart, List.dropWhile_cons_of_neg (by simp [hc]), trimEnd,
    List.reverse_eq_nil_iff, List.dropWhile_eq_nil_iff] at htrim
  have hblank := htrim c (by simp)
  rw [hc] at hblank
  contradiction

end Text

namespace Audit
namespace Log

/-- The text of a log with a line for each of these objects. -/
def textOf (entries : List (List (String × Json))) : Text :=
  entries.flatMap fun fields => (Json.obj fields).render ++ ['\n']

/-- A further entry is written on a line of its own. -/
@[simp]
theorem textOf_concat (entries : List (List (String × Json))) (fields : List (String × Json)) :
    textOf (entries ++ [fields]) = textOf entries ++ (Json.obj fields).render ++ ['\n'] := by
  simp [textOf]

/-- The pieces of a log are its entries and what stands behind the last line end. -/
theorem pieces_textOf (entries : List (List (String × Json))) :
    Text.pieces '\n' (textOf entries) =
      (entries.map fun fields => (Json.obj fields).render) ++ [[]] := by
  induction entries with
  | nil => rfl
  | cons fields entries ih =>
      have hline : '\n' ∉ (Json.obj fields).render := fun hmem =>
        absurd (Json.printable_render _ _ hmem) (by decide)
      have hcons : textOf (fields :: entries) =
          (Json.obj fields).render ++ '\n' :: textOf entries := by
        simp [textOf]
      rw [hcons, Text.pieces_append_sep, Text.pieces_of_not_mem hline, ih]
      rfl

/-- Entries are written without carriage returns. -/
theorem unified_textOf (entries : List (List (String × Json))) :
    Text.unified (textOf entries) = textOf entries := by
  refine Text.unified_of_not_mem fun hreturn => ?_
  rcases List.mem_flatMap.mp hreturn with ⟨fields, -, hmem⟩
  rcases List.mem_append.mp hmem with hmem | hmem
  · exact absurd (Json.printable_render _ _ hmem) (by decide)
  · exact absurd hmem (by decide)

/-- The lines of a log of objects are these objects. -/
theorem lines_textOf (entries : List (List (String × Json))) :
    lines (textOf entries) = entries.map fun fields => (Json.obj fields).render := by
  have hlines : ∀ line ∈ entries.map (fun fields => (Json.obj fields).render),
      (!(Text.trim line).isEmpty) = true := by
    rw [List.forall_mem_map]
    intro fields _
    have hhead : ∃ more, (Json.obj fields).render = '\x7b' :: more := ⟨_, by rw [Json.render]⟩
    rcases hhead with ⟨more, hrender⟩
    simpa [hrender] using Text.trim_ne_nil (by decide : isBlank '\x7b' = false) more
  rw [lines, unified_textOf, pieces_textOf, List.filter_append, List.filter_eq_self.mpr hlines]
  simp [Text.trim, Text.trimStart, Text.trimEnd]

/-- An object that a round can have left in the log: it is read back, and it has its number. -/
structure IsEntry (number : Nat) (fields : List (String × Json)) : Prop where
  parse : Json.parse (Json.obj fields).render = .ok (.obj fields)
  round : Json.field? "round" fields = some (.int number)
  kept : isKept (Json.obj fields).render = true

/-- The log holds these objects, one on each line, and each has the number of its line. -/
structure IsLog (log : Option Text) (entries : List (List (String × Json))) : Prop where
  text : log.getD [] = textOf entries
  entry : ∀ i fields, entries[i]? = some fields → IsEntry (i + 1) fields

/-- No log is a log without entries. -/
theorem isLog_none : IsLog none [] where
  text := rfl
  entry := by simp

/-- A further object on a line of its own continues a log. -/
theorem IsLog.concat {log : Option Text} {entries : List (List (String × Json))}
    (hlog : IsLog log entries) {fields : List (String × Json)}
    (hfields : IsEntry (entries.length + 1) fields) :
    IsLog (some (log.getD [] ++ (Json.obj fields).render ++ ['\n'])) (entries ++ [fields]) where
  text := by rw [textOf_concat, ← hlog.text, Option.getD_some]
  entry := by
    intro i found hfound
    rcases Nat.lt_trichotomy i entries.length with hlt | rfl | hgt
    · rw [List.getElem?_append_left hlt] at hfound
      exact hlog.entry i found hfound
    · rw [List.getElem?_append_right (Nat.le_refl _), Nat.sub_self] at hfound
      cases hfound
      exact hfields
    · rw [List.getElem?_eq_none (by simp; omega)] at hfound
      contradiction

section History

variable {log : Option Text} {entries : List (List (String × Json))} (hlog : IsLog log entries)
include hlog

/-- The lines of a log are its entries. -/
theorem IsLog.lines_eq :
    lines (log.getD []) = entries.map fun fields => (Json.obj fields).render := by
  rw [hlog.text, lines_textOf]

/-- The next round has the number of the next line. -/
theorem IsLog.nextRound_eq : nextRound (log.getD []) = entries.length + 1 := by
  rw [nextRound, hlog.lines_eq, List.length_map]

/-- A log that rounds have written can be continued. -/
theorem IsLog.exists_sinceLast (now : Binary64) :
    ∃ time, (history now (log.getD [])).sinceLast = some time := by
  have hkept : ∀ line ∈ lines (log.getD []), isKept line = true := by
    rw [hlog.lines_eq, List.forall_mem_map]
    intro fields hmem
    rcases List.mem_iff_getElem?.mp hmem with ⟨i, hi⟩
    exact (hlog.entry i fields hi).kept
  rcases history_of_kept hkept now with ⟨time, hhistory⟩
  exact ⟨time, by rw [hhistory]⟩

end History

end Log

/-! ## Names that are read from reports -/

/-- What holds of nothing and of all that is read from values holds of what a round hears. -/
theorem Round.heard_induction {α : Type} {P : α → Prop} (file : Option Text) (runner : String)
    (read : Json → α × Option Reading.Fault) (nothing : α) (child : Child) (hnothing : P nothing)
    (hread : ∀ j, j.Keyed → P (read j).1) : P (heard file runner read nothing child).found := by
  unfold heard
  split
  · unfold Reading.ofChild
    split
    · exact hnothing
    · split
      · exact hnothing
      · split
        · exact hnothing
        · rename_i report hparse
          have hreport := hread report (Json.keyed_of_parse hparse)
          rcases hfound : read report with ⟨found, _ | fault⟩ <;>
            simpa [hfound] using hreport
  · exact hnothing

/-- The fields that are read from a value without repeated keys have different keys. -/
theorem Reading.keys_of_fields {use : String} {j : Json} (hj : j.Keyed)
    {found : List (String × Json)} (hfound : fields use j = .ok found) :
    (found.map Prod.fst).Nodup := by
  unfold fields at hfound
  split at hfound
  · cases hfound
    rw [Json.Keyed] at hj
    exact hj.1
  · split at hfound
    · cases hfound
      exact List.nodup_nil
    · cases hfound

/-- The field that is read from a value without repeated keys has none either. -/
theorem Reading.keyed_of_field {key : String} {j value : Json} (hj : j.Keyed)
    (hvalue : field key j = .ok value) : value.Keyed := by
  unfold field at hvalue
  split at hvalue
  · rename_i found
    cases hvalue
    rw [Json.Keyed] at hj
    cases hget : Json.field? key found with
    | none => trivial
    | some value => exact Json.keyed_of_field? hj.2 hget
  · cases hvalue

/-- No bench has two shares in a report. -/
theorem ShareReport.nodup_read {j : Json} (hj : j.Keyed) :
    ((read j).1.shares.map Share.name).Nodup := by
  have hshares {shares : List Share} (hread : readShares j = .ok shares) :
      (shares.map Share.name).Nodup := by
    simp only [readShares, bind_eq_ok_iff] at hread
    rcases hread with ⟨part, hpart, found, hfound, numbers, hnumbers, heq⟩
    cases heq
    have hnames : numbers.map Prod.fst = found.map Prod.fst := by
      refine map_eq_map_of_mapM ?_ hnumbers
      rintro ⟨name, value⟩ ⟨name', x⟩ hx
      rcases map_eq_ok_iff.mp hx with ⟨y, -, heq⟩
      cases heq
      rfl
    have hkeys := Reading.keys_of_fields (Reading.keyed_of_field hj hpart) hfound
    rw [← hnames] at hkeys
    simpa [Function.comp_def] using hkeys
  unfold read
  split
  · exact List.nodup_nil
  · rename_i shares hread
    split
    · exact hshares hread
    · exact hshares hread

/-- The benches that are judged are those of the rows, as far as these are read. -/
theorem Judged.names_sublist (modified : Bool) (rows : List (String × Json)) :
    ((ofRows modified rows).1.map Judged.name).Sublist (rows.map Prod.fst) := by
  induction rows with
  | nil => exact .slnil
  | cons entry rest ih =>
      unfold ofRows
      split
      · contradiction
      · rename_i name row more heq
        cases heq
        split
        · exact List.nil_sublist _
        · rename_i j hj
          simp only [ofRow, bind_eq_ok_iff] at hj
          rcases hj with ⟨o, -, v, -, heq⟩
          cases heq
          exact ih.cons_cons name
      · rename_i heq
        cases heq
        exact ih.cons _

/-- No bench is judged twice. -/
theorem Judged.nodup_ofReport (modified : Bool) {j : Json} (hj : j.Keyed) :
    ((ofReport modified j).1.map Judged.name).Nodup := by
  unfold ofReport
  split
  · exact List.nodup_nil
  · rename_i rows hrows
    replace hrows : (Reading.field "semcheck" j >>= Reading.fields "items") = .ok rows := hrows
    rcases bind_eq_ok_iff.mp hrows with ⟨part, hpart, hrows⟩
    have hkeys := Reading.keys_of_fields (Reading.keyed_of_field hj hpart) hrows
    exact hkeys.sublist (names_sublist modified rows)

/-! ## The line of a round -/

namespace Findings

/-- The fields of the line for the log. -/
def logFields (f : Findings) (now sinceLast : Binary64) (failures : Nat) :
    List (String × Json) :=
  match f.logLine now sinceLast failures with
  | .obj fields => fields
  | _ => []

theorem logLine_eq (f : Findings) (now sinceLast : Binary64) (failures : Nat) :
    f.logLine now sinceLast failures = .obj (f.logFields now sinceLast failures) :=
  rfl

/-- No object in the line of a round has a key twice, if no bench was reported twice. -/
theorem keyed_logLine {f : Findings} (hshares : (f.timing.shares.map Share.name).Nodup)
    (hjudged : (f.judged.map Judged.name).Nodup) (now sinceLast : Binary64) (failures : Nat) :
    (f.logLine now sinceLast failures).Keyed := by
  have hpercents : (Json.obj (f.timing.shares.map fun s => (s.name, .float s.percent))).Keyed := by
    rw [Json.Keyed, Json.keyedFields_iff, List.forall_mem_map]
    exact ⟨by simpa [Json.keys, Function.comp_def] using hshares, fun _ _ => trivial⟩
  have hverdicts : (Json.obj (f.judged.map fun j => (j.name, .str j.verdict.word))).Keyed := by
    rw [Json.Keyed, Json.keyedFields_iff, List.forall_mem_map]
    exact ⟨by simpa [Json.keys, Function.comp_def] using hjudged, fun _ _ => trivial⟩
  have hbelow : (if f.measured = 0 then Json.null else .int f.below).Keyed := by
    split <;> trivial
  have hkeys : (Json.keys (f.logFields now sinceLast failures)).Nodup := by
    simp [Json.keys, logFields, logLine]
  rw [logLine_eq, Json.Keyed]
  exact ⟨hkeys, trivial, trivial, trivial, trivial, trivial, trivial, trivial, trivial, trivial,
    hpercents, hbelow, hverdicts, trivial, trivial⟩

/-- The line of a round is read back, has the number of the round, and can be continued. -/
theorem isEntry_logLine {f : Findings} (hshares : (f.timing.shares.map Share.name).Nodup)
    (hjudged : (f.judged.map Judged.name).Nodup) (now sinceLast : Binary64) (failures : Nat) :
    Log.IsEntry f.number (f.logFields now sinceLast failures) := by
  have hparse := Json.parse_render (keyed_logLine hshares hjudged now sinceLast failures)
  rw [logLine_eq] at hparse
  refine ⟨hparse, rfl, ?_⟩
  have hcount : Json.field? "n_below_repo_time" (f.logFields now sinceLast failures) =
      some (if f.measured = 0 then .null else .int f.below) :=
    rfl
  have htime : Json.field? "ts" (f.logFields now sinceLast failures) = some (.float now) := rfl
  have hcoverage : Json.field? "coverage_pct" (f.logFields now sinceLast failures) =
      some (.float f.figures.percent) :=
    rfl
  rw [Log.isKept, hparse]
  simp only [htime, hcoverage, hcount, Option.all_some]
  split <;> rfl

end Findings

/-! ## Rounds -/

namespace Round

/-- No bench has two shares. -/
theorem nodup_timing (c : Conditions) : ((timing c).found.shares.map Share.name).Nodup :=
  heard_induction (P := fun r : ShareReport => (r.shares.map Share.name).Nodup) _ _ _ _ _
    List.nodup_nil fun _ hj => ShareReport.nodup_read hj

/-- No bench has two verdicts. -/
theorem nodup_judged (c : Conditions) : ((judged c).found.map Judged.name).Nodup :=
  heard_induction (P := fun found : List Judged => (found.map Judged.name).Nodup) _ _ _ _ _
    List.nodup_nil fun _ hj => Judged.nodup_ofReport _ hj

/-- The coverage measurement has finished without an error and has left a report. -/
structure IsCovered (c : Conditions) (report stderr : Text) : Prop where
  finished : ∃ stdout, c.children.coverage = .finished stdout stderr 0
  report : c.files.coverage = some report

/-- A round with a coverage report goes on with it. -/
theorem run_of_isCovered {c : Conditions} {report stderr : Text}
    (hcovered : IsCovered c report stderr) : run c = covered c report stderr := by
  rcases hcovered.finished with ⟨stdout, hfinished⟩
  simp [run, hfinished, hcovered.report]

/-- Without a coverage measurement a round leaves the log alone. -/
theorem log_of_not_isCovered {c : Conditions}
    (hcovered : ∀ report stderr, ¬ IsCovered c report stderr) : (run c).log = c.files.log := by
  unfold run
  split
  · rfl
  · rename_i stdout stderr code hfinished
    split
    · rename_i report hreport
      split
      · rename_i hcode
        exact absurd ⟨⟨stdout, by rw [hfinished, hcode]⟩, hreport⟩ (hcovered report stderr)
      · rfl
    · rfl

/--
The round has something to log: the coverage measurement has finished, its report and the
other children give findings, and the failures of the benches can be counted.
-/
def Logs (c : Conditions) : Prop :=
  ∃ report stderr f errors count, IsCovered c report stderr ∧
    survey c report stderr = .ok (f, errors) ∧ Reading.length f.figures.failures = .ok count

/-- A round appends an object with the next number if it has something to log, or nothing. -/
theorem isLog_step {c : Conditions} {entries : List (List (String × Json))}
    (hlog : Log.IsLog c.files.log entries) :
    (¬ Logs c → (run c).log = c.files.log) ∧
      (Logs c → ∃ fields, Log.IsEntry (entries.length + 1) fields ∧
        (run c).log = some (c.files.log.getD [] ++ (Json.obj fields).render ++ ['\n'])) := by
  rcases hlog.exists_sinceLast c.now with ⟨sinceLast, hsince⟩
  constructor
  · intro hnothing
    -- Without a line either nothing was covered, or the findings or their failures were not read.
    by_cases hcovered : ∃ report stderr, IsCovered c report stderr
    · rcases hcovered with ⟨report, stderr, hcovered⟩
      rw [run_of_isCovered hcovered, covered]
      cases hsurvey : survey c report stderr with
      | error fault => rfl
      | ok found =>
          rcases found with ⟨f, errors⟩
          cases hcount : Reading.length f.figures.failures with
          | error fault => simp [concluded, Findings.appended, hsince, hcount]
          | ok count =>
              exact absurd ⟨report, stderr, f, errors, count, hcovered, hsurvey, hcount⟩ hnothing
    · simp only [not_exists] at hcovered
      exact log_of_not_isCovered hcovered
  · rintro ⟨report, stderr, f, errors, count, hcovered, hsurvey, hcount⟩
    refine ⟨f.logFields c.now sinceLast count, ?_, ?_⟩
    · rcases exists_of_survey hsurvey with ⟨figures, -, rfl, -⟩
      rw [← hlog.nextRound_eq]
      exact Findings.isEntry_logLine (f := findings c figures) (nodup_timing c) (nodup_judged c)
        c.now sinceLast count
    · rw [run_of_isCovered hcovered, covered, hsurvey]
      simp only [concluded, Findings.appended, hsince, hcount, ← Findings.logLine_eq]

/-- The conditions of a round with another log. -/
def withLog (c : Conditions) (log : Option Text) : Conditions :=
  { c with files := { c.files with log } }

@[simp]
theorem withLog_log (c : Conditions) (log : Option Text) : (withLog c log).files.log = log :=
  rfl

/-- The log after rounds, each of which finds the log that the one before it left. -/
def logAfter (log : Option Text) (rounds : List Conditions) : Option Text :=
  rounds.foldl (fun log c => (run (withLog c log)).log) log

/-- The last round continues the log that the earlier ones left. -/
@[simp]
theorem logAfter_concat (log : Option Text) (rounds : List Conditions) (c : Conditions) :
    logAfter log (rounds ++ [c]) = (run (withLog c (logAfter log rounds))).log := by
  rw [logAfter, List.foldl_append]
  rfl

/-- Any number of rounds leave a log of objects with their numbers, which starts as before. -/
theorem isLog_logAfter {log : Option Text} {entries : List (List (String × Json))}
    (hlog : Log.IsLog log entries) (rounds : List Conditions) :
    ∃ more, Log.IsLog (logAfter log rounds) (entries ++ more) := by
  induction rounds generalizing log entries with
  | nil => exact ⟨[], by rwa [List.append_nil]⟩
  | cons c rounds ih =>
      have hstep := isLog_step (c := withLog c log) hlog
      by_cases hlogs : Logs (withLog c log)
      · rcases hstep.2 hlogs with ⟨fields, hfields, hrun⟩
        rcases ih (hlog.concat hfields) with ⟨more, hmore⟩
        refine ⟨fields :: more, ?_⟩
        rw [List.append_cons, logAfter, List.foldl_cons, hrun]
        exact hmore
      · rw [logAfter, List.foldl_cons, hstep.1 hlogs]
        exact ih hlog

/--
The log after any number of rounds from none on.  It has an object on each line, every line
is read back, and the object on a line has the number of the line.  Further rounds keep all
of it.  One more round leaves it as it is or appends exactly one such line: it does the
latter if and only if it has something to log, and so never without a coverage measurement.
-/
theorem log_of_rounds (rounds : List Conditions) :
    ∃ entries : List (List (String × Json)),
      ((logAfter none rounds).getD [] =
        entries.flatMap fun fields => (Json.obj fields).render ++ ['\n']) ∧
      Log.lines ((logAfter none rounds).getD []) =
        (entries.map fun fields => (Json.obj fields).render) ∧
      (∀ i fields, entries[i]? = some fields →
        Json.parse (Json.obj fields).render = .ok (.obj fields) ∧
          Json.field? "round" fields = some (.int ((i + 1 : Nat) : Int))) ∧
      (∀ further, (logAfter none rounds).getD [] <+:
        (logAfter none (rounds ++ further)).getD []) ∧
      ∀ c, (¬ Logs (withLog c (logAfter none rounds)) →
          logAfter none (rounds ++ [c]) = logAfter none rounds) ∧
        (Logs (withLog c (logAfter none rounds)) →
          ∃ fields, Printable (Json.obj fields).render ∧
            Json.parse (Json.obj fields).render = .ok (.obj fields) ∧
            Json.field? "round" fields = some (.int ((entries.length + 1 : Nat) : Int)) ∧
            logAfter none (rounds ++ [c]) =
              some ((logAfter none rounds).getD [] ++ (Json.obj fields).render ++ ['\n'])) ∧
        ((∀ report stderr, ¬ IsCovered c report stderr) →
          logAfter none (rounds ++ [c]) = logAfter none rounds) := by
  rcases isLog_logAfter Log.isLog_none rounds with ⟨entries, hlog⟩
  rw [List.nil_append] at hlog
  refine ⟨entries, hlog.text, hlog.lines_eq, ?_, ?_, ?_⟩
  · intro i fields hfields
    exact ⟨(hlog.entry i fields hfields).parse, (hlog.entry i fields hfields).round⟩
  · intro further
    -- The further rounds continue the log that the first ones left.
    rcases isLog_logAfter hlog further with ⟨more, hmore⟩
    have happend : logAfter none (rounds ++ further) = logAfter (logAfter none rounds) further :=
      List.foldl_append
    rw [happend, hmore.text, hlog.text]
    exact ⟨Log.textOf more, by simp [Log.textOf]⟩
  · intro c
    have hstep := isLog_step (c := withLog c (logAfter none rounds)) hlog
    rw [logAfter_concat]
    refine ⟨hstep.1, fun hlogs => ?_, fun hcovered => ?_⟩
    · rcases hstep.2 hlogs with ⟨fields, hfields, hrun⟩
      exact ⟨fields, Json.printable_render _, hfields.parse, hfields.round, hrun⟩
    · refine log_of_not_isCovered fun report stderr hhas => hcovered report stderr ?_
      exact ⟨hhas.finished, hhas.report⟩

/-- A round that fails only when it writes its tables has left its line before. -/
example :
    (Log.lines ((logAfter none [roundWith "[]", roundWith "[\"q\"]"]).getD [])).length = 2 := by
  decide +kernel

end Round

end Audit
end QueryAlgebra
