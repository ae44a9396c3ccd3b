import QueryAlgebra.Audit.Coverage
import QueryAlgebra.Proofs.JsonReadBack

/-!
# Notes in coverage reports

A report is read, gets two notes and is written back.  All else in it stays as it
was: every other field, at every level, keeps its value and its place among the
others.  The notes tell which benches failed, in the order of their names, and how
many benches there are.  A failure that is not fatal is one of the notes; a fatal
one leaves the report as it was.

Main results:

- Theorem `Bench.raises_iff`: which benches fail, in their call or in the run behind it.
- Theorems `exists_tally_iff` and `counts_of_tally`: which suites have a tally, and what
  it tells about them.
- Theorem `written_of_report`: what a report that is written back says.
-/

namespace QueryAlgebra
namespace Audit

/-! ## Benches that fail -/

namespace Bench

/-- The entry is a bench: it can be called, and its name is that of a bench. -/
def isBench (b : Bench) : Bool :=
  nameStart.isPrefixOf b.name.toList && b.body.isSome

/-- The call of the entry fails, or else the run that the call left pending. -/
def Raises (b : Bench) (f : Failure) : Prop :=
  ∃ body, b.body = some body ∧
    (b.call body 0 [] = .error f ∨ b.call body 0 [] = .ok .pending ∧ body.run 0 [] = .error f)

/-- A run fails in the call of the bench or in the run that the call left pending. -/
theorem run_eq_error_iff (b : Bench) (body : Body) (f : Failure) :
    b.run body 0 [] = .error f ↔
      b.call body 0 [] = .error f ∨ b.call body 0 [] = .ok .pending ∧ body.run 0 [] = .error f := by
  unfold run
  cases hcall : b.call body 0 [] with
  | error g => simp [Except.bind]
  | ok called => cases called <;> simp [Except.bind, finish]

/-- Calling a bench and starting its run fails just as the run of its body does. -/
theorem run_eq (b : Bench) (body : Body) (earlier : Nat) (setting : Setting) :
    b.run body earlier setting = body.run earlier setting := by
  cases hdeferred : b.deferred with
  | true => simp [run, call, hdeferred, Except.bind, finish]
  | false =>
      cases hbody : body.run earlier setting <;>
        simp [run, call, hdeferred, hbody, Except.map, Except.bind, finish]

/-- A bench fails just as the first run of its body does, in the call or behind it. -/
theorem raises_iff (b : Bench) (f : Failure) :
    b.Raises f ↔ ∃ body, b.body = some body ∧ body.run 0 [] = .error f := by
  simp only [Raises, ← run_eq_error_iff, run_eq]

/-- The body of a bench is the body of an entry that is one. -/
theorem body?_eq_some_iff (b : Bench) (body : Body) :
    b.body? = some body ↔ b.isBench = true ∧ b.body = some body := by
  unfold body? isBench
  by_cases hname : nameStart.isPrefixOf b.name.toList = true
  · rw [if_pos hname, hname, Bool.true_and]
    constructor
    · intro hbody
      exact ⟨by simp [hbody], hbody⟩
    · exact fun h => h.2
  · simp [hname]

theorem isSome_body? (b : Bench) : b.body?.isSome = b.isBench := by
  unfold body? isBench
  split
  · next hname => rw [hname, Bool.true_and]
  · next hname => simp [hname]

end Bench

namespace Suite

/-- No two entries have the same name. -/
def Distinct : Suite → Prop
  | loaded entries => (entries.map Bench.name).Nodup
  | unloadable _ => True

/-- No bench fails fatally, and loading the benches does not either. -/
def Survivable : Suite → Prop
  | loaded entries => ∀ b ∈ entries, b.isBench = true → ∀ f, b.Raises f → f.fatal = false
  | unloadable f => f.fatal = false

variable {entries : List Bench}

/-- Entries with different names are sorted by their names and nothing else is done to them. -/
theorem ascending_eq (hnames : (entries.map Bench.name).Nodup) :
    ascending entries = entries.mergeSort fun a b => decide (a.name ≤ b.name) := by
  have hkeys : ((entries.map fun b => (b.name, b)).map Prod.fst).Nodup := by
    simpa [Function.comp_def] using hnames
  rw [ascending, Entries.ofList_of_nodup hkeys]
  simp [Function.comp_def]

/-- Sorting entries with different names loses none of them. -/
theorem ascending_perm (hnames : (entries.map Bench.name).Nodup) :
    (ascending entries).Perm entries := by
  rw [ascending_eq hnames]
  exact List.mergeSort_perm _ _

/-- Entries with different names stand in the order of their names. -/
theorem ascending_pairwise (hnames : (entries.map Bench.name).Nodup) :
    (ascending entries).Pairwise fun a b => a.name < b.name := by
  have hle : (ascending entries).Pairwise fun a b => a.name ≤ b.name := by
    rw [ascending_eq hnames]
    have hsorted : (entries.mergeSort fun a b => decide (a.name ≤ b.name)).Pairwise
        fun a b => decide (a.name ≤ b.name) = true := by
      refine List.pairwise_mergeSort ?_ ?_ entries
      · simpa using fun a b c : Bench => le_trans
      · simpa using fun a b : Bench => le_total a.name b.name
    simpa using hsorted
  have hne : (ascending entries).Pairwise fun a b => a.name ≠ b.name := by
    have hperm := ((ascending_perm hnames).map Bench.name).nodup_iff.mpr hnames
    exact List.pairwise_map.mp hperm
  exact (hle.and hne).imp fun h => lt_of_le_of_ne h.1 h.2

/-- The benches of a suite are its entries that are benches, with their bodies. -/
theorem mem_benches (hnames : (entries.map Bench.name).Nodup) {b : Bench} {body : Body} :
    (b, body) ∈ benches entries ↔ b ∈ entries ∧ b.isBench = true ∧ b.body = some body := by
  simp only [benches, List.mem_filterMap, Option.map_eq_some_iff, Prod.mk.injEq,
    (ascending_perm hnames).mem_iff]
  constructor
  · rintro ⟨b', hmem, body', hbody, rfl, rfl⟩
    exact ⟨hmem, (b'.body?_eq_some_iff body').mp hbody⟩
  · rintro ⟨hmem, hbody⟩
    exact ⟨b, hmem, body, (b.body?_eq_some_iff body).mpr hbody, rfl, rfl⟩

/-- Benches stand in the order of their names. -/
theorem benches_pairwise (hnames : (entries.map Bench.name).Nodup) :
    (benches entries).Pairwise fun x y => x.1.name < y.1.name := by
  refine (ascending_pairwise hnames).filterMap _ ?_
  intro a b hlt x hx y hy
  obtain ⟨body, -, rfl⟩ := Option.map_eq_some_iff.mp hx
  obtain ⟨body', -, rfl⟩ := Option.map_eq_some_iff.mp hy
  exact hlt

theorem length_benches (hnames : (entries.map Bench.name).Nodup) :
    (benches entries).length = entries.countP Bench.isBench := by
  have hcount : (benches entries).length = (ascending entries).countP Bench.isBench := by
    rw [benches, List.length_filterMap_eq_countP]
    congr 1
    funext b
    rw [Option.isSome_map, Bench.isSome_body?]
  rw [hcount, (ascending_perm hnames).countP_eq]

end Suite

namespace Coverage

/-! ## Tallies -/

/-- The note on a run, if the run fails. -/
def noteOf (found : Bench × Body) : Option (String × String) :=
  match found.1.run found.2 0 [] with
  | .ok _ => none
  | .error f => some (found.1.name, f.text)

/-- No run of the benches fails fatally. -/
def RunsOn (found : List (Bench × Body)) : Prop :=
  ∀ entry ∈ found, ∀ f, entry.1.run entry.2 0 [] = .error f → f.fatal = false

/-- A note names the bench that failed and its failure. -/
theorem noteOf_eq_some_iff {b : Bench} {body : Body} {name text : String} :
    noteOf (b, body) = some (name, text) ↔
      ∃ f, b.run body 0 [] = .error f ∧ b.name = name ∧ f.text = text := by
  unfold noteOf
  cases b.run body 0 [] <;> simp

/-- One bench more: its failure is noted, or ends it all if it is fatal. -/
theorem failuresOf_cons (b : Bench) (body : Body) (rest : List (Bench × Body)) :
    failuresOf ((b, body) :: rest) =
      match b.run body 0 [] with
      | .ok _ => failuresOf rest
      | .error f =>
        if f.fatal then .error f else (failuresOf rest).map ((b.name, f.text) :: ·) := by
  rw [failuresOf, failureOf]
  cases b.run body 0 [] with
  | ok v => cases failuresOf rest <;> rfl
  | error f => cases hfatal : f.fatal <;> simp [Failure.recover, Except.map, Except.bind, hfatal]

/-- A bench that finishes stops nothing. -/
theorem runsOn_cons_of_ok {b : Bench} {body : Body} {rest : List (Bench × Body)} {v : Value}
    (hrun : b.run body 0 [] = .ok v) : RunsOn ((b, body) :: rest) ↔ RunsOn rest := by
  simp [RunsOn, hrun]

/-- A bench that fails stops the others if its failure is fatal. -/
theorem runsOn_cons_of_error {b : Bench} {body : Body} {rest : List (Bench × Body)} {f : Failure}
    (hrun : b.run body 0 [] = .error f) :
    RunsOn ((b, body) :: rest) ↔ f.fatal = false ∧ RunsOn rest := by
  simp [RunsOn, hrun]

/-- The benches are gone through to the end if and only if none fails fatally. -/
theorem failuresOf_eq_ok_iff {found : List (Bench × Body)} {failures : List (String × String)} :
    failuresOf found = .ok failures ↔ RunsOn found ∧ found.filterMap noteOf = failures := by
  induction found generalizing failures with
  | nil => simp [failuresOf, RunsOn]
  | cons entry rest ih =>
      obtain ⟨b, body⟩ := entry
      rw [failuresOf_cons, List.filterMap_cons]
      cases hrun : b.run body 0 [] with
      | ok v =>
          have hnote : noteOf (b, body) = none := by simp [noteOf, hrun]
          simp only [hnote, ih, runsOn_cons_of_ok hrun]
      | error f =>
          have hnote : noteOf (b, body) = some (b.name, f.text) := by simp [noteOf, hrun]
          simp only [hnote, runsOn_cons_of_error hrun]
          cases hfatal : f.fatal with
          | true => simp
          | false =>
              cases hrest : failuresOf rest with
              | error g =>
                  have hnot : ¬ RunsOn rest := fun hruns => by
                    rw [ih.mpr ⟨hruns, rfl⟩] at hrest
                    cases hrest
                  simp [Except.map, hnot]
              | ok more =>
                  obtain ⟨hruns, rfl⟩ := ih.mp hrest
                  simp [Except.map, hruns]

/-- What a tally tells about a suite: which benches fail, in the order of their names, and
how many benches there are; or how loading them failed. -/
def Counts (t : Tally) : Suite → Prop
  | .loaded entries =>
    (t.failures.map Prod.fst).Pairwise (· < ·) ∧
      (∀ name text, (name, text) ∈ t.failures ↔
        ∃ b ∈ entries, b.isBench = true ∧ ∃ f, b.Raises f ∧
          b.name = name ∧ f.kind ++ ": " ++ f.message = text) ∧
      t.count = entries.countP Bench.isBench
  | .unloadable f => t.failures = [("<import>", f.kind ++ ": " ++ f.message)] ∧ t.count = 0

/-- The benches run on to the end if nothing in the suite fails fatally. -/
theorem runsOn_benches_iff {entries : List Bench} (hnames : (entries.map Bench.name).Nodup) :
    RunsOn (Suite.benches entries) ↔ (Suite.loaded entries).Survivable := by
  constructor
  · rintro hruns b hb hbench f ⟨body, hbody, hraises⟩
    refine hruns (b, body) ((Suite.mem_benches hnames).mpr ⟨hb, hbench, hbody⟩) f ?_
    exact (b.run_eq_error_iff body f).mpr hraises
  · rintro hsurvivable ⟨b, body⟩ hentry f hrun
    obtain ⟨hb, hbench, hbody⟩ := (Suite.mem_benches hnames).mp hentry
    exact hsurvivable b hb hbench f ⟨body, hbody, (b.run_eq_error_iff body f).mp hrun⟩

/-- A suite has a tally if and only if nothing fails fatally. -/
theorem exists_tally_iff {suite : Suite} (hsuite : suite.Distinct) :
    (∃ t, tally suite = .ok t) ↔ suite.Survivable := by
  cases suite with
  | loaded entries =>
      rw [← runsOn_benches_iff hsuite]
      constructor
      · rintro ⟨t, htally⟩
        cases hfailures : failuresOf (Suite.benches entries) with
        | error f => simp [tally, hfailures, Except.map] at htally
        | ok failures => exact (failuresOf_eq_ok_iff.mp hfailures).1
      · intro hruns
        have hfailures := failuresOf_eq_ok_iff.mpr ⟨hruns, rfl⟩
        exact ⟨_, by rw [tally, hfailures]; rfl⟩
  | unloadable f =>
      cases hfatal : f.fatal <;> simp [tally, Suite.Survivable, hfatal]

section Notes

variable {entries : List Bench} (hnames : (entries.map Bench.name).Nodup)
include hnames

/-- Notes stand in the order of the names of the benches. -/
theorem names_filterMap_noteOf :
    (((Suite.benches entries).filterMap noteOf).map Prod.fst).Pairwise (· < ·) := by
  rw [List.pairwise_map]
  refine (Suite.benches_pairwise hnames).filterMap _ ?_
  rintro ⟨a, body⟩ ⟨b, body'⟩ hlt ⟨name, text⟩ hnote ⟨name', text'⟩ hnote'
  obtain ⟨-, -, rfl, -⟩ := noteOf_eq_some_iff.mp hnote
  obtain ⟨-, -, rfl, -⟩ := noteOf_eq_some_iff.mp hnote'
  exact hlt

/-- The notes are those of the benches that fail. -/
theorem mem_filterMap_noteOf (name text : String) :
    (name, text) ∈ (Suite.benches entries).filterMap noteOf ↔
      ∃ b ∈ entries, b.isBench = true ∧ ∃ f, b.Raises f ∧
        b.name = name ∧ f.kind ++ ": " ++ f.message = text := by
  rw [List.mem_filterMap]
  constructor
  · rintro ⟨⟨b, body⟩, hentry, hnote⟩
    obtain ⟨f, hrun, hname, htext⟩ := noteOf_eq_some_iff.mp hnote
    obtain ⟨hb, hbench, hbody⟩ := (Suite.mem_benches hnames).mp hentry
    exact ⟨b, hb, hbench, f, ⟨body, hbody, (b.run_eq_error_iff body f).mp hrun⟩, hname, htext⟩
  · rintro ⟨b, hb, hbench, f, ⟨body, hbody, hraises⟩, hname, htext⟩
    refine ⟨(b, body), (Suite.mem_benches hnames).mpr ⟨hb, hbench, hbody⟩, ?_⟩
    exact noteOf_eq_some_iff.mpr ⟨f, (b.run_eq_error_iff body f).mpr hraises, hname, htext⟩

end Notes

/-- A tally tells which benches fail and how many there are. -/
theorem counts_of_tally {suite : Suite} {t : Tally} (hsuite : suite.Distinct)
    (htally : tally suite = .ok t) : Counts t suite := by
  cases suite with
  | loaded entries =>
      cases hfailures : failuresOf (Suite.benches entries) with
      | error f => simp [tally, hfailures, Except.map] at htally
      | ok failures =>
          rw [tally, hfailures] at htally
          cases htally
          obtain ⟨-, rfl⟩ := failuresOf_eq_ok_iff.mp hfailures
          exact ⟨names_filterMap_noteOf hsuite, mem_filterMap_noteOf hsuite,
            Suite.length_benches hsuite⟩
  | unloadable f =>
      rw [tally] at htally
      split at htally
      · cases htally
      · cases htally
        exact ⟨rfl, rfl⟩

/-- No bench is noted twice. -/
theorem nodup_of_counts {suite : Suite} {t : Tally} (ht : Counts t suite) :
    (t.failures.map Prod.fst).Nodup := by
  cases suite with
  | loaded entries => exact ht.1.imp fun hlt => hlt.ne
  | unloadable f => simp [ht.1]

/-! ## Reports -/

/-- The notes of a report are an object, if there are any. -/
def HasNotes (fields : List (String × Json)) : Prop :=
  ∀ value, Json.field? notesKey fields = some value → ∃ found, value = .obj found

/-- The notes of a report; none if it has no notes. -/
def notesOf (fields : List (String × Json)) : List (String × Json) :=
  match Json.field? notesKey fields with
  | some (.obj found) => found
  | _ => []

/-- The failures of a tally as an object. -/
def failuresJson (t : Tally) : Json :=
  .obj (t.failures.map fun (name, text) => (name, .str text))

/--
A report with the notes of a tally.  But for the two notes, every field of the report
and every one of its notes is as it was before, and they stand in the same order.
-/
structure Noted (t : Tally) (before after : List (String × Json)) : Prop where
  fields : after.filter (fun field => field.1 ≠ notesKey) =
    before.filter fun field => field.1 ≠ notesKey
  order : Json.keys after =
    if notesKey ∈ Json.keys before then Json.keys before else Json.keys before ++ [notesKey]
  hasNotes : Json.field? notesKey after = some (.obj (notesOf after))
  notes : (notesOf after).filter (fun note => note.1 ≠ failuresKey ∧ note.1 ≠ countKey) =
    (notesOf before).filter fun note => note.1 ≠ failuresKey ∧ note.1 ≠ countKey
  failures : Json.field? failuresKey (notesOf after) = some (failuresJson t)
  count : Json.field? countKey (notesOf after) = some (.int t.count)

/-- The notes of a report are read if they are an object or missing. -/
theorem notes_eq {fields : List (String × Json)} (hfields : HasNotes fields) :
    notes fields = .ok (notesOf fields) := by
  unfold notes notesOf
  cases hvalue : Json.field? notesKey fields with
  | none => rfl
  | some value =>
      obtain ⟨found, rfl⟩ := hfields value hvalue
      rfl

/-- The notes of a report with those of a tally. -/
def addedNotes (t : Tally) (fields : List (String × Json)) : List (String × Json) :=
  Json.setField countKey (.int t.count)
    (Json.setField failuresKey (failuresJson t) (notesOf fields))

/-- The fields of a report with the notes of a tally. -/
def annotated (t : Tally) (fields : List (String × Json)) : List (String × Json) :=
  Json.setField notesKey (.obj (addedNotes t fields)) fields

/-- A report with readable notes gets the notes of the tally. -/
theorem annotate_eq (t : Tally) {fields : List (String × Json)} (hfields : HasNotes fields) :
    annotate t (.obj fields) = .ok (.obj (annotated t fields)) := by
  rw [annotate, notes_eq hfields]
  rfl

/-- The notes of an annotated report are the added ones. -/
theorem field?_annotated (t : Tally) (fields : List (String × Json)) :
    Json.field? notesKey (annotated t fields) = some (.obj (addedNotes t fields)) := by
  simp [annotated]

/-- All other fields of an annotated report are as before. -/
theorem field?_annotated_of_ne (t : Tally) (fields : List (String × Json)) {key : String}
    (hkey : key ≠ notesKey) : Json.field? key (annotated t fields) = Json.field? key fields := by
  rw [annotated, Json.field?_setField_of_ne hkey]

theorem notesOf_annotated (t : Tally) (fields : List (String × Json)) :
    notesOf (annotated t fields) = addedNotes t fields := by
  rw [notesOf, field?_annotated]

/-- Nothing but the two notes is changed. -/
theorem noted_annotated (t : Tally) (fields : List (String × Json)) :
    Noted t fields (annotated t fields) := by
  have hnotes := notesOf_annotated t fields
  constructor
  · rw [annotated, Json.setField_eq_set]
    exact Entries.filter_set (fun key => decide (key ≠ notesKey)) (by simp) _ fields
  · rw [annotated, Json.setField_eq_set]
    exact Entries.map_fst_set _ _ _
  · rw [hnotes, field?_annotated]
  · rw [hnotes, addedNotes, Json.setField_eq_set, Json.setField_eq_set]
    let p : String → Bool := fun key => decide (key ≠ failuresKey ∧ key ≠ countKey)
    have hcount := Entries.filter_set p (by simp [p] : p countKey = false) (.int t.count)
      (Entries.set failuresKey (failuresJson t) (notesOf fields))
    have hfailures := Entries.filter_set p (by simp [p] : p failuresKey = false)
      (failuresJson t) (notesOf fields)
    exact hcount.trans hfailures
  · have hkeys : failuresKey ≠ countKey := by decide
    rw [hnotes, addedNotes, Json.field?_setField_of_ne hkeys, Json.field?_setField_self]
  · rw [hnotes, addedNotes, Json.field?_setField_self]

/-- The notes of a report have no key twice. -/
theorem keyed_notesOf {fields : List (String × Json)} (hfields : (Json.obj fields).Keyed) :
    (Json.obj (notesOf fields)).Keyed := by
  rw [Json.Keyed] at hfields
  unfold notesOf
  split
  · next found hfound => exact Json.keyed_of_field? hfields.2 hfound
  · exact Json.keyed_empty

/-- The noted failures have no key twice. -/
theorem keyed_failuresJson {t : Tally} (ht : (t.failures.map Prod.fst).Nodup) :
    (failuresJson t).Keyed := by
  have hkeys : Json.keys (t.failures.map fun (name, text) => (name, Json.str text)) =
      t.failures.map Prod.fst := by
    simp [Json.keys, Function.comp_def]
  rw [failuresJson, Json.Keyed, hkeys, Json.keyedFields_iff]
  refine ⟨ht, ?_⟩
  simp only [List.forall_mem_map]
  exact fun _ _ => trivial

/-- The report that is written back can be read. -/
theorem keyed_annotated {t : Tally} {fields : List (String × Json)}
    (ht : (t.failures.map Prod.fst).Nodup) (hfields : (Json.obj fields).Keyed) :
    (Json.obj (annotated t fields)).Keyed := by
  have hfailures := Json.keyed_setField (keyed_notesOf hfields) failuresKey (keyed_failuresJson ht)
  have hadded : (Json.obj (addedNotes t fields)).Keyed :=
    Json.keyed_setField hfailures countKey trivial
  exact Json.keyed_setField hfields notesKey hadded

/-- A suite with a tally has its report written back. -/
theorem amend_of_tally {suite : Suite} {t : Tally} {report : Text}
    {fields : List (String × Json)} (htally : tally suite = .ok t)
    (hreport : Json.parse report = .ok (.obj fields)) (hnotes : HasNotes fields) :
    amend suite report =
      .ok ⟨Json.render (.obj (annotated t fields)), summary t (.obj (annotated t fields))⟩ := by
  rw [amend, htally, hreport]
  simp only [Except.mapError, bind, Except.bind, annotate_eq t hnotes]

/-- A fatal failure ends the measurement before the report is read. -/
theorem amend_of_stopped {suite : Suite} {f : Failure} (htally : tally suite = .error f)
    (report : Text) : amend suite report = .error (.stopped f) := by
  rw [amend, htally]
  rfl

/-- A report without totals cannot be summed up. -/
theorem summary_of_no_totals (t : Tally) {fields : List (String × Json)}
    (htotals : Json.field? "totals" fields = none) :
    summary t (.obj fields) = .error (.missing "totals") := by
  have hrequired : required "totals" (.obj fields) = .error (.missing "totals") := by
    rw [required, htotals]
  rw [summary, hrequired]
  rfl

/--
A report is written back if and only if nothing fails fatally.  It then holds the notes on
the benches and is otherwise as it was, even where it has no totals to be summed up.
-/
theorem written_of_report {suite : Suite} {report : Text} {fields : List (String × Json)}
    (hsuite : suite.Distinct) (hreport : Json.parse report = .ok (.obj fields))
    (hnotes : HasNotes fields) :
    ((∃ amended, amend suite report = .ok amended) ↔ suite.Survivable) ∧
      ∀ amended, amend suite report = .ok amended →
        ∃ t after, Counts t suite ∧ Json.parse amended.written = .ok (.obj after) ∧
          Noted t fields after ∧
          (Json.field? "totals" fields = none → amended.summary = .error (.missing "totals")) := by
  rw [← exists_tally_iff hsuite]
  cases htally : tally suite with
  | error f =>
      have hstopped := amend_of_stopped htally report
      simp [hstopped]
  | ok t =>
      have hamend := amend_of_tally htally hreport hnotes
      have hcounts := counts_of_tally hsuite htally
      refine ⟨⟨fun _ => ⟨t, rfl⟩, fun _ => ⟨_, hamend⟩⟩, ?_⟩
      rintro amended hamended
      rw [hamend] at hamended
      cases hamended
      have hkeyed := keyed_annotated (nodup_of_counts hcounts) (Json.keyed_of_parse hreport)
      refine ⟨t, _, hcounts, Json.parse_render hkeyed, noted_annotated t fields, ?_⟩
      intro htotals
      refine summary_of_no_totals t ?_
      rw [field?_annotated_of_ne t fields (by decide), htotals]

/-- A bench that is run behind its call and fails, one that cannot be called, and one that runs. -/
def mixedBenches : List Bench :=
  [⟨"bench_b", some (.failing ⟨"ValueError", "b", false⟩), true, [], []⟩,
    ⟨"bench_c", none, false, [], []⟩, ⟨"bench_a", some .count, false, [], []⟩]

/-- A report without totals. -/
def bareReport : List (String × Json) :=
  [("meta", .obj [("version", .str "7.6"), ("_pti_n_benches", .int 9)]),
    ("files", .arr [.float .nan])]

theorem keyed_bareReport : (Json.obj bareReport).Keyed := by
  simp [bareReport, Json.Keyed, Json.KeyedItems, Json.KeyedFields, Json.keys]

/-- A report without totals is written back with its notes, and then summing it up fails. -/
theorem written_bareReport :
    ∃ amended t after, amend (.loaded mixedBenches) (Json.obj bareReport).render = .ok amended ∧
      Counts t (.loaded mixedBenches) ∧ Json.parse amended.written = .ok (.obj after) ∧
      Noted t bareReport after ∧ amended.summary = .error (.missing "totals") := by
  have hsuite : (Suite.loaded mixedBenches).Distinct := by
    simp [Suite.Distinct, mixedBenches]
  have hnotes : HasNotes bareReport := by
    intro value hvalue
    exact ⟨_, (Option.some.inj hvalue).symm⟩
  have hsurvivable : (Suite.loaded mixedBenches).Survivable := by
    simp [Suite.Survivable, mixedBenches, Bench.raises_iff, Body.failing, Body.count]
  obtain ⟨hwritten, hnoted⟩ :=
    written_of_report hsuite (Json.parse_render keyed_bareReport) hnotes
  obtain ⟨amended, hamended⟩ := hwritten.mpr hsurvivable
  obtain ⟨t, after, hcounts, hparse, hafter, hsummary⟩ := hnoted amended hamended
  exact ⟨amended, t, after, hamended, hcounts, hparse, hafter, hsummary rfl⟩

/-- A bench that is interrupted. -/
def interruptedBench : Bench :=
  ⟨"bench_a", some (.failing ⟨"KeyboardInterrupt", "stop", true⟩), false, [], []⟩

/-- A report with totals and without notes. -/
def totalsReport : List (String × Json) :=
  [("totals", .obj [("percent_covered", .int 70), ("covered_lines", .int 7),
    ("num_statements", .int 10)])]

/-- A bench that is interrupted fails like others, but its failure is not noted. -/
theorem amend_interruptedBench :
    interruptedBench.isBench = true ∧
      interruptedBench.Raises ⟨"KeyboardInterrupt", "stop", true⟩ ∧
      amend (.loaded [interruptedBench]) (Json.obj totalsReport).render =
        .error (.stopped ⟨"KeyboardInterrupt", "stop", true⟩) := by
  have hascending : Suite.ascending [interruptedBench] = [interruptedBench] := by
    rw [Suite.ascending_eq (by simp)]
    exact List.mergeSort_singleton _
  have hbenches : Suite.benches [interruptedBench] =
      [(interruptedBench, .failing ⟨"KeyboardInterrupt", "stop", true⟩)] := by
    rw [Suite.benches, hascending]
    rfl
  have htally : tally (.loaded [interruptedBench]) =
      .error ⟨"KeyboardInterrupt", "stop", true⟩ := by
    rw [tally, hbenches]
    rfl
  exact ⟨by decide, (Bench.raises_iff _ _).mpr ⟨_, rfl, rfl⟩, amend_of_stopped htally _⟩

end Coverage
end Audit
end QueryAlgebra
