import QueryAlgebra.Proofs.PrintedLines

/-!
# Benches that are accepted

The self-check runs each bench and writes a report, and a round reads that report and gives
its verdicts.  Between the two stand rows that a failure left half filled, a line of JSON,
and a cascade of ten verdicts.  A bench that is accepted in the end has nevertheless shown
all that is asked of it: the project is unmodified, all runs of the bench have finished, it
returns something, the same when it is repeated and none of its parameters, and if it is
accepted with parameters, then two settings have given different results.

Main results:

- Theorem `SelfCheck.shows_of_settingRuns`: what the runs with settings leave in a row.
- Theorem `SelfCheck.keyed_of_rowOf`: the row of a bench can be written and read back.
- Theorem `Observation.checks_of_isGood`: what a good verdict rests on.
- Theorem `accepted_sound`: what an accepted bench has shown.
-/

namespace QueryAlgebra

/-! ## Texts in JSON -/

namespace Json

/-- A text as JSON. -/
def ofText (s : Text) : Json :=
  .str (String.ofList s)

/-- Different texts are different values. -/
theorem ofText_injective {s t : Text} (hst : ofText s = ofText t) : s = t := by
  have hlists := congrArg String.toList (Json.str.inj hst)
  rwa [String.toList_ofList, String.toList_ofList] at hlists

/-- Texts are the same value just if they are equal. -/
@[simp]
theorem same_ofText (s t : Text) : (ofText s).same (ofText t) = (s == t) := by
  simp [ofText, same, isNaN, toValue, Value.sameKey]

theorem keyed_ofText (s : Text) : (ofText s).Keyed :=
  trivial

end Json

namespace Audit

/-! ## Distinct texts -/

namespace Reading

/-- Going through one text more keeps it and drops all that are the same. -/
theorem distinct_cons_ofText (s : Text) (rest : List Json) :
    distinct (Json.ofText s :: rest) =
      (distinct rest).map fun more =>
        Json.ofText s :: more.filter fun other => !(Json.ofText s).same other :=
  rfl

/-- Every text of a list is among the distinct ones. -/
theorem mem_distinct {texts : List Text} {found : List Json}
    (hfound : distinct (texts.map Json.ofText) = .ok found) {t : Text} (ht : t ∈ texts) :
    Json.ofText t ∈ found := by
  induction texts generalizing found with
  | nil => exact absurd ht List.not_mem_nil
  | cons s texts ih =>
      rw [List.map_cons, distinct_cons_ofText] at hfound
      cases hmore : distinct (texts.map Json.ofText) with
      | error fault => simp [hmore, Except.map] at hfound
      | ok more =>
          rw [hmore] at hfound
          cases hfound
          by_cases hst : s = t
          · subst hst
            exact List.mem_cons_self
          · have hrest := ih hmore ((List.mem_cons.mp ht).resolve_left (Ne.symm hst))
            refine List.mem_cons_of_mem _ (List.mem_filter.mpr ⟨hrest, ?_⟩)
            simpa using hst

/-- Texts that are all the same are one. -/
theorem distinct_of_same {texts : List Text} {t : Text} (hsame : ∀ s ∈ texts, s = t)
    (hsome : texts ≠ []) : distinct (texts.map Json.ofText) = .ok [Json.ofText t] := by
  induction texts with
  | nil => exact absurd rfl hsome
  | cons s texts ih =>
      rcases List.forall_mem_cons.mp hsame with ⟨rfl, htexts⟩
      rw [List.map_cons, distinct_cons_ofText]
      cases texts with
      | nil => rfl
      | cons u texts =>
          rw [ih htexts (List.cons_ne_nil u texts)]
          simp [Except.map]

end Reading

/-! ## Rows of the self-check -/

namespace SelfCheck

/-- What an item gives is among what is read from all of them. -/
theorem mem_of_mapM {α β ε : Type} {f : α → Except ε β} {xs : List α} {ys : List β}
    (hread : xs.mapM f = .ok ys) {x : α} {y : β} (hx : x ∈ xs) (hy : f x = .ok y) : y ∈ ys := by
  induction xs generalizing ys with
  | nil => exact absurd hx List.not_mem_nil
  | cons first xs ih =>
      rcases mapM_cons_eq_ok_iff.mp hread with ⟨z, more, hfirst, hmore, rfl⟩
      rcases List.mem_cons.mp hx with rfl | hx
      · rw [hfirst] at hy
        cases hy
        exact List.mem_cons_self
      · exact List.mem_cons_of_mem z (ih hmore hx)

/-- A run gives a value with this fingerprint. -/
def Gives (body : Body) (earlier : Nat) (setting : Setting) (v : Value) (print : Text) : Prop :=
  body.run earlier setting = .ok v ∧ fingerprint v = .ok print

/-- A value has a print just if it has a fingerprint. -/
theorem printOf_eq_ok_iff {v : Value} {print : Text} :
    printOf v = .ok print ↔ fingerprint v = .ok print := by
  unfold printOf
  cases fingerprint v <;> simp

/-- An observation is the value that a run gives, with its fingerprint. -/
theorem observe_eq_ok_iff {b : Bench} {body : Body} {earlier : Nat} {setting : Setting}
    {v : Value} {print : Text} :
    observe b body earlier setting = .ok (v, print) ↔ Gives body earlier setting v print := by
  rw [observe, Bench.run_eq, Gives]
  cases body.run earlier setting with
  | error f => simp [Except.bind]
  | ok w =>
      rw [← printOf_eq_ok_iff, Except.bind]
      cases hprint : printOf w with
      | error f =>
          simp only [Except.map, reduceCtorEq, Except.ok.injEq, false_iff, not_and]
          rintro rfl
          simp [hprint]
      | ok p =>
          simp only [Except.map, Except.ok.injEq, Prod.mk.injEq]
          constructor
          · rintro ⟨rfl, rfl⟩
            exact ⟨rfl, hprint⟩
          · rintro ⟨rfl, hw⟩
            rw [hprint] at hw
            exact ⟨rfl, Except.ok.inj hw⟩

/--
What the runs with settings leave in a row, if all of them finish.  The result of a run
stands under its tag, and the fingerprints of all parameters are kept.
-/
structure Shows (body : Body) (earlier : Nat) (settings : List Setting) (row row' : Row) :
    Prop where
  returned : row'.returned = row.returned
  repeats : row'.repeats = row.repeats
  finished : ∀ i setting, settings[i]? = some setting →
    ∃ v print, Gives body (earlier + i) setting v print
  results : ∀ entry ∈ row'.byParameter, entry ∈ row.byParameter ∨
    ∃ i setting v, settings[i]? = some setting ∧ tag setting = entry.1 ∧
      Gives body (earlier + i) setting v entry.2
  kept : ∀ print ∈ row.parameterPrints, print ∈ row'.parameterPrints
  parameters : ∀ setting ∈ settings, ∀ entry ∈ setting,
    ∃ print ∈ row'.parameterPrints, fingerprint entry.2 = .ok print

/-- One run with a setting: its result and the fingerprints of its parameters are added. -/
def addRun (b : Bench) (earlier : Nat) (setting : Setting) (print : Text) (prints : List Text)
    (row : Row) : Row :=
  ((row.addProfile (tag setting) (b.profile (earlier - 1))).addResult (tag setting)
    print).addParameters prints

/-- The first run and the further ones. -/
theorem Shows.cons {b : Bench} {body : Body} {earlier : Nat} {setting : Setting}
    {more : List Setting} {v : Value} {print : Text} {prints : List Text} {row row' : Row}
    (hgives : Gives body earlier setting v print)
    (hprints : setting.mapM (fun entry => printOf entry.2) = .ok prints)
    (hmore : Shows body (earlier + 1) more (addRun b earlier setting print prints row) row') :
    Shows body earlier (setting :: more) row row' where
  returned := hmore.returned
  repeats := hmore.repeats
  finished := by
    rintro (_ | i) s hs
    · obtain rfl : setting = s := Option.some.inj hs
      exact ⟨v, print, hgives⟩
    · -- The later runs are counted from the one behind this one.
      rw [show earlier + (i + 1) = earlier + 1 + i by omega]
      exact hmore.finished i s hs
  results := by
    intro entry hentry
    rcases hmore.results entry hentry with hbefore | ⟨i, s, w, hs, htag, hw⟩
    · rcases Entries.mem_of_mem_set hbefore with rfl | hbefore
      · exact .inr ⟨0, setting, v, rfl, rfl, hgives⟩
      · exact .inl hbefore
    · refine .inr ⟨i + 1, s, w, hs, htag, ?_⟩
      rwa [show earlier + (i + 1) = earlier + 1 + i by omega]
  kept := fun p hp => hmore.kept p (List.mem_append_left _ hp)
  parameters := by
    intro s hs entry hentry
    rcases List.mem_cons.mp hs with rfl | hs
    · have hread : ∃ found, s.mapM (fun entry => printOf entry.2) = .ok found := ⟨_, hprints⟩
      rcases (exists_mapM_eq_ok_iff _ _).mp hread entry hentry with ⟨p, hp⟩
      refine ⟨p, hmore.kept p (List.mem_append_right _ ?_), printOf_eq_ok_iff.mp hp⟩
      exact mem_of_mapM hprints hentry hp
    · exact hmore.parameters s hs entry hentry

/-- Runs with settings that all finish leave what they show in the row. -/
theorem shows_of_settingRuns {b : Bench} {body : Body} {settings : List Setting} {earlier : Nat}
    {row row' : Row} (hruns : settingRuns b body earlier settings row = (row', none)) :
    Shows body earlier settings row row' := by
  induction settings generalizing earlier row with
  | nil =>
      cases hruns
      exact ⟨rfl, rfl, by simp, fun _ hentry => .inl hentry, fun _ hprint => hprint, by simp⟩
  | cons setting more ih =>
      unfold settingRuns at hruns
      split at hruns
      · cases hruns
      · rename_i v print hobserve
        split at hruns
        · cases hruns
        · rename_i prints hprints
          exact .cons (b := b) (observe_eq_ok_iff.mp hobserve) hprints (ih hruns)

/-- All runs of a bench have finished, and its row shows what they gave. -/
theorem exists_of_runs {b : Bench} {body : Body} {row : Row} (hruns : runs b body = (row, none)) :
    ∃ first second print again start, Gives body 0 [] first print ∧ Gives body 1 [] second again ∧
      start.returned = first.typeName ∧ start.repeats = [print, again] ∧ start.byParameter = [] ∧
      Shows body 2 b.settings start row := by
  unfold runs at hruns
  split at hruns
  · cases hruns
  · rename_i first print hfirst
    split at hruns
    · cases hruns
    · rename_i second again hsecond
      exact ⟨first, second, print, again, _, observe_eq_ok_iff.mp hfirst,
        observe_eq_ok_iff.mp hsecond, rfl, rfl, rfl, shows_of_settingRuns hruns⟩

/-! ## Rows that can be read back -/

/-- No tag stands twice in a part of the row. -/
structure Row.Keyed (row : Row) : Prop where
  byParameter : (row.byParameter.map Prod.fst).Nodup
  milliseconds : (row.milliseconds.map Prod.fst).Nodup
  projectShare : (row.projectShare.map Prod.fst).Nodup
  compiledShare : (row.compiledShare.map Prod.fst).Nodup

namespace Row.Keyed

theorem blank (returned : String) : Row.Keyed { Row.blank with returned } :=
  ⟨List.nodup_nil, List.nodup_nil, List.nodup_nil, List.nodup_nil⟩

variable {row : Row} (hrow : row.Keyed)
include hrow

theorem addProfile (tag : String) (p : Profile) : (row.addProfile tag p).Keyed :=
  ⟨hrow.byParameter, Entries.nodup_set hrow.milliseconds _ _,
    Entries.nodup_set hrow.projectShare _ _, Entries.nodup_set hrow.compiledShare _ _⟩

theorem addRepeat (print : Text) : (row.addRepeat print).Keyed :=
  ⟨hrow.byParameter, hrow.milliseconds, hrow.projectShare, hrow.compiledShare⟩

theorem addResult (tag : String) (print : Text) : (row.addResult tag print).Keyed :=
  ⟨Entries.nodup_set hrow.byParameter _ _, hrow.milliseconds, hrow.projectShare,
    hrow.compiledShare⟩

theorem addParameters (prints : List Text) : (row.addParameters prints).Keyed :=
  ⟨hrow.byParameter, hrow.milliseconds, hrow.projectShare, hrow.compiledShare⟩

theorem markFailed (f : Failure) : (row.markFailed f).Keyed :=
  ⟨hrow.byParameter, hrow.milliseconds, hrow.projectShare, hrow.compiledShare⟩

end Row.Keyed

/-- Runs with settings put nothing twice under a tag, even if one of them fails. -/
theorem keyed_settingRuns (b : Bench) (body : Body) (settings : List Setting) (earlier : Nat)
    {row : Row} (hrow : row.Keyed) : (settingRuns b body earlier settings row).1.Keyed := by
  induction settings generalizing earlier row with
  | nil => exact hrow
  | cons setting more ih =>
      unfold settingRuns
      split
      · exact hrow
      · split
        · exact (hrow.addProfile _ _).addResult _ _
        · exact ih _ (((hrow.addProfile _ _).addResult _ _).addParameters _)

/-- The row of the runs has no key twice. -/
theorem keyed_runs (b : Bench) (body : Body) : (runs b body).1.Keyed := by
  unfold runs
  split
  · exact .blank _
  · rename_i first print _
    have hfirst := ((Row.Keyed.blank first.typeName).addRepeat print).addProfile defaultTag
      (b.profile 0)
    split
    · exact hfirst
    · exact keyed_settingRuns b body _ _ (hfirst.addRepeat _)

/-- The row of a bench has no key twice. -/
theorem keyed_of_rowOf {b : Bench} {body : Body} {row : Row} (hrow : rowOf b body = .ok row) :
    row.Keyed := by
  have hruns := keyed_runs b body
  unfold rowOf at hrow
  split at hrow
  · rename_i found heq
    rw [heq] at hruns
    cases hrow
    exact hruns
  · rename_i found f heq
    rw [heq] at hruns
    split at hrow
    · cases hrow
    · cases hrow
      exact hruns.markFailed f

/-- The parts of a row as JSON. -/
def Row.parts (row : Row) : List (String × Json) :=
  [("ret_type", .str row.returned),
    ("fp_stable", .arr (row.repeats.map Json.ofText)),
    ("fp_by_param", .obj (row.byParameter.map fun entry => (entry.1, .ofText entry.2))),
    ("repo_tt_ms", .obj (row.milliseconds.map fun entry => (entry.1, .float entry.2))),
    ("repo_frac", .obj (row.projectShare.map fun entry => (entry.1, .float entry.2))),
    ("ext_frac", .obj (row.compiledShare.map fun entry => (entry.1, .float entry.2))),
    ("param_fps", .arr (row.parameterPrints.map Json.ofText))]

/-- A row is written as its parts. -/
theorem Row.toJson_eq (row : Row) : row.toJson = .obj row.parts :=
  rfl

/-- A row without repeated keys is written without any. -/
theorem Row.Keyed.toJson {row : Row} (hrow : row.Keyed) : row.toJson.Keyed := by
  have htexts (texts : List Text) : (Json.arr (texts.map Json.ofText)).Keyed := by
    rw [Json.Keyed, Json.keyedItems_iff, List.forall_mem_map]
    exact fun s _ => Json.keyed_ofText s
  have hnumbers {entries : List (String × Binary64)} (hkeys : (entries.map Prod.fst).Nodup) :
      (Json.obj (entries.map fun entry => (entry.1, .float entry.2))).Keyed :=
    Json.keyed_obj_map hkeys fun _ _ => trivial
  have hkeys : (Json.keys row.parts).Nodup := by
    simp [Json.keys, Row.parts]
  rw [Row.toJson_eq, Json.Keyed]
  exact ⟨hkeys, trivial, htexts _, Json.keyed_obj_map hrow.byParameter fun _ _ => trivial,
    hnumbers hrow.milliseconds, hnumbers hrow.projectShare, hnumbers hrow.compiledShare, htexts _,
    trivial⟩

end SelfCheck
/-! ## Verdicts -/

namespace Observation

/-- A check that would have ended in another verdict was passed. -/
theorem passed_of_ite {p : Prop} [Decidable p] {w v : Verdict} {rest : Except Reading.Fault Verdict}
    (hverdict : (if p then .ok w else rest) = .ok v) (hw : w.isGood = false)
    (hgood : v.isGood = true) : ¬ p ∧ rest = .ok v := by
  split at hverdict
  · cases hverdict
    rw [hw] at hgood
    contradiction
  · rename_i hpassed
    exact ⟨hpassed, hverdict⟩

/-- What a good verdict rests on: no check before it has found anything. -/
theorem checks_of_isGood {o : Observation} {modified : Bool} {v : Verdict}
    (hverdict : o.verdict modified = .ok v) (hgood : v.isGood = true) :
    modified = false ∧ o.isFailure = false ∧ o.returned ≠ nothingName ∧
      o.isUnstable = .ok false ∧ o.isInput = .ok false ∧ o.verdictOnSettings = .ok v := by
  unfold verdict at hverdict
  rcases passed_of_ite hverdict rfl hgood with ⟨hmodified, hverdict⟩
  rcases passed_of_ite hverdict rfl hgood with ⟨hfailure, hverdict⟩
  rcases passed_of_ite hverdict rfl hgood with ⟨hreturned, hverdict⟩
  rw [verdictOnResults, bind_eq_ok_iff] at hverdict
  rcases hverdict with ⟨unstable, hunstable, hverdict⟩
  rcases passed_of_ite hverdict rfl hgood with ⟨hstable, hverdict⟩
  rw [bind_eq_ok_iff] at hverdict
  rcases hverdict with ⟨input, hinput, hverdict⟩
  rcases passed_of_ite hverdict rfl hgood with ⟨hother, hverdict⟩
  rcases passed_of_ite hverdict rfl hgood with ⟨-, hverdict⟩
  rcases passed_of_ite hverdict rfl hgood with ⟨-, hsettings⟩
  simp only [Bool.not_eq_true] at hmodified hfailure hstable hother
  subst hstable hother
  exact ⟨hmodified, hfailure, hreturned, hunstable, hinput, hsettings⟩

/-- With a good verdict on its settings, a bench has had results for two, and not all the same. -/
theorem results_of_good {o : Observation} (hgood : o.verdictOnSettings = .ok .good) :
    (∃ count, Reading.length o.byParameter = .ok count ∧ 2 ≤ count) ∧ o.isSame = .ok false := by
  rw [verdictOnSettings, bind_eq_ok_iff] at hgood
  rcases hgood with ⟨count, hcount, hgood⟩
  split at hgood
  · cases hgood
  · rename_i hmany
    rw [bind_eq_ok_iff] at hgood
    rcases hgood with ⟨same, hsame, hgood⟩
    split at hgood
    · cases hgood
    · rename_i hdifferent
      rw [Bool.not_eq_true] at hdifferent
      subst hdifferent
      exact ⟨⟨count, hcount, by omega⟩, hsame⟩

/-- What is observed of a bench is what its row holds. -/
theorem read_parts {row : SelfCheck.Row} {o : Observation} (hread : read row.parts = .ok o) :
    o.returned = returnedText (.str row.returned) ∧
      o.repeats = .arr (row.repeats.map Json.ofText) ∧
      o.byParameter = .obj (row.byParameter.map fun entry => (entry.1, .ofText entry.2)) ∧
      distinctItems (.arr (row.parameterPrints.map Json.ofText)) = .ok o.parameterPrints := by
  simp only [read, bind_eq_ok_iff] at hread
  rcases hread with ⟨times, -, shares, -, compiled, -, prints, hprints, ms, -, xs, -, ys, -, ho⟩
  cases ho
  exact ⟨rfl, rfl, rfl, hprints⟩

end Observation

/-! ## Accepted benches -/

namespace SelfCheck

/--
What an accepted bench has shown: two runs without parameters that finish with the same
fingerprint, of something; a run for each setting that finishes; and no parameter with
that fingerprint.
-/
structure Shown (b : Bench) (body : Body) (print : Text) : Prop where
  first : ∃ v, v ≠ .none ∧ b.run body 0 [] = .ok v ∧ fingerprint v = .ok print
  second : ∃ v, b.run body 1 [] = .ok v ∧ fingerprint v = .ok print
  settings : ∀ i setting, b.settings[i]? = some setting → ∃ v, b.run body (2 + i) setting = .ok v
  parameters : ∀ setting ∈ b.settings, ∀ entry ∈ setting, fingerprint entry.2 ≠ .ok print

/-- A run for a setting has given a result with this fingerprint under this tag. -/
def ResultAt (b : Bench) (body : Body) (name : String) (print : Text) : Prop :=
  ∃ i setting v, b.settings[i]? = some setting ∧ tag setting = name ∧
    b.run body (2 + i) setting = .ok v ∧ fingerprint v = .ok print

/-- Runs under two different tags have given different results. -/
def Varied (b : Bench) (body : Body) : Prop :=
  ∃ name other print again, name ≠ other ∧ print ≠ again ∧ ResultAt b body name print ∧
    ResultAt b body other again

/-- What a body gives is what the run of its bench gives. -/
theorem Gives.run {body : Body} {earlier : Nat} {setting : Setting} {v : Value} {print : Text}
    (hgives : Gives body earlier setting v print) (b : Bench) :
    b.run body earlier setting = .ok v := by
  rw [Bench.run_eq]
  exact hgives.1

/-- The results in a row that starts without any are those of the runs. -/
theorem Shows.resultAt {b : Bench} {body : Body} {start row : Row}
    (hshows : Shows body 2 b.settings start row) (hnone : start.byParameter = [])
    {entry : String × Text} (hentry : entry ∈ row.byParameter) :
    ResultAt b body entry.1 entry.2 := by
  rcases hshows.results entry hentry with hbefore | ⟨i, setting, v, hsetting, htag, hgives⟩
  · rw [hnone] at hbefore
    exact absurd hbefore List.not_mem_nil
  · exact ⟨i, setting, v, hsetting, htag, hgives.run b, hgives.2⟩

/-- A row that is no failure is that of runs that have all finished. -/
theorem runs_of_rowOf {b : Bench} {body : Body} {row : Row} (hrow : rowOf b body = .ok row)
    (hstart : row.returned.toList.head? ≠ some '<') : runs b body = (row, none) := by
  unfold rowOf at hrow
  split at hrow
  · rename_i found hruns
    cases hrow
    exact hruns
  · rename_i found f hruns
    split at hrow
    · cases hrow
    · cases hrow
      exact absurd (by simp [Row.markFailed, Failure.mark]) hstart

end SelfCheck

namespace Observation

open SelfCheck

variable {o : Observation} {row : Row}

/-- What no failure is reported as is the name of a type. -/
theorem returned_of_not_isFailure (hreturned : o.returned = returnedText (.str row.returned))
    (hfailure : o.isFailure = false) :
    o.returned = row.returned.toList ∧ row.returned.toList.head? ≠ some '<' := by
  have hshown : o.returned = row.returned.toList := by
    rw [hreturned, returnedText]
    split
    · rename_i hempty
      rw [isFailure, hreturned, returnedText, if_pos hempty] at hfailure
      contradiction
    · rfl
  refine ⟨hshown, ?_⟩
  rw [isFailure, Bool.or_eq_false_iff, hshown] at hfailure
  simpa using hfailure.2

/-- Two repeated results that are not told apart are the same. -/
theorem eq_of_not_isUnstable {print again : Text}
    (hrepeats : o.repeats = .arr ([print, again].map Json.ofText))
    (hstable : o.isUnstable = .ok false) : print = again := by
  rw [isUnstable, hrepeats] at hstable
  cases hdistinct : distinctItems (.arr ([print, again].map Json.ofText)) with
  | error fault =>
      rw [hdistinct] at hstable
      cases hstable
  | ok found =>
      rw [hdistinct] at hstable
      have hone : found.length = 1 := by simpa [Except.map] using hstable
      have hmem {t : Text} (ht : t ∈ [print, again]) : Json.ofText t ∈ found :=
        Reading.mem_distinct hdistinct ht
      have hprint := hmem (t := print) (by simp)
      have hagain := hmem (t := again) (by simp)
      rcases List.length_eq_one_iff.mp hone with ⟨x, rfl⟩
      rw [List.mem_singleton] at hprint hagain
      exact Json.ofText_injective (hprint.trans hagain.symm)

/-- A result that is none of the parameters has the fingerprint of none. -/
theorem ne_of_not_isInput {print : Text} {prints : List Text} {more : List Json}
    (hrepeats : o.repeats = .arr (.ofText print :: more))
    (hparameters : distinctItems (.arr (prints.map Json.ofText)) = .ok o.parameterPrints)
    (hinput : o.isInput = .ok false) {p : Text} (hp : p ∈ prints) : p ≠ print := by
  rintro rfl
  have hany : o.parameterPrints.any (Json.ofText p).same = false := by
    simpa [isInput, hrepeats, Reading.itemAt, Reading.items?, Except.map] using hinput
  have hsome : ¬ (Json.arr (prints.map Json.ofText)).isEmpty = true := by
    cases prints with
    | nil => exact absurd hp List.not_mem_nil
    | cons q prints => simp [Json.isEmpty]
  rw [distinctItems, if_neg hsome] at hparameters
  have hmem := Reading.mem_distinct hparameters hp
  have hsame := List.any_eq_false.mp hany _ hmem
  simp at hsame

/-- Results that are not all the same stand under two tags. -/
theorem exists_of_not_isSame
    (hresults : o.byParameter = .obj (row.byParameter.map fun entry => (entry.1, .ofText entry.2)))
    (hkeys : (row.byParameter.map Prod.fst).Nodup) (hsome : row.byParameter ≠ [])
    (hsame : o.isSame = .ok false) :
    ∃ x ∈ row.byParameter, ∃ y ∈ row.byParameter, x.1 ≠ y.1 ∧ x.2 ≠ y.2 := by
  have hfields : Reading.fields "values" o.byParameter =
      .ok (row.byParameter.map fun entry => (entry.1, Json.ofText entry.2)) := by
    rw [hresults]
    rfl
  have hprints : (row.byParameter.map fun entry => (entry.1, Json.ofText entry.2)).map Prod.snd =
      (row.byParameter.map Prod.snd).map Json.ofText := by
    simp [Function.comp_def]
  rcases List.exists_cons_of_ne_nil hsome with ⟨first, more, hfirst⟩
  by_contra hnone
  -- Otherwise all results are the first one, and that is a single one.
  have hall : ∀ p ∈ row.byParameter.map Prod.snd, p = first.2 := by
    intro p hp
    rcases List.mem_map.mp hp with ⟨entry, hentry, rfl⟩
    by_contra hne
    have hmem : first ∈ row.byParameter := by
      rw [hfirst]
      exact List.mem_cons_self
    refine hnone ⟨entry, hentry, first, hmem, ?_, hne⟩
    intro hnames
    exact hne (congrArg Prod.snd (List.inj_on_of_nodup_map hkeys hentry hmem hnames))
  have hdistinct := Reading.distinct_of_same hall (by simpa using hsome)
  rw [isSame, hfields] at hsame
  simp only [bind, Except.bind, hprints, hdistinct] at hsame
  cases hsame

/-- Settings with a good verdict have given different results. -/
theorem varied_of_good {b : Bench} {body : Body}
    (hresults : o.byParameter = .obj (row.byParameter.map fun entry => (entry.1, .ofText entry.2)))
    (hkeys : (row.byParameter.map Prod.fst).Nodup)
    (hruns : ∀ entry ∈ row.byParameter, ResultAt b body entry.1 entry.2)
    (hsettings : o.verdictOnSettings = .ok .good) : Varied b body := by
  rcases results_of_good hsettings with ⟨⟨count, hcount, hmany⟩, hsame⟩
  -- A good verdict needs two results, so that there is something to compare.
  have hsome : row.byParameter ≠ [] := by
    intro hempty
    rw [hresults, hempty] at hcount
    cases hcount
    omega
  rcases exists_of_not_isSame hresults hkeys hsome hsame with ⟨x, hx, y, hy, htags, hprints⟩
  exact ⟨x.1, y.1, x.2, y.2, htags, hprints, hruns x hx, hruns y hy⟩

/-- An accepted row is that of a bench that has shown all that is asked of it. -/
theorem shown_of_ofRow {b : Bench} {body : Body} {name : String} {modified : Bool} {j : Judged}
    (hrow : rowOf b body = .ok row) (hj : Judged.ofRow modified name row.parts = .ok j)
    (hgood : j.verdict.isGood = true) :
    modified = false ∧ j.name = name ∧
      ∃ print, Shown b body print ∧ (j.verdict = .good → Varied b body) := by
  simp only [Judged.ofRow, bind_eq_ok_iff] at hj
  rcases hj with ⟨o, hread, v, hverdict, hj⟩
  cases hj
  rcases checks_of_isGood hverdict hgood with
    ⟨hmodified, hfailure, hnothing, hstable, hinput, hsettings⟩
  rcases read_parts hread with ⟨hreturned, hrepeats, hresults, hparameters⟩
  rcases returned_of_not_isFailure hreturned hfailure with ⟨hshown, hstart⟩
  -- The row is one of whole runs, since a failed run would have left its failure in the row.
  rcases exists_of_runs (runs_of_rowOf hrow hstart) with
    ⟨first, second, print, again, start, hfirst, hsecond, htype, htwo, hnone, hshows⟩
  have hpair : o.repeats = .arr ([print, again].map Json.ofText) := by
    rw [hrepeats, hshows.repeats, htwo]
  obtain rfl := eq_of_not_isUnstable hpair hstable
  have hsomething : first ≠ .none := by
    rintro rfl
    apply hnothing
    rw [hshown, hshows.returned, htype]
    rfl
  refine ⟨hmodified, rfl, print, ?_, ?_⟩
  · refine ⟨⟨first, hsomething, hfirst.run b, hfirst.2⟩, ⟨second, hsecond.run b, hsecond.2⟩, ?_, ?_⟩
    · intro i setting hsetting
      rcases hshows.finished i setting hsetting with ⟨w, p, hw⟩
      exact ⟨w, hw.run b⟩
    · intro setting hsetting entry hentry hprint
      rcases hshows.parameters setting hsetting entry hentry with ⟨p, hp, hfingerprint⟩
      rw [hprint] at hfingerprint
      cases hfingerprint
      exact ne_of_not_isInput hpair hparameters hinput hp rfl
  · intro hvaried
    obtain rfl : v = .good := hvaried
    exact varied_of_good hresults (keyed_of_rowOf hrow).byParameter
      (fun entry hentry => hshows.resultAt hnone hentry) hsettings

end Observation

namespace Judged

/-- Every judgement is on a row. -/
theorem exists_of_mem_ofRows {modified : Bool} {rows : List (String × Json)} {j : Judged}
    (hj : j ∈ (ofRows modified rows).1) :
    ∃ name row, (name, Json.obj row) ∈ rows ∧ ofRow modified name row = .ok j := by
  induction rows with
  | nil => exact absurd hj List.not_mem_nil
  | cons entry rest ih =>
      have hrest (hmem : j ∈ (ofRows modified rest).1) :
          ∃ name row, (name, Json.obj row) ∈ entry :: rest ∧ ofRow modified name row = .ok j := by
        rcases ih hmem with ⟨name, row, hrow, hof⟩
        exact ⟨name, row, List.mem_cons_of_mem _ hrow, hof⟩
      unfold ofRows at hj
      split at hj
      · rename_i heq
        cases heq
      · rename_i name row more heq
        cases heq
        split at hj
        · exact absurd hj List.not_mem_nil
        · rename_i found hfound
          rcases List.mem_cons.mp hj with rfl | hj
          · exact ⟨name, row, List.mem_cons_self, hfound⟩
          · exact hrest hj
      · rename_i heq
        cases heq
        exact hrest hj

end Judged

namespace SelfCheck

/-- What the self-check reports can be read back. -/
theorem keyed_report {entries : List Bench} (hnames : (entries.map Bench.name).Nodup)
    {found : List (String × Row)} (hrows : rows entries = .ok found) :
    (Json.obj [("semcheck", .obj (rowsJson found))]).Keyed := by
  have hsame : found.map Prod.fst = (Suite.benches entries).map fun e => e.1.name := by
    refine map_eq_map_of_mapM ?_ hrows
    rintro ⟨b, body⟩ ⟨name, row⟩ hrow
    rcases map_eq_ok_iff.mp hrow with ⟨row', -, heq⟩
    cases heq
    rfl
  have hkeys : (found.map Prod.fst).Nodup := by
    rw [hsame]
    exact (List.pairwise_map.mpr (Suite.benches_pairwise hnames)).imp fun hlt => hlt.ne
  have hkeyed : ∀ entry ∈ found, entry.2.toJson.Keyed := by
    intro entry hentry
    rcases exists_of_mem_mapM hrows hentry with ⟨⟨b, body⟩, -, hrow⟩
    rcases map_eq_ok_iff.mp hrow with ⟨row, hrowOf, rfl⟩
    exact (keyed_of_rowOf hrowOf).toJson
  have hfields := Json.keyed_obj_map hkeys hkeyed
  refine ⟨by simp [Json.keys], hfields, trivial⟩

end SelfCheck

/-- What is read from a line with a value that can be read back is read from that value. -/
theorem Reading.found_of_render {α : Type} (runner : String) (read : Json → α × Option Fault)
    (nothing : α) {j : Json} (hj : j.Keyed) (stderr : Text) (code : Int) :
    (ofChild runner read nothing (.finished (j.render ++ ['\n']) stderr code)).found =
      (read j).1 := by
  rw [ofChild, lastLine_render]
  simp only [Json.parse_render hj]
  rcases read j with ⟨found, _ | fault⟩ <;> rfl

namespace Round

/-- A project without modified files has a status without lines, but for blank ones. -/
theorem trim_eq_nil_of_modified {c : Conditions} (hmodified : modified c = [])
    {stdout stderr : Text} {code : Int} (hstatus : c.children.status = .finished stdout stderr code)
    {line : Text} (hline : line ∈ Text.lines stdout) : Text.trim line = [] := by
  rw [modified, hstatus] at hmodified
  have hfilter : ((Text.lines stdout).filter fun line => !(Text.trim line).isEmpty) = [] :=
    List.map_eq_nil_iff.mp hmodified
  simpa using List.filter_eq_nil_iff.mp hfilter line hline

/-- A round judges the rows that a self-check has written, if it asks for them. -/
theorem judged_of_rows {c : Conditions} {found : List (String × SelfCheck.Row)} {stderr : Text}
    {code : Int}
    (hkeyed : (Json.obj [("semcheck", .obj (SelfCheck.rowsJson found))]).Keyed)
    (hchild : c.children.selfCheck =
      .finished ((Json.obj [("semcheck", .obj (SelfCheck.rowsJson found))]).render ++ ['\n'])
        stderr code) :
    (judged c).found =
      if c.files.checkRunner.isSome then
        (Judged.ofRows (!(modified c).isEmpty) (SelfCheck.rowsJson found)).1
      else [] := by
  rw [judged, heard]
  split
  · rw [hchild, Reading.found_of_render _ _ _ hkeyed]
    rfl
  · rfl

/-- A bench that gives its parameter, or zero without one, and spends all time in the project. -/
def echoBench : Bench where
  name := "bench_e"
  body := some (.echo (.int 0))
  deferred := true
  settings := [[("n", .int 1)], [("n", .int 2)]]
  profiles := [⟨[(⟨"/repo/a.py".toList, 1, ['f']⟩, .ofInt 1)], .ofInt 1⟩]

/-- What the self-check finds out about this bench. -/
def echoRows : List (String × SelfCheck.Row) :=
  [("bench_e", SelfCheck.shownRow echoBench (.echo (.int 0)))]

/-- What it writes about it. -/
def echoReport : Json :=
  .obj [("semcheck", .obj (SelfCheck.rowsJson echoRows))]

/-- A round that reads this report. -/
def echoRound : Conditions :=
  { roundWith "[]" with
    children :=
      { (roundWith "[]").children with
        status := .finished ['\n'] [] 0
        selfCheck := .finished (echoReport.render ++ ['\n']) [] 0 } }

/-- The self-check of the bench ends with its row. -/
theorem rows_echoBench : SelfCheck.rows [echoBench] = .ok echoRows := by
  have hharmless : (Suite.loaded [echoBench]).Harmless := by
    intro b hb body hbody earlier setting f hrun
    rw [List.mem_singleton.mp hb] at hbody
    cases hbody
    cases hrun
  have hascending : Suite.ascending [echoBench] = [echoBench] := by
    rw [Suite.ascending_eq (by simp)]
    exact List.mergeSort_singleton _
  have hbenches : Suite.benches [echoBench] = [(echoBench, .echo (.int 0))] := by
    rw [Suite.benches, hascending]
    rfl
  rw [SelfCheck.rows_of_harmless hharmless, hbenches]
  rfl

end Round

end Audit
end QueryAlgebra
