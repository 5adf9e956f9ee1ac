import FeatureLint.Proofs.FrozenProject

/-!
# Runs that show their events

A scenario with the tag `verbose` puts one more argument behind those of each run.  If it is read as
the option that it is meant to be, the run shows its events and is otherwise the same: nothing but
what is printed depends on that option (`Command.inspect_verbose`).  But an argument at the end is
not always read as an option.  Behind two hyphens it is a root, and behind an option that waits for
its value it is that value (`Command.takesOption`); then the tag can change what comes of the run.

* `Command.ofArguments_append`: what is asked for with the option.
* `runScenario_verbose`: **the tag only shows events**, where the option is taken as one.
* `runScenario_endOfOptions`: behind two hyphens it is not.
-/

namespace FeatureLint

namespace Command

variable {w : Workspace} {arguments : List String}

/-! ### One more option -/

/-- Whether an argument behind others is read as an option, if it looks like one. -/
def takesOption : List String → Bool
  | [] => true
  | argument :: rest =>
    match Word.ofString argument with
    | .other => takesOption rest
    | .stop => false
    | .complete _ => takesOption rest
    | .refused _ => true
    | .open .. =>
      match rest with
      | [] => false
      | _ :: rest => takesOption rest

def Words.alsoGive (g : Given) (ws : Words) : Words := { ws with given := ws.given ++ [g] }

/-- **The option is read as one** behind arguments that allow it. -/
theorem scan_append (h : takesOption arguments = true) :
    scan (arguments ++ ["--verbose"]) =
      (scan arguments).map (Words.alsoGive (.flag .verbose true)) := by
  -- The condition goes through the arguments as `scan` does, so this is along both.
  fun_induction takesOption arguments with
  | case1 => decide +kernel
  | case2 argument rest hword ih =>
    simp only [List.cons_append, scan, hword, ih h]
    cases scan rest <;> rfl
  | case3 argument rest hword => cases h
  | case4 argument rest g hword ih =>
    simp only [List.cons_append, scan, hword, ih h]
    cases scan rest <;> rfl
  | case5 argument rest e hword =>
    simp only [List.cons_append, scan, hword]
    rfl
  | case6 argument o name hword => cases h
  | case7 argument o name hword value rest ih =>
    simp only [List.cons_append, scan, hword, ih h]
    cases scan rest <;> rfl

/-! ### What is asked for -/

section AlsoGive

variable {given : List Given} {o : Opt} {on : Bool} (ws : Words)

theorem value?_append_flag (p : Opt) :
    Given.value? (given ++ [.flag p on]) o = Given.value? given o := by
  rw [Given.value?, List.reverse_append]
  rfl

theorem flag?_append_flag {p : Opt} (h : p ≠ o) :
    Given.flag? (given ++ [.flag p on]) o = Given.flag? given o := by
  rw [Given.flag?, List.reverse_append, List.reverse_singleton, List.singleton_append,
    List.findSome?_cons, Given.flagOf?, if_neg h]
  rfl

def Request.showing (on : Bool) (req : Request) : Request := { req with verbose := on }

theorem request_alsoGive :
    (ws.alsoGive (.flag .verbose true)).request = ws.request.showing true := by
  have hverbose : Given.flag? (ws.given ++ [.flag .verbose true]) .verbose = some true := by
    rw [Given.flag?, List.reverse_append]
    rfl
  simp only [Words.request, Words.alsoGive, value?_append_flag, hverbose, Request.showing,
    flag?_append_flag (p := .verbose) (o := .failOnFindings) (by decide),
    flag?_append_flag (p := .verbose) (o := .ignoreCase) (by decide),
    flag?_append_flag (p := .verbose) (o := .withinFile) (by decide),
    flag?_append_flag (p := .verbose) (o := .skipCells) (by decide)]
  rfl

theorem refusal?_alsoGive :
    (ws.alsoGive (.flag .verbose true)).refusal? = ws.refusal? := by
  have hvalues : refusal? (ws.given ++ [.flag .verbose true]) = refusal? ws.given := by
    funext o
    unfold refusal?
    rw [value?_append_flag]
  -- The option has no value that could be refused.
  have hverbose : refusal? ws.given .verbose = none := rfl
  have hfound : ((ws.given ++ [Given.flag .verbose true]).map Given.opt).findSome?
      (refusal? ws.given) = (ws.given.map Given.opt).findSome? (refusal? ws.given) := by
    have hopt : (Given.flag .verbose true).opt = .verbose := rfl
    rw [List.map_append, List.findSome?_append, List.map_singleton, hopt,
      List.findSome?_singleton, hverbose, Option.or_none]
  simp only [Words.refusal?, Words.alsoGive, hvalues, hfound]

theorem intent?_alsoGive :
    (ws.alsoGive (.flag .verbose true)).given.findSome? Given.intent? =
      ws.given.findSome? Given.intent? := by
  rw [Words.alsoGive, List.findSome?_append]
  exact Option.or_none

end AlsoGive

def Intent.showing (on : Bool) : Intent → Intent
  | .inspect req => .inspect (req.showing on)
  | intent => intent

/-- **What is asked for with the option**, and it is nothing else than without. -/
theorem ofArguments_append (h : takesOption arguments = true) :
    Intent.ofArguments (arguments ++ ["--verbose"]) =
      (Intent.ofArguments arguments).map (Intent.showing true) := by
  rw [Intent.ofArguments, Intent.ofArguments, scan_append h]
  cases scan arguments with
  | error e => rfl
  | ok ws =>
    simp only [Except.map, intent?_alsoGive, refusal?_alsoGive, request_alsoGive]
    cases hintent : ws.given.findSome? Given.intent? with
    | some intent =>
      obtain ⟨g, -, hg⟩ := List.exists_of_findSome?_eq_some hintent
      unfold Given.intent? at hg
      split at hg <;> cases hg <;> rfl
    | none => cases ws.refusal? <;> rfl

/-! ### What comes of it -/

/-- Two runs end alike: with one exit code and one fault, if any, and the same files. -/
structure Outcome.EndsLike (o o' : Outcome) : Prop where
  exitCode : o.exitCode = o'.exitCode
  fault : o.fault = o'.fault
  workspace : o.workspace = o'.workspace

theorem deliver_showing (w : Workspace) (req : Request) (on : Bool) (s : Settings) (r : Report)
    (before before' : Transcript) :
    (deliver w (req.showing on) s r before).EndsLike (deliver w req s r before') := by
  simp only [deliver, Request.showing]
  cases req.report with
  | none => exact ⟨rfl, rfl, rfl⟩
  | some file =>
    dsimp only
    split <;> exact ⟨rfl, rfl, rfl⟩

/-- **Showing its events does not change how a run ends.** -/
theorem inspect_showing (w : Workspace) (req : Request) (on : Bool) :
    (inspect w (req.showing on)).EndsLike (inspect w req) := by
  have hsettings : (req.showing on).settings w = req.settings w := rfl
  have hroot : (req.showing on).root = req.root := rfl
  simp only [inspect, hsettings]
  split
  · exact ⟨rfl, rfl, rfl⟩
  · exact ⟨rfl, rfl, rfl⟩
  · simp only [inspectWith, hroot]
    split
    · exact ⟨rfl, rfl, rfl⟩
    · exact deliver_showing w req on _ _ _ _

theorem exitCode_inspect_le (w : Workspace) (req : Request) : (inspect w req).exitCode ≤ 1 := by
  have hstatus : ∀ failOnFindings r, exitStatus failOnFindings r ≤ 1 := by
    intro failOnFindings r
    rw [exitStatus]
    split <;> decide
  have hdeliver : ∀ s r before, (deliver w req s r before).exitCode ≤ 1 := by
    intro s r before
    rw [deliver]
    split
    · exact hstatus _ r
    · split
      · exact le_refl 1
      · exact hstatus _ r
  rw [inspect]
  split
  · exact le_refl 1
  · exact le_refl 1
  · rw [inspectWith]
    split
    · exact le_refl 1
    · exact hdeliver _ _ _

theorem run_append (w : Workspace) (h : takesOption arguments = true) :
    (run w (arguments ++ ["--verbose"])).EndsLike (run w arguments) := by
  rw [run, run, ofArguments_append h]
  rcases Intent.ofArguments arguments with (e | f) | (_ | _ | req)
  · exact ⟨rfl, rfl, rfl⟩
  · exact ⟨rfl, rfl, rfl⟩
  · exact ⟨rfl, rfl, rfl⟩
  · exact ⟨rfl, rfl, rfl⟩
  · exact inspect_showing w req true

end Command

namespace Acceptance

/-! ### Names of steps -/

theorem blank?_filled {before filled after : String} (h : filled ≠ "") :
    blank? before after (before ++ filled ++ after) = some filled := by
  have hchars : (before ++ filled ++ after).toList =
      before.toList ++ (filled.toList ++ after.toList) := by
    rw [String.append_assoc, String.toList_append, String.toList_append]
  have hafter : ∀ start rest : List Char, Text.after? start (start ++ rest) = some rest :=
    fun _ _ => Text.after?_eq_some.mpr rfl
  have hbefore : Text.before? after.toList (filled.toList ++ after.toList) =
      some filled.toList := by
    rw [Text.before?, List.reverse_append, hafter, Option.map_some, List.reverse_reverse]
  rw [blank?, hchars, hafter, Option.bind_some, hbefore]
  cases hfilled : filled.toList with
  | nil => exact absurd (String.toList_eq_nil_iff.mp hfilled) h
  | cons c cs =>
    dsimp only
    rw [← hfilled, String.ofList_toList]

def runName (args : String) : String := "I run gherkin-guard with \"" ++ args ++ "\""

theorem run?_runName {args : String} (h : args ≠ "") :
    Action.run? (runName args) = some (.run (Text.words args)) := by
  have hargs : blank? "I run gherkin-guard with \"" "\"" (runName args) = some args :=
    blank?_filled h
  simp only [Action.run?, hargs, Option.map_some, Option.orElse_eq_orElse, Option.orElse_some]

/-! ### Scenarios with and without the tag -/

inductive Verdict.EndsLike : Verdict → Verdict → Prop
  | same (v : Verdict) : EndsLike v v
  | ran {o o' : Command.Outcome} : o.EndsLike o' → EndsLike (.ran o) (.ran o')

namespace Scenario

variable {s : Scenario} {st : Step} {sts : List Step}

def showing (on : Bool) (s : Scenario) : Scenario := { s with verbose := on }

theorem step_showing (h : st.role ≠ .run) (on : Bool) (s : Scenario) :
    (s.showing on).step st = ((s.step st).1.showing on, (s.step st).2) := by
  obtain ⟨files, ends, hstep⟩ := onlyNotes_of_role h
  rw [hstep, hstep]
  rfl

theorem steps_showing (h : ∀ st ∈ sts, st.role ≠ .run) (on : Bool) (s : Scenario) :
    (s.showing on).steps sts = ((s.steps sts).1.showing on, (s.steps sts).2) := by
  induction sts generalizing s with
  | nil => rfl
  | cons st sts ih =>
    obtain ⟨hst, hsts⟩ := List.forall_mem_cons.mp h
    simp only [steps, step_showing hst, ih hsts]

variable {arguments : List String} (takes : Command.takesOption arguments = true)

include takes

theorem runIn_showing (s : Scenario) (w : Workspace) :
    ((s.showing true).runIn w arguments).2.EndsLike ((s.showing false).runIn w arguments).2 ∧
      ((s.showing true).runIn w arguments).1.tree = ((s.showing false).runIn w arguments).1.tree :=
  have hends := Command.run_append w takes
  ⟨.ran hends, congrArg Workspace.tree hends.workspace⟩

theorem run_showing (s : Scenario) :
    ((s.showing true).run arguments).2.EndsLike ((s.showing false).run arguments).2 ∧
      ((s.showing true).run arguments).1.tree = ((s.showing false).run arguments).1.tree := by
  have hruns := runIn_showing takes s
  have hsetUp : ∀ on, (s.showing on).isSetUp = s.isSetUp ∧ (s.showing on).setUp = s.setUp :=
    fun _ => ⟨rfl, rfl⟩
  rw [run, run, (hsetUp true).1, (hsetUp false).1, (hsetUp true).2, (hsetUp false).2]
  split
  · exact hruns s.workspace
  · split
    · exact ⟨.same _, rfl⟩
    · exact hruns _

omit takes in
theorem step_runName (args : String) (text : Option String) :
    (∀ s : Scenario, s.step ⟨.run, runName args, text⟩ = (s, .undefined)) ∨
      ∀ s : Scenario, s.step ⟨.run, runName args, text⟩ = s.run (Text.words args) := by
  by_cases hempty : args = ""
  · left
    intro s
    have haction : Action.ofName? .run (runName args) = none := by
      rw [hempty]
      decide +kernel
    simp only [step, haction]
  · right
    intro s
    have haction : Action.ofName? .run (runName args) = some (.run (Text.words args)) :=
      run?_runName hempty
    simp only [step, haction, perform]

end Scenario

/-- **The tag only shows events**, if the arguments take one more option.  After any steps that
prepare files, a run with these arguments ends alike with the tag and without, as every step before
it does, and there are the same files. -/
theorem runScenario_verbose (base : Place) (tags tags' : List String) (preparations : List Step)
    (args : String) (text : Option String) (tagged : verboseTag ∈ tags)
    (untagged : verboseTag ∉ tags')
    (prepares : ∀ st ∈ preparations, st.role = .preparation)
    (takes : Command.takesOption (Text.words args) = true) :
    let shown := runScenario base tags (preparations ++ [⟨.run, runName args, text⟩])
    let plain := runScenario base tags' (preparations ++ [⟨.run, runName args, text⟩])
    List.Forall₂ Verdict.EndsLike shown.2 plain.2 ∧ shown.1.tree = plain.1.tree := by
  intro shown plain
  have hprepares : ∀ st ∈ preparations, st.role ≠ .run := fun st hst => by simp [prepares st hst]
  have hstart : ∀ on, Scenario.start base on = (Scenario.start base false).showing on :=
    fun _ => rfl
  have hshown : shown = ((Scenario.start base false).showing true).steps
      (preparations ++ [⟨.run, runName args, text⟩]) := by
    rw [← hstart, ← List.contains_iff_mem.mpr tagged]
    rfl
  have hplain : plain = ((Scenario.start base false).showing false).steps
      (preparations ++ [⟨.run, runName args, text⟩]) := by
    rw [← hstart, ← Bool.eq_false_iff.mpr (mt List.contains_iff_mem.mp untagged)]
    rfl
  rw [hshown, hplain, Scenario.steps_append, Scenario.steps_append,
    Scenario.steps_showing hprepares, Scenario.steps_showing hprepares]
  generalize ((Scenario.start base false).steps preparations) = before
  have hsame : List.Forall₂ Verdict.EndsLike before.2 before.2 :=
    List.forall₂_same.mpr fun v _ => .same v
  rcases Scenario.step_runName args text with hundefined | hrun
  · simp only [Scenario.steps, hundefined]
    exact ⟨List.rel_append hsame (.cons (.same _) .nil), rfl⟩
  · obtain ⟨hends, htree⟩ := Scenario.run_showing takes before.1
    simp only [Scenario.steps, hrun]
    exact ⟨List.rel_append hsame (.cons hends .nil), htree⟩

/-- An option in front of the root. -/
theorem runScenario_verbose_noFail :
    let preparations : List Step :=
      [⟨.preparation, "the feature file \"a.feature\"", some "Scenario: s"⟩]
    let args := "--max-scenarios 0 --no-fail ."
    let shown := runScenario ["tmp"] ["slow", "verbose"]
      (preparations ++ [⟨.run, runName args, none⟩])
    let plain := runScenario ["tmp"] ["slow"] (preparations ++ [⟨.run, runName args, none⟩])
    verboseTag ∈ ["slow", "verbose"] ∧ verboseTag ∉ ["slow"] ∧
      (∀ st ∈ preparations, st.role = .preparation) ∧
      Command.takesOption (Text.words args) = true ∧
      List.Forall₂ Verdict.EndsLike shown.2 plain.2 ∧ shown.1.tree = plain.1.tree := by
  intro preparations args shown plain
  have htagged : verboseTag ∈ ["slow", "verbose"] := by decide
  have huntagged : verboseTag ∉ ["slow"] := by decide
  have hprepares : ∀ st ∈ preparations, st.role = .preparation := by simp [preparations]
  have htakes : Command.takesOption (Text.words args) = true := by decide +kernel
  exact ⟨htagged, huntagged, hprepares, htakes,
    runScenario_verbose ["tmp"] _ _ preparations args none htagged huntagged hprepares htakes⟩

/-- **Behind two hyphens the option is a root**, and one too many. -/
theorem runScenario_endOfOptions :
    let steps : List Step := [⟨.run, runName "-- .", none⟩]
    ∃ shown plain : Command.Outcome,
      (runScenario ["tmp"] [verboseTag] steps).2 = [.ran shown] ∧ shown.exitCode = 2 ∧
        (runScenario ["tmp"] [] steps).2 = [.ran plain] ∧ plain.exitCode ≤ 1 := by
  intro steps
  have hwords : Text.words "-- ." = ["--", "."] := by decide +kernel
  have hrun : ∀ s : Scenario, s.step ⟨.run, runName "-- .", none⟩ = s.run ["--", "."] := by
    intro s
    have haction : Action.ofName? .run (runName "-- .") = some (.run ["--", "."]) := by
      rw [← hwords]
      exact run?_runName (by decide)
    simp only [Scenario.step, haction, Scenario.perform]
  have hsetUp : ∀ on, ∃ w, ∀ arguments, (Scenario.start ["tmp"] on).run arguments =
      (Scenario.start ["tmp"] on).runIn w arguments := by
    intro on
    have hfresh : (Scenario.start ["tmp"] on).Fresh ["tmp"] := ⟨rfl, rfl⟩
    have hshort : (⟨.root, ["tmp", "project"]⟩ : Path).IsShort := by decide +kernel
    obtain ⟨w, hmade, -⟩ := (hfresh.makeDirs_directory (by decide)).1 hshort
    have hnot : ¬ (Scenario.start ["tmp"] on).isSetUp = true := by
      simp [Scenario.isSetUp, hfresh.get?_project]
    refine ⟨w, fun arguments => ?_⟩
    rw [Scenario.run, if_neg hnot, Scenario.setUp, hmade]
    rfl
  obtain ⟨w, hw⟩ := hsetUp true
  obtain ⟨w', hw'⟩ := hsetUp false
  have hextra : Command.Intent.ofArguments ["--", ".", "--verbose"] =
      .error (.usage (.extraArguments ["--verbose"])) := by decide +kernel
  have hplain : Command.Intent.ofArguments ["--", "."] = .ok (.inspect {}) := by decide +kernel
  refine ⟨Command.run w ["--", ".", "--verbose"], Command.run w' ["--", "."], ?_, ?_, ?_, ?_⟩
  · show ((Scenario.start ["tmp"] true).steps steps).2 = _
    simp only [steps, Scenario.steps, hrun, hw]
    rfl
  · rw [Command.run, hextra]
  · show ((Scenario.start ["tmp"] false).steps steps).2 = _
    simp only [steps, Scenario.steps, hrun, hw']
    rfl
  · rw [Command.run, hplain]
    exact Command.exitCode_inspect_le w' {}

end Acceptance

end FeatureLint
