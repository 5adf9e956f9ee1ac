import FeatureLint.Acceptance.Scenario
import FeatureLint.Proofs.Footprint

/-!
# The project of a scenario after the first run

The first run of a scenario makes the project directory and writes to it what was noted until then.
No later run writes it again, and what is noted later is never written.

The first run comes to one of two ends.  Either the project directory is there, whatever became of
the files, and there it stays, as no run takes a directory away (`Command.get?_run_of_dir`); or it
cannot be made because its path is too long, which has changed nothing and will be so the next time.
`Settled` says one of the two, and a scenario that is settled does not look at its files again
(`step_withFiles`).

* `Action.role_of_ofName?`: a step does what it is for.
* `settled_steps`: a scenario is settled once it has run the command.
* `runScenario_insert`: **from then on steps that prepare files have no effect.**
-/

namespace FeatureLint.Acceptance

/-! ### What a step does -/

namespace Action

def role : Action → Role
  | file _ | scenarios _ _ | uncounted _ | unreadable _ | projectFile => .preparation
  | run _ => .run
  | exitCode _ | prints _ | omits _ | printsText | fileHasText _ => .check

/-- An action that is offered, if any is, is for something certain. -/
def IsFor (r : Role) (offered : Option Action) : Prop := ∀ action ∈ offered, action.role = r

variable {r : Role}

theorem IsFor.orElse {offered others : Option Action} (h : IsFor r offered)
    (h' : IsFor r others) : IsFor r (offered <|> others) := by
  intro action haction
  rw [Option.orElse_eq_orElse, Option.orElse_eq_or, Option.mem_def,
    Option.or_eq_some_iff] at haction
  rcases haction with haction | ⟨-, haction⟩
  · exact h action haction
  · exact h' action haction

theorem IsFor.map {α : Type} {f : α → Action} (filled : Option α) (h : ∀ a, (f a).role = r) :
    IsFor r (filled.map f) := by
  intro action haction
  obtain ⟨a, -, rfl⟩ := Option.map_eq_some_iff.mp haction
  exact h a

theorem IsFor.exactly {action : Action} (expected name : String) (h : action.role = r) :
    IsFor r (exactly expected name action) := by
  intro action' haction
  rw [Acceptance.exactly, Option.mem_def, Option.ite_none_right_eq_some] at haction
  exact Option.some.inj haction.2 ▸ h

/-- **A step does what it is for.** -/
theorem isFor_ofName? (r : Role) (name : String) : IsFor r (ofName? r name) := by
  cases r with
  | preparation =>
    refine .orElse (.map _ ?_) (.orElse (.map _ ?_) (.orElse (.map _ ?_) (.exactly _ _ rfl)))
    · exact fun _ => rfl
    · rintro ⟨path, flaw | count⟩ <;> rfl
    · exact fun _ => rfl
  | run =>
    refine .orElse (.map _ ?_) (.exactly _ _ rfl)
    exact fun _ => rfl
  | check =>
    refine .orElse (.map _ ?_) (.orElse (.map _ ?_) (.orElse (.map _ ?_)
      (.orElse (.exactly _ _ rfl) (.map _ ?_)))) <;> exact fun _ => rfl

theorem exists_run {action : Action} (h : action.role = .run) :
    ∃ arguments, action = .run arguments := by
  cases action with
  | run arguments => exact ⟨arguments, rfl⟩
  | _ => cases h

end Action

namespace Scenario

variable {s : Scenario} {base : Place} {st : Step}

def withFiles (s : Scenario) (files : List (String × List UInt8)) : Scenario :=
  { s with files := files }

/-- What such a step looks at that runs nothing. -/
def seen (s : Scenario) : Scenario := { s with files := [], verbose := false }

/-! ### Steps that run nothing -/

/-- A step changes the files that are noted at most, and its end depends neither on them nor on the
tag. -/
def OnlyNotes (st : Step) : Prop :=
  ∃ (files : List (String × List UInt8) → List (String × List UInt8)) (ends : Scenario → Verdict),
    ∀ s : Scenario, s.step st = (s.withFiles (files s.files), ends s.seen)

theorem onlyNotes_of_role (h : st.role ≠ .run) : OnlyNotes st := by
  refine ⟨fun files => (((start [] false).withFiles files).step st).1.files,
    fun s => (s.step st).2, fun s => ?_⟩
  cases haction : Action.ofName? st.role st.name with
  | none =>
    simp only [step, haction]
    rfl
  | some action =>
    have hrole : action.role ≠ .run := Action.isFor_ofName? st.role st.name action haction ▸ h
    simp only [step, haction]
    generalize st.text = text
    cases action with
    | file | projectFile => cases text <;> rfl
    | uncounted flaw => cases flaw <;> rfl
    | run => exact absurd rfl hrole
    | _ => rfl

theorem step_of_run (h : st.role = .run) :
    (Action.run? st.name = none ∧ ∀ s : Scenario, s.step st = (s, .undefined)) ∨
      ∃ arguments, ∀ s : Scenario, s.step st = s.run arguments := by
  cases haction : Action.ofName? st.role st.name with
  | none =>
    refine .inl ⟨?_, fun s => by simp only [step, haction]⟩
    rwa [h] at haction
  | some action =>
    have hrole := Action.isFor_ofName? st.role st.name action haction
    obtain ⟨arguments, rfl⟩ := Action.exists_run (hrole.trans h)
    exact .inr ⟨arguments, fun s => by simp only [step, haction, perform]⟩

/-! ### Scenarios that are settled -/

/-- The project directory is there, or it will never be. -/
inductive Settled (s : Scenario) : Prop
  | made : s.tree.get? s.project = some .dir → Settled s
  | stuck {fault : Fault} : s.tree.get? s.project = none →
      s.workspace.makeDirs s.directory = (s.workspace, some fault) → Settled s

theorem settled_runIn {w : Workspace} (h : w.tree.get? s.project = some .dir)
    (arguments : List String) : Settled (s.runIn w arguments).1 :=
  .made (Command.get?_run_of_dir h _)

theorem run_of_made (h : s.tree.get? s.project = some .dir) (arguments : List String) :
    s.run arguments = s.runIn s.workspace arguments := by
  have hsetUp : s.isSetUp = true := by simp [isSetUp, h]
  rw [run, if_pos hsetUp]

theorem run_of_stuck {fault : Fault} (h : s.tree.get? s.project = none)
    (hstuck : s.workspace.makeDirs s.directory = (s.workspace, some fault))
    (arguments : List String) : s.run arguments = (s, .broken (.fault fault)) := by
  have hsetUp : ¬ s.isSetUp = true := by simp [isSetUp, h]
  rw [run, if_neg hsetUp, setUp, hstuck]
  rfl

theorem Settled.withFiles (h : s.Settled) (files : List (String × List UInt8)) :
    (s.withFiles files).Settled := by
  cases h with
  | made hdir => exact .made hdir
  | stuck hnone hstuck => exact .stuck hnone hstuck

theorem Settled.run (h : s.Settled) (arguments : List String) : (s.run arguments).1.Settled := by
  cases h with
  | made hdir =>
    rw [run_of_made hdir]
    exact settled_runIn hdir arguments
  | stuck hnone hstuck =>
    rw [run_of_stuck hnone hstuck]
    exact .stuck hnone hstuck

theorem Settled.step (h : s.Settled) (st : Step) : (s.step st).1.Settled := by
  by_cases hrole : st.role = .run
  · rcases step_of_run hrole with ⟨-, hundefined⟩ | ⟨arguments, hrun⟩
    · rw [hundefined]
      exact h
    · rw [hrun]
      exact h.run arguments
  · obtain ⟨files, ends, hstep⟩ := onlyNotes_of_role hrole
    rw [hstep]
    exact h.withFiles _

theorem run_withFiles (h : s.Settled) (arguments : List String)
    (files : List (String × List UInt8)) :
    (s.withFiles files).run arguments =
      ((s.run arguments).1.withFiles files, (s.run arguments).2) := by
  cases h with
  | made hdir =>
    rw [run_of_made hdir, run_of_made (s := s.withFiles files) hdir]
    rfl
  | stuck hnone hstuck =>
    rw [run_of_stuck hnone hstuck, run_of_stuck (s := s.withFiles files) hnone hstuck]

/-- **A scenario that is settled does not look at its files.** -/
theorem step_withFiles (h : s.Settled) (st : Step) (files : List (String × List UInt8)) :
    ∃ files', (s.withFiles files).step st = ((s.step st).1.withFiles files', (s.step st).2) := by
  by_cases hrole : st.role = .run
  · refine ⟨files, ?_⟩
    rcases step_of_run hrole with ⟨-, hundefined⟩ | ⟨arguments, hrun⟩
    · rw [hundefined, hundefined]
    · rw [hrun, hrun, run_withFiles h]
  · obtain ⟨noted, ends, hstep⟩ := onlyNotes_of_role hrole
    refine ⟨noted files, ?_⟩
    rw [hstep, hstep]
    rfl

theorem steps_withFiles (h : s.Settled) (sts : List Step) (files : List (String × List UInt8)) :
    ∃ files', (s.withFiles files).steps sts =
      ((s.steps sts).1.withFiles files', (s.steps sts).2) := by
  induction sts generalizing s files with
  | nil => exact ⟨files, rfl⟩
  | cons st sts ih =>
    obtain ⟨files₁, hstep⟩ := step_withFiles h st files
    obtain ⟨files₂, hsteps⟩ := ih (h.step st) files₁
    refine ⟨files₂, ?_⟩
    simp only [steps, hstep, hsteps]

/-! ### Before the first run -/

theorem lookup_map_dir (q : Place) (places : List Place) :
    (places.map fun place => (place, Node.dir)).lookup q =
      if q ∈ places then some .dir else none := by
  induction places with
  | nil => rfl
  | cons place places ih =>
    rw [List.map_cons, List.lookup_cons, ih]
    by_cases hq : q = place
    · simp [hq]
    · simp [hq, beq_false_of_ne hq]

theorem mem_map_take {q : Place} (hne : q ≠ []) :
    q ∈ (List.range base.length).map (fun n => base.take (n + 1)) ↔ q <+: base := by
  rw [List.mem_map]
  constructor
  · rintro ⟨n, -, rfl⟩
    exact List.take_prefix _ _
  · intro hprefix
    have hpos : 0 < q.length := List.length_pos_iff.mpr hne
    have hle := hprefix.length_le
    refine ⟨q.length - 1, List.mem_range.mpr (by omega), ?_⟩
    rw [Nat.sub_add_cancel hpos, ← List.prefix_iff_eq_take.mp hprefix]

/-- There is only the directory for the project to be made in, and what is above it. -/
structure Fresh (base : Place) (s : Scenario) : Prop where
  project : s.project = base ++ ["project"]
  tree : s.tree = (start base false).tree

namespace Fresh

variable (h : s.Fresh base)

include h

theorem get? (q : Place) : s.tree.get? q = if q <+: base then some .dir else none := by
  rw [h.tree]
  by_cases hnil : q = []
  · simp [hnil, Tree.get?]
  · have hlookup := lookup_map_dir q ((List.range base.length).map fun n => base.take (n + 1))
    simp only [mem_map_take hnil, List.map_map] at hlookup
    rw [Tree.get?, if_neg hnil]
    exact hlookup

theorem get?_project : s.tree.get? s.project = none := by
  have hlonger : ¬ base ++ ["project"] <+: base := fun hprefix => by
    have hle := hprefix.length_le
    rw [List.length_append, List.length_singleton] at hle
    omega
  rw [h.get?, h.project, if_neg hlonger]

theorem rooted : s.tree.Rooted := by
  rw [Tree.rooted_iff]
  intro place node hnode
  rw [h.get?, Option.ite_none_right_eq_some] at hnode
  rw [h.get?, if_pos ((List.dropLast_prefix place).trans hnode.1)]

theorem unlinked : s.tree.Unlinked := by
  rw [h.tree]
  rintro entry hentry
  obtain ⟨n, -, rfl⟩ := List.mem_map.mp hentry
  rfl

theorem parent_directory : s.directory.parent = ⟨.root, base⟩ := by
  rw [directory, h.project]
  exact congrArg (Path.mk .root) List.dropLast_concat

theorem not_isShort_parent (hlong : ¬ s.directory.IsShort)
    (hsize : s.directory.text.utf8ByteSize ≤ Tree.maxPath) : ¬ s.directory.parent.IsShort := by
  rw [h.parent_directory]
  intro hparent
  refine hlong ⟨hsize, fun name hname => ?_⟩
  rw [directory, h.project] at hname
  rcases List.mem_append.mp hname with hname | hname
  · exact hparent.2 name hname
  · rw [List.mem_singleton.mp hname]
    decide

section Proper

variable (hbase : Tree.AreProper base)

include hbase

theorem areProper_project : Tree.AreProper s.project := by
  rw [h.project]
  exact hbase.append (by decide)

theorem locate_parent :
    s.workspace.locate s.directory.parent =
      if s.directory.parent.IsShort then .ok base else .error .nameTooLong := by
  have hproper : ∀ name ∈ base, Tree.isProper name = true := fun name hname => (hbase name hname).1
  have hdir : s.tree.get? ([] ++ base.dropLast) = some .dir := by
    rw [List.nil_append, h.get?, if_pos (List.dropLast_prefix base)]
  rw [h.parent_directory, Workspace.locate, Workspace.locateTo]
  by_cases hsize : Tree.maxPath < (⟨.root, base⟩ : Path).text.utf8ByteSize
  · rw [if_pos hsize, if_neg fun hshort => Nat.not_lt.mpr hshort.1 hsize]
  · rw [if_neg hsize]
    by_cases hlong : ∃ name ∈ base, Tree.maxName < name.utf8ByteSize
    · obtain ⟨name, hname, hsize'⟩ := hlong
      rw [if_neg fun hshort => Nat.not_lt.mpr (hshort.2 name hname) hsize']
      exact Tree.walk_append_tooLong h.rooted hproper ⟨name, hname, hsize'⟩ hdir
    · simp only [not_exists, not_and, not_lt] at hlong
      rw [if_pos ⟨Nat.not_lt.mp hsize, hlong⟩]
      exact (Tree.leads_append h.rooted h.unlinked hproper hlong fun _ => hdir).walk

theorem isShort_parent (hshort : s.directory.IsShort) : s.directory.parent.IsShort := by
  have hne : s.directory.names ≠ [] := by
    rw [directory, h.project]
    exact List.concat_ne_nil _ _
  exact hshort.parent (fun name hname => (h.areProper_project hbase name hname).1) hne

theorem makeDir_directory :
    (s.directory.IsShort →
      ∃ w, s.workspace.makeDir s.directory = .ok w ∧ w.tree.get? s.project = some .dir) ∧
    (¬ s.directory.IsShort → s.workspace.makeDir s.directory = .error .nameTooLong) := by
  have hlast : s.directory.names.getLast? = some "project" := by
    rw [directory, h.project]
    exact List.getLast?_concat
  have hdir : s.workspace.tree.get? base = some .dir := by
    rw [workspace, h.get?, if_pos (List.prefix_refl base)]
  have hfree : s.workspace.tree.get? (base ++ ["project"]) = none := by
    rw [← h.project]
    exact h.get?_project
  have hlocate := h.locate_parent hbase
  constructor
  · intro hshort
    rw [if_pos (h.isShort_parent hbase hshort)] at hlocate
    rw [Workspace.makeDir, if_neg (Nat.not_lt.mpr hshort.1)]
    simp only [hlast, hlocate, hdir, hfree]
    refine ⟨_, rfl, ?_⟩
    rw [h.project]
    exact Tree.get?_put_self (by simp)
  · intro hlong
    rw [Workspace.makeDir]
    split
    · rfl
    · rename_i hsize
      rw [if_neg (h.not_isShort_parent hlong (Nat.not_lt.mp hsize))] at hlocate
      simp only [hlast, hlocate]

theorem not_isDir_directory : s.workspace.isDir s.directory = false := by
  rw [Bool.eq_false_iff, ne_eq, Workspace.isDir_eq_true]
  rintro ⟨-, hstat⟩
  obtain ⟨place, hlocate, hdir⟩ := Workspace.stat_eq_ok.mp hstat
  obtain ⟨-, left, hleads⟩ := Workspace.leads_of_locateTo hlocate
  obtain ⟨rfl, -⟩ := hleads.eq_append h.unlinked fun name hname =>
    (h.areProper_project hbase name hname).1
  exact absurd (h.get?_project.symm.trans hdir) (by simp)

theorem makeDirs_directory :
    (s.directory.IsShort →
      ∃ w, s.workspace.makeDirs s.directory = (w, none) ∧ w.tree.get? s.project = some .dir) ∧
    (¬ s.directory.IsShort →
      ∃ fault, s.workspace.makeDirs s.directory = (s.workspace, some fault)) := by
  have hnul : s.directory.holdsNul = false :=
    List.any_eq_false.mpr fun name hname => by
      simpa using (h.areProper_project hbase name hname).2.1
  obtain ⟨hshort, hlong⟩ := h.makeDir_directory hbase
  constructor
  · intro hsize
    obtain ⟨w, hmade, hdir⟩ := hshort hsize
    exact ⟨w, Workspace.makeDirs_of_makeDir hnul hmade, hdir⟩
  · intro hsize
    refine ⟨.system .nameTooLong s.directory, ?_⟩
    rw [Workspace.makeDirs_of_error hnul (hlong hsize) (by decide), Workspace.unlessDir,
      h.not_isDir_directory hbase]
    rfl

end Proper

end Fresh

theorem get?_writeAll_of_dir {w w' : Workspace} {q : Place} (hq : w.tree.get? q = some .dir)
    {files : List (Path × List UInt8)} {fault : Option Fault}
    (hwrite : writeAll w files = (w', fault)) : w'.tree.get? q = some .dir := by
  induction files generalizing w with
  | nil =>
    cases hwrite
    exact hq
  | cons file files ih =>
    obtain ⟨p, octets⟩ := file
    have hdir := Workspace.get?_writeDeep_of_dir hq p octets
    rw [writeAll] at hwrite
    split at hwrite
    · rename_i hbroken
      cases hwrite
      rwa [hbroken] at hdir
    · rename_i hwritten
      rw [hwritten] at hdir
      exact ih hdir hwrite

/-- **The first run settles a scenario**, whatever becomes of the files. -/
theorem Fresh.settled_run (h : s.Fresh base) (hbase : Tree.AreProper base)
    (arguments : List String) : (s.run arguments).1.Settled := by
  obtain ⟨hshort, hlong⟩ := h.makeDirs_directory hbase
  by_cases hsize : s.directory.IsShort
  · obtain ⟨w, hmade, hdir⟩ := hshort hsize
    have hsetUp : ¬ s.isSetUp = true := by simp [isSetUp, h.get?_project]
    rw [run, if_neg hsetUp, setUp, hmade]
    dsimp only
    -- Even if not all of the files could be written the directory is there.
    split
    · rename_i hwrite
      exact .made (get?_writeAll_of_dir hdir hwrite)
    · rename_i hwrite
      exact settled_runIn (get?_writeAll_of_dir hdir hwrite) arguments
  · obtain ⟨fault, hstuck⟩ := hlong hsize
    rw [run_of_stuck h.get?_project hstuck]
    exact .stuck h.get?_project hstuck

/-! ### Many steps -/

variable {sts : List Step}

theorem steps_append (s : Scenario) (sts sts' : List Step) :
    s.steps (sts ++ sts') =
      (((s.steps sts).1.steps sts').1, (s.steps sts).2 ++ ((s.steps sts).1.steps sts').2) := by
  induction sts generalizing s with
  | nil => rfl
  | cons st sts ih => simp only [List.cons_append, steps, ih]

theorem length_steps (s : Scenario) (sts : List Step) : (s.steps sts).2.length = sts.length := by
  induction sts generalizing s with
  | nil => rfl
  | cons st sts ih => simp only [steps, List.length_cons, ih]

theorem Settled.steps (h : s.Settled) (sts : List Step) : (s.steps sts).1.Settled := by
  induction sts generalizing s with
  | nil => exact h
  | cons st sts ih => exact ih (h.step st)

theorem Fresh.step (h : s.Fresh base) (hbase : Tree.AreProper base) (st : Step) :
    (s.step st).1.Fresh base ∨ (s.step st).1.Settled := by
  by_cases hrole : st.role = .run
  · rcases step_of_run hrole with ⟨-, hundefined⟩ | ⟨arguments, hrun⟩
    · rw [hundefined]
      exact .inl h
    · rw [hrun]
      exact .inr (h.settled_run hbase arguments)
  · obtain ⟨files, ends, hstep⟩ := onlyNotes_of_role hrole
    rw [hstep]
    exact .inl ⟨h.project, h.tree⟩

/-- **A scenario is settled once it has run the command.** -/
theorem Fresh.settled_steps (h : s.Fresh base) (hbase : Tree.AreProper base)
    (hran : ∃ st ∈ sts, st.role = .run ∧ Action.run? st.name ≠ none) :
    (s.steps sts).1.Settled := by
  -- Until the step that is known to run the command the scenario is fresh, or settled before.
  induction sts generalizing s with
  | nil => simp at hran
  | cons st sts ih =>
    show ((s.step st).1.steps sts).1.Settled
    rcases h.step hbase st with hfresh | hsettled
    · obtain ⟨st', hmem, hrole, hknown⟩ := hran
      rcases List.mem_cons.mp hmem with rfl | hmem
      · rcases step_of_run hrole with ⟨hnone, -⟩ | ⟨arguments, hrun⟩
        · exact absurd hnone hknown
        · rw [hrun]
          exact (h.settled_run hbase arguments).steps sts
      · exact ih hfresh ⟨st', hmem, hrole, hknown⟩
    · exact hsettled.steps sts

end Scenario

/-- **The project is frozen at the first run.**  Once the command has been run, be it that the
project could not be set up, one more step that prepares a file makes no difference to what becomes
of the steps before it and behind it, nor to any file; and like every such step it changes nothing
but the files that are noted. -/
theorem runScenario_insert (base : Place) (tags : List String) (before after : List Step) (g : Step)
    (proper : Tree.AreProper base) (preparation : g.role = .preparation)
    (ran : ∃ st ∈ before, st.role = .run ∧ Action.run? st.name ≠ none) :
    (∃ files, (runScenario base tags (before ++ g :: after)).1 =
      (runScenario base tags (before ++ after)).1.withFiles files) ∧
    (∃ vs v vs', vs.length = before.length ∧
      (runScenario base tags (before ++ after)).2 = vs ++ vs' ∧
      (runScenario base tags (before ++ g :: after)).2 = vs ++ v :: vs') ∧
    ∀ (s : Scenario) (st : Step), st.role = .preparation →
      ∃ files, (s.step st).1 = s.withFiles files := by
  have hprepares : ∀ (s : Scenario) (st : Step), st.role = .preparation →
      ∃ files, (s.step st).1 = s.withFiles files := by
    intro s st hrole
    have hne : st.role ≠ .run := by simp [hrole]
    obtain ⟨files, ends, hstep⟩ := Scenario.onlyNotes_of_role hne
    exact ⟨files s.files, congrArg Prod.fst (hstep s)⟩
  have hfresh : (Scenario.start base (tags.contains verboseTag)).Fresh base := ⟨rfl, rfl⟩
  have hsettled := hfresh.settled_steps proper ran
  rw [runScenario, runScenario, Scenario.steps_append, Scenario.steps_append]
  have hlength := Scenario.length_steps (.start base (tags.contains verboseTag)) before
  generalize (Scenario.start base (tags.contains verboseTag)).steps before = first at *
  obtain ⟨files, hfiles⟩ := hprepares first.1 g preparation
  obtain ⟨files', hafter⟩ := Scenario.steps_withFiles hsettled after files
  -- The steps behind start from what is settled, but for the files that are noted.
  simp only [Scenario.steps, hfiles, hafter]
  exact ⟨⟨files', rfl⟩, ⟨first.2, (first.1.step g).2, _, hlength, rfl, rfl⟩, hprepares⟩

/-- The first run finds a file where it needs a directory. -/
theorem runScenario_insert_broken :
    let before : List Step := [⟨.preparation, "the feature file \"a\"", some "Feature: a"⟩,
      ⟨.preparation, "the feature file \"a/b\"", some "Feature: b"⟩,
      ⟨.run, "I run gherkin-guard with no arguments", none⟩]
    let after : List Step := [⟨.run, "I run gherkin-guard with \"--verbose\"", none⟩]
    let g : Step := ⟨.preparation, "the feature file \"c\"", some "Feature: c"⟩
    Tree.AreProper ["tmp"] ∧ g.role = .preparation ∧
      (∃ st ∈ before, st.role = .run ∧ Action.run? st.name ≠ none) ∧
      (∃ files, (runScenario ["tmp"] [] (before ++ g :: after)).1 =
        (runScenario ["tmp"] [] (before ++ after)).1.withFiles files) ∧
      ∃ vs v v', vs.length = 3 ∧ (runScenario ["tmp"] [] (before ++ after)).2 = vs ++ [v'] ∧
        (runScenario ["tmp"] [] (before ++ g :: after)).2 = vs ++ [v, v'] := by
  intro before after g
  have hproper : Tree.AreProper ["tmp"] := by decide
  have hran : ∃ st ∈ before, st.role = .run ∧ Action.run? st.name ≠ none :=
    ⟨⟨.run, "I run gherkin-guard with no arguments", none⟩, by simp [before], rfl,
      by decide +kernel⟩
  obtain ⟨hfiles, ⟨vs, v, vs', hlength, hwithout, hwith⟩, -⟩ :=
    runScenario_insert ["tmp"] [] before after g hproper rfl hran
  have hone : vs'.length = 1 := by
    have hall := Scenario.length_steps (.start ["tmp"] false) (before ++ after)
    have htotal : (vs ++ vs').length = 4 := hwithout ▸ hall
    rw [List.length_append, hlength] at htotal
    have hthree : before.length = 3 := rfl
    omega
  obtain ⟨v', rfl⟩ := List.length_eq_one_iff.mp hone
  exact ⟨hproper, rfl, hran, hfiles, vs, v, v', hlength, hwithout, hwith⟩

end FeatureLint.Acceptance
