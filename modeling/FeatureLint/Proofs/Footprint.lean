import FeatureLint.Proofs.PrintedReport
import FeatureLint.Proofs.ReadAgain

/-!
# What a run touches

A run looks at files until it has a report, prints the report, and only then writes it.  So a run
that comes to no report (`Reportless`) has touched nothing and printed nothing of a report, and one
that cannot write its report has printed all of it.

What writing does to a tree is told place by place (`Workspace.Fate`).  One file may be new or have
other contents, the one to which the path leads through whatever links are on its way, and where
nothing was there may be a directory.  Directories may have come also if the file could not be
written in the end.

* `Workspace.fate_writeDeep`: writing does no more than that.
* `run_footprint`: **neither does a run**, and what it has printed tells how far it came.
-/

namespace FeatureLint

/-! ### Writing -/

namespace Workspace

variable {w w' : Workspace} {p : Path} {file? : Option Path} {q : Place} {octets : List UInt8}

/-- What can become of a place while a file is written to the path `file?`, if there is one. -/
inductive Fate (w w' : Workspace) (file? : Option Path) (q : Place) : Prop
  | kept : w'.tree.get? q = w.tree.get? q → Fate w w' file? q
  | made : w.tree.get? q = none → w'.tree.get? q = some .dir → Fate w w' file? q
  /-- The path leads there, and now there is a file; if something was there, it was a file too. -/
  | written {file : Path} {octets : List UInt8} : file? = some file → w'.locate file = .ok q →
      w'.tree.get? q = some (.file octets) →
      (∀ node, w.tree.get? q = some node → ∃ octets, node = .file octets) → Fate w w' file? q

theorem get?_start_of_makeDirs (hnil : p.names = []) (h : (w.makeDirs p).2 = none) :
    w.tree.get? (w.start p) = some .dir := by
  obtain ⟨anchor, names⟩ := p
  cases (hnil : names = [])
  have hnul : (⟨anchor, []⟩ : Path).holdsNul = false := rfl
  have hfails : ∃ cause, w.makeDir ⟨anchor, []⟩ = .error cause := by
    rw [makeDir]
    split
    · exact ⟨_, rfl⟩
    · exact ⟨_, rfl⟩
  obtain ⟨cause, hcause⟩ := hfails
  rw [makeDirs, hnul, if_neg Bool.false_ne_true] at h
  simp only [List.reverse_nil, makeDirsUp, hcause, unlessDir] at h
  split at h
  · rename_i hdir
    obtain ⟨place, hplace, hnode⟩ := stat_eq_ok.mp (isDir_eq_true.mp hdir).2
    obtain ⟨-, left, hleads⟩ := leads_of_locateTo hplace
    cases hleads
    exact hnode
  · cases h

/-- Writing makes directories first, and then, if nothing was in the way, the file. -/
theorem writeDeep_cases (w : Workspace) (p : Path) (octets : List UInt8) :
    (w.writeDeep p octets).1 = (w.makeDirs p.parent).1 ∨
      (w.makeDirs p.parent).2 = none ∧ ((w.makeDirs p.parent).1.write p octets).2 = none ∧
        (w.writeDeep p octets).1 = ((w.makeDirs p.parent).1.write p octets).1 := by
  rw [writeDeep]
  split
  · rename_i above fault hmade
    rw [hmade]
    exact .inl rfl
  · rename_i above hmade
    rw [hmade]
    cases hfault : (above.write p octets).2 with
    | none => exact .inr ⟨rfl, rfl, rfl⟩
    | some fault => exact .inl (write_of_fault hfault)

theorem get?_makeDirs_of_dir (hq : w.tree.get? q = some .dir) (p : Path) :
    (w.makeDirs p).1.tree.get? q = some .dir := by
  rcases (makeDirs_grows w p).2 q with hsame | ⟨-, hdir⟩
  · rw [hsame, hq]
  · exact hdir

theorem cwd_writeDeep (w : Workspace) (p : Path) (octets : List UInt8) :
    (w.writeDeep p octets).1.cwd = w.cwd := by
  have habove := (makeDirs_grows w p.parent).1
  rcases writeDeep_cases w p octets with heq | ⟨-, hdone, heq⟩
  · rw [heq, habove]
  · obtain ⟨-, place, -, -, hw⟩ := write_eq hdone
    rw [heq, hw, ← habove]

theorem get?_writeDeep_of_dir (hq : w.tree.get? q = some .dir) (p : Path) (octets : List UInt8) :
    (w.writeDeep p octets).1.tree.get? q = some .dir := by
  have habove := get?_makeDirs_of_dir hq p.parent
  rcases writeDeep_cases w p octets with heq | ⟨-, hdone, heq⟩
  · rw [heq, habove]
  · obtain ⟨-, place, -, hdir, hw⟩ := write_eq hdone
    rw [heq, hw]
    exact Tree.get?_put_of_get? habove hdir

/-- **Writing a file leaves all else as it is**, but that directories may be made. -/
theorem fate_writeDeep (hrooted : w.tree.Rooted) (p : Path) (octets : List UInt8) (q : Place) :
    Fate w (w.writeDeep p octets).1 (some p) q := by
  obtain ⟨hcwd, hgrows⟩ := makeDirs_grows w p.parent
  have habove : ∀ {w'}, w'.tree.get? q = (w.makeDirs p.parent).1.tree.get? q →
      Fate w w' (some p) q := by
    intro w' hw'
    rcases hgrows q with hsame | ⟨hnone, hdir⟩
    · exact .kept (hw'.trans hsame)
    · exact .made hnone (hw'.trans hdir)
  rcases writeDeep_cases w p octets with heq | ⟨hmade, hdone, heq⟩
  · rw [heq]
    exact habove rfl
  · obtain ⟨place, hw, hlocate, hdir, hlink⟩ := locate_write (rooted_makeDirs hrooted) hdone
    rw [heq]
    -- The only place that is not a matter of the directories is the one that is written.
    by_cases hq : q = place
    · subst hq
      have hnew : ((w.makeDirs p.parent).1.write p octets).1.tree.get? q = some (.file octets) := by
        rw [hw]
        exact Tree.get?_put_self (Tree.ne_nil_of_get? hdir)
      refine .written rfl hlocate hnew fun node hnode => ?_
      have hsame : (w.makeDirs p.parent).1.tree.get? q = w.tree.get? q := by
        rcases hgrows q with hsame | ⟨hnone, -⟩
        · exact hsame
        · simp [hnone] at hnode
      -- A path without names leads to where it starts, and that is a directory, no link.
      have hstart : p.names = [] → (w.makeDirs p.parent).1.tree.get?
          ((w.makeDirs p.parent).1.start p) = some .dir := by
        intro hnil
        have hparent : p.parent.names = [] := by simp [Path.parent, hnil]
        have hdir := get?_makeDirs_of_dir (get?_start_of_makeDirs hparent hmade) p.parent
        rwa [start, hcwd]
      cases node with
      | file octets => exact ⟨octets, rfl⟩
      | dir => exact absurd (hsame.trans hnode) hdir
      | link target => exact absurd (hsame.trans hnode) (hlink hstart target)
    · refine habove ?_
      rw [hw, Tree.get?_put_of_ne hq]

end Workspace

/-! ### Runs -/

namespace Command

variable {w : Workspace} {req : Request} {s : Settings} {r : Report} {file : Path} {fault : Fault}
  {arguments : List String}

theorem run_of_inspect (h : Intent.ofArguments arguments = .ok (.inspect req)) (w : Workspace) :
    run w arguments = inspect w req := by
  simp only [run, h]

theorem workspace_run (h : ∀ req, Intent.ofArguments arguments ≠ .ok (.inspect req)) :
    (run w arguments).workspace = w := by
  unfold run
  split
  · rfl
  · rfl
  · rfl
  · rfl
  · rename_i req hintent
    exact absurd hintent (h req)

theorem settings_root (hw : w.Plain) (hcwd : w.cwd = [])
    (hnone : w.tree.get? ["pyproject.toml"] = none) (hproject : req.project = none)
    (hoptions : req.options.given = []) : (req.settings w).outcome = .ok .default := by
  rw [Request.settings, hproject, Project.settings_root hw hcwd hnone]
  simp only [Logged.andThen, Logged.ofExcept, Settings.update, hoptions]
  rfl

/-! What a run leaves, by how far it comes. -/

theorem run_of_refusal {refusal : Refusal} (h : Intent.ofArguments arguments = .error refusal) :
    (run w arguments).workspace = w ∧ (run w arguments).transcript.texts .output = [] := by
  rw [run, h]
  cases refusal with
  | usage e => exact ⟨rfl, rfl⟩
  | fault f => exact ⟨rfl, rfl⟩

theorem inspect_of_settings_error (h : (req.settings w).outcome = .error fault) :
    (inspect w req).workspace = w ∧
      ∀ text ∈ (inspect w req).transcript.texts .output,
        ∃ file searched, text = printed (Fault.noProject file searched).message := by
  simp only [inspect, h]
  split
  · rename_i file searched _
    refine ⟨rfl, fun text htext => ⟨file, searched, ?_⟩⟩
    rw [texts_append, texts_debugLines] at htext
    exact List.mem_singleton.mp htext
  · refine ⟨rfl, fun text htext => ?_⟩
    rw [Outcome.cutShort, texts_debugLines] at htext
    exact absurd htext List.not_mem_nil
  · rename_i hok
    cases hok

theorem inspect_of_report_error (hs : (req.settings w).outcome = .ok s)
    (hr : (Inspection.inspectAll w s req.root).outcome = .error fault) :
    (inspect w req).workspace = w ∧ (inspect w req).exitCode = 1 ∧
      (inspect w req).transcript.texts .output = [] := by
  simp only [inspect, hs, inspectWith, hr]
  refine ⟨rfl, rfl, ?_⟩
  rw [Outcome.cutShort, texts_append, texts_debugLines, texts_debugLines, List.append_nil]

theorem inspect_of_write_error (hs : (req.settings w).outcome = .ok s)
    (hr : (Inspection.inspectAll w s req.root).outcome = .ok r) (hreport : req.report = some file)
    (hwrite : (w.writeDeep file (reportOctets r)).2 = some fault) :
    (inspect w req).exitCode = 1 ∧
      (inspect w req).transcript.texts .output = (reportLines r).map printed := by
  simp only [inspect, hs, inspectWith, hr, deliver, hreport]
  split
  · refine ⟨rfl, ?_⟩
    exact texts_shown _ _ _ r
  · rename_i hdone
    rw [hdone] at hwrite
    cases hwrite

/-- Nothing is touched but by writing to the file that was named. -/
theorem workspace_inspect (w : Workspace) (req : Request) :
    (inspect w req).workspace = w ∨ ∃ file octets, req.report = some file ∧
      (inspect w req).workspace = (w.writeDeep file octets).1 := by
  cases hs : (req.settings w).outcome with
  | error fault => exact .inl (inspect_of_settings_error hs).1
  | ok s =>
    cases hr : (Inspection.inspectAll w s req.root).outcome with
    | error fault => exact .inl (inspect_of_report_error hs hr).1
    | ok r =>
      simp only [inspect, hs, inspectWith, hr, deliver]
      cases hreport : req.report with
      | none => exact .inl rfl
      | some file =>
        refine .inr ⟨file, reportOctets r, rfl, ?_⟩
        dsimp only
        split
        · rename_i hwrite
          rw [hwrite]
          rfl
        · rename_i hwrite
          rw [hwrite]
          rfl

def reportFile? (arguments : List String) : Option Path :=
  match Intent.ofArguments arguments with
  | .ok (.inspect req) => req.report
  | _ => none

theorem workspace_run_cases (w : Workspace) (arguments : List String) :
    (run w arguments).workspace = w ∨ ∃ file octets, reportFile? arguments = some file ∧
      (run w arguments).workspace = (w.writeDeep file octets).1 := by
  by_cases h : ∃ req, Intent.ofArguments arguments = .ok (.inspect req)
  · obtain ⟨req, hintent⟩ := h
    rw [run_of_inspect hintent, reportFile?, hintent]
    exact workspace_inspect w req
  · exact .inl (workspace_run (not_exists.mp h))

theorem get?_run_of_dir {q : Place} (hq : w.tree.get? q = some .dir) (arguments : List String) :
    (run w arguments).workspace.tree.get? q = some .dir := by
  rcases workspace_run_cases w arguments with hsame | ⟨file, octets, -, hwritten⟩
  · rw [hsame, hq]
  · rw [hwritten]
    exact Workspace.get?_writeDeep_of_dir hq file octets

/-! ### Runs without a report -/

inductive Reportless (w : Workspace) (arguments : List String) : Prop
  | rejected {refusal : Refusal} : Intent.ofArguments arguments = .error refusal →
      Reportless w arguments
  /-- The settings cannot be found, or cannot be read, or say what they must not. -/
  | unsettled {req : Request} {fault : Fault} : Intent.ofArguments arguments = .ok (.inspect req) →
      (req.settings w).outcome = .error fault → Reportless w arguments
  | uninspected {req : Request} {s : Settings} {fault : Fault} :
      Intent.ofArguments arguments = .ok (.inspect req) → (req.settings w).outcome = .ok s →
      (Inspection.inspectAll w s req.root).outcome = .error fault → Reportless w arguments

inductive Unwritten (w : Workspace) (arguments : List String) (r : Report) : Prop
  | intro {req : Request} {s : Settings} {file : Path} {fault : Fault} :
      Intent.ofArguments arguments = .ok (.inspect req) → (req.settings w).outcome = .ok s →
      (Inspection.inspectAll w s req.root).outcome = .ok r → req.report = some file →
      (w.writeDeep file (reportOctets r)).2 = some fault → Unwritten w arguments r

/-- No line of any report has been printed, and no verdict on one. -/
def Outcome.IsSilent (o : Outcome) : Prop :=
  ∀ failOnFindings r, ∀ line ∈ reportLines r ++ [verdict failOnFindings r],
    printed line ∉ o.transcript.texts .output

theorem head?_noProject (file : Path) (searched : List Path) :
    (printed (Fault.noProject file searched).message).toList.head? = some '"' := by
  have hmessage : (Fault.noProject file searched).message =
      "\"" ++ file.text ++ "\" could not be located in the search paths: "
        ++ Text.quotedList (searched.map Path.text) := rfl
  have hquote : "\"".toList = ['"'] := rfl
  rw [printed, hmessage, String.append_assoc, String.append_assoc, String.toList_append,
    Text.toList_withoutSequences, String.toList_append, hquote, List.singleton_append,
    Text.dropSequences_cons (by decide)]
  rfl

theorem isSilent_of_texts {o : Outcome}
    (h : ∀ text ∈ o.transcript.texts .output,
      ∃ file searched, text = printed (Fault.noProject file searched).message) : o.IsSilent := by
  intro failOnFindings r line hline hmem
  obtain ⟨file, searched, htext⟩ := h _ hmem
  -- What is printed instead starts with a quotation mark, and no line of a report does.
  have hhead : ((printed line).toList.take 2).head? = some '"' := by
    rw [htext, List.head?_take, if_neg (by decide), head?_noProject]
  rcases List.mem_append.mp hline with hline | hline
  · rcases take_reportLine hline with rfl | hbegin
    · rw [printed_nothing] at hhead
      exact absurd hhead (by decide)
    · rw [take_printed_of_mem hbegin] at hhead
      have hno : ∀ start ∈ beginnings, start.head? ≠ some '"' := by decide
      exact hno _ hbegin hhead
  · rw [List.mem_singleton.mp hline, take_printed_verdict] at hhead
    exact absurd hhead (by decide)

theorem isSilent_of_nil {o : Outcome} (h : o.transcript.texts .output = []) : o.IsSilent :=
  isSilent_of_texts fun text htext => by simp [h] at htext

/-- **What a run touches**: at most the file that was named for the report is new or other than it
was, and where nothing was there may be directories.  A run that comes to no report touches nothing
and prints nothing of a report.  A run that cannot write its report has printed it, prints no
verdict and fails. -/
theorem run_footprint (w : Workspace) (arguments : List String) (rooted : w.tree.Rooted) :
    (run w arguments).workspace.cwd = w.cwd ∧
      (∀ place, w.Fate (run w arguments).workspace (reportFile? arguments) place) ∧
      (Reportless w arguments →
        (run w arguments).workspace = w ∧ (run w arguments).IsSilent) ∧
      ∀ r, Unwritten w arguments r →
        (run w arguments).exitCode = 1 ∧
          (run w arguments).transcript.texts .output = (reportLines r).map printed ∧
          ∀ failOnFindings r',
            printed (verdict failOnFindings r') ∉ (run w arguments).transcript.texts .output := by
  refine ⟨?_, fun place => ?_, fun hless => ?_, fun r hunwritten => ?_⟩
  · rcases workspace_run_cases w arguments with hsame | ⟨file, octets, -, hwritten⟩
    · rw [hsame]
    · rw [hwritten, Workspace.cwd_writeDeep]
  · rcases workspace_run_cases w arguments with hsame | ⟨file, octets, hfile, hwritten⟩
    · exact .kept (by rw [hsame])
    · rw [hwritten, hfile]
      exact Workspace.fate_writeDeep rooted file octets place
  · cases hless with
    | rejected hrefusal =>
      obtain ⟨hsame, hsilent⟩ := run_of_refusal (w := w) hrefusal
      exact ⟨hsame, isSilent_of_nil hsilent⟩
    | unsettled hintent hs =>
      rw [run_of_inspect hintent]
      obtain ⟨hsame, htexts⟩ := inspect_of_settings_error hs
      exact ⟨hsame, isSilent_of_texts htexts⟩
    | uninspected hintent hs hr =>
      rw [run_of_inspect hintent]
      obtain ⟨hsame, -, hsilent⟩ := inspect_of_report_error hs hr
      exact ⟨hsame, isSilent_of_nil hsilent⟩
  · cases hunwritten with
    | intro hintent hs hr hreport hwrite =>
      rw [run_of_inspect hintent]
      obtain ⟨hcode, htexts⟩ := inspect_of_write_error hs hr hreport hwrite
      refine ⟨hcode, htexts, fun failOnFindings r' => ?_⟩
      rw [htexts]
      exact printed_verdict_not_mem failOnFindings r' r

/-- A report below a feature file, which is in the way of its directory. -/
theorem run_footprint_blocked :
    let arguments := ["--report", "a.feature/out"]
    let w : Workspace :=
      ⟨⟨[(["a.feature"], .file (Text.Utf8.encode "Scenario: s".toList))]⟩, []⟩
    w.tree.Rooted ∧
      (∀ place, w.Fate (run w arguments).workspace (some (.ofNames ["a.feature", "out"])) place) ∧
      ∃ r, Unwritten w arguments r ∧ (run w arguments).exitCode = 1 ∧
        (run w arguments).transcript.texts .output = (reportLines r).map printed := by
  intro arguments w
  let file := Path.ofNames ["a.feature", "out"]
  let req : Request := { report := some file }
  have hintent : Intent.ofArguments arguments = .ok (.inspect req) := by decide +kernel
  have hplain : w.Plain := by decide +kernel
  have hs : (req.settings w).outcome = .ok Policy.default.settings :=
    settings_root hplain rfl rfl rfl rfl
  obtain ⟨paths, hpaths⟩ := Corpus.exists_find_here hplain rfl (by decide +kernel)
  have hr := Inspection.inspectAll_outcome Policy.default hplain.wellFormed hpaths
  generalize Report.ofReadings Policy.default.settings _ = r at hr
  have hblocked : w.makeDirs file.parent = (w, w.unlessDir .exists file.parent) :=
    Workspace.makeDirs_of_error (by decide)
      (hplain.makeDir_of_get? (by decide) (by decide +kernel) rfl) (by decide)
  have hwrite : (w.writeDeep file (reportOctets r)).2 = some (.system .exists file.parent) := by
    have hdir : w.isDir file.parent = false := by
      rw [Bool.eq_false_iff, ne_eq, Workspace.isDir_eq_true, hplain.stat_iff (by decide)]
      rintro ⟨-, -, hdir⟩
      cases hdir
    simp only [Workspace.writeDeep, hblocked, Workspace.unlessDir, hdir]
    rfl
  have hunwritten : Unwritten w arguments r := .intro hintent hs hr rfl hwrite
  obtain ⟨-, hfates, -, hlost⟩ := run_footprint w arguments hplain.rooted
  obtain ⟨hcode, htexts, -⟩ := hlost r hunwritten
  have hfile : reportFile? arguments = some file := by rw [reportFile?, hintent]
  exact ⟨hplain.rooted, hfile ▸ hfates, r, hunwritten, hcode, htexts⟩

end Command

end FeatureLint
