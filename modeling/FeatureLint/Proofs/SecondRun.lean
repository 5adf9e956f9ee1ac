import FeatureLint.Proofs.Footprint

/-!
# The same run again

The command is run twice with the same arguments.  The first run may have written its report, and
made directories for it, so the second one looks at another tree.  If the report is no part of what
a run reads (`Aside`), the second run takes the same settings and finds the same files, so it has
the same report, which it prints again and writes again, to no effect.

One thing can go wrong.  A root that is missing is no fault, but where the directory above it is
there, a root with too long a name is one; and this directory may be the one that the report was
written to (`run_twice_longName`).

* `inspect_again`, `not_repeats`: the second run, if its search comes to its end and if not.
* `run_twice`: **the command can be repeated if and only if the files can be found again.**
-/

namespace FeatureLint.Command

variable {w : Workspace} {req : Request} {s : Settings} {r : Report} {file : Path}
  {arguments : List String}

theorem spelled_of_ofArguments (h : Intent.ofArguments arguments = .ok (.inspect req)) :
    req.root.Spelled ∧ ∀ file, req.report = some file → file.Spelled := by
  rw [Intent.ofArguments] at h
  split at h
  · cases h
  · split at h
    · rename_i intent hintent
      cases h
      obtain ⟨g, -, hg⟩ := List.exists_of_findSome?_eq_some hintent
      unfold Given.intent? at hg
      split at hg <;> cases hg
    · split at h
      · cases h
      · cases h
        refine ⟨Path.spelled_ofString _, ?_⟩
        rintro file hfile
        obtain ⟨text, -, rfl⟩ := Option.map_eq_some_iff.mp hfile
        exact Path.spelled_ofString text

theorem exists_report (hs : (req.settings w).outcome = .ok s) (h : (inspect w req).fault = none) :
    ∃ r, (Inspection.inspectAll w s req.root).outcome = .ok r ∧
      (req.report = none → (inspect w req).workspace = w) ∧
      ∀ file, req.report = some file → (w.writeDeep file (reportOctets r)).2 = none ∧
        (inspect w req).workspace = (w.writeDeep file (reportOctets r)).1 := by
  simp only [inspect, hs, inspectWith] at h ⊢
  cases hr : (Inspection.inspectAll w s req.root).outcome with
  | error fault => simp [hr, Outcome.cutShort] at h
  | ok r =>
    refine ⟨r, rfl, ?_⟩
    simp only [hr, deliver] at h ⊢
    cases hreport : req.report with
    | none => exact ⟨fun _ => rfl, fun _ h => absurd h.symm (Option.some_ne_none _)⟩
    | some file =>
      refine ⟨fun h => absurd h (Option.some_ne_none _), ?_⟩
      rintro _ ⟨⟩
      simp only [hreport] at h ⊢
      cases hwrite : w.writeDeep file (reportOctets r) with
      | mk written fault =>
        simp only [hwrite] at h ⊢
        cases fault with
        | some fault => cases h
        | none => exact ⟨rfl, rfl⟩

/-- What a run leaves depends on the settings and the report, and on the workspace that the report
was written to. -/
theorem inspect_written (hrooted : w.tree.Rooted) (hs : (req.settings w).outcome = .ok s)
    (hr : (Inspection.inspectAll w s req.root).outcome = .ok r) (hreport : req.report = some file)
    (hwritten : (w.writeDeep file (reportOctets r)).2 = none) :
    (inspect w req).fault = none ∧
      (inspect w req).exitCode = exitStatus s.failOnFindings.isTruthy r ∧
      (inspect w req).transcript.texts .output =
        (reportLines r ++ [verdict s.failOnFindings.isTruthy r]).map printed ∧
      (inspect w req).workspace = (w.writeDeep file (reportOctets r)).1 := by
  have hall : ∀ file, req.report = some file → (w.writeDeep file (reportOctets r)).2 = none := by
    intro file' hfile'
    cases hreport.symm.trans hfile'
    exact hwritten
  obtain ⟨w', before, hinspect, hbefore, -⟩ := inspect_finished hrooted hs hr hall
  obtain ⟨r', hr', -, hfile⟩ := exists_report hs (by rw [hinspect]; rfl)
  rw [hr, Except.ok.injEq] at hr'
  subst hr'
  refine ⟨by rw [hinspect]; rfl, by rw [hinspect]; rfl, ?_, (hfile file hreport).2⟩
  rw [hinspect, List.map_append, ← hbefore]
  exact texts_append before _ .output

/-- A second run ends as the first one did, prints the same to the output, and leaves the files as
the first one left them. -/
structure Outcome.Repeats (second first : Outcome) : Prop where
  exitCode : second.exitCode = first.exitCode
  output : second.transcript.on .output = first.transcript.on .output
  workspace : second.workspace = first.workspace

/-- The file that a report was written to is no part of what the next run reads.  Here `w` is the
workspace between the runs. -/
structure Aside (w : Workspace) (req : Request) (s : Settings) (file : Path) : Prop where
  corpus : ∀ files, (Corpus.find w s.nameFilter s.passedOver req.root).outcome = .ok files →
    ∀ p ∈ files, w.locate p ≠ w.locate file
  project : ∀ named, req.project = some named → w.locate named ≠ w.locate file
  searched : ∀ dir ∈ Project.searched w, w.locate (dir / Project.fileName) ≠ w.locate file

theorem exists_find (h : (Inspection.inspectAll w s req.root).outcome = .ok r) :
    ∃ paths, (Corpus.find w s.nameFilter s.passedOver req.root).outcome = .ok paths := by
  cases hfind : (Corpus.find w s.nameFilter s.passedOver req.root).outcome with
  | error fault => simp [Inspection.inspectAll, Logged.andThen, hfind] at h
  | ok paths => exact ⟨paths, rfl⟩

/-! ### Runs that print nothing -/

theorem joinNewlinesTo_eq_nil {out cs : List Char} (h : Text.joinNewlinesTo out cs = []) :
    out = [] ∧ cs = [] := by
  fun_induction Text.joinNewlinesTo out cs with
  | case1 out => exact ⟨List.reverse_eq_nil_iff.mp h, rfl⟩
  | case2 out cs ih => exact absurd (ih h).1 (List.cons_ne_nil _ _)
  | case3 out c cs _ ih => exact absurd (ih h).1 (List.cons_ne_nil _ _)

theorem captured_printed_ne (lines : List String) (last : String) :
    captured ((lines ++ [last]).map printed) ≠ captured [] := by
  intro h
  have hchars := (joinNewlinesTo_eq_nil (String.ofList_injective h)).2
  rw [List.map_append, List.flatMap_append, List.append_eq_nil_iff] at hchars
  simp [printed] at hchars

theorem inspect_of_find_error {fault : Fault} (hs : (req.settings w).outcome = .ok s)
    (hfind : (Corpus.find w s.nameFilter s.passedOver req.root).outcome = .error fault) :
    (inspect w req).exitCode = 1 ∧ (inspect w req).transcript.texts .output = [] := by
  have hreport : (Inspection.inspectAll w s req.root).outcome = .error fault := by
    simp only [Inspection.inspectAll, Logged.andThen, hfind]
  exact (inspect_of_report_error hs hreport).2

section Written

variable (hw : w.Plain) (hfile : file.Spelled) (hup : ".." ∉ file.names)
  (hwritten : (w.writeDeep file (reportOctets r)).2 = none)
  (haside : Aside (w.writeDeep file (reportOctets r)).1 req s file)

include hw hfile hup hwritten haside

theorem settings_again (hs : (req.settings w).outcome = .ok s) :
    req.settings (w.writeDeep file (reportOctets r)).1 = req.settings w := by
  have hgrown := hw.grown_writeDeep hfile hup hwritten
  have hlocate := hw.locate_writeDeep hfile hup hwritten
  have hproject : ∃ s, (Project.settings w req.project).outcome = .ok s := by
    cases hsettings : (Project.settings w req.project).outcome with
    | error fault => simp [Request.settings, Logged.andThen, hsettings] at hs
    | ok s => exact ⟨s, rfl⟩
  obtain ⟨s', hs'⟩ := hproject
  have hdirs : Project.searched (w.writeDeep file (reportOctets r)).1 = Project.searched w := by
    rw [Project.searched, Project.searched, hgrown.cwd]
  have hsearched := haside.searched
  rw [hlocate, hdirs] at hsearched
  rw [Request.settings, Request.settings,
    Project.settings_grown hgrown (hlocate ▸ haside.project) hsearched hs']

/-- **A run whose report is written can be repeated**, if the search for files comes to its end. -/
theorem inspect_again (hroot : req.root.IsStraight) (hreport : req.report = some file)
    (hs : (req.settings w).outcome = .ok s)
    (hr : (Inspection.inspectAll w s req.root).outcome = .ok r) {files : List Path}
    (hfind : (Corpus.find (w.writeDeep file (reportOctets r)).1 s.nameFilter s.passedOver
      req.root).outcome = .ok files) :
    (inspect (w.writeDeep file (reportOctets r)).1 req).Repeats (inspect w req) := by
  have hgrown := hw.grown_writeDeep hfile hup hwritten
  have hagain := hw.writeDeep_again hfile hup hwritten
  have hsettings := settings_again hw hfile hup hwritten haside hs
  have hcorpus := haside.corpus files hfind
  rw [hw.locate_writeDeep hfile hup hwritten] at hcorpus
  obtain ⟨paths, hpaths⟩ := exists_find hr
  have hr' := (Inspection.inspectAll_grown hgrown hroot hpaths hfind hcorpus).trans hr
  obtain ⟨-, hcode, houtput, hleft⟩ := inspect_written hw.rooted hs hr hreport hwritten
  obtain ⟨-, hcode', houtput', hleft'⟩ := inspect_written hgrown.plain'.rooted
    (hsettings ▸ hs) hr' hreport (by rw [hagain])
  refine ⟨hcode'.trans hcode.symm, ?_, ?_⟩
  · rw [Transcript.on, Transcript.on, houtput', houtput]
  · rw [hleft', hagain, hleft]

theorem not_repeats {fault : Fault} (hreport : req.report = some file)
    (hs : (req.settings w).outcome = .ok s)
    (hr : (Inspection.inspectAll w s req.root).outcome = .ok r)
    (hfind : (Corpus.find (w.writeDeep file (reportOctets r)).1 s.nameFilter s.passedOver
      req.root).outcome = .error fault) :
    ¬ (inspect (w.writeDeep file (reportOctets r)).1 req).Repeats (inspect w req) := by
  intro hrepeats
  have hsettings := settings_again hw hfile hup hwritten haside hs
  obtain ⟨-, -, houtput, -⟩ := inspect_written hw.rooted hs hr hreport hwritten
  obtain ⟨-, hsilent⟩ := inspect_of_find_error (hsettings ▸ hs) hfind
  have hsame := hrepeats.output
  rw [Transcript.on, Transcript.on, hsilent, houtput] at hsame
  exact captured_printed_ne _ _ hsame.symm

end Written

theorem Outcome.Repeats.refl (o : Outcome) : o.Repeats o := ⟨rfl, rfl, rfl⟩

/-- A run that inspects a corpus can be repeated if and only if the files can be found again. -/
theorem inspect_twice (hw : w.Plain) (hroot : req.root.IsStraight)
    (hfile : ∀ file, req.report = some file → file.Spelled ∧ ".." ∉ file.names)
    (hfault : (inspect w req).fault = none)
    (haside : ∀ s file, (req.settings w).outcome = .ok s → req.report = some file →
      Aside (inspect w req).workspace req s file) :
    (inspect (inspect w req).workspace req).Repeats (inspect w req) ↔
      ∀ s, (req.settings w).outcome = .ok s → ∃ files,
        (Corpus.find (inspect w req).workspace s.nameFilter s.passedOver req.root).outcome =
          .ok files := by
  cases hs : (req.settings w).outcome with
  | error fault =>
    rw [(inspect_of_settings_error hs).1]
    exact iff_of_true (.refl _) nofun
  | ok s =>
    obtain ⟨r, hr, hunwritten, hwritten⟩ := exists_report hs hfault
    cases hreport : req.report with
    | none =>
      rw [hunwritten hreport]
      refine iff_of_true (.refl _) ?_
      rintro _ ⟨⟩
      exact exists_find hr
    | some file =>
      obtain ⟨hdone, hleft⟩ := hwritten file hreport
      obtain ⟨hspelled, hup⟩ := hfile file hreport
      have haside := haside s file hs hreport
      rw [hleft] at haside ⊢
      constructor
      · rintro hrepeats _ ⟨⟩
        cases hfind : (Corpus.find (w.writeDeep file (reportOctets r)).1 s.nameFilter s.passedOver
            req.root).outcome with
        | error fault =>
          exact absurd hrepeats (not_repeats hw hspelled hup hdone haside hreport hs hr hfind)
        | ok files => exact ⟨files, rfl⟩
      · intro hfind
        obtain ⟨files, hfind⟩ := hfind s rfl
        exact inspect_again hw hspelled hup hdone haside hroot hreport hs hr hfind

/-- **The command can be run again**, and ends, prints and leaves the files as the first time, if
and only if the files can be found the second time.  The first run may have made directories, the
root among them, and a file; nothing that it has made counts, unless the report is itself a feature
file or a project file. -/
theorem run_twice (w : Workspace) (arguments : List String) (plain : w.Plain)
    (straight : ∀ req, Intent.ofArguments arguments = .ok (.inspect req) →
      ".." ∉ req.root.names ∧ ∀ file, req.report = some file → ".." ∉ file.names)
    (unfaulted : (run w arguments).fault = none)
    (aside : ∀ req s file, Intent.ofArguments arguments = .ok (.inspect req) →
      (req.settings w).outcome = .ok s → req.report = some file →
      Aside (run w arguments).workspace req s file) :
    (run (run w arguments).workspace arguments).Repeats (run w arguments) ↔
      ∀ req s, Intent.ofArguments arguments = .ok (.inspect req) →
        (req.settings w).outcome = .ok s → ∃ files,
          (Corpus.find (run w arguments).workspace s.nameFilter s.passedOver req.root).outcome =
            .ok files := by
  by_cases hintent : ∃ req, Intent.ofArguments arguments = .ok (.inspect req)
  · obtain ⟨req, hintent⟩ := hintent
    obtain ⟨hroot, hfiles⟩ := spelled_of_ofArguments hintent
    obtain ⟨hrootUp, hfilesUp⟩ := straight req hintent
    simp only [run_of_inspect hintent] at unfaulted aside ⊢
    have hrepeats := inspect_twice plain (hroot.isStraight hrootUp)
      (fun file hreport => ⟨hfiles file hreport, hfilesUp file hreport⟩) unfaulted
      fun s file => aside req s file hintent
    rw [hrepeats]
    constructor
    · intro hfind req' s hintent'
      rw [hintent, Except.ok.injEq, Intent.inspect.injEq] at hintent'
      exact hintent' ▸ hfind s
    · exact fun hfind s => hfind req s hintent
  · rw [not_exists] at hintent
    rw [workspace_run hintent]
    exact iff_of_true (.refl _) fun req _ hreq => absurd hreq (hintent req)

/-- A report in a new directory with the name of a feature file. -/
theorem run_twice_newDir :
    let arguments := ["--report", "new.feature/out"]
    let w : Workspace :=
      ⟨⟨[(["a.feature"], .file (Text.Utf8.encode "Scenario: s".toList))]⟩, []⟩
    w.Plain ∧
      (∀ req, Intent.ofArguments arguments = .ok (.inspect req) →
        ".." ∉ req.root.names ∧ ∀ file, req.report = some file → ".." ∉ file.names) ∧
      (run w arguments).fault = none ∧
      (∀ req s file, Intent.ofArguments arguments = .ok (.inspect req) →
        (req.settings w).outcome = .ok s → req.report = some file →
        Aside (run w arguments).workspace req s file) ∧
      (run (run w arguments).workspace arguments).Repeats (run w arguments) := by
  intro arguments w
  let file := Path.ofNames ["new.feature", "out"]
  let req : Request := { report := some file }
  have hintent : Intent.ofArguments arguments = .ok (.inspect req) := by decide +kernel
  have hplain : w.Plain := by decide +kernel
  have hs : (req.settings w).outcome = .ok Policy.default.settings :=
    settings_root hplain rfl rfl rfl rfl
  obtain ⟨paths, hpaths⟩ := Corpus.exists_find_here hplain rfl (by decide +kernel)
  have hr := Inspection.inspectAll_outcome Policy.default hplain.wellFormed hpaths
  generalize Report.ofReadings Policy.default.settings _ = r at hr
  have hspelled : file.Spelled := ⟨by decide, by decide, by decide⟩
  have hwrite : w.writeDeep file (reportOctets r) = _ :=
    hplain.writeDeep_newDir (by decide +kernel) (by decide +kernel) rfl
  have hwritten : (w.writeDeep file (reportOctets r)).2 = none := by rw [hwrite]
  obtain ⟨hfault, -, -, hleft⟩ := inspect_written hplain.rooted hs hr rfl hwritten
  have hgrown := hplain.grown_writeDeep hspelled (by decide) hwritten
  have hlocate := hplain.locate_writeDeep hspelled (by decide) hwritten
  have htree : (w.writeDeep file (reportOctets r)).1.tree.entries.map Prod.fst =
      [["a.feature"], ["new.feature"], ["new.feature", "out"]] := by
    rw [hwrite]
    rfl
  rw [← run_of_inspect hintent] at hfault hleft
  have hstraight : ∀ req, Intent.ofArguments arguments = .ok (.inspect req) →
      ".." ∉ req.root.names ∧ ∀ file, req.report = some file → ".." ∉ file.names := by
    simp only [hintent, Except.ok.injEq, Intent.inspect.injEq]
    rintro _ rfl
    exact ⟨by decide, fun _ hfile => Option.some.inj hfile ▸ by decide⟩
  have haside : ∀ req s file, Intent.ofArguments arguments = .ok (.inspect req) →
      (req.settings w).outcome = .ok s → req.report = some file →
      Aside (run w arguments).workspace req s file := by
    simp only [hintent, Except.ok.injEq, Intent.inspect.injEq, hleft]
    rintro _ s _ rfl hs' ⟨⟩
    cases hs.symm.trans hs'
    refine ⟨?_, fun _ h => absurd h.symm (Option.some_ne_none _), ?_⟩
    · intro files hfiles p hp
      rw [hlocate]
      obtain ⟨names, hnames, hwanted, rfl, -⟩ :=
        (Corpus.mem_find hgrown.plain' (by decide) hfiles).mp hp
      refine hgrown.plain'.locate_ne (Path.IsStraight.append (by decide) hnames) ?_
      rw [Workspace.placeOf_congr hgrown.cwd]
      intro hplace
      obtain rfl : names = ["new.feature", "out"] := hplace
      exact absurd hwanted (by decide +kernel)
    · rw [hlocate]
      exact fun dir => Project.locate_searched_ne hgrown.plain' hgrown.cwd (by decide)
  refine ⟨hplain, hstraight, hfault, haside, ?_⟩
  refine (run_twice w arguments hplain hstraight hfault haside).mpr ?_
  simp only [hintent, Except.ok.injEq, Intent.inspect.injEq, hleft]
  rintro _ s rfl hs'
  cases hs.symm.trans hs'
  exact Corpus.exists_find_here hgrown.plain' hgrown.cwd (by rw [htree]; decide +kernel)

theorem text_new (name : String) : (Path.ofNames ["new", name]).text = "new/" ++ name := by
  apply String.toList_injective
  simp [Path.text, Path.ofNames, Path.Anchor.text, Text.join]

theorem ofArguments_new {name : String} (hslash : '/' ∉ name.toList) (hnul : '\x00' ∉ name.toList)
    (hempty : name ≠ "") (hdot : name ≠ ".") :
    Intent.ofArguments ["new/" ++ name, "--report", "new/out"] = .ok (.inspect
      { root := .ofNames ["new", name], report := some (.ofNames ["new", "out"]) }) := by
  have hchars : ("new/" ++ name).toList = 'n' :: 'e' :: 'w' :: '/' :: name.toList :=
    String.toList_append
  have hspelled : (Path.ofNames ["new", name]).Spelled := by
    refine ⟨?_, ?_, ?_⟩
    · simpa [Tree.AreNames, Path.ofNames] using hslash
    · simpa [Path.ofNames] using Ne.symm hempty
    · simpa [Path.ofNames] using Ne.symm hdot
  have hroot : Path.ofString ("new/" ++ name) = .ofNames ["new", name] := by
    rw [← text_new, Path.ofString_text hspelled]
  have hout : Path.ofString "new/out" = .ofNames ["new", "out"] := by decide +kernel
  have hother : Word.ofString ("new/" ++ name) = .other := by
    rw [Word.ofString, hchars]
    rfl
  have hscan : scan ["new/" ++ name, "--report", "new/out"] =
      .ok { given := [.valued .report "new/out"], others := ["new/" ++ name] } := by
    rw [scan, hother]
    rfl
  have hrefusal : pathRefusal? ("new/" ++ name) = none := by
    rw [pathRefusal?, hchars]
    simp [hnul]
  have hrefusals : Words.refusal?
      { given := [.valued .report "new/out"], others := ["new/" ++ name] } = none := by
    have hvalues : ([Given.valued .report "new/out"].map Given.opt).findSome?
        (refusal? [.valued .report "new/out"]) = none := by decide +kernel
    simp only [Words.refusal?, hvalues, rootText, List.headD_cons, hrefusal, List.tail_cons]
  rw [Intent.ofArguments, hscan]
  simp only [List.findSome?, Given.intent?, hrefusals]
  show Except.ok (Intent.inspect
      { root := Path.ofString ("new/" ++ name)
        report := some (Path.ofString "new/out") }) = _
  rw [hroot, hout]

/-- A root that is missing, in a directory that the report makes, stops the second run if its name
is too long. -/
theorem inspect_longName {name : String} (hproper : Tree.isProper name = true)
    (hnul : '\x00' ∉ name.toList) (hlong : Tree.maxName < name.utf8ByteSize)
    (hshort : ("new/" ++ name).utf8ByteSize ≤ Tree.maxPath) :
    let w : Workspace := ⟨⟨[]⟩, []⟩
    let req : Request :=
      { root := .ofNames ["new", name], report := some (.ofNames ["new", "out"]) }
    w.Plain ∧ (inspect w req).fault = none ∧
      (∀ s, Aside (inspect w req).workspace req s (.ofNames ["new", "out"])) ∧
      (inspect w req).exitCode = 0 ∧
      (inspect (inspect w req).workspace req).exitCode = 1 := by
  intro w req
  have hplain : w.Plain := by decide +kernel
  have hs : (req.settings w).outcome = .ok .default := settings_root hplain rfl rfl rfl rfl
  have hmissing : w.locate req.root = .error .missing := by
    rw [Workspace.locate, Workspace.locateTo, text_new, if_neg (Nat.not_lt.mpr hshort)]
    exact Tree.walk_missing rfl (by decide) (by decide) rfl (by simp)
  have hfind : (Corpus.find w Policy.default.nameFilter Policy.default.passedOver
      req.root).outcome = .ok [] := by
    have hexists : w.exists? req.root = .ok false := by
      simp only [Workspace.exists?, Workspace.node?, Workspace.stat, hmissing]
      split <;> rfl
    simp only [Corpus.find, hexists]
  have hr := Inspection.inspectAll_outcome Policy.default hplain.wellFormed hfind
  rw [List.map_nil] at hr
  have hstatus : exitStatus Settings.default.failOnFindings.isTruthy
      (.ofReadings Policy.default.settings []) = 0 := by decide +kernel
  set r := Report.ofReadings Policy.default.settings []
  let file := Path.ofNames ["new", "out"]
  have hspelled : file.Spelled := ⟨by decide, by decide, by decide⟩
  have hwrite : w.writeDeep file (reportOctets r) = _ :=
    hplain.writeDeep_newDir (by decide +kernel) (by decide +kernel) rfl
  have hwritten : (w.writeDeep file (reportOctets r)).2 = none := by rw [hwrite]
  obtain ⟨hfault, hcode, -, hleft⟩ := inspect_written hplain.rooted hs hr rfl hwritten
  have hgrown := hplain.grown_writeDeep hspelled (by decide) hwritten
  have hlocate := hplain.locate_writeDeep hspelled (by decide) hwritten
  have hplain' := hgrown.plain'
  rw [hleft]
  set w' := (w.writeDeep file (reportOctets r)).1
  have htree : w'.tree = ⟨[(["new"], .dir), (["new", "out"], .file (reportOctets r))]⟩ := by
    simp only [w', hwrite]
    rfl
  have hs' : (req.settings w').outcome = .ok .default :=
    settings_root hplain' hgrown.cwd (by rw [htree]; rfl) rfl rfl
  have hroot : req.root.IsStraight :=
    List.forall_mem_cons.mpr ⟨by decide, List.forall_mem_singleton.mpr hproper⟩
  have hfind' : ∀ filter passedOver, (Corpus.find w' filter passedOver req.root).outcome =
      .error (.system .nameTooLong req.root) := by
    have hparent : w'.tree.get? (w'.placeOf req.root.parent) = some .dir := by
      rw [Workspace.placeOf_congr hgrown.cwd, htree]
      rfl
    have hrootNul : req.root.holdsNul = false := by
      simpa [req, Path.ofNames, Path.holdsNul] using hnul
    have hfar := Corpus.exists?_tooLong hplain' hroot hrootNul hparent fun h =>
      absurd hlong (Nat.not_lt.mpr (h.2 name (by simp [req, Path.ofNames])))
    intro filter passedOver
    simp only [Corpus.find, hfar, Logged.fail]
  have hproject : ∀ named, req.project = some named → w'.locate named ≠ w'.locate file :=
    fun _ h => absurd h.symm (Option.some_ne_none _)
  refine ⟨hplain, hfault, fun s => ⟨?_, hproject, ?_⟩, hcode.trans hstatus, ?_⟩
  · intro files hfiles
    rw [hfind'] at hfiles
    cases hfiles
  · rw [hlocate]
    exact fun dir => Project.locate_searched_ne hplain' hgrown.cwd (by decide)
  · exact (inspect_of_find_error hs' (hfind' _ _)).1

/-- The root is missing both times, but its name is too long for the directory that the report has
made. -/
theorem run_twice_longName :
    let arguments := ["new/" ++ String.ofList (List.replicate 256 'a'), "--report", "new/out"]
    let w : Workspace := ⟨⟨[]⟩, []⟩
    w.Plain ∧
      (∀ req, Intent.ofArguments arguments = .ok (.inspect req) →
        ".." ∉ req.root.names ∧ ∀ file, req.report = some file → ".." ∉ file.names) ∧
      (run w arguments).fault = none ∧
      (∀ req s file, Intent.ofArguments arguments = .ok (.inspect req) →
        (req.settings w).outcome = .ok s → req.report = some file →
        Aside (run w arguments).workspace req s file) ∧
      (run w arguments).exitCode = 0 ∧
      (run (run w arguments).workspace arguments).exitCode = 1 := by
  have hchars : ∀ c ∈ (String.ofList (List.replicate 256 'a')).toList, c = 'a' := by
    intro c hc
    rw [String.toList_ofList] at hc
    exact List.eq_of_mem_replicate hc
  have hlong : Tree.maxName < (String.ofList (List.replicate 256 'a')).utf8ByteSize := by
    decide +kernel
  have hshort : ("new/" ++ String.ofList (List.replicate 256 'a')).utf8ByteSize ≤ Tree.maxPath := by
    decide +kernel
  -- from here on only these facts about the name count
  generalize String.ofList (List.replicate 256 'a') = name at hchars hlong hshort ⊢
  intro arguments w
  have hother : ∀ {c}, c ≠ 'a' → c ∉ name.toList := fun hc hmem => hc (hchars _ hmem)
  have hne : ∀ {short : String}, short.utf8ByteSize ≤ Tree.maxName → name ≠ short := by
    rintro short hshort rfl
    exact absurd hlong (Nat.not_lt.mpr hshort)
  have hintent : Intent.ofArguments arguments = _ :=
    ofArguments_new (hother (by decide)) (hother (by decide)) (hne (by decide)) (hne (by decide))
  have hproper : Tree.isProper name = true :=
    Tree.isProper_iff.mpr ⟨hne (by decide), hne (by decide), hne (by decide)⟩
  obtain ⟨hplain, hfault, haside, hcode, hcode'⟩ :=
    inspect_longName hproper (hother (by decide)) hlong hshort
  simp only [run_of_inspect hintent, hintent, Except.ok.injEq, Intent.inspect.injEq]
  refine ⟨hplain, ?_, hfault, ?_, hcode, hcode'⟩
  · rintro _ rfl
    refine ⟨?_, ?_⟩
    · simpa [Path.ofNames] using (hne (by decide : "..".utf8ByteSize ≤ Tree.maxName)).symm
    · rintro _ ⟨⟩
      decide
  · rintro _ s _ rfl - ⟨⟩
    exact haside s

end FeatureLint.Command
