import FeatureLint.Command.Run
import FeatureLint.Proofs.NearestProject
import FeatureLint.Proofs.PrintedReport
import FeatureLint.Proofs.UpdatedSettings

/-!
# The settings of a run

The settings that a run inspects with come from three places: what the command line gives goes over
what the table of the project file says, and that goes over the defaults
(`Command.Request.Effective`).  The command line has no word on the pattern for file names and on
the directories that are passed over.

* `Project.settings_eq_ok`: the settings of a project are what its table makes of the defaults.
* `Command.Request.effective_of_updates`: the command line over the settings of a project.
* `Command.inspectWith_goesBy`: a run prints what the inspection with its settings comes to, and
  ends by it.
* `Command.settings_effective`: **a run inspects with the effective settings**, just if no look-up
  for a project file is refused.
-/

namespace FeatureLint

/-! ### Results that may be faults -/

theorem except_bind_eq_ok {ε α β : Type} {x : Except ε α} {f : α → Except ε β} {b : β} :
    (x >>= f) = .ok b ↔ ∃ a, x = .ok a ∧ f a = .ok b := by
  cases x with
  | error e => exact iff_of_false (fun h => nomatch h) fun ⟨_, h, _⟩ => nomatch h
  | ok a => simp [bind, Except.bind]

namespace Project

/-- The table with the settings in the fields of a project file; a missing table is empty. -/
inductive Section (fields : List (String × Value)) : Options → Prop
  | written {form form' : TableForm} {tools : List (String × Value)} {options : Options} :
      Value.field? "tool" fields = some (.table form tools) →
      Value.field? "gherkin-guard" tools = some (.table form' options) → Section fields options
  | unwritten {form : TableForm} {tools : List (String × Value)} :
      Value.field? "tool" fields = some (.table form tools) →
      Value.field? "gherkin-guard" tools = none → Section fields []
  | toolless : Value.field? "tool" fields = none → Section fields []

/-- **What is said about the settings** where they are read from a file, or from none. -/
inductive Says (w : Workspace) : Option Path → Options → Prop
  | nothing : Says w none []
  | contents {file : Path} {octets : List UInt8} {fields : List (String × Value)}
      {options : Options} : w.read file = .ok octets → fieldsOf octets = .ok fields →
      Section fields options → Says w (some file) options

variable {w : Workspace} {named file? : Option Path} {file : Path} {s : Settings}
  {fields : List (String × Value)} {options options' : Options}

theorem optionsOf_eq_ok : optionsOf fields = .ok options ↔ Section fields options := by
  constructor
  · intro h
    rw [optionsOf] at h
    cases htool : Value.field? toolKey fields with
    | none =>
      simp only [htool, Option.getD_none, Value.field?] at h
      cases h
      exact .toolless htool
    | some tool =>
      simp only [htool, Option.getD_some] at h
      cases tool with
      | table form tools =>
        cases hsection : Value.field? sectionKey tools with
        | none =>
          simp only [hsection, Option.getD_none] at h
          cases h
          exact .unwritten htool hsection
        | some v =>
          simp only [hsection, Option.getD_some] at h
          cases v with
          | table form' options' =>
            cases h
            exact .written htool hsection
          | _ => cases h
      | _ => cases h
  · intro h
    cases h with
    | written htool hsection =>
      simp only [optionsOf, toolKey, sectionKey, htool, hsection, Option.getD_some]
    | unwritten htool hsection =>
      simp only [optionsOf, toolKey, sectionKey, htool, hsection, Option.getD_some,
        Option.getD_none]
    | toolless htool =>
      simp only [optionsOf, toolKey, htool, Option.getD_none, Value.field?]

theorem settingsIn_eq_ok : settingsIn w file = .ok s ↔
    ∃ options, Says w (some file) options ∧ Settings.default.update options = .ok s := by
  simp only [settingsIn, except_bind_eq_ok, optionsOf_eq_ok]
  constructor
  · rintro ⟨octets, hread, fields, hfields, options, hsection, hupdate⟩
    exact ⟨options, .contents hread hfields hsection, hupdate⟩
  · rintro ⟨options, hsays, hupdate⟩
    cases hsays with
    | contents hread hfields hsection =>
      exact ⟨_, hread, _, hfields, options, hsection, hupdate⟩

theorem Says.unique (h : Says w file? options) (h' : Says w file? options') :
    options = options' := by
  cases h with
  | nothing =>
    cases h' with
    | nothing => rfl
  | contents hread hfields hsection =>
    cases h' with
    | contents hread' hfields' hsection' =>
      obtain rfl := Except.ok.inj (hread.symm.trans hread')
      obtain rfl := Except.ok.inj (hfields.symm.trans hfields')
      rw [← optionsOf_eq_ok] at hsection hsection'
      exact Except.ok.inj (hsection.symm.trans hsection')

/-- **The settings of a project** are those that its table makes of the defaults. -/
theorem settings_eq_ok : (settings w named).outcome = .ok s ↔
    ∃ file? options, Uses w named file? ∧ Unrefused w named file? ∧ Says w file? options ∧
      Settings.default.update options = .ok s := by
  have hchosen : (settings w named).outcome = .ok s ↔ ∃ file?, choose w named = .ok file? ∧
      ∃ options, Says w file? options ∧ Settings.default.update options = .ok s := by
    rw [settings]
    cases choose w named with
    | error fault => simp [Logged.fail]
    | ok file? =>
      cases file? with
      | some file => simp [settingsIn_eq_ok]
      | none =>
        have hdefault : Settings.default.update [] = .ok .default :=
          Settings.update_of_all_null fun _ h => absurd h List.not_mem_nil
        constructor
        · rintro ⟨⟩
          exact ⟨none, rfl, [], .nothing, hdefault⟩
        · rintro ⟨_, ⟨⟩, options, hsays, hupdate⟩
          obtain rfl := hsays.unique .nothing
          exact hdefault.symm.trans hupdate
  rw [hchosen]
  simp only [choose_eq_ok, and_assoc, exists_and_left]

end Project

namespace Command

/-- **The settings of a run**: the command line goes over the table of the project file, and that
over the defaults. -/
structure Request.Effective (req : Request) (options : Options) (s : Settings) : Prop where
  ceiling : s.ceiling =
    (req.ceiling.map .int).getD ((options.said "max_scenarios").getD (.int 100))
  failOnFindings : s.failOnFindings =
    (req.failOnFindings.map .bool).getD ((options.said "fail_on_violations").getD (.bool true))
  caseSensitive : s.caseSensitive =
    (req.ignoreCase.map fun ignored => .bool !ignored).getD
      ((options.said "case_sensitive").getD (.bool true))
  withinFile : s.withinFile =
    (req.withinFile.map .bool).getD ((options.said "within_file_duplicates").getD (.bool true))
  checkCells : s.checkCells = if req.skipCells then .bool false
    else (options.said "check_empty_cells").getD (.bool true)
  nameFilter : NameFilter.SetTo (.pattern .dotFeature) (options.said "include") s.nameFilter
  passedOver : Settings.PassedOver (Settings.foreignDirectories.map .text)
    (options.said "exclude") s.passedOver

variable {w : Workspace} {req : Request} {options : Options} {s s' : Settings}
  {file? : Option Path}

/-! ### What the command line says -/

namespace Request

def gives (req : Request) : Setting → Option Value
  | .ceiling => req.ceiling.map .int
  | .failOnFindings => req.failOnFindings.map .bool
  | .caseSensitive => req.ignoreCase.map fun ignored => .bool !ignored
  | .withinFile => req.withinFile.map .bool
  | .checkCells => if req.skipCells then some (.bool false) else none
  | .nameFilter | .passedOver => none

theorem said_options (req : Request) (setting : Setting) :
    req.options.said setting.key = req.gives setting := by
  obtain ⟨ceiling, failOnFindings, ignoreCase, withinFile, skipCells⟩ := req
  cases setting with
  | ceiling => cases ceiling <;> rfl
  | failOnFindings => cases failOnFindings <;> rfl
  | caseSensitive => cases ignoreCase <;> rfl
  | withinFile => cases withinFile <;> rfl
  | checkCells => cases skipCells <;> rfl
  | nameFilter => rfl
  | passedOver => rfl

theorem accepted_options (req : Request) : req.options.Accepted := by
  have hkeys : ∀ k ∈ req.options.map Prod.fst, Setting.IsKey (Options.readKey k) := by
    show ∀ k ∈ ["max_scenarios", "fail_on_violations", "case_sensitive", "within_file_duplicates",
      "check_empty_cells"], Setting.IsKey (Options.readKey k)
    decide +kernel
  refine ⟨fun t ht => ?_, fun v hv => ?_, fun key hkey => ?_⟩
  · cases ht.symm.trans (said_options req .nameFilter)
  · cases hv.symm.trans (said_options req .passedOver)
  · obtain ⟨v, hv⟩ := Option.ne_none_iff_exists'.mp hkey
    obtain ⟨k, hmem, rfl, -⟩ := Options.exists_of_said hv
    exact hkeys k (List.mem_map_of_mem hmem)

theorem effective_of_updates (h : Settings.default.update options = .ok s)
    (h' : s.update req.options = .ok s') : req.Effective options s' := by
  have hfile := Settings.updated_of_update h
  have hline := Settings.updated_of_update h'
  have hsaid : ∀ (setting : Setting) {old new : Value}, old = new →
      (req.options.said setting.key).getD old = (req.gives setting).getD new := by
    rintro setting old _ rfl
    rw [said_options]
  refine ⟨hline.ceiling.trans (hsaid .ceiling hfile.ceiling),
    hline.failOnFindings.trans (hsaid .failOnFindings hfile.failOnFindings),
    hline.caseSensitive.trans (hsaid .caseSensitive hfile.caseSensitive),
    hline.withinFile.trans (hsaid .withinFile hfile.withinFile), ?_, ?_, ?_⟩
  · refine (hline.checkCells.trans (hsaid .checkCells hfile.checkCells)).trans ?_
    rw [gives]
    cases req.skipCells <;> rfl
  · have hkept : s'.nameFilter = s.nameFilter :=
      (said_options req .nameFilter ▸ hline.nameFilter).eq_old
    exact hkept ▸ hfile.nameFilter
  · have hkept : s'.passedOver = s.passedOver :=
      (said_options req .passedOver ▸ hline.passedOver).eq_old
    exact hkept ▸ hfile.passedOver

theorem settings_eq_ok : (req.settings w).outcome = .ok s ↔
    ∃ project, (Project.settings w req.project).outcome = .ok project ∧
      project.update req.options = .ok s := by
  rw [settings, Logged.andThen]
  cases (Project.settings w req.project).outcome <;> simp [Logged.ofExcept]

end Request

/-! ### What the settings are for -/

/-- A run goes by what an inspection comes to.  A fault cuts it short.  A report is printed before
all else, and a run that is not cut short ends with the verdict on it. -/
structure Outcome.GoesBy (o : Outcome) (failOnFindings : Bool) (found : Except Fault Report) :
    Prop where
  cutShort : ∀ fault, found = .error fault → o.fault = some fault ∧ o.exitCode = 1
  shown : ∀ r, found = .ok r → (reportLines r).map printed <+: o.transcript.texts .output
  finished : ∀ r, found = .ok r → o.fault = none →
    o.transcript.texts .output = (reportLines r ++ [verdict failOnFindings r]).map printed ∧
      o.exitCode = exitStatus failOnFindings r

section GoesBy

variable {r : Report} {before : Transcript} (h : before.texts .output = (reportLines r).map printed)

include h

theorem finished_goesBy (w : Workspace) (s : Settings) :
    (Outcome.finished w before s r).GoesBy s.failOnFindings.isTruthy (.ok r) where
  cutShort _ hfound := nomatch hfound
  shown := by
    rintro _ ⟨⟩
    rw [Outcome.finished, texts_append, h]
    exact List.prefix_append _ _
  finished := by
    rintro _ ⟨⟩ -
    refine ⟨?_, rfl⟩
    rw [Outcome.finished, texts_append, h, List.map_append]
    rfl

theorem cutShort_goesBy (w : Workspace) (failOnFindings : Bool) (fault : Fault) :
    (Outcome.cutShort w before fault).GoesBy failOnFindings (.ok r) where
  cutShort _ hfound := nomatch hfound
  shown := by
    rintro _ ⟨⟩
    rw [Outcome.cutShort, h]
  finished _ _ hfault := nomatch hfault

theorem deliver_goesBy (w : Workspace) (req : Request) (s : Settings) :
    (deliver w req s r before).GoesBy s.failOnFindings.isTruthy (.ok r) := by
  rw [deliver]
  split
  · exact finished_goesBy h w s
  · split
    · exact cutShort_goesBy h _ _ _
    · refine finished_goesBy ?_ _ s
      rw [texts_append, texts_debugLines, List.append_nil, h]

end GoesBy

theorem inspectWith_goesBy (w : Workspace) (req : Request) (s : Settings) (events : List Event) :
    (inspectWith w req s (debugLines req.verbose events)).GoesBy s.failOnFindings.isTruthy
      (Inspection.inspectAll w s req.root).outcome := by
  rw [inspectWith]
  cases (Inspection.inspectAll w s req.root).outcome with
  | error fault =>
    refine ⟨?_, ?_, ?_⟩
    · rintro _ ⟨⟩
      exact ⟨rfl, rfl⟩
    · rintro _ ⟨⟩
    · rintro _ ⟨⟩
  | ok r => exact deliver_goesBy (texts_shown _ _ _ r) w req s

/-- **The settings of a run.**  Where no file is named, one file or none is used.  If what it says
is accepted, the run has settings just if no look-up on the way was refused, and it inspects with
the effective ones and goes by what this comes to. -/
theorem settings_effective (w : Workspace) :
    (∃! file?, Project.Uses w none file?) ∧
      ∀ (req : Request) (file? : Option Path) (options : Options),
        Project.Uses w req.project file? → Project.Says w file? options → options.Accepted →
        ((∃ s, (req.settings w).outcome = .ok s) ↔ Project.Unrefused w req.project file?) ∧
          ∀ s, (req.settings w).outcome = .ok s → req.Effective options s ∧
            inspect w req =
              inspectWith w req s (debugLines req.verbose (req.settings w).events) ∧
            (inspect w req).GoesBy s.failOnFindings.isTruthy
              (Inspection.inspectAll w s req.root).outcome := by
  have hsettled : ∃! file?, Project.Uses w none file? := by
    obtain ⟨file?, huses⟩ := Project.exists_uses w
    exact ⟨file?, huses, fun _ h => h.unique huses⟩
  refine ⟨hsettled, fun req file? options huses hsays haccepted => ⟨⟨?_, ?_⟩, ?_⟩⟩
  · rintro ⟨s, hs⟩
    obtain ⟨project, hproject, -⟩ := Request.settings_eq_ok.mp hs
    obtain ⟨file', -, huses', hunrefused, -⟩ := Project.settings_eq_ok.mp hproject
    exact huses.unique huses' ▸ hunrefused
  · intro hunrefused
    obtain ⟨project, hupdate⟩ := Settings.exists_update.mpr haccepted
    obtain ⟨s, hs⟩ := Settings.exists_update.mpr (Request.accepted_options req)
    exact ⟨s, Request.settings_eq_ok.mpr ⟨project, Project.settings_eq_ok.mpr
      ⟨file?, options, huses, hunrefused, hsays, hupdate⟩, hs⟩⟩
  · intro s hs
    obtain ⟨project, hproject, hline⟩ := Request.settings_eq_ok.mp hs
    obtain ⟨file', options', huses', -, hsays', hfile⟩ := Project.settings_eq_ok.mp hproject
    obtain rfl := huses.unique huses'
    obtain rfl := hsays.unique hsays'
    have hinspect : inspect w req =
        inspectWith w req s (debugLines req.verbose (req.settings w).events) := by
      simp only [inspect, hs]
    exact ⟨Request.effective_of_updates hfile hline, hinspect,
      hinspect ▸ inspectWith_goesBy w req s _⟩

/-- The nearest project file is that of the directory above, as a directory stands in its place, and
the one at the top is in its shadow.  Zero and false are values, and the project file says less. -/
theorem settings_effective_in_shadow :
    let octets := Text.Utf8.encode
      "[tool.gherkin-guard]\nmax-scenarios=5\nwithin-file-duplicates=false".toList
    let w : Workspace :=
      ⟨⟨[(["a"], .dir), (["a", "b"], .dir), (["a", "b", "pyproject.toml"], .dir),
        (["a", "pyproject.toml"], .file octets), (["pyproject.toml"], .file [])]⟩, ["a", "b"]⟩
    let req : Request := { ceiling := some 0, ignoreCase := some false, skipCells := true }
    let options : Options := [("max-scenarios", .int 5), ("within-file-duplicates", .bool false)]
    Project.Uses w none (some (Project.fileIn ["a"])) ∧
      Project.Says w (some (Project.fileIn ["a"])) options ∧ options.Accepted ∧
      Project.Unrefused w none (some (Project.fileIn ["a"])) ∧
      ∃ s, (req.settings w).outcome = .ok s ∧ s.ceiling = .int 0 ∧
        s.failOnFindings = .bool true ∧ s.caseSensitive = .bool true ∧
        s.withinFile = .bool false ∧ s.checkCells = .bool false := by
  intro octets w req options
  have hplain : w.Plain := by decide +kernel
  have hstat : w.stat (Project.fileIn ["a"]) = .ok (.file octets) :=
    (hplain.stat_iff (by decide)).mpr ⟨by decide +kernel, rfl⟩
  have hdir : w.stat (Project.fileIn ["a", "b"]) = .ok .dir :=
    (hplain.stat_iff (by decide)).mpr ⟨by decide +kernel, rfl⟩
  have hread : w.read (Project.fileIn ["a"]) = .ok octets :=
    Workspace.read_eq_ok.mpr ⟨by decide +kernel, hstat⟩
  have hnearer : ∀ nearer, nearer <+: w.cwd → 1 < nearer.length → nearer = ["a", "b"] :=
    fun nearer hmem hlonger => hmem.eq_of_length_le hlonger
  have huses : Project.Uses w none (some (Project.fileIn ["a"])) := by
    refine .nearest (by decide) hread fun nearer octets' hmem hlonger hread' => ?_
    obtain rfl := hnearer nearer hmem hlonger
    cases hdir.symm.trans (Workspace.read_eq_ok.mp hread').2
  have hunrefused : Project.Unrefused w none (some (Project.fileIn ["a"])) := by
    intro _ nearer hmem hlonger hrefuses
    obtain rfl := hnearer nearer hmem (hlonger ["a"] rfl)
    cases hdir.symm.trans hrefuses.2
  have hfields : Project.fieldsOf octets =
      .ok [("tool", .table .plain [("gherkin-guard", .table .plain options)])] := by
    with_unfolding_all rfl
  have hsays : Project.Says w (some (Project.fileIn ["a"])) options :=
    .contents hread hfields (.written rfl rfl)
  have haccepted : options.Accepted := by
    have hgiven : options.given =
        [("max_scenarios", .int 5), ("within_file_duplicates", .bool false)] := rfl
    have hupdate : Settings.default.update options =
        .ok { Settings.default with ceiling := .int 5, withinFile := .bool false } := by
      rw [Settings.update, hgiven]
      rfl
    exact Settings.exists_update.mp ⟨_, hupdate⟩
  obtain ⟨hexists, heffective⟩ :=
    (settings_effective w).2 req _ options huses hsays haccepted
  obtain ⟨s, hs⟩ := hexists.mpr hunrefused
  obtain ⟨heff, -⟩ := heffective s hs
  exact ⟨huses, hsays, haccepted, hunrefused, s, hs, heff.ceiling, heff.failOnFindings,
    heff.caseSensitive, heff.withinFile, heff.checkCells⟩

theorem targetNames_eq_self {target : String} (hslash : '/' ∉ target.toList)
    (hempty : target ≠ "") : Tree.targetNames target = [target] := by
  have hsplit : target.toList.splitOn '/' = [target.toList] := by
    simpa using List.splitOn_intercalate '/' (List.forall_mem_singleton.mpr hslash) (by simp)
  have hlast : target.toList.getLast? ≠ some '/' := fun h => hslash (List.mem_of_getLast? h)
  simp only [Tree.targetNames, hsplit, if_neg hlast, List.map_singleton, String.ofList_toList]
  simp [hempty]

theorem refuses_longLink {target : String} (hproper : Tree.isProper target = true)
    (hslash : '/' ∉ target.toList) (hlong : Tree.maxName < target.utf8ByteSize) :
    (⟨⟨[(["pyproject.toml"], .link target)]⟩, []⟩ : Workspace).Refuses (Project.fileIn []) := by
  have hwalk : Tree.walk ⟨[(["pyproject.toml"], .link target)]⟩ false Tree.maxLinks []
      ["pyproject.toml"] = .error .nameTooLong := by
    refine (Tree.walk_link rfl (by decide) (by decide) rfl).trans ?_
    rw [Tree.targetStart, ite_self, targetNames_eq_self hslash (Tree.isProper_iff.mp hproper).2.2]
    exact Tree.walk_tooLong rfl hproper hlong
  have hlocate : Workspace.locate ⟨⟨[(["pyproject.toml"], .link target)]⟩, []⟩
      (Project.fileIn []) = .error .nameTooLong := by
    rw [Workspace.locate, Workspace.locateTo, if_neg (by decide +kernel)]
    exact hwalk
  exact ⟨by decide, by rw [Workspace.stat, hlocate]⟩

theorem settings_of_refuses (hcwd : w.cwd = []) (hrefuses : w.Refuses (Project.fileIn [])) :
    (Request.settings {} w).outcome = .error (.system .nameTooLong (Project.fileIn [])) := by
  have hchoose : Project.choose w none = .error (.system .nameTooLong (Project.fileIn [])) := by
    have hfile : w.isFile? ((⟨.root, []⟩ : Path) / Project.fileName) =
        .error (.system .nameTooLong (Project.fileIn [])) :=
      Workspace.isFile?_eq_error.mpr ⟨hrefuses, rfl⟩
    rw [Project.choose, Project.find?, Project.searched_root hcwd]
    simp only [Project.firstIn, hfile]
  simp only [Request.settings, Project.settings, hchoose, Logged.andThen, Logged.fail]

/-- A link in the place of a project file that leads to too long a name is no file, and yet a run
for which there are only the defaults does not come to them. -/
theorem settings_longLink :
    let target := String.ofList (List.replicate 256 'a')
    let w : Workspace := ⟨⟨[(["pyproject.toml"], .link target)]⟩, []⟩
    Project.Uses w none none ∧ Project.Says w none [] ∧ Options.Accepted [] ∧
      (∀ s, (Request.settings {} w).outcome ≠ .ok s) ∧
      (run w []).fault = some (.system .nameTooLong (Project.fileIn [])) := by
  intro target w
  have hslash : '/' ∉ (String.ofList (List.replicate 256 'a')).toList := by
    intro h
    rw [String.toList_ofList] at h
    exact absurd (List.eq_of_mem_replicate h) (by decide)
  have hrefuses : w.Refuses (Project.fileIn []) :=
    refuses_longLink (by decide +kernel) hslash (by decide +kernel)
  have hnone : ∀ dir octets, dir <+: w.cwd → w.read (Project.fileIn dir) ≠ .ok octets := by
    intro dir octets hdir hread
    obtain rfl := List.prefix_nil.mp hdir
    cases hrefuses.2.symm.trans (Workspace.read_eq_ok.mp hread).2
  have hsettings := settings_of_refuses rfl hrefuses
  have hintent : Intent.ofArguments [] = .ok (.inspect {}) := by decide +kernel
  have haccepted : Options.Accepted [] := Settings.exists_update.mp ⟨Settings.default,
    Settings.update_of_all_null fun _ h => absurd h List.not_mem_nil⟩
  refine ⟨.nowhere hnone, .nothing, haccepted, fun s hs => ?_, ?_⟩
  · cases hsettings.symm.trans hs
  · simp only [run, hintent, inspect, hsettings, Outcome.cutShort]

end Command

end FeatureLint
