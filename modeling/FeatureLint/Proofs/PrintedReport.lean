import FeatureLint.Command.Run
import FeatureLint.Proofs.OneLineTexts
import FeatureLint.Proofs.ReportOrder
import FeatureLint.Proofs.WrittenFiles

/-!
# What a run prints, writes and returns

A report is shown twice: its lines are printed, without the terminal sequences in them and with a
dash in front of each summary, and its text is written to a file as it is.  The two are made by
different functions, and what is said here is that they agree.

* `withoutSequences_join`: sequences are taken out line by line, as none goes on behind a line feed.
  So the lines that are printed are the lines of the text that is written.
* `inspect_finished`: a run that is not cut short ends with what `Outcome.finished` says, and the
  file holds what was written to it (`Workspace.read_writeDeep`).
* `verdict_eq`: the three last lines and when each of them stands there.
* `inspect_tells`: **what a run leaves behind tells the report**, to those who read the exit code,
  to those who read the output and to those who read the file.
-/

namespace FeatureLint

/-! ### Terminal sequences -/

namespace Text

theorem dropSequences_open (out cs : List Char) :
    dropSequences out (escapeCharacter :: '[' :: cs) =
      (afterSequence? cs).elim (dropSequences (escapeCharacter :: out) ('[' :: cs))
        (dropSequences out) := by
  rw [dropSequences, if_pos (by simp)]
  split
  · rename_i left hleft
    rw [List.tail_cons] at hleft
    simp [hleft]
  · rename_i hnone
    rw [List.tail_cons] at hnone
    simp [hnone]

theorem eq_of_opens {c : Char} {cs : List Char}
    (h : (c = escapeCharacter && cs.head? = some '[') = true) :
    c = escapeCharacter ∧ ∃ rest, cs = '[' :: rest := by
  simp only [Bool.and_eq_true, decide_eq_true_eq, List.head?_eq_some_iff] at h
  exact h

theorem dropSequences_append (out tail cs : List Char) :
    dropSequences (out ++ tail) cs = tail.reverse ++ dropSequences out cs := by
  fun_induction dropSequences out cs with
  | case1 out => simp [dropSequences]
  | case2 out c rest hopen left hleft _ ih =>
    obtain ⟨rfl, rest, rfl⟩ := eq_of_opens hopen
    rw [List.tail_cons] at hleft
    rw [dropSequences_open, hleft]
    exact ih
  | case3 out c rest hopen hnone ih =>
    obtain ⟨rfl, rest, rfl⟩ := eq_of_opens hopen
    rw [List.tail_cons] at hnone
    rw [dropSequences_open, hnone]
    exact ih
  | case4 out c rest hopen ih =>
    rw [dropSequences, if_neg hopen]
    exact ih

theorem dropSequences_cons {c : Char} (hc : c ≠ escapeCharacter) (out cs : List Char) :
    dropSequences out (c :: cs) = out.reverse ++ c :: dropSequences [] cs := by
  rw [dropSequences, if_neg (by simp [hc])]
  simpa using dropSequences_append [] (c :: out) cs

theorem afterSequence?_newline (cs ds : List Char) :
    afterSequence? (cs ++ '\n' :: ds) = (afterSequence? cs).map (· ++ '\n' :: ds) := by
  rw [afterSequence?, afterSequence?, dropWhile_append_cons (by decide),
    dropWhile_append_cons (by decide)]
  cases (cs.dropWhile isParameter).dropWhile isIntermediate with
  | nil => rfl
  | cons c rest =>
    by_cases hfinal : isFinal c = true
    · simp [hfinal]
    · simp [hfinal]

theorem dropSequences_newline (out cs ds : List Char) :
    dropSequences out (cs ++ '\n' :: ds) = dropSequences out cs ++ '\n' :: dropSequences [] ds := by
  fun_induction dropSequences out cs with
  | case1 out => exact dropSequences_cons (by decide) out ds
  | case2 out c rest hopen left hleft _ ih =>
    obtain ⟨rfl, rest, rfl⟩ := eq_of_opens hopen
    rw [List.tail_cons] at hleft
    rw [List.cons_append, List.cons_append, dropSequences_open, afterSequence?_newline, hleft]
    exact ih
  | case3 out c rest hopen hnone ih =>
    obtain ⟨rfl, rest, rfl⟩ := eq_of_opens hopen
    rw [List.tail_cons] at hnone
    rw [List.cons_append, List.cons_append, dropSequences_open, afterSequence?_newline, hnone]
    exact ih
  | case4 out c rest hopen ih =>
    -- the line feed that now follows is no opening bracket
    have hopen' : ¬ (c = escapeCharacter && (rest ++ '\n' :: ds).head? = some '[') = true := by
      cases rest with
      | nil => simp
      | cons bracket rest => exact hopen
    rw [List.cons_append, dropSequences, if_neg hopen']
    exact ih

theorem toList_withoutSequences (s : String) :
    (withoutSequences s).toList = dropSequences [] s.toList := String.toList_ofList

theorem withoutSequences_dash (s : String) :
    withoutSequences ("- " ++ s) = "- " ++ withoutSequences s := by
  apply String.toList_injective
  rw [toList_withoutSequences, String.toList_append, String.toList_append, toList_withoutSequences]
  show dropSequences [] ('-' :: ' ' :: s.toList) = '-' :: ' ' :: dropSequences [] s.toList
  rw [dropSequences_cons (by decide), dropSequences_cons (by decide)]
  rfl

theorem dropSequences_intercalate (lines : List (List Char)) :
    dropSequences [] (List.intercalate ['\n'] lines) =
      List.intercalate ['\n'] (lines.map (dropSequences [])) := by
  induction lines with
  | nil => simp [dropSequences]
  | cons line lines ih =>
    cases lines with
    | nil => simp
    | cons next lines =>
      rw [List.map_cons] at ih
      rw [List.intercalate_cons_cons, List.map_cons, List.map_cons, List.intercalate_cons_cons,
        ← ih, List.append_assoc, List.append_assoc]
      exact dropSequences_newline [] line _

/-- **Sequences are taken out line by line.** -/
theorem withoutSequences_join (lines : List String) :
    withoutSequences (join "\n" lines) = join "\n" (lines.map withoutSequences) := by
  apply String.toList_injective
  rw [toList_withoutSequences, join, join, String.toList_intercalate, String.toList_intercalate,
    List.map_map]
  have hmap : lines.map (String.toList ∘ withoutSequences) =
      (lines.map String.toList).map (dropSequences []) := by
    rw [List.map_map]
    exact List.map_congr_left fun line _ => toList_withoutSequences line
  rw [hmap]
  exact dropSequences_intercalate (lines.map String.toList)

theorem dropSequences_of_not_mem {cs : List Char} (h : escapeCharacter ∉ cs) :
    dropSequences [] cs = cs := by
  induction cs with
  | nil => rw [dropSequences, List.reverse_nil]
  | cons c cs ih =>
    rw [List.mem_cons, not_or] at h
    rw [dropSequences_cons (Ne.symm h.1), ih h.2, List.reverse_nil, List.nil_append]

theorem withoutSequences_of_not_mem {s : String} (h : escapeCharacter ∉ s.toList) :
    withoutSequences s = s := by
  rw [withoutSequences, dropSequences_of_not_mem h, String.ofList_toList]

theorem escapeCharacter_not_mem_toString (n : Nat) : escapeCharacter ∉ (toString n).toList :=
  fun h => absurd (isDigit_of_mem_toString h) (by decide)

end Text

namespace Command

/-! ### What is printed -/

def printed (line : String) : String := Text.withoutSequences line ++ "\n"

theorem texts_append (t t' : Transcript) (c : Channel) :
    (t ++ t' : Transcript).texts c = t.texts c ++ t'.texts c := List.filterMap_append

theorem texts_debugLines (verbose : Bool) (events : List Event) :
    (debugLines verbose events).texts .output = [] := by
  cases verbose with
  | false => rfl
  | true => simp [Transcript.texts, debugLines, List.filterMap_map]

theorem texts_map_echo (lines : List String) :
    Transcript.texts (lines.map echo) .output = lines.map printed := by
  induction lines with
  | nil => rfl
  | cons line lines ih =>
    rw [List.map_cons, List.map_cons, ← ih]
    rfl

/-- Once a report is printed the output holds its lines and nothing else. -/
theorem texts_shown (verbose : Bool) (events events' : List Event) (r : Report) :
    (debugLines verbose events ++ debugLines verbose events' ++ (reportLines r).map echo :
      Transcript).texts .output = (reportLines r).map printed := by
  rw [texts_append, texts_append, texts_debugLines, texts_debugLines, texts_map_echo,
    List.nil_append, List.nil_append]

/-- **A run that is not cut short** ends as it should: what it has printed shows the report, and the
report is in the file that was named. -/
theorem inspect_finished {w : Workspace} {req : Request} {s : Settings} {r : Report}
    (hrooted : w.tree.Rooted) (hs : (req.settings w).outcome = .ok s)
    (hr : (Inspection.inspectAll w s req.root).outcome = .ok r)
    (hwritten : ∀ file, req.report = some file → (w.writeDeep file (reportOctets r)).2 = none) :
    ∃ w' before, inspect w req = .finished w' before s r ∧
      before.texts .output = (reportLines r).map printed ∧
      ∀ file, req.report = some file → w'.read file = .ok (reportOctets r) := by
  simp only [inspect, hs, inspectWith, hr, deliver]
  cases hreport : req.report with
  | none => exact ⟨w, _, rfl, texts_shown _ _ _ r, by simp⟩
  | some file =>
    have hdone := hwritten file hreport
    have hread := Workspace.read_writeDeep hrooted hdone
    cases hout : w.writeDeep file (reportOctets r) with
    | mk w' fault =>
      rw [hout] at hdone hread
      cases (hdone : fault = none)
      simp only [hout]
      refine ⟨w', _, rfl, ?_, ?_⟩
      · rw [texts_append, texts_debugLines, List.append_nil]
        exact texts_shown _ _ _ r
      · intro file' hfile
        cases hfile
        exact hread

/-! ### The verdict -/

theorem escapeCharacter_not_mem_verdict (failOnFindings : Bool) (r : Report) :
    Text.escapeCharacter ∉ (verdict failOnFindings r).toList := by
  unfold verdict
  split
  · decide
  · split
    · decide
    · rw [String.toList_append, String.toList_append, List.mem_append, List.mem_append, not_or,
        not_or]
      exact ⟨⟨by decide, Text.escapeCharacter_not_mem_toString _⟩, by decide⟩

theorem printed_verdict (failOnFindings : Bool) (r : Report) :
    printed (verdict failOnFindings r) = verdict failOnFindings r ++ "\n" := by
  rw [printed, Text.withoutSequences_of_not_mem (escapeCharacter_not_mem_verdict failOnFindings r)]

def tolerance (count : Nat) : String :=
  "Feature file validation found " ++ toString count ++ " violations, not failing."

theorem tolerance_ne_passed (count : Nat) :
    tolerance count ++ "\n" ≠ "Feature file validation passed.\n" := by
  intro h
  -- they differ in the first letter of what follows `validation`
  have hletter : (tolerance count ++ "\n").toList[24]? = some 'f' := by
    unfold tolerance
    rw [String.toList_append, String.toList_append, String.toList_append, List.append_assoc,
      List.append_assoc, List.getElem?_append_left (by decide)]
    decide
  rw [h] at hletter
  exact absurd hletter (by decide)

theorem verdict_eq (failOnFindings : Bool) (r : Report) :
    verdict failOnFindings r =
      if r.findings = [] then "Feature file validation passed."
      else if failOnFindings then "Feature file validation failed."
      else tolerance r.findings.length := by
  unfold verdict
  by_cases hnone : r.findings = []
  · simp [Report.failed, Report.isEmpty, hnone]
  · cases failOnFindings with
    | true => simp [Report.failed, Report.isEmpty, hnone]
    | false =>
      simp [Report.failed, Report.isEmpty, hnone]
      rfl

/-! ### When there is nothing to look at -/

def nothing : String := "No feature files to validate."

theorem lines_eq_nil {r : Report} : r.lines = [] ↔ r.summaries = [] ∧ r.findings = [] := by
  rw [Report.lines, List.append_eq_nil_iff, List.map_eq_nil_iff, List.map_eq_nil_iff]

theorem reportLines_of_nil {r : Report} (h : r.lines = []) : reportLines r = [nothing] := by
  obtain ⟨hsummaries, hfindings⟩ := lines_eq_nil.mp h
  rw [reportLines, Report.isEmpty, hsummaries, hfindings]
  rfl

theorem reportLines_of_ne_nil {r : Report} (h : r.lines ≠ []) :
    reportLines r =
      r.summaries.map (fun s => "- " ++ s.render) ++ r.findings.map Finding.render := by
  have hne : (r.summaries.isEmpty && r.isEmpty) = false := by
    rw [Bool.eq_false_iff, Ne, Bool.and_eq_true, Report.isEmpty, List.isEmpty_iff,
      List.isEmpty_iff, ← lines_eq_nil]
    exact h
  rw [reportLines, hne]
  rfl

/-- The two characters that a line begins with tell what it is on: these are the beginnings of the
lines on summaries and findings. -/
def beginnings : List (List Char) := [['-', ' '], ['D', 'u'], ['E', 'm'], ['F', 'i'], ['S', 'c']]

theorem take_summary (s : Summary) : ("- " ++ s.render).toList.take 2 = ['-', ' '] := by
  rw [String.toList_append]
  rfl

theorem take_finding (f : Finding) : f.render.toList.take 2 ∈ beginnings := by
  rw [Finding.render, String.toList_append, String.toList_append, List.append_assoc]
  cases f.kind with
  | unreadable => exact List.mem_of_elem_eq_true rfl
  | tooManyScenarios => exact List.mem_of_elem_eq_true rfl
  | duplicateFeature => exact List.mem_of_elem_eq_true rfl
  | duplicateScenario => exact List.mem_of_elem_eq_true rfl
  | emptyCell => exact List.mem_of_elem_eq_true rfl

theorem take_verdict (failOnFindings : Bool) (r : Report) :
    (verdict failOnFindings r).toList.take 2 = ['F', 'e'] := by
  rw [verdict_eq]
  split
  · rfl
  · split
    · rfl
    · unfold tolerance
      rw [String.toList_append, String.toList_append, List.append_assoc]
      rfl

theorem take_reportLine {r : Report} {line : String} (h : line ∈ reportLines r) :
    line = nothing ∨ line.toList.take 2 ∈ beginnings := by
  by_cases hnil : r.lines = []
  · rw [reportLines_of_nil hnil, List.mem_singleton] at h
    exact .inl h
  · rw [reportLines_of_ne_nil hnil, List.mem_append, List.mem_map, List.mem_map] at h
    rcases h with ⟨s, -, rfl⟩ | ⟨f, -, rfl⟩
    · exact .inr (take_summary s ▸ by decide)
    · exact .inr (take_finding f)

theorem take_printed {line : String} {a b : Char} (h : line.toList.take 2 = [a, b])
    (ha : a ≠ Text.escapeCharacter) (hb : b ≠ Text.escapeCharacter) :
    (printed line).toList.take 2 = [a, b] := by
  obtain ⟨cs, hcs⟩ : ∃ cs, line.toList = a :: b :: cs :=
    ⟨_, (List.take_append_drop 2 line.toList).symm.trans (by rw [h]; rfl)⟩
  rw [printed, String.toList_append, Text.toList_withoutSequences, hcs, Text.dropSequences_cons ha,
    Text.dropSequences_cons hb]
  rfl

theorem take_printed_of_mem {line : String} (h : line.toList.take 2 ∈ beginnings) :
    (printed line).toList.take 2 = line.toList.take 2 := by
  simp only [beginnings, List.mem_cons, List.not_mem_nil, or_false] at h
  rcases h with h | h | h | h | h
  all_goals
    rw [h]
    exact take_printed h (by decide) (by decide)

theorem take_printed_verdict (failOnFindings : Bool) (r : Report) :
    (printed (verdict failOnFindings r)).toList.take 2 = ['F', 'e'] :=
  take_printed (take_verdict failOnFindings r) (by decide) (by decide)

theorem printed_nothing : printed nothing = nothing ++ "\n" := by
  rw [printed, Text.withoutSequences_of_not_mem (by decide)]

/-- **A verdict is printed by itself**: no line of a report is printed like one. -/
theorem printed_verdict_not_mem (failOnFindings : Bool) (r r' : Report) :
    printed (verdict failOnFindings r) ∉ (reportLines r').map printed := by
  intro h
  obtain ⟨line, hline, hprinted⟩ := List.mem_map.mp h
  have htake := take_printed_verdict failOnFindings r
  rw [← hprinted] at htake
  rcases take_reportLine hline with rfl | hbegin
  · rw [printed_nothing] at htake
    exact absurd htake (by decide)
  · rw [take_printed_of_mem hbegin] at htake
    rw [htake] at hbegin
    exact absurd hbegin (by decide)

theorem mem_printed_nothing (failOnFindings : Bool) (r : Report) :
    nothing ++ "\n" ∈ (reportLines r ++ [verdict failOnFindings r]).map printed ↔
      r.summaries = [] ∧ r.findings = [] := by
  rw [← lines_eq_nil, List.mem_map]
  have hnothing : (nothing ++ "\n").toList.take 2 = ['N', 'o'] := by decide
  constructor
  · rintro ⟨line, hline, hprinted⟩
    by_contra hne
    rw [← hprinted] at hnothing
    rw [reportLines_of_ne_nil hne, List.mem_append, List.mem_append, List.mem_map, List.mem_map,
      List.mem_singleton] at hline
    rcases hline with (⟨s, -, rfl⟩ | ⟨f, -, rfl⟩) | rfl
    · rw [take_printed (take_summary s) (by decide) (by decide)] at hnothing
      exact absurd hnothing (by decide)
    · have hbegin := take_finding f
      rw [take_printed_of_mem hbegin] at hnothing
      rw [hnothing] at hbegin
      exact absurd hbegin (by decide)
    · rw [take_printed_verdict] at hnothing
      exact absurd hnothing (by decide)
  · intro hnil
    exact ⟨nothing, by simp [reportLines_of_nil hnil], printed_nothing⟩

/-! ### What a run leaves -/

/-- What a run leaves that ends with a report: `failOnFindings` tells whether findings stop the
build. -/
structure Outcome.Tells (o : Outcome) (r : Report) (failOnFindings : Bool) : Prop where
  fault : o.fault = none
  failed : (o.exitCode = 1 ∧
      (o.transcript.texts .output).getLast? = some "Feature file validation failed.\n") ↔
    r.findings ≠ [] ∧ failOnFindings = true
  succeeded : ¬ (r.findings ≠ [] ∧ failOnFindings = true) → o.exitCode = 0
  tolerated : ¬ (r.findings ≠ [] ∧ failOnFindings = true) →
    ((o.transcript.texts .output).getLast? = some (tolerance r.findings.length ++ "\n") ↔
      r.findings ≠ [])
  passed : ¬ (r.findings ≠ [] ∧ failOnFindings = true) →
    ((o.transcript.texts .output).getLast? = some "Feature file validation passed.\n" ↔
      r.findings = [])
  /-- In front of the last line stand the lines of the report without terminal sequences, those of
  the summaries behind a dash. -/
  lines : r.lines ≠ [] → ∃ summaries findings last,
    o.transcript.texts .output =
        summaries.map ("- " ++ · ++ "\n") ++ findings.map (· ++ "\n") ++ [last] ∧
      summaries.length = r.summaries.length ∧
      summaries ++ findings = r.lines.map Text.withoutSequences ∧
      Text.withoutSequences r.render = Text.join "\n" (summaries ++ findings)
  /-- That there is nothing to look at is printed exactly then. -/
  nothingFound : nothing ++ "\n" ∈ o.transcript.texts .output ↔ r.summaries = [] ∧ r.findings = []

theorem exists_lines {r : Report} (h : r.lines ≠ []) :
    ∃ summaries findings, (reportLines r).map printed =
        summaries.map ("- " ++ · ++ "\n") ++ findings.map (· ++ "\n") ∧
      summaries.length = r.summaries.length ∧
      summaries ++ findings = r.lines.map Text.withoutSequences := by
  refine ⟨r.summaries.map fun s => Text.withoutSequences s.render,
    r.findings.map fun f => Text.withoutSequences f.render, ?_, List.length_map _, ?_⟩
  · rw [reportLines_of_ne_nil h, List.map_append, List.map_map, List.map_map, List.map_map,
      List.map_map]
    refine congrArg₂ (· ++ ·) (List.map_congr_left fun s _ => ?_) rfl
    show Text.withoutSequences ("- " ++ s.render) ++ "\n" = _
    rw [Text.withoutSequences_dash]
    rfl
  · rw [Report.lines, List.map_append, List.map_map, List.map_map]
    rfl

theorem exitStatus_eq (failOnFindings : Bool) (r : Report) :
    exitStatus failOnFindings r = if r.findings ≠ [] ∧ failOnFindings = true then 1 else 0 := by
  rw [exitStatus, Report.failed, Report.isEmpty]
  by_cases hnone : r.findings = []
  · simp [hnone]
  · simp [hnone]

theorem tells_finished {w : Workspace} {before : Transcript} {s : Settings} {r : Report}
    (hbefore : before.texts .output = (reportLines r).map printed) :
    (Outcome.finished w before s r).Tells r s.failOnFindings.isTruthy := by
  have htexts : (Outcome.finished w before s r).transcript.texts .output =
      (reportLines r).map printed ++ [printed (verdict s.failOnFindings.isTruthy r)] := by
    rw [← hbefore]
    exact texts_append _ _ _
  have hlast : ((Outcome.finished w before s r).transcript.texts .output).getLast? =
      some (verdict s.failOnFindings.isTruthy r ++ "\n") := by
    rw [htexts, List.getLast?_concat, printed_verdict]
  have hcode : (Outcome.finished w before s r).exitCode =
      if r.findings ≠ [] ∧ s.failOnFindings.isTruthy = true then 1 else 0 := exitStatus_eq _ r
  refine ⟨rfl, ?_, ?_, ?_, ?_, ?_, ?_⟩
  · rw [hcode, hlast, verdict_eq]
    split
    · rename_i h
      simp [h]
    · rename_i h
      simp [h]
  · intro h
    rw [hcode, if_neg h]
  · intro h
    rw [hlast, verdict_eq]
    by_cases hnone : r.findings = []
    · simp [hnone, (tolerance_ne_passed _).symm]
    · simp [hnone, not_and.mp h hnone]
  · intro h
    rw [hlast, verdict_eq]
    by_cases hnone : r.findings = []
    · simp [hnone]
    · simp [hnone, not_and.mp h hnone, tolerance_ne_passed]
  · intro h
    obtain ⟨summaries, findings, hprinted, hlength, hlines⟩ := exists_lines h
    refine ⟨summaries, findings, printed (verdict s.failOnFindings.isTruthy r), ?_, hlength, hlines,
      ?_⟩
    · rw [htexts, hprinted]
    · rw [Report.render, Text.withoutSequences_join, hlines]
  · rw [htexts, ← mem_printed_nothing s.failOnFindings.isTruthy r, List.map_append]
    rfl

/-- **What a run leaves**, if the settings can be had, there is a report, and it can be written to
the file that was named: the verdict tells whether there are findings that stop the build, the same
lines are printed and written, and the file keeps the terminal sequences. -/
theorem inspect_tells (w : Workspace) (req : Request) (s : Settings) (r : Report)
    (rooted : w.tree.Rooted) (settings : (req.settings w).outcome = .ok s)
    (report : (Inspection.inspectAll w s req.root).outcome = .ok r)
    (written : ∀ file, req.report = some file → (w.writeDeep file (reportOctets r)).2 = none) :
    (inspect w req).Tells r s.failOnFindings.isTruthy ∧
      ∀ file, req.report = some file →
        (inspect w req).workspace.read file = .ok (Text.Utf8.encode (r.render ++ "\n").toList) := by
  obtain ⟨w', before, hinspect, hbefore, hfile⟩ := inspect_finished rooted settings report written
  rw [hinspect]
  exact ⟨tells_finished hbefore, hfile⟩

/-- A file whose name holds a terminal sequence, with too many scenarios, which are tolerated. -/
theorem inspect_tells_tolerated :
    let file := "\x1b[1ma.feature"
    let octets := Text.Utf8.encode "Scenario: s".toList
    let w : Workspace := ⟨⟨[([file], .file octets)]⟩, []⟩
    let req : Request :=
      { ceiling := some 0, failOnFindings := some false, report := some (.ofNames ["report"]) }
    let s : Policy := { Policy.default with ceiling := 0, failOnFindings := false }
    let r : Report :=
      { summaries := [⟨file, 1⟩]
        findings :=
          [⟨.tooManyScenarios, [file], none, none, none, some "Count: 1, Max allowed: 0"⟩] }
    w.tree.Rooted ∧ (req.settings w).outcome = .ok s.settings ∧
      (Inspection.inspectAll w s.settings req.root).outcome = .ok r ∧
      (∀ file, req.report = some file → (w.writeDeep file (reportOctets r)).2 = none) ∧
      (inspect w req).Tells r false ∧
      ∀ file, req.report = some file →
        (inspect w req).workspace.read file = .ok (Text.Utf8.encode (r.render ++ "\n").toList) := by
  intro file octets w req s r
  have hrooted : w.tree.Rooted := by decide +kernel
  have hsettings : (req.settings w).outcome = .ok s.settings := by
    have hproject : w.stat ⟨.root, ["pyproject.toml"]⟩ = .error .missing := by
      have hlocate : w.locate ⟨.root, ["pyproject.toml"]⟩ = .ok ["pyproject.toml"] := by
        rw [Workspace.locate, Workspace.locateTo, if_neg (by decide +kernel)]
        exact Tree.walk_free rfl (by decide) (by decide) rfl
      rw [Workspace.stat, hlocate]
      rfl
    have hnone : w.isFile? ⟨.root, ["pyproject.toml"]⟩ = .ok false := by
      rw [Workspace.isFile?, Workspace.node?, if_neg (by decide), hproject]
      rfl
    have hchoose : Project.choose w req.project = .ok none := by
      have hfile : (⟨.root, []⟩ : Path) / Project.fileName = ⟨.root, ["pyproject.toml"]⟩ := rfl
      show Project.firstIn w [⟨.root, []⟩] = .ok none
      simp only [Project.firstIn, hfile, hnone]
    have hgiven : req.options.given =
        [("max_scenarios", .int 0), ("fail_on_violations", .bool false)] := rfl
    have hupdate : Settings.default.update req.options = .ok s.settings := by
      rw [Settings.update, hgiven]
      rfl
    simp only [Request.settings, Project.settings, hchoose, Logged.andThen, Logged.ofExcept,
      hupdate]
  have hreport : (Inspection.inspectAll w s.settings req.root).outcome = .ok r := by
    have hstat : w.stat (.ofNames [file]) = .ok (.file octets) :=
      Workspace.stat_name rfl rfl (by simp) (by decide) (by decide)
    have hwanted : (Corpus.namesBelow w req.root).filter (Corpus.isWanted .dotFeature s.passedOver
        req.root) = [[file]] := by
      rw [Corpus.namesBelow, Workspace.locate_here]
      decide +kernel
    have hfound : (Corpus.find w s.nameFilter s.passedOver req.root).outcome =
        .ok [.ofNames [file]] := by
      refine (Corpus.find_of_wanted (Workspace.exists?_here rfl) hwanted ?_).trans ?_
      · exact List.forall_mem_singleton.mpr (Workspace.isFile?_of_stat (by decide) hstat)
      · exact congrArg Except.ok (List.mergeSort_singleton _)
    have houtline : w.outline (.ofNames [file]) = .ok ⟨none, ["s"], 1, [], []⟩ := by
      have hread : Outline.ofOctets (Text.Utf8.encode "Scenario: s".toList) =
          .ok ⟨none, ["s"], 1, [], []⟩ := by decide +kernel
      exact Workspace.outline_of_stat (by decide) hstat hread
    rw [Inspection.inspectAll_outcome s (by decide +kernel) hfound, List.map_singleton,
      Inspection.readingOf, houtline]
    decide +kernel
  have hwritten : ∀ file, req.report = some file →
      (w.writeDeep file (reportOctets r)).2 = none := by
    intro file hfile
    cases hfile
    exact Workspace.writeDeep_name rfl rfl (by decide) (by decide) (by decide)
  exact ⟨hrooted, hsettings, hreport, hwritten,
    inspect_tells w req s.settings r hrooted hsettings hreport hwritten⟩

end Command

end FeatureLint
