import FeatureLint.Proofs.CalledAlike
import FeatureLint.Proofs.EmptyCells

/-!
# Texts on one line

A text is on one line if it has no line feed.  What a feature file puts into a report is: its text
is cut at the line feeds before anything else is done with it, and a name is a stretch of one line
(`Workspace.oneLine_of_outline`).  So is the reason why a file cannot be read, whatever the file is
called: a path is told between quotes, where a line feed is written by a letter (`oneLine_quoted`),
and octets are told by their numbers (`Fault.oneLine_message`).

A path is written with its names as they are.  What a file is called in a report is on one line if
its path is (`oneLine_fileId`).
-/

namespace FeatureLint

namespace Text

def OneLine (s : String) : Prop := '\n' ∉ s.toList

instance (s : String) : Decidable (OneLine s) := inferInstanceAs (Decidable ('\n' ∉ s.toList))

variable {s t : String} {parts : List String}

@[simp] theorem oneLine_append : OneLine (s ++ t) ↔ OneLine s ∧ OneLine t := by
  simp [OneLine]

theorem oneLine_join (hs : OneLine s) (hparts : ∀ part ∈ parts, OneLine part) :
    OneLine (join s parts) := by
  rw [OneLine, join, String.toList_intercalate]
  exact not_mem_intercalate hs (List.forall_mem_map.mpr hparts)

theorem oneLine_of_mem_lines {cs : List Char} (h : s ∈ lines cs) : OneLine s := by
  obtain ⟨piece, hpiece, rfl⟩ := List.mem_map.mp h
  rw [OneLine, String.toList_ofList]
  exact not_mem_of_mem_splitOn hpiece

theorem lines_join (hparts : ∀ part ∈ parts, OneLine part) (hne : parts ≠ []) :
    lines (join "\n" parts).toList = parts := by
  have hfeed : "\n".toList = ['\n'] := rfl
  rw [lines, Tree.splitOn_join hfeed hparts hne, List.map_map]
  simp [Function.comp_def]

/-! ### Numbers -/

theorem exists_digit_of_mem {base n : Nat} (hbase : 1 < base) {c : Char}
    (h : c ∈ Nat.toDigits base n) : ∃ d < base, c = Nat.digitChar d := by
  induction n using Nat.strongRecOn with
  | ind n ih =>
    rw [Nat.toDigits_eq_if hbase] at h
    split at h
    · rename_i hn
      exact ⟨n, hn, List.mem_singleton.mp h⟩
    · rename_i hn
      rcases List.mem_append.mp h with h | h
      · exact ih (n / base) (Nat.div_lt_self (by omega) hbase) h
      · exact ⟨n % base, Nat.mod_lt n (by omega), List.mem_singleton.mp h⟩

theorem newline_not_mem_toDigits {base : Nat} (hbase : 1 < base) (hle : base ≤ 16) (n : Nat) :
    '\n' ∉ Nat.toDigits base n := by
  intro h
  obtain ⟨d, hd, hdigit⟩ := exists_digit_of_mem hbase h
  have hdigits : ∀ d < 16, '\n' ≠ Nat.digitChar d := by decide
  exact hdigits d (hd.trans_le hle) hdigit

theorem isDigit_of_mem_toString {n : Nat} {c : Char} (h : c ∈ (toString n).toList) :
    c.isDigit = true := by
  rw [Nat.toString_eq_repr, Nat.toList_repr] at h
  exact Nat.isDigit_of_mem_toDigits (by decide) (by decide) h

theorem oneLine_nat (n : Nat) : OneLine (toString n) :=
  fun h => absurd (isDigit_of_mem_toString h) (by decide)

theorem oneLine_int (n : Int) : OneLine (toString n) := by
  cases n with
  | ofNat n => exact oneLine_nat n
  | negSucc n =>
    show OneLine ("-" ++ toString (n + 1))
    exact oneLine_append.mpr ⟨by decide, oneLine_nat (n + 1)⟩

theorem newline_not_mem_hexDigits (width n : Nat) : '\n' ∉ hexDigits width n := by
  simp [hexDigits, newline_not_mem_toDigits, List.mem_replicate]

/-! ### Quoted texts -/

theorem newline_not_mem_escapeChar {quote c : Char} (hquote : quote ≠ '\n') :
    '\n' ∉ escapeChar quote c := by
  by_cases hc : c = '\n'
  · -- a line feed has a letter of its own
    subst hc
    simp [escapeChar, hquote.symm]
  · unfold escapeChar
    split_ifs <;> simp [Ne.symm hc, newline_not_mem_hexDigits]

/-- **A quoted text is on one line.** -/
theorem oneLine_quoted (s : String) : OneLine (quoted s) := by
  have hquote : quoteFor s.toList ≠ '\n' := by
    rw [quoteFor]
    split <;> decide
  simp [OneLine, quoted, hquote.symm, newline_not_mem_escapeChar hquote]

end Text

open Text

/-! ### Paths -/

section Paths

variable {root p : Path}

theorem Path.oneLine_anchor (anchor : Anchor) : OneLine anchor.text := by
  cases anchor <;> decide

theorem Path.oneLine_text (h : ∀ name ∈ p.names, OneLine name) : OneLine p.text := by
  rw [text]
  split
  · decide
  · exact oneLine_append.mpr ⟨oneLine_anchor p.anchor, oneLine_join (by decide) h⟩

theorem Path.oneLine_of_mem {name : String} (h : OneLine p.text) (hname : name ∈ p.names) :
    OneLine name := by
  have hsub : name.toList ⊆ p.text.toList := by
    have htext : p.text = p.anchor.text ++ join "/" p.names := by
      rw [text, if_neg fun hempty => List.not_mem_nil (hempty.2 ▸ hname)]
    rw [htext, String.toList_append, join, String.toList_intercalate]
    exact List.subset_append_of_subset_right _ (subset_intercalate (List.mem_map_of_mem hname))
  exact fun hmem => h (hsub hmem)

/-- **What a file is called is on one line** if its path is. -/
theorem oneLine_fileId (h : OneLine p.text) : OneLine (fileId root p) := by
  rcases Path.root_or_below_or_outside root p with rfl | ⟨names, hne, rfl⟩ | hout
  · rw [fileId_root]
    by_cases hnames : p.names = []
    · rw [Path.name, hnames]
      decide
    · exact Path.oneLine_of_mem h (Path.name_mem hnames)
  · rw [fileId_below_text root hne]
    exact Path.oneLine_text fun name hname =>
      Path.oneLine_of_mem h (List.mem_append_right root.names hname)
  · rwa [fileId_outside hout]

end Paths

/-! ### Faults -/

namespace Fault

theorem oneLine_place (flaw : Utf8.Flaw) : OneLine flaw.place := by
  rw [Utf8.Flaw.place]
  split
  · rename_i b _
    have hdigits : OneLine (String.ofList (hexDigits 2 b.toNat)) := by
      rw [OneLine, String.toList_ofList]
      exact newline_not_mem_hexDigits 2 b.toNat
    simp only [oneLine_append]
    exact ⟨⟨⟨by decide, hdigits⟩, by decide +kernel⟩, oneLine_nat flaw.offset⟩
  · simp only [oneLine_append]
    exact ⟨⟨⟨by decide +kernel, oneLine_nat flaw.offset⟩, by decide⟩, oneLine_nat _⟩

/-- **The reason why a file cannot be read is on one line**, whatever its path is. -/
theorem oneLine_message {fault : Fault} (h : fault.isUnreadable = true) :
    OneLine fault.message := by
  cases fault with
  | system cause path =>
    have hcause : OneLine cause.text := by cases cause <;> decide +kernel
    show OneLine (cause.text ++ ": " ++ quoted path.text)
    rw [oneLine_append, oneLine_append]
    exact ⟨⟨hcause, by decide⟩, oneLine_quoted path.text⟩
  | encoding flaw =>
    have hreason : OneLine flaw.reason.text := by cases flaw.reason <;> decide +kernel
    show OneLine ("'utf-8' codec can't decode " ++ flaw.place ++ ": " ++ flaw.reason.text)
    rw [oneLine_append, oneLine_append, oneLine_append]
    exact ⟨⟨⟨by decide +kernel, oneLine_place flaw⟩, by decide⟩, hreason⟩
  | _ => cases h

end Fault

/-! ### Names -/

namespace Line

variable {line title : String} {k : Keyword}

theorem oneLine_title (hline : OneLine line) (h : read line = .heading k title) :
    OneLine title := by
  obtain ⟨rest, hrest, rfl⟩ := classify_eq_heading.mp h
  rw [OneLine, String.toList_ofList]
  intro hmem
  have hstrip : '\n' ∈ (strip line).toList := by
    rw [hrest]
    exact List.mem_append_right _ (trim_subset rest hmem)
  rw [strip, String.toList_ofList] at hstrip
  exact hline (trim_subset _ hstrip)

theorem oneLine_name? (hline : OneLine line) (h : (read line).name? = some title) :
    OneLine title := by
  cases hread : read line with
  | heading k title' =>
    rw [hread] at h
    cases k with
    | feature | examples => cases h
    | scenario | outline =>
      cases h
      exact oneLine_title hline hread
  | row | remark | blank | other =>
    rw [hread] at h
    cases h

theorem oneLine_feature? (hline : OneLine line) (h : (read line).feature? = some title) :
    OneLine title :=
  oneLine_title hline (Outline.feature?_eq_some.mp h)

end Line

namespace Workspace

variable {w : Workspace} {p : Path} {o : Outline}

theorem oneLine_of_mem_lines {lines : List String} (h : w.lines p = .ok lines) :
    ∀ line ∈ lines, OneLine line := by
  rw [Workspace.lines] at h
  split at h
  · cases h
  · rename_i octets _
    cases hdecode : Utf8.decodeMarked octets with
    | error flaw =>
      rw [hdecode] at h
      cases h
    | ok cs =>
      rw [hdecode] at h
      cases h
      exact fun line => Text.oneLine_of_mem_lines

/-- **What a file says is on one line**: its description, and the names of its scenarios. -/
theorem oneLine_of_outline (h : w.outline p = .ok o) :
    (∀ d ∈ o.feature, OneLine d) ∧ ∀ n ∈ o.names, OneLine n := by
  obtain ⟨lines, hlines, rfl⟩ := outline_eq_ok.mp h
  have hline := oneLine_of_mem_lines hlines
  constructor
  · intro d hd
    obtain ⟨l, hl, hfeature⟩ := List.exists_of_findSome?_eq_some hd
    obtain ⟨line, hmem, rfl⟩ := List.mem_map.mp hl
    exact Line.oneLine_feature? (hline line hmem) hfeature
  · intro n hn
    obtain ⟨l, hl, hname⟩ := List.mem_filterMap.mp hn
    obtain ⟨line, hmem, rfl⟩ := List.mem_map.mp hl
    exact Line.oneLine_name? (hline line hmem) hname

end Workspace

end FeatureLint
