import FeatureLint.Proofs.EncodedText
import FeatureLint.Proofs.Readings

/-!
# Lines that are written to a file

Lines are laid end to end with one kind of line end between them, and encoded in UTF-8, with or
without a byte order mark in front.  The outline of the file is then the outline of these lines.
Reading takes each step of this back: `Utf8.decodeMarked` the encoding and the mark,
`Text.unifyNewlines` the kind of line end (`unifyNewlines_intercalate`), and `Text.lines` the laying
end to end.  A line may hold any character but a line feed or a carriage return, so nothing else
ends a line.

Only a lone carriage return depends on what comes behind it: in front of a line feed it would be
half of a line end.

* `Text.lines_unifyNewlines_join`: the lines that come back are those that were written.
* `Workspace.readFeature_written`: **reading takes writing back, and fails on what is no UTF-8.**
-/

namespace FeatureLint

namespace Text

variable {ending : String} {line rest : List Char} {pieces : List (List Char)}

def endings : List String := ["\n", "\r\n", "\r"]

/-! ### Line ends become line feeds -/

theorem unifyNewlines_append (h : '\r' ∉ line) :
    unifyNewlines (line ++ rest) = line ++ unifyNewlines rest := by
  induction line with
  | nil => rfl
  | cons c line ih =>
    obtain ⟨hc, hline⟩ := not_or.mp (List.mem_cons.not.mp h)
    rw [List.cons_append, unifyNewlines_cons c _ (.inl (Ne.symm hc)), if_neg (Ne.symm hc),
      ih hline, List.cons_append]

theorem unifyNewlines_ending (h : ending ∈ endings) (hrest : ending = "\r" → '\n' ∉ rest) :
    unifyNewlines (ending.toList ++ rest) = '\n' :: unifyNewlines rest := by
  have hcases : ending = "\n" ∨ ending = "\r\n" ∨ ending = "\r" := by simpa [endings] using h
  rcases hcases with rfl | rfl | rfl
  · exact unifyNewlines_cons '\n' rest (.inl (by decide))
  · exact unifyNewlines_return_feed rest
  · refine unifyNewlines_cons '\r' rest (.inr fun hhead => hrest rfl ?_)
    exact List.mem_of_mem_head? hhead

/-- Whatever the line ends of a file are, they become line feeds. -/
theorem unifyNewlines_intercalate (h : ending ∈ endings)
    (hpieces : ∀ l ∈ pieces, '\n' ∉ l ∧ '\r' ∉ l) :
    unifyNewlines (ending.toList.intercalate pieces) = ['\n'].intercalate pieces := by
  induction pieces with
  | nil => rfl
  | cons line pieces ih =>
    have hline := (hpieces line (List.mem_cons_self ..)).2
    have hothers : ∀ l ∈ pieces, '\n' ∉ l ∧ '\r' ∉ l := fun l hl =>
      hpieces l (List.mem_cons_of_mem _ hl)
    cases pieces with
    | nil =>
      have hlast : unifyNewlines (line ++ []) = line ++ unifyNewlines [] :=
        unifyNewlines_append hline
      simpa using hlast
    | cons next pieces =>
      have hrest : ending = "\r" → '\n' ∉ ending.toList.intercalate (next :: pieces) := by
        rintro rfl
        exact not_mem_intercalate (by decide) fun l hl => (hothers l hl).1
      rw [List.intercalate_cons_cons, List.intercalate_cons_cons, List.append_assoc,
        unifyNewlines_append hline, unifyNewlines_ending h hrest, ih hothers, List.append_assoc]
      rfl

/-- **The lines that come back are those that were written.** -/
theorem lines_unifyNewlines_join {ls : List String} (h : ending ∈ endings)
    (hlines : ∀ l ∈ ls, '\n' ∉ l.toList ∧ '\r' ∉ l.toList) (hne : ls ≠ []) :
    lines (unifyNewlines (join ending ls).toList) = ls := by
  have hpieces : ∀ l ∈ ls.map String.toList, '\n' ∉ l ∧ '\r' ∉ l := by simpa using hlines
  rw [join, String.toList_intercalate, unifyNewlines_intercalate h hpieces, lines,
    List.splitOn_intercalate _ (fun l hl => (hpieces l hl).1) (by simpa using hne), List.map_map]
  simp [Function.comp_def]

theorem head?_join {ls : List String} (h : ending ∈ endings)
    (hfirst : ∀ first ∈ ls.head?, first.toList.head? ≠ some '\uFEFF') :
    (join ending ls).toList.head? ≠ some '\uFEFF' := by
  have hending : ending.toList.head? = some '\n' ∨ ending.toList.head? = some '\r' := by
    simp only [endings, List.mem_cons, List.not_mem_nil, or_false] at h
    rcases h with rfl | rfl | rfl <;> simp
  rw [join, String.toList_intercalate]
  cases ls with
  | nil => simp
  | cons first ls =>
    have hfirst := hfirst first rfl
    cases ls with
    | nil => simpa using hfirst
    | cons next ls =>
      rw [List.map_cons, List.map_cons, List.intercalate_cons_cons, List.append_assoc,
        List.head?_append, List.head?_append]
      rcases hending with hending | hending <;> cases hhead : first.toList.head? <;> simp_all

def written (marked : Bool) (ending : String) (ls : List String) : List UInt8 :=
  (if marked then Utf8.mark else []) ++ Utf8.encode (join ending ls).toList

theorem decodeMarked_written {marked : Bool} {ls : List String} (h : ending ∈ endings)
    (hfirst : marked = false → ∀ first ∈ ls.head?, first.toList.head? ≠ some '\uFEFF') :
    Utf8.decodeMarked (written marked ending ls) = .ok (join ending ls).toList := by
  cases marked with
  | true => exact Utf8.decodeMarked_mark _
  | false => exact Utf8.decodeMarked_encode (head?_join h (hfirst rfl))

end Text

/-! ### Files -/

namespace Outline

variable {lines : List String} {ending : String}

/-- An empty file has one empty line, of which there is nothing to know. -/
theorem read_empty : read (Text.lines (Text.unifyNewlines [])) = read [] := by decide

theorem read_join (h : ending ∈ Text.endings)
    (hlines : ∀ l ∈ lines, '\n' ∉ l.toList ∧ '\r' ∉ l.toList) :
    read (Text.lines (Text.unifyNewlines (Text.join ending lines).toList)) = read lines := by
  by_cases hne : lines = []
  · subst hne
    rw [Text.join, String.toList_intercalate]
    exact read_empty
  · rw [Text.lines_unifyNewlines_join h hlines hne]

end Outline

namespace Workspace

variable {w : Workspace} {p : Path} {octets : List UInt8}

theorem outline_of_read (h : w.read p = .ok octets) :
    w.outline p = ((Text.Utf8.decodeMarked octets).map fun cs =>
      Outline.read (Text.lines (Text.unifyNewlines cs))).mapError Fault.encoding := by
  rw [outline, h]
  dsimp only
  rw [Outline.ofOctets]
  cases Text.Utf8.decodeMarked octets <;> rfl

theorem readFeature_of_decodeMarked {cs : List Char} (h : w.read p = .ok octets)
    (hdecode : Text.Utf8.decodeMarked octets = .ok cs) :
    let o := Outline.read (Text.lines (Text.unifyNewlines cs))
    w.readFeature p = ⟨o.events p, .ok o⟩ := by
  rw [readFeature, outline_of_read h, hdecode]
  rfl

theorem readFeature_eq_error (h : w.read p = .ok octets) :
    (∃ fault, (w.readFeature p).outcome = .error fault) ↔
      ∃ flaw, Text.Utf8.decodeMarked octets = .error flaw := by
  rw [readFeature, outline_of_read h]
  cases Text.Utf8.decodeMarked octets <;> simp [Except.map, Except.mapError, Logged.fail]

/-- **Reading takes writing back, and fails on what is no UTF-8.**  A file that holds lines, with
any one kind of line end between them and perhaps a byte order mark in front, has the outline of
these lines, and the same is told on the way.  If there is no mark, the first line must not start
like one.  A file cannot be read if and only if its octets are no UTF-8 behind a mark that may be
there; one that ends inside the mark is empty. -/
theorem readFeature_written (w : Workspace) (p : Path) (octets : List UInt8)
    (contents : w.read p = .ok octets) :
    (∀ (lines : List String) (ending : String) (marked : Bool), ending ∈ Text.endings →
        (∀ l ∈ lines, '\n' ∉ l.toList ∧ '\r' ∉ l.toList) →
        (marked = false → ∀ first ∈ lines.head?, first.toList.head? ≠ some '\uFEFF') →
        octets = Text.written marked ending lines →
        w.readFeature p = ⟨(Outline.read lines).events p, .ok (.read lines)⟩) ∧
      ((∃ fault, (w.readFeature p).outcome = .error fault) ↔
        ¬ (Text.Utf8.afterMark octets).toByteArray.IsValidUTF8 ∧
          ¬ Text.Utf8.IsPartOfMark octets) ∧
      (∀ fault, (w.readFeature p).outcome = .error fault → fault.isUnreadable = true) ∧
      (Text.Utf8.IsPartOfMark octets → w.readFeature p = ⟨[], .ok (.read [])⟩) := by
  refine ⟨?_, ?_, ?_, ?_⟩
  · rintro lines ending marked hending hlines hfirst rfl
    rw [readFeature_of_decodeMarked contents (Text.decodeMarked_written hending hfirst),
      Outline.read_join hending hlines]
  · rw [readFeature_eq_error contents, Text.Utf8.decodeMarked_eq_error]
  · intro fault hfault
    rw [readFeature] at hfault
    split at hfault
    · rename_i houtline
      cases hfault
      exact isUnreadable_of_outline (read_eq_ok.mp contents).1 houtline
    · cases hfault
  · intro hpart
    rw [readFeature_of_decodeMarked contents (Text.Utf8.decodeMarked_of_part hpart),
      Outline.read_empty]
    rfl

/-- Lines with a form feed, a line separator and a next line inside, behind a byte order mark. -/
theorem readFeature_written_carriage_returns :
    let lines := ["Scenario: a\x0cb", "", "| \u2028 |", "| \u0085 |"]
    let octets := Text.written true "\r" lines
    let w : Workspace := ⟨⟨[(["f"], .file octets)]⟩, []⟩
    let p := Path.ofNames ["f"]
    w.read p = .ok octets ∧
      w.readFeature p = ⟨(Outline.read lines).events p, .ok (.read lines)⟩ ∧
      ¬ (∃ fault, (w.readFeature p).outcome = .error fault) ∧
      ((Outline.read lines).rows.map Row.line) = [3, 4] := by
  intro lines octets w p
  have hcontents : w.read p = .ok octets :=
    read_eq_ok.mpr ⟨by decide, stat_name rfl rfl (by simp) (by decide) (by decide)⟩
  have hread := (readFeature_written w p octets hcontents).1 lines "\r" true (by decide)
    (by decide) nofun rfl
  refine ⟨hcontents, hread, ?_, by decide +kernel⟩
  simp [hread]

end Workspace

end FeatureLint
