import FeatureLint.Proofs.SaidOptions
import FeatureLint.Settings.Basic
import Mathlib.Data.List.Induction

/-!
# Settings after an update

What an update makes of each setting depends on the options through what they say about its key
alone (`Options.said`), so it can be told field by field (`Updated`).  An update is refused for one
of three causes, and they come in this order (`Options.Refused`): the pattern for file names is
malformed; the directories to pass over are not the members of anything, or not members that a set
can have; a key names no setting, where the first such key counts.  Whatever is not refused for any
of them is carried out (`Options.Accepted`).

A second update goes over the first one.  So the two have the effect of a single one whose options
are the second ones put over the first, if no key is written with a hyphen
(`update_overriddenBy`).
-/

namespace FeatureLint

/-- The members of a value, if it has any: items, characters or keys. -/
def Value.members? : Value → Option (List Value)
  | .text s => some (s.toList.map fun c => .text (String.singleton c))
  | .list items => some items
  | .table _ fields => some (fields.map fun (key, _) => .text key)
  | .scalar _ => none

def Value.IsMember (v : Value) : Prop := ∃ x, v = .scalar x

/-- **Scalars as a set of members**: each once, up to what counts as the same. -/
structure Scalar.IsSetOf (names members : List Scalar) : Prop where
  subset : names ⊆ members
  apart : names.Pairwise fun x y => x.same y = false
  all : ∀ m ∈ members, m ∈ names ∨ ∃ x ∈ names, x.same m = true

def Setting.IsKey (key : String) : Prop :=
  key ∈ ["max_scenarios", "fail_on_violations", "case_sensitive", "within_file_duplicates",
    "check_empty_cells", "include", "exclude"]

instance (key : String) : Decidable (Setting.IsKey key) := inferInstanceAs (Decidable (_ ∈ _))

namespace Options

def HasPattern (options : Options) : Prop :=
  ∀ t, options.said "include" = some (.text t) → ∃ p, Pattern.ofString t = .ok p

def HasMembers (options : Options) : Prop :=
  ∀ v, options.said "exclude" = some v → ∃ members, v.members? = some members ∧
    ∀ m ∈ members, m.IsMember

/-- **Options that an update accepts.** -/
structure Accepted (options : Options) : Prop where
  pattern : options.HasPattern
  members : options.HasMembers
  keys : ∀ key, options.said key ≠ none → Setting.IsKey key

/-- **The faults for which an update is refused**, each before the ones that follow. -/
inductive Refused (options : Options) : Fault → Prop
  | pattern {t : String} {fault : Fault} : options.said "include" = some (.text t) →
      Pattern.ofString t = .error fault → Refused options fault
  | memberless {v : Value} : options.HasPattern → options.said "exclude" = some v →
      v.members? = none → Refused options (.notIterable v.typeName)
  /-- One of the directories to pass over, and the first such, cannot be the member of a set. -/
  | member {v m : Value} {before after : List Value} : options.HasPattern →
      options.said "exclude" = some v → v.members? = some (before ++ m :: after) →
      (∀ x ∈ before, x.IsMember) → ¬ m.IsMember → Refused options (.notHashable m.typeName)
  /-- A key, and the first such, names no setting. -/
  | key {k : String} {v : Value} {before after : Options} : options.HasPattern →
      options.HasMembers → options = before ++ (k, v) :: after → v.isNull = false →
      (∀ kv ∈ before, kv.2.isNull = false → Setting.IsKey (readKey kv.1)) →
      ¬ Setting.IsKey (readKey k) →
      Refused options
        (if readKey k = "self" then .reservedSetting (readKey k) else .unknownSetting (readKey k))

end Options

inductive NameFilter.SetTo (old : NameFilter) : Option Value → NameFilter → Prop
  | unsaid : SetTo old none old
  | pattern {t : String} {p : Pattern} : Pattern.ofString t = .ok p →
      SetTo old (some (.text t)) (.pattern p)
  | other {v : Value} : (∀ t, v ≠ .text t) → SetTo old (some v) (.value v)

theorem NameFilter.SetTo.eq_old {old filter : NameFilter} (h : SetTo old none filter) :
    filter = old := by
  cases h
  rfl

namespace Settings

inductive PassedOver (old : List Scalar) : Option Value → List Scalar → Prop
  | unsaid : PassedOver old none old
  | members {v : Value} {members names : List Scalar} :
      v.members? = some (members.map .scalar) → Scalar.IsSetOf names members →
      PassedOver old (some v) names

theorem PassedOver.eq_old {old names : List Scalar} (h : PassedOver old none names) :
    names = old := by
  cases h
  rfl

/-- **Settings after an update**, field by field. -/
structure Updated (s : Settings) (options : Options) (s' : Settings) : Prop where
  ceiling : s'.ceiling = (options.said "max_scenarios").getD s.ceiling
  failOnFindings : s'.failOnFindings = (options.said "fail_on_violations").getD s.failOnFindings
  caseSensitive : s'.caseSensitive = (options.said "case_sensitive").getD s.caseSensitive
  withinFile : s'.withinFile = (options.said "within_file_duplicates").getD s.withinFile
  checkCells : s'.checkCells = (options.said "check_empty_cells").getD s.checkCells
  nameFilter : NameFilter.SetTo s.nameFilter (options.said "include") s'.nameFilter
  passedOver : PassedOver s.passedOver (options.said "exclude") s'.passedOver

end Settings

/-! ### Sets of scalars -/

namespace Settings

variable {s s' s'' : Settings} {options lower upper : Options} {fault : Fault} {v : Value}
  {names members : List Scalar}

theorem distinct_concat (members : List Scalar) (m : Scalar) : distinct (members ++ [m]) =
    if (distinct members).any (·.same m) then distinct members else distinct members ++ [m] := by
  simp only [distinct, List.foldl_append, List.foldl_cons, List.foldl_nil, List.any_reverse]
  split
  · rfl
  · exact List.reverse_cons

/-- **Each scalar is kept once.** -/
theorem isSetOf_distinct (members : List Scalar) : Scalar.IsSetOf (distinct members) members := by
  induction members using List.reverseRecOn with
  | nil => exact ⟨List.Subset.refl _, .nil, fun m hm => absurd hm List.not_mem_nil⟩
  | append_singleton members m ih =>
    rw [distinct_concat]
    split
    next hany =>
      obtain ⟨x, hx, hsame⟩ := List.any_eq_true.mp hany
      refine ⟨fun y hy => List.mem_append_left _ (ih.subset hy), ih.apart, fun y hy => ?_⟩
      rcases List.mem_append.mp hy with hy | hy
      · exact ih.all y hy
      · exact .inr ⟨x, hx, List.mem_singleton.mp hy ▸ hsame⟩
    next hany =>
      have hnone : ∀ x ∈ distinct members, x.same m = false := by simpa using hany
      refine ⟨fun y hy => ?_, ?_, fun y hy => ?_⟩
      · exact List.mem_append.mpr ((List.mem_append.mp hy).imp_left (@ih.subset y))
      · refine List.pairwise_append.mpr ⟨ih.apart, List.pairwise_singleton _ _, fun x hx y hy => ?_⟩
        exact List.mem_singleton.mp hy ▸ hnone x hx
      · rcases List.mem_append.mp hy with hy | hy
        · exact (ih.all y hy).imp (List.mem_append_left _)
            fun ⟨x, hx, hsame⟩ => ⟨x, List.mem_append_left _ hx, hsame⟩
        · exact .inl (List.mem_append_right _ hy)

/-! ### Reading values -/

theorem readMember_eq_error : readMember v = .error fault ↔
    ¬ v.IsMember ∧ fault = .notHashable v.typeName := by
  cases v <;> simp [readMember, Value.IsMember, eq_comm]

theorem members_or_first (items : List Value) :
    (∃ members : List Scalar, items = members.map .scalar) ∨
      ∃ before m after, items = before ++ m :: after ∧ (∀ x ∈ before, x.IsMember) ∧
        ¬ m.IsMember := by
  induction items with
  | nil => exact .inl ⟨[], rfl⟩
  | cons v rest ih =>
    by_cases hv : v.IsMember
    · obtain ⟨x, rfl⟩ := hv
      rcases ih with ⟨members, rfl⟩ | ⟨before, m, after, rfl, hbefore, hno⟩
      · exact .inl ⟨x :: members, rfl⟩
      · refine .inr ⟨.scalar x :: before, m, after, rfl, ?_, hno⟩
        exact List.forall_mem_cons.mpr ⟨⟨x, rfl⟩, hbefore⟩
    · exact .inr ⟨[], v, rest, rfl, fun _ h => absurd h List.not_mem_nil, hv⟩

theorem mapM_readMember_scalars (members : List Scalar) :
    (members.map Value.scalar).mapM readMember = .ok members := by
  induction members with
  | nil => rfl
  | cons x rest ih => rw [List.map_cons, List.mapM_cons, ih]; rfl

theorem mapM_readMember_first {before after : List Value} {m : Value}
    (hbefore : ∀ x ∈ before, x.IsMember) (hno : ¬ m.IsMember) :
    (before ++ m :: after).mapM readMember = .error (.notHashable m.typeName) := by
  induction before with
  | nil =>
    have hm : readMember m = .error (.notHashable m.typeName) := readMember_eq_error.mpr ⟨hno, rfl⟩
    rw [List.nil_append, List.mapM_cons, hm]
    rfl
  | cons v rest ih =>
    obtain ⟨⟨x, rfl⟩, hrest⟩ := List.forall_mem_cons.mp hbefore
    rw [List.cons_append, List.mapM_cons, ih hrest]
    rfl

theorem readPassedOver_eq (v : Value) : readPassedOver v =
    match v.members? with
    | none => .error (.notIterable v.typeName)
    | some items => (items.mapM readMember).map distinct := by
  cases v with
  | list items => rfl
  | table form fields =>
    have hkeys : fields.map (fun (key, _) => Value.text key) =
        (fields.map fun (key, _) => Scalar.text key).map .scalar := (List.map_map ..).symm
    simp only [Value.members?, hkeys, mapM_readMember_scalars]
    rfl
  | scalar x =>
    cases x with
    | text t =>
      have hchars : t.toList.map (fun c => Value.text (String.singleton c)) =
          (t.toList.map fun c => Scalar.text (String.singleton c)).map .scalar :=
        (List.map_map ..).symm
      simp only [Value.members?, hchars, mapM_readMember_scalars]
      rfl
    | _ => rfl

theorem readPassedOver_eq_ok : readPassedOver v = .ok names ↔
    ∃ members, v.members? = some (members.map .scalar) ∧ names = distinct members := by
  rw [readPassedOver_eq]
  cases hv : v.members? with
  | none => simp
  | some items =>
    rcases members_or_first items with ⟨members, rfl⟩ | ⟨before, m, after, rfl, hbefore, hno⟩
    · simp only [mapM_readMember_scalars]
      constructor
      · rintro ⟨⟩
        exact ⟨members, rfl, rfl⟩
      · rintro ⟨members', hmembers, rfl⟩
        obtain rfl := List.map_injective_iff.mpr (fun _ _ h => Value.scalar.inj h)
          (Option.some.inj hmembers)
        rfl
    · simp only [mapM_readMember_first hbefore hno]
      refine iff_of_false (by rintro ⟨⟩) ?_
      rintro ⟨members, hmembers, -⟩
      have hm : m ∈ members.map Value.scalar := Option.some.inj hmembers ▸ by simp
      obtain ⟨x, -, rfl⟩ := List.mem_map.mp hm
      exact hno ⟨x, rfl⟩

theorem readPassedOver_eq_error : readPassedOver v = .error fault ↔
    v.members? = none ∧ fault = .notIterable v.typeName ∨
      ∃ before m after, v.members? = some (before ++ m :: after) ∧
        (∀ x ∈ before, x.IsMember) ∧ ¬ m.IsMember ∧ fault = .notHashable m.typeName := by
  rw [readPassedOver_eq]
  cases hv : v.members? with
  | none => simp [eq_comm]
  | some items =>
    simp only [reduceCtorEq, false_and, false_or, Option.some.injEq]
    constructor
    · rcases members_or_first items with ⟨members, rfl⟩ | ⟨before, m, after, rfl, hbefore, hno⟩
      · rw [mapM_readMember_scalars]
        rintro ⟨⟩
      · rw [mapM_readMember_first hbefore hno]
        rintro ⟨⟩
        exact ⟨before, m, after, rfl, hbefore, hno, rfl⟩
    · rintro ⟨before, m, after, rfl, hbefore, hno, rfl⟩
      rw [mapM_readMember_first hbefore hno]
      rfl

theorem readNameFilter_eq_error : readNameFilter v = .error fault ↔
    ∃ t, v = .text t ∧ Pattern.ofString t = .error fault := by
  unfold readNameFilter
  split
  next t =>
    have ht : ∀ t', Value.text t = .text t' ↔ t = t' := by simp
    simp only [ht, exists_eq_left']
    cases Pattern.ofString t <;> simp [Except.map]
  next v hv =>
    refine iff_of_false (by rintro ⟨⟩) ?_
    rintro ⟨t, rfl, -⟩
    exact hv t rfl

theorem setTo_of_readNameFilter {old filter : NameFilter} (h : readNameFilter v = .ok filter) :
    NameFilter.SetTo old (some v) filter := by
  unfold readNameFilter at h
  split at h
  next t =>
    cases hp : Pattern.ofString t with
    | error fault => rw [hp] at h; cases h
    | ok p =>
      rw [hp] at h
      cases h
      exact .pattern hp
  next v hv =>
    cases h
    exact .other fun t he => hv t he

end Settings

/-! ### Keys -/

namespace Setting

variable {k : String} {fault : Fault}

theorem isSome_ofKey? : (ofKey? k).isSome = true ↔ IsKey k := by
  show _ ↔ k ∈ all.map Setting.key
  rw [ofKey?, List.find?_isSome, List.mem_map]
  simp only [decide_eq_true_eq]

theorem keyFault?_eq (k : String) : keyFault? k = if IsKey k then none
    else some (if k = "self" then .reservedSetting k else .unknownSetting k) := by
  by_cases hkey : IsKey k
  · have hself : k ≠ reserved := by
      rintro rfl
      revert hkey
      decide
    have hsome : (ofKey? k).isNone = false :=
      Option.isNone_eq_false_iff.mpr (isSome_ofKey?.mpr hkey)
    rw [if_pos hkey, keyFault?, if_neg hself, hsome, if_neg Bool.false_ne_true]
  · have hnone : (ofKey? k).isNone = true := by
      rwa [← isSome_ofKey?, Bool.not_eq_true, Option.isSome_eq_false_iff] at hkey
    rw [if_neg hkey, keyFault?, hnone, if_pos rfl, reserved]
    split <;> rfl

theorem keyFault?_eq_none : keyFault? k = none ↔ IsKey k := by
  rw [keyFault?_eq]
  split <;> simp [*]

theorem keyFault?_eq_some : keyFault? k = some fault ↔
    ¬ IsKey k ∧ fault = if k = "self" then .reservedSetting k else .unknownSetting k := by
  rw [keyFault?_eq]
  split <;> simp [*, eq_comm]

end Setting

namespace Options

variable {options : Options} {fault : Fault}

theorem findSome?_keyFault?_eq_none :
    (options.given.findSome? fun (key, _) => Setting.keyFault? key) = none ↔
      ∀ key, options.said key ≠ none → Setting.IsKey key := by
  rw [findSome?_given, List.findSome?_eq_none_iff]
  constructor
  · intro h key hkey
    obtain ⟨v, hsaid⟩ := Option.ne_none_iff_exists'.mp hkey
    obtain ⟨k, hmem, rfl, hv⟩ := exists_of_said hsaid
    have hnone := h _ hmem
    simp only [hv, Bool.false_eq_true, if_false] at hnone
    exact Setting.keyFault?_eq_none.mp hnone
  · rintro h ⟨k, v⟩ hmem
    cases hv : v.isNull with
    | true => simp [hv]
    | false =>
      simp only [hv, Bool.false_eq_true, if_false]
      exact Setting.keyFault?_eq_none.mpr (h _ (said_ne_none hmem hv))

/-- The first key at fault is that of the first pair that says something about no setting. -/
theorem findSome?_keyFault?_eq_some :
    (options.given.findSome? fun (key, _) => Setting.keyFault? key) = some fault ↔
      ∃ before k v after, options = before ++ (k, v) :: after ∧ v.isNull = false ∧
        (∀ kv ∈ before, kv.2.isNull = false → Setting.IsKey (readKey kv.1)) ∧
        ¬ Setting.IsKey (readKey k) ∧
        fault = if readKey k = "self" then .reservedSetting (readKey k)
          else .unknownSetting (readKey k) := by
  have hpair : ∀ kv : String × Value, (if kv.2.isNull then none
      else Setting.keyFault? (readKey kv.1)) = none ↔
      (kv.2.isNull = false → Setting.IsKey (readKey kv.1)) := by
    intro kv
    cases hv : kv.2.isNull <;> simp [Setting.keyFault?_eq_none]
  rw [findSome?_given, List.findSome?_eq_some_iff]
  constructor
  · rintro ⟨before, ⟨k, v⟩, after, rfl, hfault, hbefore⟩
    cases hv : v.isNull with
    | true => simp [hv] at hfault
    | false =>
      simp only [hv, Bool.false_eq_true, if_false] at hfault
      obtain ⟨hkey, hf⟩ := Setting.keyFault?_eq_some.mp hfault
      exact ⟨before, k, v, after, rfl, hv, fun kv hkv => (hpair kv).mp (hbefore kv hkv), hkey, hf⟩
  · rintro ⟨before, k, v, after, rfl, hv, hbefore, hkey, hf⟩
    refine ⟨before, (k, v), after, rfl, ?_, fun kv hkv => (hpair kv).mpr (hbefore kv hkv)⟩
    simp only [hv, Bool.false_eq_true, if_false]
    exact Setting.keyFault?_eq_some.mpr ⟨hkey, hf⟩

end Options

/-! ### Updating -/

namespace Settings

variable {s s' s'' : Settings} {options lower upper : Options} {fault : Fault}

theorem pick_given {α : Type} (setting : Setting) (read : Value → Except Fault α) (old : α) :
    pick options.given setting read old = (options.said setting.key).elim (.ok old) read := by
  rw [pick, Options.get?_given]
  cases options.said setting.key <;> rfl

theorem value_given (setting : Setting) (old : Value) :
    value options.given setting old = (options.said setting.key).getD old := by
  rw [value, Options.get?_given]

def saidNameFilter (s : Settings) (options : Options) : Except Fault NameFilter :=
  (options.said "include").elim (.ok s.nameFilter) readNameFilter

def saidPassedOver (s : Settings) (options : Options) : Except Fault (List Scalar) :=
  (options.said "exclude").elim (.ok s.passedOver) readPassedOver

/-- **What it takes for an update to succeed**, and what it then gives. -/
theorem update_eq_ok : s.update options = .ok s' ↔
    s.saidNameFilter options = .ok s'.nameFilter ∧
      s.saidPassedOver options = .ok s'.passedOver ∧
      (∀ key, options.said key ≠ none → Setting.IsKey key) ∧
      s'.ceiling = (options.said "max_scenarios").getD s.ceiling ∧
      s'.failOnFindings = (options.said "fail_on_violations").getD s.failOnFindings ∧
      s'.caseSensitive = (options.said "case_sensitive").getD s.caseSensitive ∧
      s'.withinFile = (options.said "within_file_duplicates").getD s.withinFile ∧
      s'.checkCells = (options.said "check_empty_cells").getD s.checkCells := by
  rw [← Options.findSome?_keyFault?_eq_none]
  simp only [update, pick_given, value_given, Setting.key, saidNameFilter, saidPassedOver]
  cases (options.said "include").elim (.ok s.nameFilter) readNameFilter with
  | error fault => simp
  | ok nameFilter =>
    cases (options.said "exclude").elim (.ok s.passedOver) readPassedOver with
    | error fault => simp
    | ok passedOver =>
      cases options.given.findSome? fun (key, _) => Setting.keyFault? key with
      | some fault => simp
      | none =>
        obtain ⟨⟩ := s'
        simp only [Except.ok.injEq, mk.injEq, true_and]
        constructor <;>
          · rintro ⟨rfl, rfl, rfl, rfl, rfl, rfl, rfl⟩
            exact ⟨rfl, rfl, rfl, rfl, rfl, rfl, rfl⟩

/-- **The faults of an update**, in their order. -/
theorem update_eq_error : s.update options = .error fault ↔
    s.saidNameFilter options = .error fault ∨
      (∃ filter, s.saidNameFilter options = .ok filter) ∧
        (s.saidPassedOver options = .error fault ∨
          (∃ names, s.saidPassedOver options = .ok names) ∧
            (options.given.findSome? fun (key, _) => Setting.keyFault? key) = some fault) := by
  simp only [update, pick_given, Setting.key, saidNameFilter, saidPassedOver]
  cases (options.said "include").elim (.ok s.nameFilter) readNameFilter with
  | error fault => simp
  | ok nameFilter =>
    cases (options.said "exclude").elim (.ok s.passedOver) readPassedOver with
    | error fault => simp
    | ok passedOver =>
      cases options.given.findSome? fun (key, _) => Setting.keyFault? key <;> simp

theorem saidNameFilter_eq_error : s.saidNameFilter options = .error fault ↔
    ∃ t, options.said "include" = some (.text t) ∧ Pattern.ofString t = .error fault := by
  rw [saidNameFilter]
  cases options.said "include" with
  | none => simp
  | some v =>
    simp only [Option.elim_some, Option.some.injEq]
    exact readNameFilter_eq_error

theorem saidPassedOver_eq_error : s.saidPassedOver options = .error fault ↔
    ∃ v, options.said "exclude" = some v ∧ readPassedOver v = .error fault := by
  rw [saidPassedOver]
  cases options.said "exclude" <;> simp

theorem exists_saidNameFilter :
    (∃ filter, s.saidNameFilter options = .ok filter) ↔ options.HasPattern := by
  constructor
  · rintro ⟨filter, hfilter⟩ t ht
    cases hp : Pattern.ofString t with
    | ok p => exact ⟨p, rfl⟩
    | error fault =>
      rw [saidNameFilter_eq_error.mpr ⟨t, ht, hp⟩] at hfilter
      cases hfilter
  · intro h
    cases hfilter : s.saidNameFilter options with
    | ok filter => exact ⟨filter, rfl⟩
    | error fault =>
      obtain ⟨t, ht, hp⟩ := saidNameFilter_eq_error.mp hfilter
      obtain ⟨p, hp'⟩ := h t ht
      cases hp.symm.trans hp'

theorem exists_saidPassedOver :
    (∃ names, s.saidPassedOver options = .ok names) ↔ options.HasMembers := by
  constructor
  · rintro ⟨names, hnames⟩ v hv
    rw [saidPassedOver, hv] at hnames
    obtain ⟨members, hmembers, -⟩ := readPassedOver_eq_ok.mp hnames
    refine ⟨_, hmembers, fun m hm => ?_⟩
    obtain ⟨x, -, rfl⟩ := List.mem_map.mp hm
    exact ⟨x, rfl⟩
  · intro h
    cases hnames : s.saidPassedOver options with
    | ok names => exact ⟨names, rfl⟩
    | error fault =>
      obtain ⟨v, hv, hread⟩ := saidPassedOver_eq_error.mp hnames
      obtain ⟨items, hitems, hall⟩ := h v hv
      rcases readPassedOver_eq_error.mp hread with ⟨hnone, -⟩ | ⟨before, m, after, hm, -, hno, -⟩
      · cases hnone.symm.trans hitems
      · obtain rfl := Option.some.inj (hm.symm.trans hitems)
        exact absurd (hall m (by simp)) hno

theorem exists_update : (∃ s', s.update options = .ok s') ↔ options.Accepted := by
  constructor
  · rintro ⟨s', h⟩
    obtain ⟨hfilter, hnames, hkeys, -⟩ := update_eq_ok.mp h
    exact ⟨exists_saidNameFilter.mp ⟨_, hfilter⟩, exists_saidPassedOver.mp ⟨_, hnames⟩, hkeys⟩
  · intro h
    obtain ⟨filter, hfilter⟩ := (exists_saidNameFilter (s := s)).mpr h.pattern
    obtain ⟨names, hnames⟩ := (exists_saidPassedOver (s := s)).mpr h.members
    exact ⟨⟨_, _, _, _, _, filter, names⟩,
      update_eq_ok.mpr ⟨hfilter, hnames, h.keys, rfl, rfl, rfl, rfl, rfl⟩⟩

theorem updated_of_update (h : s.update options = .ok s') : s.Updated options s' := by
  obtain ⟨hfilter, hnames, -, hceiling, hfail, hcase, hwithin, hcells⟩ := update_eq_ok.mp h
  refine ⟨hceiling, hfail, hcase, hwithin, hcells, ?_, ?_⟩
  · rw [saidNameFilter] at hfilter
    cases hsaid : options.said "include" with
    | none =>
      rw [hsaid] at hfilter
      exact Except.ok.inj hfilter ▸ .unsaid
    | some v =>
      rw [hsaid] at hfilter
      exact setTo_of_readNameFilter hfilter
  · rw [saidPassedOver] at hnames
    cases hsaid : options.said "exclude" with
    | none =>
      rw [hsaid] at hnames
      exact Except.ok.inj hnames ▸ .unsaid
    | some v =>
      rw [hsaid] at hnames
      obtain ⟨members, hmembers, hdistinct⟩ := readPassedOver_eq_ok.mp hnames
      exact .members hmembers (hdistinct ▸ isSetOf_distinct members)

/-- **An update is refused** for the first cause there is. -/
theorem update_eq_error_iff : s.update options = .error fault ↔ options.Refused fault := by
  rw [update_eq_error, exists_saidNameFilter, exists_saidPassedOver, saidNameFilter_eq_error,
    saidPassedOver_eq_error, Options.findSome?_keyFault?_eq_some]
  constructor
  · rintro (⟨t, ht, hp⟩ | ⟨hpattern, ⟨v, hv, hread⟩ | ⟨hmembers, before, k, v, after, rfl, hv,
      hbefore, hkey, rfl⟩⟩)
    · exact .pattern ht hp
    · rcases readPassedOver_eq_error.mp hread with
        ⟨hnone, rfl⟩ | ⟨before, m, after, hm, hbefore, hno, rfl⟩
      · exact .memberless hpattern hv hnone
      · exact .member hpattern hv hm hbefore hno
    · exact .key hpattern hmembers rfl hv hbefore hkey
  · intro h
    cases h with
    | pattern ht hp => exact .inl ⟨_, ht, hp⟩
    | memberless hpattern hv hnone =>
      exact .inr ⟨hpattern, .inl ⟨_, hv, readPassedOver_eq_error.mpr (.inl ⟨hnone, rfl⟩)⟩⟩
    | member hpattern hv hm hbefore hno =>
      exact .inr ⟨hpattern, .inl ⟨_, hv,
        readPassedOver_eq_error.mpr (.inr ⟨_, _, _, hm, hbefore, hno, rfl⟩)⟩⟩
    | key hpattern hmembers hoptions hv hbefore hkey =>
      exact .inr ⟨hpattern, .inr ⟨hmembers, _, _, _, _, hoptions, hv, hbefore, hkey, rfl⟩⟩

theorem update_of_all_null (h : ∀ kv ∈ options, kv.2.isNull = true) : s.update options = .ok s := by
  have hsaid : ∀ key, options.said key = none := fun key => Options.said_of_all_null h
  refine update_eq_ok.mpr ⟨?_, ?_, fun key hkey => absurd (hsaid key) hkey, ?_⟩
  · rw [saidNameFilter, hsaid]; rfl
  · rw [saidPassedOver, hsaid]; rfl
  · simp [hsaid]

/-- **Two updates are one**, by the options of the second put over those of the first. -/
theorem update_overriddenBy (hkeys : (lower.map Prod.fst).Nodup)
    (hlower : ∀ kv ∈ lower, '-' ∉ kv.1.toList) (hupper : ∀ kv ∈ upper, '-' ∉ kv.1.toList)
    (h : s.update lower = .ok s') (h' : s'.update upper = .ok s'') :
    s.update (lower.overriddenBy upper) = .ok s'' := by
  have hsaid : ∀ key, (lower.overriddenBy upper).said key = (upper.said key).or (lower.said key) :=
    fun key => Options.said_overriddenBy hkeys hlower hupper
  have hvalue : ∀ (key : String) (old : Value), (upper.said key).getD ((lower.said key).getD old) =
      ((lower.overriddenBy upper).said key).getD old := fun key old => by
    rw [hsaid, Option.getD_or]
  -- what the upper options leave unsaid is as the lower ones made it
  have hread : ∀ {α : Type} (read : Value → Except Fault α) (key : String) (old now later : α),
      (lower.said key).elim (.ok old) read = .ok now →
      (upper.said key).elim (.ok now) read = .ok later →
      ((lower.overriddenBy upper).said key).elim (.ok old) read = .ok later := by
    intro α read key old now later hnow hlater
    rw [hsaid]
    cases hkey : upper.said key with
    | some v => rwa [hkey] at hlater
    | none =>
      rw [hkey] at hlater
      rwa [Option.none_or, ← Except.ok.inj hlater]
  obtain ⟨hfilter, hnames, hlow, hceiling, hfail, hcase, hwithin, hcells⟩ := update_eq_ok.mp h
  obtain ⟨hfilter', hnames', hup, hceiling', hfail', hcase', hwithin', hcells'⟩ :=
    update_eq_ok.mp h'
  refine update_eq_ok.mpr ⟨hread _ _ _ _ _ hfilter hfilter', hread _ _ _ _ _ hnames hnames',
    fun key hkey => ?_, ?_, ?_, ?_, ?_, ?_⟩
  · rw [hsaid] at hkey
    cases hupper : upper.said key with
    | some v => exact hup key (hupper ▸ Option.some_ne_none v)
    | none => exact hlow key (by rwa [hupper, Option.none_or] at hkey)
  · rw [hceiling', hceiling, hvalue]
  · rw [hfail', hfail, hvalue]
  · rw [hcase', hcase, hvalue]
  · rw [hwithin', hwithin, hvalue]
  · rw [hcells', hcells, hvalue]

/-- **What an update does.**  It succeeds just for the options that are accepted, it then changes
the settings about which something is said, and no others, and else it gives the first of the
faults.  Options that are null throughout change nothing, and two updates whose options have no
hyphens in their keys are one update by the options of the second put over those of the first. -/
theorem update_by_what_is_said (s : Settings) :
    (∀ options : Options,
      ((∃ s', s.update options = .ok s') ↔ options.Accepted) ∧
        (∀ s', s.update options = .ok s' → s.Updated options s') ∧
        (∀ fault, s.update options = .error fault ↔ options.Refused fault) ∧
        ((∀ kv ∈ options, kv.2.isNull = true) → s.update options = .ok s)) ∧
      ∀ (lower upper : Options) (s' s'' : Settings), (lower.map Prod.fst).Nodup →
        (∀ kv ∈ lower, '-' ∉ kv.1.toList) → (∀ kv ∈ upper, '-' ∉ kv.1.toList) →
        s.update lower = .ok s' → s'.update upper = .ok s'' →
        s.update (lower.overriddenBy upper) = .ok s'' :=
  ⟨fun _ => ⟨exists_update, fun _ => updated_of_update, fun _ => update_eq_error_iff,
    update_of_all_null⟩, fun _ _ _ _ => update_overriddenBy⟩

/-- The second update has null for a key that the first one sets, zero for another, and one that is
new. -/
theorem update_by_what_is_said_zero_over_five :
    let lower : Options :=
      [("max_scenarios", .int 5), ("exclude", .list [.text "x", .text "x"]),
        ("within_file_duplicates", .scalar .null)]
    let upper : Options :=
      [("exclude", .scalar .null), ("check_empty_cells", .bool false), ("max_scenarios", .int 0)]
    let s' : Settings := { default with ceiling := .int 5, passedOver := [.text "x"] }
    let s'' : Settings := { s' with ceiling := .int 0, checkCells := .bool false }
    lower.overriddenBy upper =
        [("max_scenarios", .int 0), ("exclude", .list [.text "x", .text "x"]),
          ("within_file_duplicates", .scalar .null), ("check_empty_cells", .bool false)] ∧
      default.update lower = .ok s' ∧ s'.update upper = .ok s'' ∧
      default.update (lower.overriddenBy upper) = .ok s'' := by
  intro lower upper s' s''
  have hlower : default.update lower = .ok s' := by
    have hgiven : lower.given =
        [("max_scenarios", .int 5), ("exclude", .list [.text "x", .text "x"])] := rfl
    rw [update, hgiven]
    rfl
  have hupper : s'.update upper = .ok s'' := by
    have hgiven : upper.given =
        [("check_empty_cells", .bool false), ("max_scenarios", .int 0)] := rfl
    rw [update, hgiven]
    rfl
  refine ⟨rfl, hlower, hupper, ?_⟩
  exact (update_by_what_is_said default).2 lower upper s' s'' (by decide) (by decide) (by decide)
    hlower hupper

end Settings

end FeatureLint
