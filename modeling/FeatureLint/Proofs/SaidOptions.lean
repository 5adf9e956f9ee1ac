import FeatureLint.Settings.Options
import Mathlib.Data.List.Basic

/-!
# What options say

A key can stand in options more than once: with hyphens and with low lines, and with null in one of
the places.  What counts is the last value that is not null (`Options.said`).

The options that say something are gathered pair by pair, and a key that comes again keeps its
place.  What they have for a key is therefore what was said about it (`get?_given`), and as their
keys come in the order in which they were first named, a search for the first key of some kind can
as well go through the pairs themselves (`findSome?_given`).  One set of options can be put over
another (`Options.overriddenBy`); if no key of either has a hyphen, a key then has what the upper
one says, or else what the lower one does (`said_overriddenBy`).
-/

namespace FeatureLint.Options

variable {options lower upper : Options} {k key : String} {v : Value}
  {pairs : List (String × Value)}

/-- **What options say about a key**: the value of the last pair that has the key, however it is
written, and is not null. -/
def said (options : Options) (key : String) : Option Value :=
  (options.reverse.find? fun (k, v) => readKey k = key && !v.isNull).map Prod.snd

def putAll (pairs : List (String × Value)) (options : Options) : Options :=
  pairs.foldl (fun options (key, v) => put key v options) options

/-- Options with others put over them, apart from those that are null. -/
def overriddenBy (lower upper : Options) : Options :=
  putAll (upper.filter fun (_, v) => !v.isNull) lower

/-! ### Saying -/

theorem said_append (lower upper : Options) (key : String) :
    said (lower ++ upper) key = (said upper key).or (said lower key) := by
  rw [said, List.reverse_append, List.find?_append, Option.map_or]
  rfl

theorem said_singleton :
    said [(k, v)] key = if readKey k = key ∧ v.isNull = false then some v else none := by
  simp only [said, List.reverse_singleton, List.find?_singleton, Bool.and_eq_true,
    decide_eq_true_eq, Bool.not_eq_true']
  split <;> rfl

theorem said_cons : said ((k, v) :: options) key =
    (said options key).or (if readKey k = key ∧ v.isNull = false then some v else none) := by
  rw [← List.singleton_append, said_append, said_singleton]

theorem exists_of_said (h : options.said key = some v) :
    ∃ k, (k, v) ∈ options ∧ readKey k = key ∧ v.isNull = false := by
  obtain ⟨⟨k, v'⟩, hfind, rfl⟩ := Option.map_eq_some_iff.mp h
  have hsays := List.find?_some hfind
  simp only [Bool.and_eq_true, decide_eq_true_eq, Bool.not_eq_true'] at hsays
  exact ⟨k, List.mem_reverse.mp (List.mem_of_find?_eq_some hfind), hsays⟩

theorem said_ne_none (h : (k, v) ∈ options) (hv : v.isNull = false) :
    options.said (readKey k) ≠ none := by
  rw [said, Ne, Option.map_eq_none_iff, List.find?_eq_none]
  exact fun hnone => hnone _ (List.mem_reverse.mpr h) (by simp [hv])

theorem said_of_all_null (h : ∀ kv ∈ options, kv.2.isNull = true) : options.said key = none := by
  refine Option.eq_none_iff_forall_ne_some.mpr fun v hv => ?_
  obtain ⟨k, hmem, -, hnull⟩ := exists_of_said hv
  exact Bool.false_ne_true (hnull.symm.trans (h _ hmem))

/-! ### Gathering -/

@[simp] theorem get?_nil : get? key [] = none := rfl

theorem get?_cons :
    get? key ((k, v) :: options) = if k = key then some v else get? key options := rfl

/-- **A key that is put changes no other.** -/
theorem get?_put : get? key (put k v options) = if k = key then some v else get? key options := by
  induction options with
  | nil => rfl
  | cons pair rest ih =>
    obtain ⟨k', old⟩ := pair
    by_cases hk : k' = k
    · subst hk
      simp only [put, if_true, get?_cons]
      split <;> rfl
    · simp only [put, hk, if_false, get?_cons, ih]
      split <;> split <;> simp_all

theorem mem_keys_put {k' : String} :
    k' ∈ (put k v options).map Prod.fst ↔ k' = k ∨ k' ∈ options.map Prod.fst := by
  induction options with
  | nil => simp [put]
  | cons pair rest ih =>
    obtain ⟨k₀, old⟩ := pair
    by_cases hk : k₀ = k
    · simp [put, hk]
    · simp only [put, hk, if_false, List.map_cons, List.mem_cons, ih]
      tauto

theorem nodup_keys_put (h : (options.map Prod.fst).Nodup) :
    ((put k v options).map Prod.fst).Nodup := by
  induction options with
  | nil => simp [put]
  | cons pair rest ih =>
    obtain ⟨k', old⟩ := pair
    rw [List.map_cons, List.nodup_cons] at h
    by_cases hk : k' = k
    · subst hk
      simpa [put] using h
    · rw [put, if_neg hk, List.map_cons, List.nodup_cons, mem_keys_put, not_or]
      exact ⟨⟨hk, h.1⟩, ih h.2⟩

theorem findSome?_put {α : Type} (f : String → Option α) :
    (put k v options).findSome? (fun (key, _) => f key) =
      (options ++ [(k, v)]).findSome? fun (key, _) => f key := by
  induction options with
  | nil => rfl
  | cons pair rest ih =>
    obtain ⟨k', old⟩ := pair
    by_cases hk : k' = k
    · subst hk
      simp only [put, if_true, List.cons_append, List.findSome?_cons, List.findSome?_append]
      cases f k' <;> simp
    · simp only [put, hk, if_false, List.cons_append, List.findSome?_cons, ih]

theorem putAll_cons : putAll ((k, v) :: pairs) options = putAll pairs (put k v options) := rfl

/-- Of several values that are put for a key, the last one stays. -/
theorem get?_putAll : get? key (putAll pairs options) =
    ((pairs.reverse.find? fun (k, _) => k = key).map Prod.snd).or (get? key options) := by
  induction pairs generalizing options with
  | nil => rfl
  | cons pair rest ih =>
    obtain ⟨k, v⟩ := pair
    rw [putAll_cons, ih, get?_put, List.reverse_cons, List.find?_append, Option.map_or,
      Option.or_assoc, List.find?_singleton]
    by_cases hk : k = key <;> simp [hk]

theorem findSome?_putAll {α : Type} (f : String → Option α) :
    (putAll pairs options).findSome? (fun (key, _) => f key) =
      (options ++ pairs).findSome? fun (key, _) => f key := by
  induction pairs generalizing options with
  | nil => rw [List.append_nil]; rfl
  | cons pair rest ih =>
    rw [putAll_cons, ih, List.findSome?_append, findSome?_put, ← List.findSome?_append,
      List.append_assoc, List.singleton_append]

theorem mem_keys_putAll : key ∈ (putAll pairs options).map Prod.fst ↔
    key ∈ options.map Prod.fst ∨ key ∈ pairs.map Prod.fst := by
  induction pairs generalizing options with
  | nil => simp [putAll]
  | cons pair rest ih =>
    rw [putAll_cons, ih, mem_keys_put, List.map_cons, List.mem_cons, or_assoc, or_left_comm]

theorem nodup_keys_putAll (h : (options.map Prod.fst).Nodup) :
    ((putAll pairs options).map Prod.fst).Nodup := by
  induction pairs generalizing options with
  | nil => exact h
  | cons pair rest ih => exact ih (nodup_keys_put h)

/-- **The options that say something have for a key what was said about it.** -/
theorem get?_given : get? key options.given = options.said key := by
  rw [given, ofPairs, ← putAll, get?_putAll, get?_nil, Option.or_none, ← List.map_reverse,
    List.find?_map, ← List.filter_reverse, List.find?_filter, Option.map_map, said]
  have hcond : ∀ kv : String × Value, decide ((!kv.2.isNull) = true ∧
      decide (readKey kv.1 = key) = true) = (decide (readKey kv.1 = key) && !kv.2.isNull) :=
    fun kv => by simp [and_comm]
  exact congrArg (fun p => (options.reverse.find? p).map Prod.snd) (funext hcond)

theorem findSome?_given {α : Type} (f : String → Option α) :
    options.given.findSome? (fun (key, _) => f key) =
      options.findSome? fun (key, v) => if v.isNull then none else f (readKey key) := by
  rw [given, ofPairs, ← putAll, findSome?_putAll, List.nil_append, List.findSome?_map]
  induction options with
  | nil => rfl
  | cons pair rest ih =>
    obtain ⟨k, v⟩ := pair
    rw [List.findSome?_cons, ← ih]
    cases hv : v.isNull with
    | true => simp only [List.filter_cons_of_neg, hv, Bool.not_true, Bool.false_eq_true,
        not_false_eq_true, if_true]
    | false => simp only [List.filter_cons_of_pos, hv, Bool.not_false, Bool.false_eq_true, if_false,
        List.findSome?_cons, Function.comp_apply]

/-! ### One over another -/

theorem readKey_eq_self (h : '-' ∉ key.toList) : readKey key = key := by
  have hchars : key.toList.map (fun c => if c = '-' then '_' else c) = key.toList :=
    (List.map_congr_left fun c hc => if_neg (ne_of_mem_of_not_mem hc h)).trans (List.map_id _)
  rw [readKey, Text.replaceChar, hchars, String.ofList_toList]

theorem get?_eq_none (h : key ∉ options.map Prod.fst) : get? key options = none := by
  induction options with
  | nil => rfl
  | cons pair rest ih =>
    rw [List.map_cons, List.mem_cons, not_or] at h
    rw [get?_cons, if_neg (Ne.symm h.1), ih h.2]

theorem said_of_nodup (hkeys : (options.map Prod.fst).Nodup)
    (hread : ∀ kv ∈ options, readKey kv.1 = kv.1) :
    options.said key = (get? key options).filter fun v => !v.isNull := by
  induction options with
  | nil => rfl
  | cons pair rest ih =>
    obtain ⟨k, v⟩ := pair
    rw [List.map_cons, List.nodup_cons] at hkeys
    obtain ⟨hk, hrest⟩ := List.forall_mem_cons.mp hread
    rw [said_cons, get?_cons, ih hkeys.2 hrest, hk]
    by_cases hkey : k = key
    · subst hkey
      rw [get?_eq_none hkeys.1, if_pos rfl]
      cases hv : v.isNull <;> simp [hv, Option.filter]
    · simp [hkey]

/-- **What options say that were put over others**, where no key has a hyphen. -/
theorem said_overriddenBy (hkeys : (lower.map Prod.fst).Nodup)
    (hlower : ∀ kv ∈ lower, '-' ∉ kv.1.toList) (hupper : ∀ kv ∈ upper, '-' ∉ kv.1.toList) :
    (lower.overriddenBy upper).said key = (upper.said key).or (lower.said key) := by
  have hspoken : (upper.filter fun (_, v) => !v.isNull).map (fun (k, v) => (readKey k, v)) =
      upper.filter fun (_, v) => !v.isNull := by
    refine (List.map_congr_left fun kv hkv => ?_).trans (List.map_id _)
    exact Prod.ext (readKey_eq_self (hupper kv (List.mem_of_mem_filter hkv))) rfl
  have hover : get? key (lower.overriddenBy upper) = (upper.said key).or (get? key lower) := by
    rw [overriddenBy, get?_putAll, ← get?_given, given, hspoken, ofPairs, ← putAll, get?_putAll,
      get?_nil, Option.or_none]
  have hput : ∀ kv ∈ lower.overriddenBy upper, readKey kv.1 = kv.1 := by
    intro kv hkv
    refine readKey_eq_self ?_
    rcases mem_keys_putAll.mp (List.mem_map_of_mem hkv) with h | h
    · obtain ⟨kv', hmem, hkey⟩ := List.mem_map.mp h
      exact hkey ▸ hlower kv' hmem
    · obtain ⟨kv', hmem, hkey⟩ := List.mem_map.mp h
      exact hkey ▸ hupper kv' (List.mem_of_mem_filter hmem)
  have hnodup : ((lower.overriddenBy upper).map Prod.fst).Nodup := nodup_keys_putAll hkeys
  rw [said_of_nodup hnodup hput, hover,
    said_of_nodup hkeys fun kv hkv => readKey_eq_self (hlower kv hkv)]
  cases hsaid : upper.said key with
  | none => simp
  | some v =>
    obtain ⟨-, -, -, hv⟩ := exists_of_said hsaid
    simp [hv]

-- With a hyphen the upper options can be put at another key than the one that says the last word.
example :
    let lower : Options := [("max_scenarios", .int 1), ("max-scenarios", .int 2)]
    let upper : Options := [("max_scenarios", .int 3)]
    (lower.overriddenBy upper).said "max_scenarios" = some (.int 2) ∧
      upper.said "max_scenarios" = some (.int 3) := by
  exact ⟨rfl, rfl⟩

end FeatureLint.Options
