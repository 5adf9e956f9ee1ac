import FeatureLint.Text.Utf8
import Mathlib.Data.List.Basic

/-!
# Texts and their octets

`Utf8.decode` reads octets with the octet at hand, and stops as early as it can; `Utf8.encode`
computes octets from code points.  The two are inverse to each other, so octets can be decoded if
and only if they are UTF-8 (`isValid_iff`).

In between stands the relation `Reads octets ch left`, which has one case for each number of octets
that a character may have, with the octets that are allowed there and the value that they give.
`exists_step_iff` says that a step of the decoder is such a case; `Reads.eq_append` and
`reads_encodeChar` say the same of what is encoded.  In each case this is arithmetic on one code
point and at most four octets.

* `decode_eq_ok`: **what is decoded is what was encoded**, and nothing else is decoded.
* `decodeMarked_eq_error`: the octets that cannot be decoded, if a byte order mark may be in front.
-/

namespace FeatureLint.Text.Utf8

variable {a b c d : UInt8} {ch : Char} {octets left rest : List UInt8} {n : Nat}

/-! ### Octets as numbers -/

theorem isContinuation_iff : isContinuation b = true ↔ 0x80 ≤ b.toNat ∧ b.toNat ≤ 0xbf := by
  simp [isContinuation, UInt8.le_iff_toNat_le]

theorem fitsSecond_iff : fitsSecond a b = true ↔
    isContinuation b = true ∧ (a.toNat = 0xe0 → 0xa0 ≤ b.toNat) ∧
      (a.toNat = 0xed → b.toNat ≤ 0x9f) ∧ (a.toNat = 0xf0 → 0x90 ≤ b.toNat) ∧
      (a.toNat = 0xf4 → b.toNat ≤ 0x8f) := by
  simp [fitsSecond, UInt8.le_iff_toNat_le, ← UInt8.toNat_inj, ← imp_iff_not_or, and_assoc]

theorem size_eq (b : UInt8) : size b =
    if b.toNat ≤ 0x7f then some 0
    else if 0xc2 ≤ b.toNat ∧ b.toNat ≤ 0xdf then some 1
    else if 0xe0 ≤ b.toNat ∧ b.toNat ≤ 0xef then some 2
    else if 0xf0 ≤ b.toNat ∧ b.toNat ≤ 0xf4 then some 3
    else none := by
  simp [size, UInt8.le_iff_toNat_le]

theorem leadPayload_eq (b : UInt8) : leadPayload b =
    if b.toNat ≤ 0xdf then b.toNat - 0xc0
    else if b.toNat ≤ 0xef then b.toNat - 0xe0
    else b.toNat - 0xf0 := by
  simp [leadPayload, UInt8.le_iff_toNat_le]

theorem size_eq_some : size a = some n ↔
    n = 0 ∧ a.toNat ≤ 0x7f ∨
      n = 1 ∧ (0xc2 ≤ a.toNat ∧ a.toNat ≤ 0xdf) ∧ leadPayload a = a.toNat - 0xc0 ∨
      n = 2 ∧ (0xe0 ≤ a.toNat ∧ a.toNat ≤ 0xef) ∧ leadPayload a = a.toNat - 0xe0 ∨
      n = 3 ∧ (0xf0 ≤ a.toNat ∧ a.toNat ≤ 0xf4) ∧ leadPayload a = a.toNat - 0xf0 := by
  rw [size_eq, leadPayload_eq]
  split_ifs <;> simp_all <;> omega

/-! ### One character -/

/-- `Reads octets ch left`: the octets start with those of the character `ch`, then comes `left`. -/
inductive Reads : List UInt8 → Char → List UInt8 → Prop
  | one {a : UInt8} {left : List UInt8} : a.toNat ≤ 0x7f → Reads (a :: left) (.ofNat a.toNat) left
  | two {a b : UInt8} {left : List UInt8} {v : Nat} : 0xc2 ≤ a.toNat → a.toNat ≤ 0xdf →
      fitsSecond a b = true → v = (a.toNat - 0xc0) * 64 + payload b →
      Reads (a :: b :: left) (.ofNat v) left
  | three {a b c : UInt8} {left : List UInt8} {v : Nat} : 0xe0 ≤ a.toNat → a.toNat ≤ 0xef →
      fitsSecond a b = true → isContinuation c = true →
      v = ((a.toNat - 0xe0) * 64 + payload b) * 64 + payload c →
      Reads (a :: b :: c :: left) (.ofNat v) left
  | four {a b c d : UInt8} {left : List UInt8} {v : Nat} : 0xf0 ≤ a.toNat → a.toNat ≤ 0xf4 →
      fitsSecond a b = true → isContinuation c = true → isContinuation d = true →
      v = (((a.toNat - 0xf0) * 64 + payload b) * 64 + payload c) * 64 + payload d →
      Reads (a :: b :: c :: d :: left) (.ofNat v) left

theorem finish_zero {value k : Nat} {taken : List UInt8} :
    finish value taken 0 rest = .char ch k left ↔
      .ofNat value = ch ∧ taken.length = k ∧ rest = left := by
  simp [finish]

theorem finish_succ {value k : Nat} {taken : List UInt8} :
    finish value taken (n + 1) rest = .char ch k left ↔
      ∃ b more, rest = b :: more ∧ isContinuation b = true ∧
        finish (value * 64 + payload b) (taken ++ [b]) n more = .char ch k left := by
  cases rest with
  | nil => simp [finish]
  | cons b more =>
    by_cases hb : isContinuation b = true
    · simp [finish, hb]
    · simp [finish, hb]

theorem step_eq_char {k : Nat} : step a rest = .char ch k left ↔
    (size a = some 0 ∧ .ofNat a.toNat = ch ∧ 1 = k ∧ rest = left) ∨
      ∃ n b more, size a = some (n + 1) ∧ rest = b :: more ∧ fitsSecond a b = true ∧
        finish (leadPayload a * 64 + payload b) [a, b] n more = .char ch k left := by
  rw [step]
  rcases hsize : size a with _ | (_ | n)
  · simp
  · simp
  · cases rest with
    | nil => simp
    | cons b more =>
      by_cases hb : fitsSecond a b = true
      · simp [hb]
      · simp [hb]

/-- **A step reads one character.** -/
theorem exists_step_iff : (∃ k, step a rest = .char ch k left) ↔ Reads (a :: rest) ch left := by
  constructor
  · rintro ⟨k, h⟩
    rcases step_eq_char.mp h with ⟨hsize, rfl, -, rfl⟩ | ⟨n, b, more, hsize, rfl, hb, hfinish⟩
    · rw [size_eq_some] at hsize
      exact .one (by omega)
    · rw [size_eq_some] at hsize
      rcases hsize with ⟨hn, -⟩ | ⟨hn, ha, hlead⟩ | ⟨hn, ha, hlead⟩ | ⟨hn, ha, hlead⟩
      · omega
      · obtain rfl : n = 0 := by omega
        obtain ⟨hch, -, hleft⟩ := finish_zero.mp hfinish
        rw [← hch, ← hleft, hlead]
        exact .two ha.1 ha.2 hb rfl
      · obtain rfl : n = 1 := by omega
        obtain ⟨c, more, rfl, hc, hfinish⟩ := finish_succ.mp hfinish
        obtain ⟨hch, -, hleft⟩ := finish_zero.mp hfinish
        rw [← hch, ← hleft, hlead]
        exact .three ha.1 ha.2 hb hc rfl
      · obtain rfl : n = 2 := by omega
        obtain ⟨c, more, rfl, hc, hfinish⟩ := finish_succ.mp hfinish
        obtain ⟨d, more, rfl, hd, hfinish⟩ := finish_succ.mp hfinish
        obtain ⟨hch, -, hleft⟩ := finish_zero.mp hfinish
        rw [← hch, ← hleft, hlead]
        exact .four ha.1 ha.2 hb hc hd rfl
  · intro h
    cases h with
    | one ha =>
      exact ⟨1, step_eq_char.mpr (.inl ⟨size_eq_some.mpr (.inl ⟨rfl, ha⟩), rfl, rfl, rfl⟩)⟩
    | two ha ha' hb hv =>
      have hlead : leadPayload a = a.toNat - 0xc0 := by rw [leadPayload_eq, if_pos ha']
      have hsize := size_eq_some.mpr (.inr (.inl ⟨rfl, ⟨ha, ha'⟩, hlead⟩))
      refine ⟨2, step_eq_char.mpr (.inr ⟨0, _, _, hsize, rfl, hb, ?_⟩)⟩
      rw [hlead, ← hv]
      rfl
    | three ha ha' hb hc hv =>
      have hlead : leadPayload a = a.toNat - 0xe0 := by
        rw [leadPayload_eq, if_neg (by omega), if_pos ha']
      have hsize := size_eq_some.mpr (.inr (.inr (.inl ⟨rfl, ⟨ha, ha'⟩, hlead⟩)))
      refine ⟨3, step_eq_char.mpr (.inr ⟨1, _, _, hsize, rfl, hb, ?_⟩)⟩
      refine finish_succ.mpr ⟨_, _, rfl, hc, ?_⟩
      rw [hlead, ← hv]
      rfl
    | four ha ha' hb hc hd hv =>
      have hlead : leadPayload a = a.toNat - 0xf0 := by
        rw [leadPayload_eq, if_neg (by omega), if_neg (by omega)]
      have hsize := size_eq_some.mpr (.inr (.inr (.inr ⟨rfl, ⟨ha, ha'⟩, hlead⟩)))
      refine ⟨4, step_eq_char.mpr (.inr ⟨2, _, _, hsize, rfl, hb, ?_⟩)⟩
      refine finish_succ.mpr ⟨_, _, rfl, hc, finish_succ.mpr ⟨_, _, rfl, hd, ?_⟩⟩
      rw [hlead, ← hv]
      rfl

section Encode

/-! ### What a code point is encoded as -/

variable {v : Nat}

theorem val_ofNat (h : v.isValidChar) : (Char.ofNat v).val.toNat = v := by
  rw [Char.ofNat, dif_pos h]
  rfl

theorem eq_ofNat (h : a.toNat = v) : a = UInt8.ofNat v := by
  rw [← h, UInt8.ofNat_toNat]

theorem encode_one (hv : v ≤ 0x7f) (ha : a.toNat = v) :
    String.utf8EncodeChar (.ofNat v) = [a] := by
  rw [String.utf8EncodeChar, val_ofNat (.inl (by omega)), if_pos hv, eq_ofNat ha]

theorem encode_two (hv : 0x7f < v) (hv' : v ≤ 0x7ff) (ha : a.toNat = v / 64 + 0xc0)
    (hb : b.toNat = v % 64 + 0x80) : String.utf8EncodeChar (.ofNat v) = [a, b] := by
  have ha : a.toNat = v / 64 % 32 + 0xc0 := by omega
  rw [String.utf8EncodeChar, val_ofNat (.inl (by omega)), if_neg (by omega), if_pos hv',
    eq_ofNat ha, eq_ofNat hb]

theorem encode_three (hchar : v.isValidChar) (hv : 0x7ff < v) (hv' : v ≤ 0xffff)
    (ha : a.toNat = v / 4096 + 0xe0) (hb : b.toNat = v / 64 % 64 + 0x80)
    (hc : c.toNat = v % 64 + 0x80) : String.utf8EncodeChar (.ofNat v) = [a, b, c] := by
  have ha : a.toNat = v / 4096 % 16 + 0xe0 := by omega
  rw [String.utf8EncodeChar, val_ofNat hchar, if_neg (by omega), if_neg (by omega), if_pos hv',
    eq_ofNat ha, eq_ofNat hb, eq_ofNat hc]

theorem encode_four (hv : 0xffff < v) (hv' : v < 0x110000)
    (ha : a.toNat = v / 262144 + 0xf0) (hb : b.toNat = v / 4096 % 64 + 0x80)
    (hc : c.toNat = v / 64 % 64 + 0x80) (hd : d.toNat = v % 64 + 0x80) :
    String.utf8EncodeChar (.ofNat v) = [a, b, c, d] := by
  have ha : a.toNat = v / 262144 % 8 + 0xf0 := by omega
  rw [String.utf8EncodeChar, val_ofNat (.inr (by omega)), if_neg (by omega), if_neg (by omega),
    if_neg (by omega), eq_ofNat ha, eq_ofNat hb, eq_ofNat hc, eq_ofNat hd]

end Encode

theorem Reads.eq_append (h : Reads octets ch left) : octets = String.utf8EncodeChar ch ++ left := by
  have hpayload : ∀ b : UInt8, payload b = b.toNat - 0x80 := fun _ => rfl
  cases h with
  | one ha =>
    rw [encode_one ha rfl]
    rfl
  | @two a b _ v ha ha' hb hv =>
    have hb := isContinuation_iff.mp (fitsSecond_iff.mp hb).1
    simp only [hpayload] at hv
    rw [encode_two (a := a) (b := b) (by omega) (by omega) (by omega) (by omega)]
    rfl
  | @three a b c _ v ha ha' hb hc hv =>
    obtain ⟨hb, he0, hed, -, -⟩ := fitsSecond_iff.mp hb
    rw [isContinuation_iff] at hb hc
    simp only [hpayload] at hv
    have hchar : v.isValidChar := by
      simp only [Nat.isValidChar]
      omega
    rw [encode_three (a := a) (b := b) (c := c) hchar (by omega) (by omega) (by omega) (by omega)
      (by omega)]
    rfl
  | @four a b c d _ v ha ha' hb hc hd hv =>
    obtain ⟨hb, -, -, hf0, hf4⟩ := fitsSecond_iff.mp hb
    rw [isContinuation_iff] at hb hc hd
    simp only [hpayload] at hv
    rw [encode_four (a := a) (b := b) (c := c) (d := d) (by omega) (by omega) (by omega)
      (by omega) (by omega) (by omega)]
    rfl

theorem exists_octet {n : Nat} (h : n < 256) : ∃ a : UInt8, a.toNat = n :=
  ⟨.ofNat n, by rw [UInt8.toNat_ofNat', Nat.mod_eq_of_lt h]⟩

theorem reads_encodeChar (ch : Char) (left : List UInt8) :
    Reads (String.utf8EncodeChar ch ++ left) ch left := by
  have hpayload : ∀ b : UInt8, payload b = b.toNat - 0x80 := fun _ => rfl
  have hchar : ch.toNat.isValidChar := ch.valid
  generalize hv : ch.toNat = v at hchar
  obtain rfl : ch = .ofNat v := by rw [← hv, Char.ofNat_toNat]
  -- The second octet needs the bounds on `v`: three octets leave out the surrogates.
  have hvalid := hchar
  simp only [Nat.isValidChar] at hvalid
  by_cases h1 : v ≤ 0x7f
  · obtain ⟨a, rfl⟩ := exists_octet (n := v) (by omega)
    rw [encode_one h1 rfl]
    exact .one h1
  by_cases h2 : v ≤ 0x7ff
  · obtain ⟨a, ha⟩ := exists_octet (n := v / 64 + 0xc0) (by omega)
    obtain ⟨b, hb⟩ := exists_octet (n := v % 64 + 0x80) (by omega)
    have hcont : isContinuation b = true := isContinuation_iff.mpr (by omega)
    have hfits : fitsSecond a b = true := fitsSecond_iff.mpr ⟨hcont, by omega⟩
    rw [encode_two (by omega) h2 ha hb]
    exact .two (by omega) (by omega) hfits (by rw [hpayload]; omega)
  by_cases h3 : v ≤ 0xffff
  · obtain ⟨a, ha⟩ := exists_octet (n := v / 4096 + 0xe0) (by omega)
    obtain ⟨b, hb⟩ := exists_octet (n := v / 64 % 64 + 0x80) (by omega)
    obtain ⟨c, hc⟩ := exists_octet (n := v % 64 + 0x80) (by omega)
    have hcont : isContinuation b = true := isContinuation_iff.mpr (by omega)
    have hfits : fitsSecond a b = true := fitsSecond_iff.mpr ⟨hcont, by omega⟩
    rw [encode_three hchar (by omega) h3 ha hb hc]
    exact .three (by omega) (by omega) hfits (isContinuation_iff.mpr (by omega))
      (by rw [hpayload, hpayload]; omega)
  · obtain ⟨a, ha⟩ := exists_octet (n := v / 262144 + 0xf0) (by omega)
    obtain ⟨b, hb⟩ := exists_octet (n := v / 4096 % 64 + 0x80) (by omega)
    obtain ⟨c, hc⟩ := exists_octet (n := v / 64 % 64 + 0x80) (by omega)
    obtain ⟨d, hd⟩ := exists_octet (n := v % 64 + 0x80) (by omega)
    have hcont : isContinuation b = true := isContinuation_iff.mpr (by omega)
    have hfits : fitsSecond a b = true := fitsSecond_iff.mpr ⟨hcont, by omega⟩
    rw [encode_four (by omega) (by omega) ha hb hc hd]
    exact .four (by omega) (by omega) hfits (isContinuation_iff.mpr (by omega))
      (isContinuation_iff.mpr (by omega)) (by rw [hpayload, hpayload, hpayload]; omega)

/-! ### Whole texts -/

theorem decodeFrom_of_reads (h : Reads octets ch left) (offset : Nat) (out : List Char) :
    ∃ offset', decodeFrom offset out octets = decodeFrom offset' (ch :: out) left := by
  cases octets with
  | nil => cases h
  | cons a rest =>
    obtain ⟨k, hstep⟩ := exists_step_iff.mpr h
    refine ⟨offset + k, ?_⟩
    rw [decodeFrom]
    split
    · rename_i hbroken
      rw [hstep] at hbroken
      cases hbroken
    · rename_i hchar
      rw [hstep] at hchar
      cases hchar
      rfl

theorem decodeFrom_encode (offset : Nat) (out cs : List Char) :
    decodeFrom offset out (encode cs) = .ok (out.reverse ++ cs) := by
  induction cs generalizing offset out with
  | nil => rw [encode, List.flatMap_nil, decodeFrom, List.append_nil]
  | cons ch cs ih =>
    obtain ⟨offset', hstep⟩ := decodeFrom_of_reads (reads_encodeChar ch (encode cs)) offset out
    rw [encode, List.flatMap_cons, ← encode, hstep, ih]
    simp

theorem encode_of_decodeFrom {offset : Nat} {out cs : List Char}
    (h : decodeFrom offset out octets = .ok cs) :
    ∃ more, cs = out.reverse ++ more ∧ octets = encode more := by
  fun_induction decodeFrom offset out octets with
  | case1 offset out =>
    cases h
    exact ⟨[], by simp, rfl⟩
  | case2 => cases h
  | case3 offset out a rest ch size left hstep _ ih =>
    obtain ⟨more, rfl, rfl⟩ := ih h
    refine ⟨ch :: more, by simp, ?_⟩
    exact (exists_step_iff.mp ⟨size, hstep⟩).eq_append

/-- **Octets can be decoded if they encode something**, and what they encode is what comes out. -/
theorem decode_eq_ok {cs : List Char} : decode octets = .ok cs ↔ octets = encode cs := by
  constructor
  · intro h
    obtain ⟨more, rfl, hmore⟩ := encode_of_decodeFrom h
    exact hmore
  · rintro rfl
    exact decodeFrom_encode 0 [] cs

/-- Octets can be decoded if and only if they are UTF-8. -/
theorem isValid_iff : octets.toByteArray.IsValidUTF8 ↔ ∃ cs, decode octets = .ok cs := by
  simp only [decode_eq_ok]
  constructor
  · rintro ⟨cs, hcs⟩
    exact ⟨cs, List.toByteArray_inj.mp hcs⟩
  · rintro ⟨cs, rfl⟩
    exact ⟨cs, rfl⟩

/-! ### Byte order marks -/

def afterMark (octets : List UInt8) : List UInt8 :=
  if mark.isPrefixOf octets then octets.drop 3 else octets

def IsPartOfMark (octets : List UInt8) : Prop := octets = [0xef] ∨ octets = [0xef, 0xbb]

theorem decodeMarked_of_part (h : IsPartOfMark octets) : decodeMarked octets = .ok [] := by
  rcases h with rfl | rfl
  · rfl
  · rfl

theorem decodeMarked_of_not_part (h : ¬ IsPartOfMark octets) :
    decodeMarked octets = decode (afterMark octets) := by
  have hparts : ¬ (octets = mark.take 1 || octets = mark.take 2) = true := by
    rw [Bool.or_eq_true, decide_eq_true_eq, decide_eq_true_eq]
    exact h
  rw [decodeMarked, if_neg hparts, afterMark]
  split <;> rfl

/-- **What cannot be decoded**: octets that are no UTF-8 behind a byte order mark that may be there,
parts of a byte order mark apart. -/
theorem decodeMarked_eq_error :
    (∃ flaw, decodeMarked octets = .error flaw) ↔
      ¬ (afterMark octets).toByteArray.IsValidUTF8 ∧ ¬ IsPartOfMark octets := by
  by_cases hpart : IsPartOfMark octets
  · simp [decodeMarked_of_part hpart, hpart]
  · rw [decodeMarked_of_not_part hpart, isValid_iff]
    cases decode (afterMark octets) <;> simp [hpart]

theorem mark_eq : mark = String.utf8EncodeChar '\uFEFF' := by decide

theorem Reads.unique {ch' : Char} {left' : List UInt8} (h : Reads octets ch left)
    (h' : Reads octets ch' left') : ch = ch' := by
  cases octets with
  | nil => cases h
  | cons a rest =>
    obtain ⟨k, hstep⟩ := exists_step_iff.mpr h
    obtain ⟨k', hstep'⟩ := exists_step_iff.mpr h'
    rw [hstep, Step.char.injEq] at hstep'
    exact hstep'.1

theorem head_of_mark {cs : List Char} (h : mark.isPrefixOf (encode cs) = true) :
    cs.head? = some '\uFEFF' := by
  obtain ⟨left, hleft⟩ := List.isPrefixOf_iff_prefix.mp h
  rw [mark_eq] at hleft
  have hreads := reads_encodeChar '\uFEFF' left
  rw [hleft] at hreads
  cases cs with
  | nil => cases hreads
  | cons ch cs => rw [List.head?_cons, (reads_encodeChar ch (encode cs)).unique hreads]

theorem not_isPartOfMark_encode (cs : List Char) : ¬ IsPartOfMark (encode cs) := by
  intro h
  have hdecode : decode (encode cs) = .ok cs := decode_eq_ok.mpr rfl
  rcases h with h | h
  · rw [h, decode, decodeFrom] at hdecode
    cases hdecode
  · rw [h, decode, decodeFrom] at hdecode
    cases hdecode

theorem decodeMarked_mark (cs : List Char) : decodeMarked (mark ++ encode cs) = .ok cs := by
  have hpart : ¬ IsPartOfMark (mark ++ encode cs) := by simp [IsPartOfMark, mark]
  rw [decodeMarked_of_not_part hpart, decode_eq_ok]
  rfl

theorem decodeMarked_encode {cs : List Char} (h : cs.head? ≠ some '\uFEFF') :
    decodeMarked (encode cs) = .ok cs := by
  rw [decodeMarked_of_not_part (not_isPartOfMark_encode cs), afterMark, if_neg (h ∘ head_of_mark),
    decode_eq_ok]

end FeatureLint.Text.Utf8
