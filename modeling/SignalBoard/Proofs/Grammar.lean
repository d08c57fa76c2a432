import Mathlib.Data.List.Induction
import Mathlib.Data.List.TakeWhile
import Mathlib.Data.Nat.Digits.Defs
import SignalBoard.Settings.Interval

/-! # The grammar of the settings

A text denotes a number if, but for white space at its ends, it is a numeral: an optional `+` and
then decimal digits, the first of which counts most (`Text.Denotes`).  Reading it up to a limit
succeeds exactly when it denotes a number within the limit, and then gives that number
(`Settings.readNumber_eq_ok_iff`), so neither zeros in front nor a number past the limit ever make
it wrap.

A setting that is refused leaves its default and one warning (`Settings.Reported`).  Zero is refused
as a frame rate, so there is always a time between frames. -/

namespace SignalBoard

set_option autoImplicit false

namespace Text

/-! ## Digits -/

theorem isDigit_bounds {c : Char} (h : c.isDigit = true) : 48 ≤ c.toNat ∧ c.toNat ≤ 57 := by
  simpa [Char.isDigit, UInt32.le_iff_toNat_le] using h

theorem digitValue_of_isDigit {c : Char} (h : c.isDigit = true) :
    digitValue c = c.toNat - '0'.toNat := by
  have hbounds := isDigit_bounds h
  have hzero : '0'.toNat = 48 := rfl
  unfold digitValue
  omega

theorem isBlank_of_isDigit {c : Char} (h : c.isDigit = true) : isBlank c = false := by
  have hbounds := isDigit_bounds h
  simp only [isBlank, Bool.or_eq_false_iff, Bool.and_eq_false_iff, decide_eq_false_iff_not]
  omega

/-- The number that decimal digits stand for, each counting ten times the one behind it. -/
def positional (digits : List Char) : Nat :=
  Nat.ofDigits 10 (digits.reverse.map fun c => c.toNat - '0'.toNat)

theorem positional_append_singleton (digits : List Char) (c : Char) :
    positional (digits ++ [c]) = positional digits * 10 + (c.toNat - '0'.toNat) := by
  unfold positional
  rw [List.reverse_append, List.reverse_singleton, List.singleton_append, List.map_cons,
    Nat.ofDigits_cons]
  omega

/-- Reading digits from left to right adds up to their positional value. -/
theorem numeralValue_eq_positional {digits : List Char} (h : ∀ c ∈ digits, c.isDigit = true) :
    numeralValue digits = positional digits := by
  induction digits using List.reverseRecOn with
  | nil => rfl
  | append_singleton front c ih =>
    have hc : c.isDigit = true := h c (by simp)
    have hfront := ih fun d hd => h d (List.mem_append_left _ hd)
    unfold numeralValue numeralValueFrom at hfront ⊢
    rw [List.foldl_append, hfront, positional_append_singleton, ← digitValue_of_isDigit hc]
    rfl

/-! ## White space at the ends -/

theorem dropWhile_blank_append {front : List Char} (h : ∀ c ∈ front, isBlank c = true)
    (rest : List Char) : (front ++ rest).dropWhile isBlank = rest.dropWhile isBlank := by
  rw [List.dropWhile_append, List.dropWhile_eq_nil_iff.2 h]
  rfl

theorem dropWhile_of_solid {core : List Char} (h : ∀ c ∈ core, isBlank c = false) :
    core.dropWhile isBlank = core := by
  cases core with
  | nil => rfl
  | cons c rest => rw [List.dropWhile_cons, h c (by simp), if_neg Bool.false_ne_true]

theorem trimEnd_append_blank {back : List Char} (h : ∀ c ∈ back, isBlank c = true)
    (core : List Char) : trimEnd (core ++ back) = trimEnd core := by
  have hreverse : ∀ c ∈ back.reverse, isBlank c = true := fun c hc => h c (List.mem_reverse.1 hc)
  rw [trimEnd, List.reverse_append, dropWhile_blank_append hreverse, trimEnd]

theorem trimEnd_of_solid {core : List Char} (h : ∀ c ∈ core, isBlank c = false) :
    trimEnd core = core := by
  rw [trimEnd, dropWhile_of_solid fun c hc => h c (List.mem_reverse.1 hc), List.reverse_reverse]

/-- What stands between two runs of white space, without any of its own, is what trimming leaves. -/
theorem trim_of_split {front core back : List Char} (hfront : ∀ c ∈ front, isBlank c = true)
    (hcore : ∀ c ∈ core, isBlank c = false) (hback : ∀ c ∈ back, isBlank c = true) :
    trim (front ++ core ++ back) = core := by
  rw [List.append_assoc, trim, dropWhile_blank_append hfront]
  cases core with
  | nil =>
    rw [List.nil_append, List.dropWhile_eq_nil_iff.2 hback]
    rfl
  | cons c rest =>
    have hc : isBlank c = false := hcore c (by simp)
    rw [List.cons_append, List.dropWhile_cons, hc, if_neg Bool.false_ne_true, ← List.cons_append,
      trimEnd_append_blank hback, trimEnd_of_solid hcore]

/-! ## Texts that denote numbers -/

theorem IsNumeral.solid {cs digits : List Char} (h : IsNumeral cs digits) :
    ∀ c ∈ cs, isBlank c = false := by
  obtain ⟨-, hall, hform⟩ := h
  intro c hc
  rcases hform with rfl | rfl
  · exact isBlank_of_isDigit (hall c hc)
  · rcases List.mem_cons.1 hc with rfl | hc
    · rfl
    · exact isBlank_of_isDigit (hall c hc)

/-- White space, a numeral of value `n`, and white space. -/
def Denotes (text : String) (n : Nat) : Prop :=
  ∃ front numeral digits back, text.toList = front ++ numeral ++ back ∧
    (∀ c ∈ front, isBlank c = true) ∧ (∀ c ∈ back, isBlank c = true) ∧
    IsNumeral numeral digits ∧ positional digits = n

theorem denotes_iff {text : String} {n : Nat} :
    Denotes text n ↔
      ∃ digits, IsNumeral (trim text.toList) digits ∧ numeralValue digits = n := by
  constructor
  · rintro ⟨front, numeral, digits, back, htext, hfront, hback, hnumeral, hn⟩
    refine ⟨digits, ?_, (numeralValue_eq_positional hnumeral.2.1).trans hn⟩
    rw [htext, trim_of_split hfront hnumeral.solid hback]
    exact hnumeral
  · rintro ⟨digits, hnumeral, hn⟩
    obtain ⟨front, back, htext, hfront, hback⟩ := trim_split text.toList
    exact ⟨front, trim text.toList, digits, back, htext, hfront, hback, hnumeral,
      (numeralValue_eq_positional hnumeral.2.1).symm.trans hn⟩

end Text

open Text

/-- The setting that a notice is about. -/
def Notice.setting? : Notice → Option String
  | settingUnread name _ _ => some name
  | settingZero name => some name
  | _ => none

namespace Settings

/-- Reading a number succeeds exactly on the texts that denote one within the limit. -/
theorem readNumber_eq_ok_iff {limit : Nat} {raw : String} {n : Nat} :
    readNumber limit raw = .ok n ↔ Denotes raw n ∧ n ≤ limit := by
  rw [readNumber, readNumeral_eq_ok_iff, denotes_iff]
  constructor
  · rintro ⟨digits, hnumeral, hn, hle⟩
    exact ⟨⟨digits, hnumeral, hn⟩, hle⟩
  · rintro ⟨⟨digits, hnumeral, hn⟩, hle⟩
    exact ⟨digits, hnumeral, hn, hle⟩

theorem denotes_unique {raw : String} {n m : Nat} (hn : Denotes raw n) (hm : Denotes raw m) :
    n = m := by
  have h : readNumber (max n m) raw = .ok n := readNumber_eq_ok_iff.2 ⟨hn, le_max_left n m⟩
  have h' : readNumber (max n m) raw = .ok m := readNumber_eq_ok_iff.2 ⟨hm, le_max_right n m⟩
  exact Except.ok.inj (h.symm.trans h')

/-! ## The two settings -/

/-- A text is a seed if it denotes a number of 64 bits. -/
def IsSeed (raw : String) : Prop := ∃ v : UInt64, Denotes raw v.toNat

/-- A text is a frame rate if it denotes a number of 32 bits that is not zero. -/
def IsFrameRate (raw : String) : Prop := ∃ v : UInt32, v ≠ 0 ∧ Denotes raw v.toNat

/-- A setting that is absent or accepted is not reported, and one that is refused is by one warning.
-/
inductive Reported (name : String) (accepts : String → Prop) : Option String → List Notice → Prop
  | absent : Reported name accepts none []
  | accepted (raw : String) (h : accepts raw) : Reported name accepts (some raw) []
  | refused (raw : String) (h : ¬ accepts raw) (notice : Notice) (hlevel : notice.level = .warn)
      (hsetting : notice.setting? = some name) : Reported name accepts (some raw) [notice]

theorem readSeed_cases (raw : String) :
    (∃ v : UInt64, Denotes raw v.toNat ∧ readSeed (some raw) = .quiet (some v) ()) ∨
      ¬ IsSeed raw ∧ ∃ fault,
        readSeed (some raw) = ⟨none, (), [.settingUnread seedName raw fault]⟩ := by
  cases hread : readNumber (UInt64.size - 1) raw with
  | ok n =>
    obtain ⟨hn, hle⟩ := readNumber_eq_ok_iff.1 hread
    have hlt : n < UInt64.size := Nat.lt_of_le_pred (by decide) hle
    refine .inl ⟨.ofNat n, ?_, by simp only [readSeed, hread]⟩
    rw [UInt64.toNat_ofNat_of_lt' hlt]
    exact hn
  | error fault =>
    refine .inr ⟨?_, fault, by simp only [readSeed, hread]⟩
    rintro ⟨v, hv⟩
    have hok : readNumber (UInt64.size - 1) raw = .ok v.toNat :=
      readNumber_eq_ok_iff.2 ⟨hv, Nat.le_pred_of_lt v.toNat_lt⟩
    rw [hok] at hread
    cases hread

theorem readFrameRate_cases (raw : String) :
    (∃ v : UInt32, v ≠ 0 ∧ Denotes raw v.toNat ∧ readFrameRate (some raw) = .quiet v ()) ∨
      ¬ IsFrameRate raw ∧ ∃ notice : Notice, notice.level = .warn ∧
        notice.setting? = some frameRateName ∧
        readFrameRate (some raw) = ⟨defaults.frameRate, (), [notice]⟩ := by
  cases hread : readNumber (UInt32.size - 1) raw with
  | ok n =>
    obtain ⟨hn, hle⟩ := readNumber_eq_ok_iff.1 hread
    have hlt : n < UInt32.size := Nat.lt_of_le_pred (by decide) hle
    cases n with
    | zero =>
      refine .inr ⟨?_, .settingZero frameRateName, rfl, rfl, by simp only [readFrameRate, hread]⟩
      rintro ⟨v, hne, hv⟩
      have hzero : v.toNat = 0 := denotes_unique hv hn
      exact hne (UInt32.toNat_inj.1 hzero)
    | succ k =>
      have hv : (UInt32.ofNat (k + 1)).toNat = k + 1 := UInt32.toNat_ofNat_of_lt' hlt
      refine .inl ⟨.ofNat (k + 1), ?_, hv.symm ▸ hn, by simp only [readFrameRate, hread]⟩
      intro hzero
      rw [hzero] at hv
      cases hv
  | error fault =>
    refine .inr ⟨?_, .settingUnread frameRateName raw fault, rfl, rfl,
      by simp only [readFrameRate, hread]⟩
    rintro ⟨v, -, hv⟩
    have hok : readNumber (UInt32.size - 1) raw = .ok v.toNat :=
      readNumber_eq_ok_iff.2 ⟨hv, Nat.le_pred_of_lt v.toNat_lt⟩
    rw [hok] at hread
    cases hread

theorem state_readSeed_eq_some_iff (raw? : Option String) (v : UInt64) :
    (readSeed raw?).state = some v ↔ ∃ raw, raw? = some raw ∧ Denotes raw v.toNat := by
  cases raw? with
  | none =>
    constructor
    · exact fun h => nomatch h
    · rintro ⟨raw, h, -⟩
      cases h
  | some raw =>
    rcases readSeed_cases raw with ⟨u, hu, hread⟩ | ⟨hnot, fault, hread⟩
    · rw [hread]
      constructor
      · intro h
        exact ⟨raw, rfl, Option.some.inj h ▸ hu⟩
      · rintro ⟨_, ⟨⟩, hv⟩
        exact congrArg some (UInt64.toNat_inj.1 (denotes_unique hu hv))
    · rw [hread]
      constructor
      · exact fun h => nomatch h
      · rintro ⟨_, ⟨⟩, hv⟩
        exact absurd ⟨v, hv⟩ hnot

theorem state_readSeed_eq_none_iff (raw? : Option String) :
    (readSeed raw?).state = none ↔ ∀ raw, raw? = some raw → ¬ IsSeed raw := by
  rw [Option.eq_none_iff_forall_ne_some]
  constructor
  · rintro hnone raw hraw ⟨v, hv⟩
    exact hnone v ((state_readSeed_eq_some_iff raw? v).2 ⟨raw, hraw, hv⟩)
  · intro hnot v hv
    obtain ⟨raw, hraw, hdenotes⟩ := (state_readSeed_eq_some_iff raw? v).1 hv
    exact hnot raw hraw ⟨v, hdenotes⟩

theorem reported_readSeed (raw? : Option String) :
    Reported seedName IsSeed raw? (readSeed raw?).notices := by
  cases raw? with
  | none => exact .absent
  | some raw =>
    rcases readSeed_cases raw with ⟨v, hv, hread⟩ | ⟨hnot, fault, hread⟩
    · rw [hread]
      exact .accepted raw ⟨v, hv⟩
    · rw [hread]
      exact .refused raw hnot _ rfl rfl

theorem state_readFrameRate_eq_iff (raw? : Option String) (v : UInt32) :
    (readFrameRate raw?).state = v ↔
      (∃ raw, raw? = some raw ∧ v ≠ 0 ∧ Denotes raw v.toNat) ∨
        v = defaults.frameRate ∧ ∀ raw, raw? = some raw → ¬ IsFrameRate raw := by
  cases raw? with
  | none =>
    constructor
    · exact fun h => .inr ⟨h.symm, fun raw hraw => nomatch hraw⟩
    · rintro (⟨raw, h, -⟩ | ⟨h, -⟩)
      · cases h
      · exact h.symm
  | some raw =>
    rcases readFrameRate_cases raw with ⟨u, hne, hu, hread⟩ | ⟨hnot, notice, -, -, hread⟩
    · rw [hread]
      constructor
      · rintro rfl
        exact .inl ⟨raw, rfl, hne, hu⟩
      · rintro (⟨_, ⟨⟩, -, hv⟩ | ⟨-, hnone⟩)
        · exact UInt32.toNat_inj.1 (denotes_unique hu hv)
        · exact absurd ⟨u, hne, hu⟩ (hnone raw rfl)
    · rw [hread]
      constructor
      · intro h
        refine .inr ⟨h.symm, fun _ hraw => ?_⟩
        exact Option.some.inj hraw ▸ hnot
      · rintro (⟨_, ⟨⟩, hne, hv⟩ | ⟨h, -⟩)
        · exact absurd ⟨v, hne, hv⟩ hnot
        · exact h.symm

theorem reported_readFrameRate (raw? : Option String) :
    Reported frameRateName IsFrameRate raw? (readFrameRate raw?).notices := by
  cases raw? with
  | none => exact .absent
  | some raw =>
    rcases readFrameRate_cases raw with ⟨v, hne, hv, hread⟩ | ⟨hnot, notice, hlevel, hname, hread⟩
    · rw [hread]
      exact .accepted raw ⟨v, hne, hv⟩
    · rw [hread]
      exact .refused raw hnot notice hlevel hname

theorem state_readFrameRate_ne_zero (raw? : Option String) : (readFrameRate raw?).state ≠ 0 := by
  intro h
  rcases (state_readFrameRate_eq_iff raw? 0).1 h with ⟨raw, -, hne, -⟩ | ⟨hzero, -⟩
  · exact hne rfl
  · exact absurd hzero (by decide)

theorem frameInterval_of_ne_zero {rate : UInt32} (h : rate ≠ 0) :
    ∃ interval, frameInterval rate = .ok interval := by
  unfold frameInterval
  rw [if_neg h]
  exact ⟨_, rfl⟩

/-! ## Both settings at once -/

/-- The seed is the number that its text denotes, and there is none if the text denotes none of 64
bits.  The frame rate is the number that its text denotes, and 60 if the text denotes none of 32
bits or denotes zero.  Neither depends on the text of the other, a text that is refused is reported
once, one that is accepted is not, and there is always a time between frames. -/
theorem read_follows_grammar (lookup : String → Option String) :
    (∀ v : UInt64, (read lookup).state.seed = some v ↔
        ∃ raw, lookup seedName = some raw ∧ Denotes raw v.toNat) ∧
      ((read lookup).state.seed = none ↔ ∀ raw, lookup seedName = some raw → ¬ IsSeed raw) ∧
      (∀ v : UInt32, (read lookup).state.frameRate = v ↔
        (∃ raw, lookup frameRateName = some raw ∧ v ≠ 0 ∧ Denotes raw v.toNat) ∨
          v = 60 ∧ ∀ raw, lookup frameRateName = some raw → ¬ IsFrameRate raw) ∧
      (∀ other : String → Option String,
        (other seedName = lookup seedName →
          (read other).state.seed = (read lookup).state.seed) ∧
        (other frameRateName = lookup frameRateName →
          (read other).state.frameRate = (read lookup).state.frameRate)) ∧
      (∃ onSeed onRate, (read lookup).notices = onSeed ++ onRate ∧
        Reported seedName IsSeed (lookup seedName) onSeed ∧
        Reported frameRateName IsFrameRate (lookup frameRateName) onRate) ∧
      ∃ interval, frameInterval (read lookup).state.frameRate = .ok interval := by
  have hseed : (read lookup).state.seed = (readSeed (lookup seedName)).state := rfl
  have hrate : (read lookup).state.frameRate = (readFrameRate (lookup frameRateName)).state := rfl
  refine ⟨fun v => ?_, ?_, fun v => ?_, fun other => ⟨fun h => ?_, fun h => ?_⟩, ?_, ?_⟩
  · rw [hseed]
    exact state_readSeed_eq_some_iff (lookup seedName) v
  · rw [hseed]
    exact state_readSeed_eq_none_iff (lookup seedName)
  · rw [hrate]
    exact state_readFrameRate_eq_iff (lookup frameRateName) v
  · rw [hseed, ← h]
    rfl
  · rw [hrate, ← h]
    rfl
  · exact ⟨_, _, rfl, reported_readSeed _, reported_readFrameRate _⟩
  · rw [hrate]
    exact frameInterval_of_ne_zero (state_readFrameRate_ne_zero _)

end Settings

end SignalBoard
