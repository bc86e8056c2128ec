import Mathlib.Data.List.Nodup
import ViewInput.Keyboard.Code

/-!
# The keys behind the codes

The virtual key code and the physical name of a character are two tables, and both are about the
same keyboard.  `PrintingKey.all` has the keys of an American keyboard that print a character, each
with the character that Shift gives.  **Both tables are read off it** (`characterCode_eq` and
`characterName_eq`), and no two keys share a code.

The table of names forgets ten characters: those that Shift gives on the keys of the digits.  It
knows all other shifted characters, and the table of codes knows the ten.  So the tables agree on
every key but those (`codes_name_one_key_iff`).
-/

namespace ViewInput.Keyboard

open Device (Key NamedKey)

/-! ## The keyboard -/

/-- A key with the characters that it prints, without and with Shift, and with its two codes. -/
structure PrintingKey where
  plain : Char
  shifted : Char
  code : Nat
  name : String
deriving DecidableEq

namespace PrintingKey

def letters : List PrintingKey :=
  (List.range 26).map fun i =>
    let upper := Char.ofNat ('A'.toNat + i)
    { plain := Char.ofNat ('a'.toNat + i), shifted := upper
      code := upper.toNat, name := "Key" ++ upper.toString }

def digits : List PrintingKey :=
  [')', '!', '@', '#', '$', '%', '^', '&', '*', '('].zipIdx.map fun (shifted, i) =>
    let digit := Char.ofNat ('0'.toNat + i)
    { plain := digit, shifted := shifted, code := digit.toNat, name := "Digit" ++ digit.toString }

def signs : List PrintingKey :=
  [⟨' ', ' ', 0x20, "Space"⟩, ⟨';', ':', 0xBA, "Semicolon"⟩, ⟨'=', '+', 0xBB, "Equal"⟩,
   ⟨',', '<', 0xBC, "Comma"⟩, ⟨'-', '_', 0xBD, "Minus"⟩, ⟨'.', '>', 0xBE, "Period"⟩,
   ⟨'/', '?', 0xBF, "Slash"⟩, ⟨'\x60', '~', 0xC0, "Backquote"⟩, ⟨'[', '\x7b', 0xDB, "BracketLeft"⟩,
   ⟨'\\', '|', 0xDC, "Backslash"⟩, ⟨']', '\x7d', 0xDD, "BracketRight"⟩,
   ⟨'\x27', '\x22', 0xDE, "Quote"⟩]

/-- The keys of an American keyboard that print a character. -/
def all : List PrintingKey := letters ++ digits ++ signs

def prints (k : PrintingKey) (c : Char) : Bool := k.plain == c || k.shifted == c

/-- The key that prints a character. -/
def of? (c : Char) : Option PrintingKey := all.find? (·.prints c)

/-- Shift gives this character on the key of a digit. -/
def IsShiftedDigit (c : Char) : Prop := ∃ k ∈ digits, k.shifted = c

instance (c : Char) : Decidable (IsShiftedDigit c) :=
  inferInstanceAs (Decidable (∃ k ∈ digits, k.shifted = c))

/-- **No two keys share a code.** -/
lemma nodup_codes : (all.map (·.code)).Nodup := by decide +kernel

/-- Every key has both codes. -/
lemma code_name_ne : ∀ k ∈ all, k.code ≠ 0 ∧ k.name ≠ "" := by decide +kernel

lemma mem_all_of_of? {c : Char} {k : PrintingKey} (h : of? c = some k) : k ∈ all :=
  List.mem_of_find?_eq_some h

lemma eq_of_code_eq {k k' : PrintingKey} (hk : k ∈ all) (hk' : k' ∈ all) (h : k.code = k'.code) :
    k = k' :=
  List.inj_on_of_nodup_map nodup_codes hk hk' h

lemma of?_shifted_isSome : ∀ k ∈ digits, (of? k.shifted).isSome := by decide +kernel

end PrintingKey

open PrintingKey (of? IsShiftedDigit)

/-! ## Both tables are read off it -/

/-- What holds of the characters of the American standard code, and of all others, holds of all. -/
lemma forall_char {P : Char → Prop} (hascii : ∀ n < 128, P (Char.ofNat n))
    (hbeyond : ∀ c : Char, 128 ≤ c.toNat → P c) (c : Char) : P c := by
  rcases Nat.lt_or_ge c.toNat 128 with hlow | hhigh
  · rw [← c.ofNat_toNat]
    exact hascii _ hlow
  · exact hbeyond c hhigh

section Beyond

variable {c : Char} (hbeyond : 128 ≤ c.toNat)

include hbeyond in
lemma not_le_ascii {d : Char} (hd : d.toNat < 128) : ¬ c ≤ d := by
  rw [Char.le_def, UInt32.le_iff_toNat_le]
  exact Nat.not_le_of_lt (Nat.lt_of_lt_of_le hd hbeyond)

include hbeyond in
lemma not_letter_or_digit : ¬ ('a' ≤ c ∧ c ≤ 'z') ∧ ¬ ('A' ≤ c ∧ c ≤ 'Z') ∧ isDigit c = false :=
  ⟨fun h => not_le_ascii hbeyond (by decide) h.2, fun h => not_le_ascii hbeyond (by decide) h.2,
    by simp [isDigit, not_le_ascii hbeyond (d := '9') (by decide)]⟩

include hbeyond in
lemma characterCode_eq_zero : characterCode c = 0 := by
  obtain ⟨hlower, hupper, hdigit⟩ := not_letter_or_digit hbeyond
  simp only [characterCode, hlower, hupper, hdigit, if_false, or_self, Bool.false_eq_true]
  split
  case h_34 => rfl
  all_goals exact absurd hbeyond (by decide)

include hbeyond in
lemma characterName_eq_empty : characterName c = "" := by
  obtain ⟨hlower, hupper, hdigit⟩ := not_letter_or_digit hbeyond
  have hsame : c.toLower = c := dif_neg hupper
  simp only [characterName, hsame, hlower, hdigit, if_false, Bool.false_eq_true]
  split
  case h_24 => rfl
  all_goals exact absurd hbeyond (by decide)

include hbeyond in
lemma of?_eq_none : of? c = none := by
  have hascii : ∀ k ∈ PrintingKey.all, k.plain.toNat < 128 ∧ k.shifted.toNat < 128 := by
    decide +kernel
  refine List.find?_eq_none.mpr fun k hk hprints => ?_
  have hbound := hascii k hk
  simp only [PrintingKey.prints, Bool.or_eq_true, beq_iff_eq] at hprints
  rcases hprints with rfl | rfl <;> omega

end Beyond

lemma characterCode_eq (c : Char) : characterCode c = ((of? c).map (·.code)).getD 0 := by
  refine forall_char (P := fun c => characterCode c = ((of? c).map (·.code)).getD 0)
    (by decide +kernel) (fun c hbeyond => ?_) c
  rw [characterCode_eq_zero hbeyond, of?_eq_none hbeyond]
  rfl

lemma characterName_eq (c : Char) : characterName c
    = if IsShiftedDigit c then "" else ((of? c).map (·.name)).getD "" := by
  refine forall_char (P := fun c => characterName c
      = if IsShiftedDigit c then "" else ((of? c).map (·.name)).getD "")
    (by decide +kernel) (fun c hbeyond => ?_) c
  rw [characterName_eq_empty hbeyond, of?_eq_none hbeyond]
  split <;> rfl

/-! ## Where the tables agree -/

/-- A character with a code is on one of the keys, and has its code. -/
lemma exists_key_of_code_ne_zero {c : Char} (h : characterCode c ≠ 0) :
    ∃ k ∈ PrintingKey.all, of? c = some k ∧ characterCode c = k.code ∧
      characterName c = if IsShiftedDigit c then "" else k.name := by
  rw [characterCode_eq] at h
  cases hkey : of? c with
  | none => simp [hkey] at h
  | some k =>
      refine ⟨k, PrintingKey.mem_all_of_of? hkey, rfl, ?_, ?_⟩
      · simp [characterCode_eq, hkey]
      · simp [characterName_eq, hkey]

lemma characterName_of_code_eq_zero {c : Char} (h : characterCode c = 0) :
    characterName c = "" ∧ ¬ IsShiftedDigit c := by
  have hnone : of? c = none := by
    cases hkey : of? c with
    | none => rfl
    | some k =>
        have hcode := (PrintingKey.code_name_ne k (PrintingKey.mem_all_of_of? hkey)).1
        rw [characterCode_eq, hkey] at h
        exact absurd h hcode
  refine ⟨?_, ?_⟩
  · rw [characterName_eq, hnone]
    split <;> rfl
  · rintro ⟨k, hk, rfl⟩
    have hsome := PrintingKey.of?_shifted_isSome k hk
    rw [hnone] at hsome
    cases hsome

/-- **A character has a code and no name exactly if it is a shifted digit.** -/
lemma character_agrees_iff (c : Char) :
    (characterCode c ≠ 0 ↔ characterName c ≠ "") ↔ ¬ IsShiftedDigit c := by
  by_cases hcode : characterCode c = 0
  · obtain ⟨hname, hplain⟩ := characterName_of_code_eq_zero hcode
    simp [hcode, hname, hplain]
  · obtain ⟨k, hk, -, -, hname⟩ := exists_key_of_code_ne_zero hcode
    have hsome := (PrintingKey.code_name_ne k hk).2
    by_cases hshifted : IsShiftedDigit c <;> simp [hcode, hname, hshifted, hsome]

/-- Characters with one code are on one key, and what the table of names says of them is the
same unless it forgets one of them. -/
lemma characterName_eq_iff {c d : Char} (hsame : characterCode c = characterCode d)
    (hcode : characterCode c ≠ 0) :
    characterName c = characterName d ↔ (IsShiftedDigit c ↔ IsShiftedDigit d) := by
  obtain ⟨k, hk, -, hc, hnamec⟩ := exists_key_of_code_ne_zero hcode
  obtain ⟨k', hk', -, hd, hnamed⟩ := exists_key_of_code_ne_zero (hsame ▸ hcode)
  obtain rfl : k = k' := PrintingKey.eq_of_code_eq hk hk' (by omega)
  have hsome := (PrintingKey.code_name_ne k hk).2
  by_cases hshiftedc : IsShiftedDigit c <;> by_cases hshiftedd : IsShiftedDigit d <;>
    simp [hnamec, hnamed, hshiftedc, hshiftedd, hsome, hsome.symm]

lemma named_agrees (name : NamedKey) : namedCode name ≠ 0 ↔ namedName false false name ≠ "" := by
  cases name with
  | function n =>
      by_cases hknown : 1 ≤ n ∧ n ≤ 24 <;> simp [namedCode, namedName, hknown]
  | _ => decide

/-- What the tables say of the keys of the digits. -/
lemma digit_codes : ∀ k ∈ PrintingKey.digits,
    virtualCode (.character k.shifted) false = virtualCode (.character k.plain) false ∧
    domCode (.character k.plain) .standard false = k.name ∧
    domCode (.character k.shifted) .standard false = "" := by
  decide +kernel

/-- **The two codes of a key are those of one key, but for the shifted digits.**  Consider a key off
the keypad and without a side: any character there is, or any key with a name, the function keys of
all numbers among them.  It has a virtual code exactly if it has a physical name, unless it is one
of the ten characters that Shift gives on the keys of the digits.  Another character with the same
virtual code has the same physical name exactly if both are such characters, or neither is.  Each of
the ten has the virtual code of the digit on its key, but not the physical name. -/
theorem codes_name_one_key_iff (key : Key) :
    ((virtualCode key false ≠ 0 ↔ domCode key .standard false ≠ "") ↔
      ∀ c, key = .character c → ¬ IsShiftedDigit c) ∧
    (∀ c d, key = .character c → virtualCode key false = virtualCode (.character d) false →
      virtualCode key false ≠ 0 →
      (domCode key .standard false = domCode (.character d) .standard false ↔
        (IsShiftedDigit c ↔ IsShiftedDigit d))) ∧
    ∀ k ∈ PrintingKey.digits, key = .character k.shifted →
      virtualCode key false = virtualCode (.character k.plain) false ∧
      domCode (.character k.plain) .standard false = k.name ∧
      domCode key .standard false = "" := by
  refine ⟨?_, ?_, ?_⟩
  · cases key with
    | character c => simpa [virtualCode, domCode] using character_agrees_iff c
    | named name => simpa [virtualCode, domCode] using named_agrees name
  · rintro c d rfl hsame hcode
    exact characterName_eq_iff hsame hcode
  · rintro k hk rfl
    exact digit_codes k hk

theorem codes_name_one_key_iff_letter :
    (virtualCode (.character 'q') false = virtualCode (.character 'Q') false ∧
      virtualCode (.character 'q') false ≠ 0 ∧
      domCode (.character 'q') .standard false = domCode (.character 'Q') .standard false) ∧
    ((∀ c, Key.named (.function 25) = .character c → ¬ IsShiftedDigit c) ∧
      (virtualCode (.named (.function 25)) false ≠ 0 ↔
        domCode (.named (.function 25)) .standard false ≠ "")) ∧
    ⟨'5', '%', 0x35, "Digit5"⟩ ∈ PrintingKey.digits ∧
      virtualCode (.character '%') false = virtualCode (.character '5') false ∧
      domCode (.character '5') .standard false = "Digit5" ∧
      domCode (.character '%') .standard false = "" := by
  have hsame : virtualCode (.character 'q') false = virtualCode (.character 'Q') false := by decide
  have hcode : virtualCode (.character 'q') false ≠ 0 := by decide
  have hplain : IsShiftedDigit 'q' ↔ IsShiftedDigit 'Q' := by decide
  have hnamed : ∀ c, Key.named (.function 25) = .character c → ¬ IsShiftedDigit c := nofun
  obtain ⟨-, hletters, -⟩ := codes_name_one_key_iff (.character 'q')
  obtain ⟨hfunction, -⟩ := codes_name_one_key_iff (.named (.function 25))
  obtain ⟨-, -, hdigits⟩ := codes_name_one_key_iff (.character '%')
  have hfive : ⟨'5', '%', 0x35, "Digit5"⟩ ∈ PrintingKey.digits := by decide +kernel
  exact ⟨⟨hsame, hcode, (hletters 'q' 'Q' rfl hsame hcode).mpr hplain⟩,
    ⟨hnamed, hfunction.mpr hnamed⟩, hfive, hdigits _ hfive rfl⟩

/-- **The exclamation mark has the virtual code of the key of 1, and no physical name.**  So a code
does not always come with a name, nor one code with one name. -/
theorem shifted_digit_without_name :
    (virtualCode (.character '!') false = 0x31 ∧ domCode (.character '!') .standard false = "") ∧
    (virtualCode (.character '1') false = 0x31 ∧
      domCode (.character '1') .standard false = "Digit1") ∧
    ¬ (∀ key : Key, virtualCode key false ≠ 0 ↔ domCode key .standard false ≠ "") ∧
    ¬ ∀ c d : Char, virtualCode (.character c) false = virtualCode (.character d) false →
      virtualCode (.character c) false ≠ 0 →
      domCode (.character c) .standard false = domCode (.character d) .standard false := by
  refine ⟨by decide, by decide, fun hall => ?_, fun hall => ?_⟩
  · exact absurd ((hall (.character '!')).mp (by decide)) (by decide)
  · exact absurd (hall '!' '1' (by decide) (by decide)) (by decide)

end ViewInput.Keyboard
