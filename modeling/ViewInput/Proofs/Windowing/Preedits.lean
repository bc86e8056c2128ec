import ViewInput.Proofs.Composition.Attributes
import ViewInput.Windowing

/-!
# Carets in bytes

A windowing system places the caret of composed text by offsets in bytes, and the engine counts
characters.  On the way there the offsets become words, the words become attributes, and the
attributes are resolved over the text again.  **Nothing is lost**: the engine is told the characters
between the offsets, with the caret behind the second (`preedit_keeps_caret`).

Counting walks over the text with a position in bytes.  What it finds is a prefix of the text by its
size in bytes (`characterOffset_eq`), which is where characters of several bytes come in.
-/

namespace ViewInput.Windowing

open ViewInput.Composition (TextSpan nearest between underlined? caret? selection? resolve gathered)

/-! ## Bytes and characters -/

/-- The bytes that some characters take. -/
def bytes : List Char → Nat
  | [] => 0
  | c :: cs => c.utf8Size + bytes cs

lemma utf8ByteSize_ofList (cs : List Char) : (String.ofList cs).utf8ByteSize = bytes cs := by
  induction cs with
  | nil => rfl
  | cons c cs ih =>
      have hsplit : String.ofList (c :: cs) = String.singleton c ++ String.ofList cs := by
        rw [String.singleton_eq_ofList, ← String.ofList_append, List.singleton_append]
      rw [hsplit, String.utf8ByteSize_append, String.utf8ByteSize_singleton, ih, bytes]

lemma bytes_toList (text : String) : bytes text.toList = text.utf8ByteSize := by
  rw [← utf8ByteSize_ofList, String.ofList_toList]

/-- Counting stops where the characters before take the bytes of the offset. -/
lemma charactersBefore?_append (before after : List Char) (position : Nat) :
    charactersBefore? (position + bytes before) position (before ++ after)
      = some before.length := by
  induction before generalizing position with
  | nil => cases after <;> simp [charactersBefore?, bytes]
  | cons c before ih =>
      have hsize := c.utf8Size_pos
      have hoffset : position + bytes (c :: before) = position + c.utf8Size + bytes before := by
        rw [bytes, Nat.add_assoc]
      have hbehind : position ≠ position + c.utf8Size + bytes before := by omega
      have hbefore : ¬ position + c.utf8Size + bytes before < position := by omega
      rw [hoffset, List.cons_append, charactersBefore?, if_neg hbehind, if_neg hbefore, ih]
      rfl

/-- Counting finds no offset beyond the text. -/
lemma charactersBefore?_beyond (cs : List Char) {offset position : Nat}
    (h : position + bytes cs < offset) : charactersBefore? offset position cs = none := by
  induction cs generalizing position with
  | nil =>
      have hne : position ≠ offset := by simp [bytes] at h; omega
      rw [charactersBefore?, if_neg hne]
  | cons c cs ih =>
      rw [bytes] at h
      have hne : position ≠ offset := by omega
      have hbefore : ¬ offset < position := by omega
      rw [charactersBefore?, if_neg hne, if_neg hbefore, ih (by omega)]
      rfl

/-- **An offset in bytes stands behind `n` characters of a text**: before it is a part of the text
with that many characters and that many bytes.  An offset beyond the text stands at its end. -/
def StandsBehind (text : String) (offset n : Nat) : Prop :=
  ∃ before after, text = before ++ after ∧ before.utf8ByteSize = min offset text.utf8ByteSize ∧
    before.length = n

/-- Whether an offset in bytes stands between two characters, at an end of the text, or beyond. -/
def OnBoundary (text : String) (offset : Nat) : Prop :=
  String.Pos.Raw.IsValid text ⟨offset⟩ ∨ text.utf8ByteSize < offset

variable {text : String} {offset n : Nat}

lemma exists_standsBehind (h : OnBoundary text offset) : ∃ n, StandsBehind text offset n := by
  rcases h with hvalid | hbeyond
  · obtain ⟨before, after, rfl, hbefore⟩ := String.Pos.Raw.isValid_iff_exists_append.mp hvalid
    have hsize : before.utf8ByteSize = offset := (congrArg String.Pos.Raw.byteIdx hbefore).symm
    refine ⟨before.length, before, after, rfl, ?_, rfl⟩
    rw [String.utf8ByteSize_append]
    omega
  · exact ⟨text.length, text, "", String.append_empty.symm, by omega, rfl⟩

/-- **Counting is right** wherever the offset stands between characters. -/
lemma characterOffset_eq (h : StandsBehind text offset n) : characterOffset text offset = n := by
  obtain ⟨before, after, rfl, hbytes, rfl⟩ := h
  rw [characterOffset]
  rcases Nat.lt_or_ge (before ++ after).utf8ByteSize offset with hbeyond | hinside
  · have hnone : charactersBefore? offset 0 (before ++ after).toList = none :=
      charactersBefore?_beyond _ (by rw [Nat.zero_add, bytes_toList]; exact hbeyond)
    have hafter : after = "" := by
      rw [String.utf8ByteSize_append] at hbytes hbeyond
      exact String.utf8ByteSize_eq_zero_iff.mp (by omega)
    rw [hnone, Option.getD_none, hafter, String.append_empty]
  · have hoffset : offset = 0 + bytes before.toList := by
      rw [bytes_toList]
      omega
    rw [hoffset, String.toList_append, charactersBefore?_append, Option.getD_some,
      String.length_toList]

lemma StandsBehind.le_length (h : StandsBehind text offset n) : n ≤ text.length := by
  obtain ⟨before, after, rfl, -, rfl⟩ := h
  rw [String.length_append]
  omega

/-! ## Offsets as words -/

lemma toInt_word (h : (n : Int) ≤ Int32.maxValue.toInt) : (word n).toInt = n := by
  have hmax : Int32.maxValue.toInt = 2147483647 := by decide
  rw [word, Int32.toInt_ofInt_of_le] <;> omega

/-- The characters before the two offsets of a caret.  A caret that is not shown stands behind the
text. -/
def Marks (text : String) : Option (Nat × Nat) → Nat → Nat → Prop
  | none, m, n => m = text.length ∧ n = text.length
  | some (first, last), m, n => StandsBehind text first m ∧ StandsBehind text last n

section Marks

variable {caret : Option (Nat × Nat)} {m : Nat}

lemma exists_marks
    (h : ∀ offsets ∈ caret, OnBoundary text offsets.1 ∧ OnBoundary text offsets.2) :
    ∃ m n, Marks text caret m n := by
  cases caret with
  | none => exact ⟨_, _, rfl, rfl⟩
  | some offsets =>
      obtain ⟨hfirst, hlast⟩ := h offsets rfl
      obtain ⟨m, hm⟩ := exists_standsBehind hfirst
      obtain ⟨n, hn⟩ := exists_standsBehind hlast
      exact ⟨m, n, hm, hn⟩

lemma Marks.le_length (h : Marks text caret m n) : m ≤ text.length ∧ n ≤ text.length := by
  cases caret with
  | none => exact ⟨h.1.le, h.2.le⟩
  | some offsets => exact ⟨h.1.le_length, h.2.le_length⟩

/-- The event that a report becomes, by the characters before its offsets. -/
lemma preeditEvent_eq (htext : text ≠ "") (hlength : (text.length : Int) ≤ Int32.maxValue.toInt)
    (h : Marks text caret m n) :
    preeditEvent text caret =
      { preedit := text
        attributes := .underline 0 (word text.length) none false
          :: (if m < n then [.underline (word m) (word n - word m) none true] else [])
          ++ [.caret (word n)] } := by
  have hle := h.le_length
  cases caret with
  | none =>
      obtain ⟨rfl, rfl⟩ := h
      simp [preeditEvent, htext]
  | some offsets =>
      obtain ⟨first, last⟩ := offsets
      have hlt : word m < word n ↔ m < n := by
        rw [Int32.lt_iff_toInt_lt, toInt_word (by omega), toInt_word (by omega)]
        omega
      simp only [preeditEvent, String.isEmpty_iff, htext, if_false, characterOffset_eq h.1,
        characterOffset_eq h.2, hlt]

/-! ## What the engine is told -/

/-- The parts of composed text that are underlined: all of it, and the characters between two
offsets once more. -/
def spansBetween (text : String) (m n : Nat) : List TextSpan :=
  { range := ⟨0, text.length⟩, color := none, thick := false }
    :: if m < n then [{ range := ⟨m, n⟩, color := none, thick := true }] else []

lemma nearest_eq_self {length : Nat} (h : n ≤ length) : nearest length n = n := by
  unfold nearest
  omega

/-- A part that lies in the text is underlined as it is. -/
lemma underlined?_eq {length : Nat} {start count : Int32} {color : Option Nat} {thick : Bool}
    (hstart : start.toInt = m) (hstop : start.toInt + count.toInt = n) (hle : m ≤ n)
    (h : n ≤ length) :
    underlined? length (.underline start count color thick)
      = some { range := ⟨m, n⟩, color := color, thick := thick } := by
  have hmin : min (m : Int) n = m := by omega
  have hmax : max (m : Int) n = n := by omega
  rw [underlined?, between, hstop, hstart, hmin, hmax, nearest_eq_self (hle.trans h),
    nearest_eq_self h]

/-- The length of what lies between two offsets is a word if they are. -/
lemma toInt_word_sub (hlt : m < n) (h : (n : Int) ≤ Int32.maxValue.toInt) :
    (word m).toInt + (word n - word m).toInt = n := by
  have hm := toInt_word (n := m) (by omega)
  have hn := toInt_word h
  have hsub : (word n - word m).toInt = (word n).toInt - (word m).toInt :=
    Int32.toInt_sub_of_le _ _ (Int32.le_iff_toInt_le.mpr (by rw [hm]; exact Int.natCast_nonneg m))
      (Int32.le_iff_toInt_le.mpr (by omega))
  omega

/-- **Nothing is clamped** when the event is resolved. -/
lemma resolve_preeditEvent (htext : text ≠ "")
    (hlength : (text.length : Int) ≤ Int32.maxValue.toInt) (h : Marks text caret m n) :
    resolve (preeditEvent text caret) text.length
      = { spans := spansBetween text m n, cursor := some n, selection := none } := by
  obtain ⟨hm, hn⟩ := h.le_length
  have hcaret : nearest text.length (word n).toInt = n := by
    rw [toInt_word (by omega), nearest_eq_self hn]
  have hwhole : underlined? text.length (.underline 0 (word text.length) none false)
      = some { range := ⟨0, text.length⟩, color := none, thick := false } :=
    underlined?_eq Int32.toInt_zero (by rw [Int32.toInt_zero, Int.zero_add, toInt_word hlength])
      (Nat.zero_le _) le_rfl
  have hbehind : underlined? text.length (.caret (word n)) = none := rfl
  rw [Composition.resolve_eq_gathered hlength, preeditEvent_eq htext hlength h]
  by_cases hlt : m < n
  · have hpart : underlined? text.length (.underline (word m) (word n - word m) none true)
        = some { range := ⟨m, n⟩, color := none, thick := true } :=
      underlined?_eq (toInt_word (by omega)) (toInt_word_sub hlt (by omega)) hlt.le hn
    simp [gathered, spansBetween, hlt, hwhole, hpart, hbehind, caret?, selection?, htext, hcaret]
  · simp [gathered, spansBetween, hlt, hwhole, hbehind, caret?, selection?, htext, hcaret]

end Marks

/-- An event that composes text and places the caret, and neither commits, replaces nor selects
anything, sets the composition and does nothing else. -/
lemma receive_preedit (c : Composition) (context : TextContext) {event : Device.InputMethodEvent}
    {spans : List TextSpan} (hpreedit : event.preedit ≠ "") (hcommit : event.commit = "")
    (hreplaced : event.replacementLength = 0)
    (hresolve : resolve event event.preedit.length
      = { spans := spans, cursor := some n, selection := none }) :
    c.receive event context
      = ({ phase := .composing, preedit := event.preedit, cursor := n, selection := .collapsed n
           spans := spans },
         [.setComposition event.preedit spans none (.collapsed n)]) := by
  have hlength : 0 < event.preedit.length := by
    rw [← String.length_toList, List.length_pos_iff]
    simpa using hpreedit
  have hnone : Composition.replacedRange event context.cursor context.surroundingLength = none := by
    simp [Composition.replacedRange, hreplaced]
  have hempty : event.isEmpty = false := by simp [Device.InputMethodEvent.isEmpty, hpreedit]
  simp [Composition.receive, Composition.receiveCommit, Composition.receivePreedit, hlength, hnone,
    hempty, hresolve, hpreedit, hcommit, hreplaced]

/-- **What a windowing system composes keeps its caret.**  Let a report have some text that a word
can measure, and a caret that is not shown, or that stands by two offsets in bytes, each of them
between two characters, at an end of the text, or beyond it.  Then there is an event for the report,
and there are the characters before the two offsets.  Whatever the composition is, and whatever the
text around the caret, the engine is told to set the composition, and nothing else.  It gets the
text, which replaces nothing; the whole of it is underlined, and if the second offset stands behind
the first, so are the characters between them, with a thick line; and the caret stands behind the
characters before the second offset.  The composition remembers just that. -/
theorem preedit_keeps_caret {text : String} {caret : Option (Nat × Nat)} (htext : text ≠ "")
    (hlength : (text.length : Int) ≤ Int32.maxValue.toInt)
    (hcaret : ∀ offsets ∈ caret, OnBoundary text offsets.1 ∧ OnBoundary text offsets.2) :
    ∃ event m n, inputMethod? (.preedit text caret) = some event ∧ Marks text caret m n ∧
      ∀ (c : Composition) (context : TextContext),
        c.receive event context
          = ({ phase := .composing, preedit := text, cursor := n, selection := .collapsed n
               spans := spansBetween text m n },
             [.setComposition text (spansBetween text m n) none (.collapsed n)]) := by
  obtain ⟨m, n, hmarks⟩ := exists_marks hcaret
  have hevent := preeditEvent_eq htext hlength hmarks
  have hpreedit : (preeditEvent text caret).preedit = text := by rw [hevent]
  have hresolve : resolve (preeditEvent text caret) (preeditEvent text caret).preedit.length
      = { spans := spansBetween text m n, cursor := some n, selection := none } := by
    rw [hpreedit]
    exact resolve_preeditEvent htext hlength hmarks
  refine ⟨preeditEvent text caret, m, n, rfl, hmarks, fun c context => ?_⟩
  rw [receive_preedit c context (by rwa [hpreedit]) (by rw [hevent]) (by rw [hevent]) hresolve,
    hpreedit]

/-- Two characters of three bytes each, and a caret from behind the first to beyond the text. -/
theorem preedit_keeps_caret_kana :
    ("にほ" ≠ "" ∧ ("にほ".length : Int) ≤ Int32.maxValue.toInt ∧
      ∀ offsets ∈ some (3, 7), OnBoundary "にほ" offsets.1 ∧ OnBoundary "にほ" offsets.2) ∧
    ∃ event, inputMethod? (.preedit "にほ" (some (3, 7))) = some event ∧
      Marks "にほ" (some (3, 7)) 1 2 ∧
      (({} : Composition).receive event {}).2
        = [.setComposition "にほ" [⟨⟨0, 2⟩, none, false⟩, ⟨⟨1, 2⟩, none, true⟩] none
          (.collapsed 2)] := by
  have htext : "にほ" ≠ "" := by decide
  have hlength : ("にほ".length : Int) ≤ Int32.maxValue.toInt := by decide
  have hcaret : ∀ offsets ∈ some (3, 7),
      OnBoundary "にほ" offsets.1 ∧ OnBoundary "にほ" offsets.2 := by
    rintro offsets ⟨⟩
    have hfirst : String.Pos.Raw.IsValid "にほ" ⟨3⟩ :=
      String.Pos.Raw.isValid_iff_exists_append.mpr ⟨"に", "ほ", by decide, by decide⟩
    exact ⟨.inl hfirst, .inr (by decide)⟩
  obtain ⟨event, m, n, hevent, hmarks, htold⟩ := preedit_keeps_caret htext hlength hcaret
  obtain rfl : 1 = m := (by decide : 1 = characterOffset "にほ" 3).trans (characterOffset_eq hmarks.1)
  obtain rfl : 2 = n := (by decide : 2 = characterOffset "にほ" 7).trans (characterOffset_eq hmarks.2)
  refine ⟨⟨htext, hlength, hcaret⟩, event, hevent, hmarks, ?_⟩
  rw [htold]
  decide

end ViewInput.Windowing
