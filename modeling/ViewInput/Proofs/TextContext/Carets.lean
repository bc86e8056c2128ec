import ViewInput.Proofs.TextContext.Composing

/-!
# The caret and the text around it

An input method asks for the text around the caret and for the caret.  The text is that of the field
without what is being composed, but **the caret is an offset in the whole field**, in which composed
characters count (`caret_counts_composed`).  The two answers go together as long as nothing that is
composed stands before the caret.  Else the answer for the caret is too great by the composed
characters before it, and may lie behind the text (`caret_behind_text`).
-/

namespace ViewInput

/-! ## A text without an interval -/

/-- What remains of the beginning of a text is the beginning of what remains. -/
lemma withoutRange_append (first second : String) (range : TextRange) :
    ∃ rest, withoutRange (first ++ second) range = withoutRange first range ++ rest := by
  refine ⟨String.ofList (((second.toList.zipIdx first.toList.length).filter
    fun entry => !range.contains entry.2).map (·.1)), ?_⟩
  rw [withoutRange, String.toList_append, List.zipIdx_append, List.filter_append, List.map_append,
    String.ofList_append, Nat.zero_add]
  rfl

/-- What an interval takes away from a text. -/
lemma length_withoutRange (value : String) {range : TextRange} (h : range.start ≤ range.stop) :
    (withoutRange value range).length + (min value.length range.stop - range.start)
      = value.length := by
  rw [withoutRange_eq, String.length_ofList, List.length_append, List.length_take, List.length_drop,
    String.length_toList]
  omega

namespace TextFieldState

/-- **What the engine says of a field is consistent**: what is composed and what is selected are
intervals of its value, and the value fits into memory. -/
structure Consistent (f : TextFieldState) : Prop where
  composition : ∀ range ∈ f.composition, range.start ≤ range.stop ∧ range.stop ≤ f.value.length
  selection : f.selection.start ≤ f.selection.stop ∧ f.selection.stop ≤ f.value.length
  fits : (f.value.length : Int) ≤ Int64.maxValue.toInt

/-- The value without what is composed. -/
def around (f : TextFieldState) : String :=
  match f.composition with
  | some range => withoutRange f.value range
  | none => f.value

/-- The part of it that stands before the caret. -/
def aroundBefore (f : TextFieldState) : String :=
  { f with value := String.ofList (f.value.toList.take f.selection.start) }.around

/-- How many composed characters stand before the caret. -/
def composedBefore (f : TextFieldState) : Nat :=
  match f.composition with
  | some range => min f.selection.start range.stop - range.start
  | none => 0

variable {f : TextFieldState}

lemma exists_around_eq (f : TextFieldState) : ∃ rest, f.around = f.aroundBefore ++ rest := by
  have hvalue : f.value = String.ofList (f.value.toList.take f.selection.start)
      ++ String.ofList (f.value.toList.drop f.selection.start) := by
    rw [← String.ofList_append, List.take_append_drop, String.ofList_toList]
  unfold aroundBefore around
  cases f.composition with
  | none => exact ⟨_, hvalue⟩
  | some range =>
      obtain ⟨rest, hrest⟩ := withoutRange_append
        (String.ofList (f.value.toList.take f.selection.start))
        (String.ofList (f.value.toList.drop f.selection.start)) range
      exact ⟨rest, (congrArg (withoutRange · range) hvalue).trans hrest⟩

/-- A caret in the value is answered as it is. -/
lemma Consistent.signedOffset_caret (h : f.Consistent) :
    signedOffset f.selection.start = f.selection.start := by
  have hle := h.selection
  have hfits := h.fits
  have hmax : Int64.maxValue.toInt < UInt64.size := by decide
  rw [signedOffset_eq (by omega), if_pos (by omega)]

/-- **The caret counts what is composed before it.** -/
lemma Consistent.caret_eq (h : f.Consistent) :
    f.selection.start = f.aroundBefore.length + f.composedBefore := by
  have hcaret : (String.ofList (f.value.toList.take f.selection.start)).length
      = f.selection.start := by
    have hle := h.selection
    rw [String.length_ofList, List.length_take, String.length_toList]
    omega
  have hcomposition := h.composition
  unfold aroundBefore around composedBefore
  cases hcase : f.composition with
  | none => exact hcaret.symm
  | some range =>
      have hlength := length_withoutRange
        (String.ofList (f.value.toList.take f.selection.start)) (hcomposition range hcase).1
      rw [hcaret] at hlength
      exact hlength.symm

/-- Nothing composed stands before the caret. -/
lemma Consistent.composedBefore_eq_zero_iff (h : f.Consistent) :
    f.composedBefore = 0 ↔
      ∀ range ∈ f.composition, range.start = range.stop ∨ f.selection.start ≤ range.start := by
  have hcomposition := h.composition
  unfold composedBefore
  cases hcase : f.composition with
  | none => simp
  | some range =>
      have hle := (hcomposition range hcase).1
      simp only [Option.mem_def, Option.some.injEq, forall_eq']
      omega

end TextFieldState

namespace TextContext

variable {c : TextContext} {source : TextSource} {field : TextFieldState}

/-! ## What is copied -/

lemma copyField_eq (c : TextContext) (field : TextFieldState) :
    c.copyField field = { c with surrounding := field.around } := by
  unfold copyField TextFieldState.around
  cases field.composition <;> rfl

lemma selectionChanged_surrounding (c : TextContext) (source : TextSource) :
    (c.selectionChanged source).1.surrounding = c.surrounding := by
  unfold selectionChanged selectionChangedOutside caretChanged rangeChanged
  grind [forgetNotifications]

/-- Without selected text the caret is where the field has it. -/
lemma selectionChanged_cursor (hcaret : source.selectedText = "")
    (hfield : source.field = some field) (hcursor : c.cursor = field.selection.start) :
    (c.selectionChanged source).1.cursor = field.selection.start := by
  have hempty : source.selectedText.isEmpty = true := by simp [hcaret]
  simp only [selectionChanged, selectionChangedOutside, caretChanged, forgetNotifications, hempty,
    hfield, if_true, Option.map_some, Option.getD_some]
  split
  · split <;> exact hcursor
  · rfl

/-- **What a notification of the field copies**, whatever was noted before. -/
lemma hear_field_copies (c : TextContext) (hcaret : source.selectedText = "")
    (hfield : source.field = some field) :
    (c.hear source .field).1.surrounding = field.around ∧
      (c.hear source .field).1.cursor = field.selection.start := by
  have hempty : source.selectedText.isEmpty = true := by simp [hcaret]
  simp only [hear, fieldUpdated, hfield, hempty, if_true, copyField_eq]
  split
  · exact ⟨rfl, rfl⟩
  · split
    · exact ⟨rfl, rfl⟩
    · split
      · exact ⟨selectionChanged_surrounding _ source, selectionChanged_cursor hcaret hfield rfl⟩
      · exact ⟨rfl, rfl⟩

/-! ## The two answers -/

/-- **The caret counts what is composed.**  Whatever was notified, composed or forgotten before, let
the content of a field be notified while no text is selected, and let what the engine says of the
field be consistent.  Then the answer for the text around the caret is the value without what is
composed.  It begins with the part before the caret, and the answer for the caret is the length of
that part and the composed characters before the caret: the caret as the engine has it, an offset in
the value.  So it is the position in the text exactly if nothing composed stands before the caret,
and it lies in the text exactly if at least as many characters of the text stand behind the caret as
composed characters before it.  A notification without a field leaves both answers as they were. -/
theorem caret_counts_composed (c : TextContext) (source : TextSource)
    (hcaret : source.selectedText = "") :
    let after := (c.hear source .field).1
    (∀ field, source.field = some field → field.Consistent → ∃ rest,
      field.around = field.aroundBefore ++ rest ∧
      after.answer source .surroundingText = .text field.around ∧
      after.answer source .cursorPosition = .int field.selection.start ∧
      field.selection.start = field.aroundBefore.length + field.composedBefore ∧
      (after.answer source .cursorPosition = .int field.aroundBefore.length ↔
        ∀ range ∈ field.composition, range.start = range.stop ∨
          field.selection.start ≤ range.start) ∧
      (field.selection.start ≤ field.around.length ↔ field.composedBefore ≤ rest.length)) ∧
    (source.field = none → ∀ query, after.answer source query = c.answer source query) := by
  intro after
  refine ⟨fun field hfield hconsistent => ?_, fun hnone query => ?_⟩
  · obtain ⟨hsurrounding, hcursor⟩ := hear_field_copies c hcaret hfield
    obtain ⟨rest, hrest⟩ := field.exists_around_eq
    have hposition := hconsistent.caret_eq
    have hlength : field.around.length = field.aroundBefore.length + rest.length := by
      rw [hrest, String.length_append]
    have hanswer : after.answer source .cursorPosition = .int field.selection.start := by
      rw [answer, hcursor, hconsistent.signedOffset_caret]
    refine ⟨rest, hrest, congrArg TextAnswer.text hsurrounding, hanswer, hposition, ?_, ?_⟩
    · rw [hanswer, ← hconsistent.composedBefore_eq_zero_iff, TextAnswer.int.injEq]
      omega
    · omega
  · have hsame : after = c := by simp [after, hear, fieldUpdated, hnone]
    rw [hsame]

/-- The end of a text is composed, and the caret stands somewhere in it. -/
def composedEnd (caret : Nat) : TextSource where
  field := some
    { kind := .text, value := "héllo wor", composition := some ⟨6, 9⟩
      selection := .collapsed caret }

lemma consistent_composedEnd {caret : Nat} (h : caret ≤ 9) :
    ∀ field ∈ (composedEnd caret).field, field.Consistent := by
  have hlength : "héllo wor".length = 9 := by decide
  rintro field ⟨⟩
  have hin : 9 ≤ "héllo wor".length := Nat.le_of_eq hlength.symm
  refine ⟨?_, ⟨Nat.le_refl _, Nat.le_trans h hin⟩, ?_⟩
  · rintro range ⟨⟩
    exact ⟨by decide, hin⟩
  · rw [hlength]
    decide

theorem caret_counts_composed_inside :
    ((composedEnd 7).selectedText = "" ∧
      ∃ field, (composedEnd 7).field = some field ∧ field.Consistent ∧
        field.aroundBefore = "héllo " ∧ field.composedBefore = 1) ∧
    (leftOver.hear (composedEnd 7) .field).1.answer (composedEnd 7) .surroundingText
      = .text "héllo " ∧
    (leftOver.hear (composedEnd 7) .field).1.answer (composedEnd 7) .cursorPosition = .int 7 ∧
    (({} : TextSource).selectedText = "" ∧ ({} : TextSource).field = none ∧
      (leftOver.hear {} .field).1.answer {} .cursorPosition
        = leftOver.answer {} .cursorPosition) := by
  have hcaret : (composedEnd 7).selectedText = "" := rfl
  have hconsistent := consistent_composedEnd (by decide : 7 ≤ 9) _ rfl
  obtain ⟨-, -, htext, hposition, -⟩ :=
    (caret_counts_composed leftOver (composedEnd 7) hcaret).1 _ rfl hconsistent
  have hnone := (caret_counts_composed leftOver {} rfl).2 rfl .cursorPosition
  refine ⟨⟨hcaret, _, rfl, hconsistent, by decide, by decide⟩, htext.trans ?_, hposition, rfl, rfl,
    hnone⟩
  decide

/-- A field with the caret at its end, then one in which all is selected, and then none. -/
def fieldGone : List Call :=
  [.notice .field { field := some { kind := .text, value := "hello", selection := .collapsed 5 } },
   .notice .field
    { field := some { kind := .text, value := "a", selection := ⟨0, 1⟩ }
      selection := some { range := ⟨0, 1⟩, offset := 0, text := "a" } },
   .notice .field {}]

/-- **The caret may lie behind the text around it.**  It does if the end of a text is composed, and
the caret stands behind it: the text around it has six characters, all of them before the caret, and
the answer for the caret is nine.  Without a field it may do so too, since then both answers are
left over, and not from the same notification. -/
theorem caret_behind_text :
    (∃ field, (composedEnd 9).field = some field ∧ field.Consistent ∧
      (composedEnd 9).selection = none ∧ field.aroundBefore = "héllo " ∧ "héllo ".length = 6 ∧
      (({} : TextContext).hear (composedEnd 9) .field).1.answer (composedEnd 9) .surroundingText
        = .text "héllo " ∧
      (({} : TextContext).hear (composedEnd 9) .field).1.answer (composedEnd 9) .cursorPosition
        = .int 9) ∧
    (({} : TextContext).run fieldGone).1.answer {} .surroundingText = .text "a" ∧
    (({} : TextContext).run fieldGone).1.answer {} .cursorPosition = .int 5 := by
  have hconsistent := consistent_composedEnd (Nat.le_refl 9) _ rfl
  exact ⟨⟨_, rfl, hconsistent, rfl, by decide, by decide, by decide, by decide⟩, by decide,
    by decide⟩

end TextContext

end ViewInput
