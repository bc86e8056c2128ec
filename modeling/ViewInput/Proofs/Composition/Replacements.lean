import Mathlib.Data.List.Basic
import ViewInput.Proofs.Composition.Mirror

/-!
# Replaced text

An event may name a part of the text around the caret that it replaces, by a start and a length.
`Names` says in exact integers when it does: the length is positive, and the start lies in the text.
**The start is all that is looked at** (`replacedRange_eq_some_iff`), so the part may go on behind
the end of the text (`replaced_in_text_iff`).

Every event that names a part commits, be it the empty text, and the commit replaces that part.  An
event that composes as well hands the same part on to the composition, although it was named before
the commit changed the text.  So **the part is replaced once exactly if nothing is composed**
(`replaces_once_iff`).
-/

namespace ViewInput.Composition

open Device (InputMethodEvent)

/-! ## The part that an event names -/

/-- Where the part starts that an event names.  A negative start counts back from the caret. -/
def namedStart (event : InputMethodEvent) (cursor : Nat) : Int :=
  if event.replacementStart.toInt < 0 then cursor + event.replacementStart.toInt
  else event.replacementStart.toInt

/-- Where that part stops. -/
def namedStop (event : InputMethodEvent) (cursor : Nat) : Int :=
  namedStart event cursor + event.replacementLength.toInt

/-- **An event names a part of a text** with the caret at some offset. -/
structure Names (event : InputMethodEvent) (cursor length : Nat) : Prop where
  count_pos : 0 < event.replacementLength.toInt
  start_nonneg : 0 ≤ namedStart event cursor
  start_lt : namedStart event cursor < length
  /-- Only a caret that a word with a sign can hold is counted back from. -/
  counted : event.replacementStart.toInt < 0 → (cursor : Int) ≤ Int64.maxValue.toInt

/-- The start as it is computed, with the caret as a word with a sign. -/
def computedStart (event : InputMethodEvent) (cursor : Nat) : Int :=
  if event.replacementStart.toInt < 0 then signedOffset cursor + event.replacementStart.toInt
  else event.replacementStart.toInt

section Named

variable {event : InputMethodEvent} {cursor : Nat}

lemma replacedRange_eq (length : Nat) :
    replacedRange event cursor length
      = if event.replacementLength.toInt ≤ 0 then none
        else if computedStart event cursor < 0 ∨ length ≤ (computedStart event cursor).toNat then
          none
        else some ⟨(computedStart event cursor).toNat,
          (computedStart event cursor).toNat + event.replacementLength.toInt.toNat⟩ :=
  rfl

lemma replacedRange_eq_some_iff_computed {length : Nat} {r : TextRange} :
    replacedRange event cursor length = some r ↔
      0 < event.replacementLength.toInt ∧ 0 ≤ computedStart event cursor
        ∧ computedStart event cursor < length ∧ (r.start : Int) = computedStart event cursor
        ∧ (r.stop : Int) = computedStart event cursor + event.replacementLength.toInt := by
  obtain ⟨start, stop⟩ := r
  rw [replacedRange_eq]
  split
  · simp only [reduceCtorEq, false_iff]
    omega
  · split
    · simp only [reduceCtorEq, false_iff]
      omega
    · simp only [Option.some.injEq, TextRange.mk.injEq]
      omega

section Word

variable (hword : cursor < UInt64.size)

include hword

lemma computedStart_eq_namedStart
    (hcounted : event.replacementStart.toInt < 0 → (cursor : Int) ≤ Int64.maxValue.toInt) :
    computedStart event cursor = namedStart event cursor := by
  unfold computedStart namedStart
  split
  · rename_i hback
    rw [signedOffset_eq hword, if_pos (hcounted hback)]
  · rfl

/-- A caret that comes out negative makes the start negative. -/
lemma counted_of_computedStart_nonneg (hstart : 0 ≤ computedStart event cursor)
    (hback : event.replacementStart.toInt < 0) : (cursor : Int) ≤ Int64.maxValue.toInt := by
  by_contra hgreat
  rw [computedStart, if_pos hback, signedOffset_eq hword, if_neg hgreat] at hstart
  omega

/-- **The range of an event is the part that it names.** -/
lemma replacedRange_eq_some_iff {length : Nat} {r : TextRange} :
    replacedRange event cursor length = some r ↔
      Names event cursor length ∧ (r.start : Int) = namedStart event cursor
        ∧ (r.stop : Int) = namedStop event cursor := by
  rw [replacedRange_eq_some_iff_computed]
  constructor
  · rintro ⟨hcount, hnonneg, hlt, hstart, hstop⟩
    have hcounted := counted_of_computedStart_nonneg hword hnonneg
    rw [computedStart_eq_namedStart hword hcounted] at hnonneg hlt hstart hstop
    exact ⟨⟨hcount, hnonneg, hlt, hcounted⟩, hstart, hstop⟩
  · rintro ⟨hnames, hstart, hstop⟩
    rw [computedStart_eq_namedStart hword hnames.counted]
    exact ⟨hnames.count_pos, hnames.start_nonneg, hnames.start_lt, hstart, hstop⟩

lemma exists_replacedRange_of_names {length : Nat} (h : Names event cursor length) :
    ∃ r, replacedRange event cursor length = some r := by
  have hstart := h.start_nonneg
  have hcount := h.count_pos
  have hstop : 0 ≤ namedStop event cursor := by
    unfold namedStop
    omega
  exact ⟨⟨(namedStart event cursor).toNat, (namedStop event cursor).toNat⟩,
    (replacedRange_eq_some_iff hword).mpr
      ⟨h, Int.toNat_of_nonneg hstart, Int.toNat_of_nonneg hstop⟩⟩

end Word

/-- An event that does not commit names nothing. -/
lemma replacedRange_of_not_commits (h : commits event = false) (cursor length : Nat) :
    replacedRange event cursor length = none := by
  have hcount : event.replacementLength.toInt ≤ 0 := by
    simp only [commits, Bool.or_eq_false_iff, decide_eq_false_iff_not, Int.not_lt] at h
    exact h.2
  exact if_pos hcount

end Named

/-! ## The parts that are replaced -/

/-- The part of the text around the caret that a call replaces. -/
def Action.replaced? : Action → Option TextRange
  | .setComposition _ _ replaced _ | .commitText _ _ replaced _ => replaced
  | .cancelComposition | .selectInEditor _ | .askCommit | .askReset | .repost _ => none

/-- **The parts that calls replace**, one after another. -/
def replacements (told : List Action) : List TextRange := told.filterMap Action.replaced?

section Told

variable (c : Composition) (event : InputMethodEvent)

lemma replacements_append (first second : List Action) :
    replacements (first ++ second) = replacements first ++ replacements second :=
  List.filterMap_append

lemma replacements_select (explicit : Option TextRange) :
    replacements (explicit.toList.map .selectInEditor) = [] :=
  filterMap_select (fun _ => rfl) explicit

lemma replacements_receiveEmpty (hasSelection : Bool) :
    replacements (c.receiveEmpty event hasSelection).2 = [] :=
  filterMap_receiveEmpty c event rfl rfl hasSelection

/-- **The commit of an event replaces what the event names.** -/
lemma replacements_receiveCommit (resolved : Resolved) (cursor length : Nat) :
    replacements (c.receiveCommit event resolved (replacedRange event cursor length)).2
      = (replacedRange event cursor length).toList := by
  cases hcommits : commits event with
  | true =>
      rw [receiveCommit_of_commits c event hcommits]
      cases replacedRange event cursor length <;> rfl
  | false =>
      rw [receiveCommit_of_not_commits c event hcommits,
        replacedRange_of_not_commits hcommits cursor length]
      rfl

/-- The composition of an event replaces it once more. -/
lemma replacements_receivePreedit (resolved : Resolved) (selection : TextRange)
    (replaced : Option TextRange) :
    replacements (c.receivePreedit event resolved selection replaced).2
      = if event.preedit.isEmpty then [] else replaced.toList := by
  unfold receivePreedit
  split
  · rfl
  · cases replaced <;> rfl

/-- **What an event replaces**: the part that it names, and once more if it composes. -/
lemma replacements_receive (context : TextContext) :
    let replaced := replacedRange event context.cursor context.surroundingLength
    replacements (c.receive event context).2
      = replaced.toList ++ if event.preedit.isEmpty then [] else replaced.toList := by
  intro replaced
  rw [receive_told, replacements_append, replacements_select, List.nil_append]
  split
  · rename_i hempty
    have hnone : replaced = none :=
      replacedRange_of_not_commits (commits_of_isEmpty event hempty) _ _
    rw [replacements_receiveEmpty, hnone]
    cases event.preedit.isEmpty <;> rfl
  · rw [replacements_append, replacements_receiveCommit, replacements_receivePreedit]

end Told

/-! ## How often it is replaced -/

/-- An event with composed text that names a part tells of it twice. -/
lemma exists_told_twice (c : Composition) {event : InputMethodEvent} {context : TextContext}
    (hpreedit : event.preedit ≠ "") {r : TextRange}
    (hr : replacedRange event context.cursor context.surroundingLength = some r) :
    ∃ before spans selection, (c.receive event context).2
        = before ++ [.commitText event.commit spans (some r) 0,
          .setComposition event.preedit spans (some r) selection] ∧
      replacements before = [] := by
  have hcommits : commits event = true := by
    cases hcommits : commits event with
    | true => rfl
    | false =>
        rw [replacedRange_of_not_commits hcommits] at hr
        cases hr
  have hempty : event.isEmpty = false := by
    simp [InputMethodEvent.isEmpty, hpreedit]
  have hcomposes : event.preedit.isEmpty = false := by
    simpa using hpreedit
  rw [receive_told, hr, hempty, receiveCommit_of_commits c event hcommits]
  simp only [receivePreedit, hcomposes, Bool.false_eq_true, if_false, List.singleton_append]
  exact ⟨_, _, _, rfl, replacements_select _⟩

/-- **The part that an event names is replaced once exactly if nothing is composed.**  Whatever the
composition is, and whatever the text around the caret: an event that composes nothing replaces the
part that it names once, and no more than one call replaces anything unless an event with composed
text names a part.  Such an event ends with two calls.  The commit replaces the part, and the
composition that follows it replaces the same offsets of a text that has changed by then. -/
theorem replaces_once_iff (c : Composition) (event : InputMethodEvent) (context : TextContext) :
    let told := (c.receive event context).2
    let replaced := replacedRange event context.cursor context.surroundingLength
    ((replacements told).length ≤ 1 ↔ event.preedit = "" ∨ replaced = none) ∧
    (event.preedit = "" → replacements told = replaced.toList) ∧
    (∀ r, event.preedit ≠ "" → replaced = some r → ∃ before spans selection,
      told = before ++ [.commitText event.commit spans (some r) 0,
        .setComposition event.preedit spans (some r) selection] ∧ replacements before = []) := by
  intro told replaced
  have hall : replacements told
      = replaced.toList ++ if event.preedit.isEmpty then [] else replaced.toList :=
    replacements_receive c event context
  refine ⟨?_, fun hpreedit => ?_, fun r hpreedit hr => ?_⟩
  · rw [hall]
    by_cases hpreedit : event.preedit = ""
    · cases replaced <;> simp [hpreedit]
    · cases replaced <;> simp [hpreedit]
  · rw [hall, hpreedit]
    exact List.append_nil _
  · exact exists_told_twice c hpreedit hr

/-- The text "hello" with the caret behind it. -/
def hello : TextContext := { surrounding := "hello", cursor := 5 }

/-- The last letter is to be replaced, and the next one is already being composed. -/
def correction : InputMethodEvent :=
  { commit := "a", preedit := "b", replacementStart := -1, replacementLength := 1 }

/-- **A part is replaced twice.**  The letter that the commit put in the place of the last one is
replaced again, by the composition. -/
theorem correction_replaces_twice :
    (idle.receive correction hello).2
        = [.commitText "a" [] (some ⟨4, 5⟩) 0,
          .setComposition "b" [] (some ⟨4, 5⟩) (.collapsed 1)] ∧
      ¬ (replacements (idle.receive correction hello).2).length ≤ 1 := by
  decide

/-! ## Where it lies -/

lemma mem_replacements_receive {c : Composition} {event : InputMethodEvent} {context : TextContext}
    {r : TextRange} : r ∈ replacements (c.receive event context).2 ↔
      replacedRange event context.cursor context.surroundingLength = some r := by
  rw [replacements_receive]
  cases event.preedit.isEmpty <;> simp

/-- **A part that is replaced lies in the text exactly if it stops there.**  Let the caret be a
word.  Then a part is replaced exactly if the event names one, and what is replaced is just that: it
is not empty, and it has the start and the stop that the event names, in exact integers.  The start
lies in the text around the caret.  The stop lies behind it whenever the event names it there. -/
theorem replaced_in_text_iff (c : Composition) (event : InputMethodEvent) (context : TextContext)
    (hword : context.cursor < UInt64.size) :
    let replaced := replacements (c.receive event context).2
    let length := context.surroundingLength
    (∀ r ∈ replaced, r.start < r.stop ∧ r.start < length
      ∧ (r.start : Int) = namedStart event context.cursor
      ∧ (r.stop : Int) = namedStop event context.cursor) ∧
    (replaced ≠ [] ↔ Names event context.cursor length) ∧
    ((∀ r ∈ replaced, r.stop ≤ length) ↔
      ¬ (Names event context.cursor length ∧ (length : Int) < namedStop event context.cursor)) := by
  intro replaced length
  have hmem : ∀ r, r ∈ replaced ↔ Names event context.cursor length
      ∧ (r.start : Int) = namedStart event context.cursor
      ∧ (r.stop : Int) = namedStop event context.cursor := fun r =>
    mem_replacements_receive.trans (replacedRange_eq_some_iff hword)
  have hnames : ∀ h : Names event context.cursor length, ∃ r, r ∈ replaced := fun h =>
    (exists_replacedRange_of_names hword h).imp fun r hr => mem_replacements_receive.mpr hr
  refine ⟨fun r hr => ?_, ⟨fun hsome => ?_, fun h => ?_⟩, fun hin => ?_, fun hnot r hr => ?_⟩
  · obtain ⟨h, hstart, hstop⟩ := (hmem r).mp hr
    have hcount := h.count_pos
    have hlt := h.start_lt
    rw [namedStop] at hstop
    exact ⟨by omega, by omega, hstart, hstop⟩
  · obtain ⟨r, hr⟩ := List.exists_mem_of_ne_nil replaced hsome
    exact ((hmem r).mp hr).1
  · obtain ⟨r, hr⟩ := hnames h
    exact List.ne_nil_of_mem hr
  · rintro ⟨h, hbehind⟩
    obtain ⟨r, hr⟩ := hnames h
    have hstop := ((hmem r).mp hr).2.2
    have hle := hin r hr
    omega
  · obtain ⟨h, -, hstop⟩ := (hmem r).mp hr
    by_contra hbehind
    exact hnot ⟨h, by omega⟩

/-- Three letters are to be replaced from the last one on. -/
def overlong : InputMethodEvent :=
  { commit := "a", replacementStart := -1, replacementLength := 3 }

theorem replaced_in_text_iff_overlong :
    hello.cursor < UInt64.size ∧
    Names overlong hello.cursor hello.surroundingLength ∧
    replacements (idle.receive overlong hello).2 ≠ [] ∧
    (∀ r ∈ replacements (idle.receive overlong hello).2, r.start < r.stop ∧ (r.start : Int) = 4) ∧
    ¬ ∀ r ∈ replacements (idle.receive overlong hello).2, r.stop ≤ hello.surroundingLength := by
  have hword : hello.cursor < UInt64.size := by decide
  have hnames : Names overlong hello.cursor hello.surroundingLength :=
    ⟨by decide, by decide, by decide, fun _ => by decide⟩
  obtain ⟨hexact, hsome, hinside⟩ := replaced_in_text_iff idle overlong hello hword
  refine ⟨hword, hnames, hsome.mpr hnames, fun r hr => ?_, fun hin => ?_⟩
  · exact ⟨(hexact r hr).1, (hexact r hr).2.2.1⟩
  · exact hinside.mp hin ⟨hnames, by decide⟩

/-- **A part is replaced that goes on behind the text**, by two letters. -/
theorem overlong_replaces_behind :
    (idle.receive overlong hello).2 = [.commitText "a" [] (some ⟨4, 7⟩) 0] ∧
      ¬ ∀ r ∈ replacements (idle.receive overlong hello).2, r.stop ≤ hello.surroundingLength := by
  decide

end ViewInput.Composition
