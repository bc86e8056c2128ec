import Mathlib.Data.List.Induction
import Mathlib.Order.MinMax
import ViewInput.Proofs.Composition.Bounds
import ViewInput.Proofs.Composition.Reposts

/-!
# Attributes in exact integers

Attributes give their ends by words with a sign, and the sum of two such words may be none.  It is
then cut off.  **No text that a word can measure is long enough to see that**
(`interval_eq_between`): what was cut off lies outside of it, and is moved into it all the same.

So the attributes of an event are read off at once (`resolve_eq_gathered`).  Underlined parts
accumulate, while of carets and of selections only the last counts (`resolve_exact`).

An explicit selection is the interval that the event names, with one exception.  Without composed
text a selection that runs back to zero is taken for an empty one there, which is how an input
method cancels, although it may have begun anywhere (`selects_what_it_names_iff`).
-/

namespace ViewInput.Composition

open Device (InputMethodEvent TextAttribute)

/-! ## Exact intervals -/

/-- The offset of a text that is nearest to an integer. -/
def nearest (length : Nat) (offset : Int) : Nat := (max 0 (min offset length)).toNat

/-- The part of a text between two integers, in either order. -/
def between (length : Nat) (a b : Int) : TextRange :=
  ⟨nearest length (min a b), nearest length (max a b)⟩

lemma clamp_eq_nearest (length : Nat) (offset : Int) :
    clamp length offset = nearest length offset := by
  unfold clamp nearest
  omega

lemma nearest_mono (length : Nat) {a b : Int} (h : a ≤ b) :
    nearest length a ≤ nearest length b := by
  rw [← clamp_eq_nearest, ← clamp_eq_nearest]
  exact clamp_mono length h

section Words

variable {length : Nat} (hlength : (length : Int) ≤ Int32.maxValue.toInt) (start count : Int32)

include hlength in
/-- What is cut off lies on the same side of the text as the exact sum. -/
lemma nearest_saturatingAdd :
    nearest length (saturatingAdd start count) = nearest length (start.toInt + count.toInt) := by
  have hmin : Int32.minValue.toInt ≤ 0 := by decide
  unfold nearest saturatingAdd
  omega

include hlength in
/-- **The interval of an attribute is the exact one**, moved into the text. -/
lemma interval_eq_between :
    interval length start count = between length start.toInt (start.toInt + count.toInt) := by
  have hmono : Monotone (nearest length) := fun _ _ => nearest_mono length
  simp only [interval, between, clamp_eq_nearest, hmono.map_min, hmono.map_max,
    nearest_saturatingAdd hlength]

lemma saturatingAdd_eq_zero_iff :
    saturatingAdd start count = 0 ↔ start.toInt + count.toInt = 0 := by
  have hmin : Int32.minValue.toInt < 0 := by decide
  have hmax : 0 < Int32.maxValue.toInt := by decide
  unfold saturatingAdd
  omega

/-- What an explicit selection selects.  Without composed text one that runs to zero is empty. -/
def selected (event : InputMethodEvent) (length : Nat) (start count : Int) : TextRange :=
  if event.preedit = "" ∧ start + count = 0 then .collapsed 0
  else between length start (start + count)

include hlength in
lemma explicitSelection_eq_selected (event : InputMethodEvent) :
    explicitSelection event length start count
      = selected event length start.toInt count.toInt := by
  simp only [explicitSelection, selected, String.isEmpty_iff, saturatingAdd_eq_zero_iff,
    interval_eq_between hlength]

end Words

/-! ## All attributes at once -/

/-- The part that an attribute underlines. -/
def underlined? (length : Nat) : TextAttribute → Option TextSpan
  | .underline start count color thick =>
    some { range := between length start.toInt (start.toInt + count.toInt)
           color := color
           thick := thick }
  | .caret _ | .selection _ _ => none

/-- Where an attribute places the caret. -/
def caret? : TextAttribute → Option Int
  | .caret position => some position.toInt
  | .underline _ _ _ _ | .selection _ _ => none

/-- The start and the length of what an attribute selects. -/
def selection? : TextAttribute → Option (Int × Int)
  | .selection start count => some (start.toInt, count.toInt)
  | .underline _ _ _ _ | .caret _ => none

/-- **Attributes that are read off at once**: all underlined parts of composed text, the last caret,
and the last selection. -/
def gathered (event : InputMethodEvent) (length : Nat) (attributes : List TextAttribute) :
    Resolved where
  spans := if event.preedit = "" then [] else attributes.filterMap (underlined? length)
  cursor := (attributes.filterMap caret?).getLast?.map (nearest length)
  selection := (attributes.filterMap selection?).getLast?.map fun s => selected event length s.1 s.2

lemma filterMap_concat {α β : Type} (f : α → Option β) (l : List α) (a : α) :
    (l ++ [a]).filterMap f = l.filterMap f ++ (f a).toList := by
  rw [List.filterMap_append]
  cases hf : f a <;> simp [hf]

lemma gathered_concat {length : Nat} (hlength : (length : Int) ≤ Int32.maxValue.toInt)
    (event : InputMethodEvent) (attributes : List TextAttribute) (a : TextAttribute) :
    gathered event length (attributes ++ [a])
      = (gathered event length attributes).add event length a := by
  simp only [gathered, filterMap_concat]
  cases a with
  | underline start count color thick =>
      by_cases hpreedit : event.preedit = "" <;>
        simp [Resolved.add, underlined?, caret?, selection?, hpreedit, interval_eq_between hlength]
  | caret position =>
      simp [Resolved.add, underlined?, caret?, selection?, clamp_eq_nearest]
  | selection start count =>
      simp [Resolved.add, underlined?, caret?, selection?, explicitSelection_eq_selected hlength]

/-- **Resolving an event reads its attributes off.** -/
lemma resolve_eq_gathered {length : Nat} (hlength : (length : Int) ≤ Int32.maxValue.toInt)
    (event : InputMethodEvent) : resolve event length = gathered event length event.attributes := by
  have hfold : ∀ attributes : List TextAttribute,
      attributes.foldl (Resolved.add event length) {} = gathered event length attributes := by
    intro attributes
    induction attributes using List.reverseRecOn with
    | nil => simp [gathered]
    | append_singleton attributes a ih =>
        rw [List.foldl_concat, ih, gathered_concat hlength]
  exact hfold event.attributes

/-- **Resolving is exact.**  For every event and every text, everything that the event resolves to
lies in the text, with its ends in order.  If a word can measure the text, then nothing is lost to
the arithmetic of words.  The spans are the parts that attributes underline, in their order, each
between its ends in exact integers and moved into the text; without composed text there are none.
The caret is where the last attribute that places it says.  There is a selection exactly if the
event has one, and it is the one of the last attribute that selects. -/
theorem resolve_exact (event : InputMethodEvent) (length : Nat) :
    (resolve event length).Within length ∧
    ((length : Int) ≤ Int32.maxValue.toInt →
      (resolve event length).spans
        = (if event.preedit = "" then []
            else event.attributes.filterMap (underlined? length)) ∧
      (resolve event length).cursor
        = (event.attributes.filterMap caret?).getLast?.map (nearest length) ∧
      ((resolve event length).selection.isSome = true ↔ event.hasSelection = true) ∧
      (resolve event length).selection
        = (event.attributes.filterMap selection?).getLast?.map
            fun s => selected event length s.1 s.2) := by
  refine ⟨resolve_within event length, fun hlength => ?_⟩
  have hresolve := resolve_eq_gathered hlength event
  refine ⟨?_, ?_, ?_, ?_⟩
  · rw [hresolve, gathered]
  · rw [hresolve, gathered]
  · rw [resolve_selection_isSome]
  · rw [hresolve, gathered]

/-- Parts that begin or end as far away as words go, two carets, and two selections. -/
def wild : InputMethodEvent :=
  { preedit := "abc"
    attributes := [.underline 2147483647 1 none true, .selection 0 1, .caret 2,
      .underline 3 (-2147483648) (some 7) false, .caret (-7), .selection (-2147483648) (-1)] }

theorem resolve_exact_wild :
    (resolve wild 3).Within 3 ∧
    ((3 : Nat) : Int) ≤ Int32.maxValue.toInt ∧
    (resolve wild 3).spans = [⟨⟨3, 3⟩, none, true⟩, ⟨⟨0, 3⟩, some 7, false⟩] ∧
    (resolve wild 3).cursor = some 0 ∧
    ((resolve wild 3).selection.isSome = true ∧ wild.hasSelection = true) ∧
    (resolve wild 3).selection = some ⟨0, 0⟩ := by
  have hlength : ((3 : Nat) : Int) ≤ Int32.maxValue.toInt := by decide
  obtain ⟨hwithin, hexact⟩ := resolve_exact wild 3
  obtain ⟨hspans, hcursor, hsome, hselection⟩ := hexact hlength
  have hselects : wild.hasSelection = true := by decide
  exact ⟨hwithin, hlength, hspans, hcursor, ⟨hsome.mpr hselects, hselects⟩, hselection⟩

/-! ## Explicit selections -/

/-- What calls select in the editor. -/
def selections (told : List Action) : List TextRange :=
  told.filterMap fun
    | .selectInEditor range => some range
    | _ => none

section Told

variable (c : Composition) (event : InputMethodEvent)

lemma selections_append (first second : List Action) :
    selections (first ++ second) = selections first ++ selections second :=
  List.filterMap_append

lemma selections_select (explicit : Option TextRange) :
    selections (explicit.toList.map .selectInEditor) = explicit.toList := by
  cases explicit <;> rfl

lemma selections_receiveEmpty (hasSelection : Bool) :
    selections (c.receiveEmpty event hasSelection).2 = [] :=
  filterMap_receiveEmpty c event rfl rfl hasSelection

lemma selections_receiveCommit (resolved : Resolved) (replaced : Option TextRange) :
    selections (c.receiveCommit event resolved replaced).2 = [] :=
  filterMap_receiveCommit c event (fun _ _ _ _ => rfl) resolved replaced

lemma selections_receivePreedit (resolved : Resolved) (selection : TextRange)
    (replaced : Option TextRange) :
    selections (c.receivePreedit event resolved selection replaced).2 = [] :=
  filterMap_receivePreedit c event (fun _ _ _ _ => rfl) resolved selection replaced

/-- **An event selects in the editor what it resolves to**, and nothing else. -/
lemma selections_receive (context : TextContext) :
    selections (c.receive event context).2
      = (resolve event (offsetLimit event context)).selection.toList := by
  rw [receive_told, selections_append, selections_select]
  split
  · rw [selections_receiveEmpty, List.append_nil]
  · rw [selections_append, selections_receiveCommit, selections_receivePreedit, List.append_nil,
      List.append_nil]

end Told

/-- **A selection runs back to zero** from behind it, and nothing is composed. -/
def RunsBackToZero (event : InputMethodEvent) (length : Nat) (start count : Int) : Prop :=
  event.preedit = "" ∧ 0 < length ∧ 0 < start ∧ start + count = 0

section Explicit

variable {event : InputMethodEvent} {length : Nat} {start count : Int}

lemma selected_of_runsBackToZero (h : RunsBackToZero event length start count) :
    selected event length start count = .collapsed 0 :=
  if_pos ⟨h.1, h.2.2.2⟩

/-- Only a selection that runs back to zero is not the interval that it names. -/
lemma selected_eq_between_iff :
    selected event length start count = between length start (start + count)
      ↔ ¬ RunsBackToZero event length start count := by
  unfold selected RunsBackToZero
  split
  · rename_i hzero
    simp only [TextRange.collapsed, between, nearest, TextRange.mk.injEq, hzero, true_and,
      and_true]
    omega
  · rename_i hnot
    exact iff_of_true rfl fun h => hnot ⟨h.1, h.2.2.2⟩

lemma resolve_selection_of_last (hlength : (length : Int) ≤ Int32.maxValue.toInt)
    (hlast : (event.attributes.filterMap selection?).getLast? = some (start, count)) :
    (resolve event length).selection = some (selected event length start count) := by
  rw [resolve_eq_gathered hlength, gathered, hlast]
  rfl

end Explicit

/-- **An explicit selection is what the event names**, but for one that runs back to zero.  Let the
last attribute that selects have a start and a length, and let a word measure the text.  Then the
selection is the part of the text between the two ends, in exact integers, exactly if it does not
run back to zero without composed text; if it does, the selection is empty and stands at zero.  The
editor is told just that, once, whatever is being composed. -/
theorem selects_what_it_names_iff {event : InputMethodEvent} {start count : Int}
    (hlast : (event.attributes.filterMap selection?).getLast? = some (start, count)) :
    (∀ length : Nat, (length : Int) ≤ Int32.maxValue.toInt →
      ((resolve event length).selection = some (between length start (start + count))
        ↔ ¬ RunsBackToZero event length start count) ∧
      (RunsBackToZero event length start count →
        (resolve event length).selection = some (.collapsed 0))) ∧
    (∀ (c : Composition) (context : TextContext),
      let length := offsetLimit event context
      (length : Int) ≤ Int32.maxValue.toInt →
      (selections (c.receive event context).2 = [between length start (start + count)]
        ↔ ¬ RunsBackToZero event length start count) ∧
      (RunsBackToZero event length start count →
        selections (c.receive event context).2 = [.collapsed 0])) := by
  refine ⟨fun length hlength => ?_, fun c context => ?_⟩
  · rw [resolve_selection_of_last hlength hlast, Option.some.injEq]
    exact ⟨selected_eq_between_iff, fun h => congrArg some (selected_of_runsBackToZero h)⟩
  · intro length hlength
    rw [selections_receive, resolve_selection_of_last hlength hlast, Option.toList_some,
      List.singleton_inj]
    exact ⟨selected_eq_between_iff, fun h => congrArg ([·]) (selected_of_runsBackToZero h)⟩

/-- The selection goes back over the first three letters, and nothing is composed. -/
def backToZero : InputMethodEvent := { attributes := [.selection 1 2, .selection 3 (-3)] }

theorem selects_what_it_names_iff_backToZero :
    (backToZero.attributes.filterMap selection?).getLast? = some (3, -3) ∧
    ((5 : Nat) : Int) ≤ Int32.maxValue.toInt ∧
    RunsBackToZero backToZero 5 3 (-3) ∧
    (resolve backToZero 5).selection ≠ some (between 5 3 (3 + -3)) ∧
    (resolve { backToZero with preedit := "abc" } 3).selection = some (between 3 3 (3 + -3)) := by
  have hlast : (backToZero.attributes.filterMap selection?).getLast? = some (3, -3) := by decide
  have hlength : ((5 : Nat) : Int) ≤ Int32.maxValue.toInt := by decide
  have hback : RunsBackToZero backToZero 5 3 (-3) := ⟨rfl, by decide, by decide, by decide⟩
  have hiff := ((selects_what_it_names_iff hlast).1 5 hlength).1
  have hcomposed :=
    ((@selects_what_it_names_iff { backToZero with preedit := "abc" } 3 (-3) hlast).1 3
      (by decide)).1
  exact ⟨hlast, hlength, hback, fun heq => hiff.mp heq hback,
    hcomposed.mpr fun h => absurd h.1 (by decide)⟩

/-- **A selection that runs back to zero is lost.**  The event names the first three letters, and
the editor is told to select nothing. -/
theorem back_to_zero_selects_nothing :
    between 5 3 (3 + -3) = ⟨0, 3⟩ ∧
    (resolve backToZero 5).selection = some ⟨0, 0⟩ ∧
    (idle.receive backToZero { surrounding := "hello", cursor := 5 }).2
      = [.selectInEditor ⟨0, 0⟩] ∧
    ¬ (resolve backToZero 5).selection = some (between 5 3 (3 + -3)) := by
  decide

end ViewInput.Composition
