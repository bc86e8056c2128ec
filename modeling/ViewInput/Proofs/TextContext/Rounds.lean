import Mathlib.Data.List.Basic
import ViewInput.TextContext

/-!
# Rounds of notifications

A change of the selection comes as three notifications, and **a round is complete when all three are
noted**.  Only then what the engine says about the selection is held against the memory of the one
that was signalled last.

While a field has the focus, `hear_eq` says all that a notification can do: it copies, it is noted,
and if it completes a round, the selection is judged.  Noting is a machine of its own
(`Notified.take`), which knows nothing of texts.  Judging signals news and remembers it, so the same
selection is never news twice.  `judges_run` puts both together: in a run in which the engine always
says the same, the rounds that it completes tell how often a change is signalled, and that is once
at most (`unchanged_selection_signalled_once`).
-/

namespace ViewInput

/-- The three notifications. -/
inductive Notice where
  /-- The content of the field. -/
  | field
  /-- The selected text. -/
  | selection
  /-- The bounds of the selection. -/
  | bounds
deriving DecidableEq

def Notice.all : List Notice := [.field, .selection, .bounds]

/-! ## Noting -/

namespace Notified

def has (n : Notified) : Notice → Bool
  | .field => n.state
  | .selection => n.selection
  | .bounds => n.bounds

def mark (n : Notified) : Notice → Notified
  | .field => { n with state := true }
  | .selection => { n with selection := true }
  | .bounds => { n with bounds := true }

def isComplete (n : Notified) : Bool := n.state && n.selection && n.bounds

/-- A notification is noted.  The answer tells whether it completes a round; then the next one
begins. -/
def add (n : Notified) (k : Notice) : Notified × Bool :=
  if (n.mark k).isComplete then ({}, true) else (n.mark k, false)

/-- **A notification comes.**  The content of the field starts over if it is noted already. -/
def take (n : Notified) : Notice → Notified × Bool
  | .field => if n.state then ({ state := true }, false) else n.add .field
  | .selection => n.add .selection
  | .bounds => n.add .bounds

/-- How many rounds some notifications complete. -/
def rounds (n : Notified) : List Notice → Nat
  | [] => 0
  | k :: rest => (n.take k).2.toNat + (n.take k).1.rounds rest

end Notified

/-! ## What the engine says -/

namespace TextSource

variable {source : TextSource}

lemma kind_ne_none {field : TextFieldState} (hfield : source.field = some field)
    (hkind : field.kind ≠ .none) : source.kind ≠ .none := by
  simpa [kind, hfield] using hkind

lemma exists_field (h : source.kind ≠ .none) : ∃ field, source.field = some field := by
  cases hfield : source.field with
  | none => simp [kind, hfield] at h
  | some field => exact ⟨field, rfl⟩

lemma exists_selection (h : source.selectedText.isEmpty = false) :
    ∃ selection, source.selection = some selection ∧ selection.text ≠ "" := by
  cases hselection : source.selection with
  | none => simp [selectedText, hselection] at h
  | some selection => exact ⟨selection, rfl, by simpa [selectedText, hselection] using h⟩

lemma selectedText_isEmpty {selection : TextSelection}
    (hselection : source.selection = some selection) (htext : selection.text ≠ "") :
    source.selectedText.isEmpty = false := by
  simpa [selectedText, hselection] using htext

end TextSource

namespace TextContext

/-! ## Runs -/

inductive Call where
  | notice (notice : Notice) (source : TextSource)
  /-- The notifications noted so far are forgotten. -/
  | forget

/-- Whether the engine says no other than this. -/
def Call.IsFrom (source : TextSource) : Call → Prop
  | .notice _ other => other = source
  | .forget => True

/-- A notification comes. -/
def hear (c : TextContext) (source : TextSource) : Notice → TextContext × List TextSignal
  | .field => c.fieldUpdated source
  | .selection => c.textSelected source
  | .bounds => c.boundsChanged source

def respond (c : TextContext) : Call → TextContext × List TextSignal
  | .notice k source => c.hear source k
  | .forget => (c.forgetNotifications, [])

/-- **A run**: the context at its end, and all that was signalled. -/
def run (c : TextContext) : List Call → TextContext × List TextSignal
  | [] => (c, [])
  | call :: rest =>
    (((c.respond call).1.run rest).1, (c.respond call).2 ++ ((c.respond call).1.run rest).2)

lemma run_append (c : TextContext) (calls calls' : List Call) :
    c.run (calls ++ calls') = (((c.run calls).1.run calls').1,
      (c.run calls).2 ++ ((c.run calls).1.run calls').2) := by
  induction calls generalizing c with
  | nil => rfl
  | cons call rest ih => rw [List.cons_append, run, ih, run, List.append_assoc]

/-! ## Judging -/

/-- What is remembered of the selection that was signalled last. -/
structure Memory where
  anchor : Option Nat
  cursor : Option Nat
  wasEmpty : Bool
deriving DecidableEq

def memory (c : TextContext) : Memory :=
  ⟨c.anchorInSelection, c.cursorInSelection, c.previousEmpty⟩

/-- **Whether a selection in a field is news**: text is selected and its ends are others, or none is
selected any more. -/
def Memory.isNews (m : Memory) (source : TextSource) : Bool :=
  if source.selectedText.isEmpty then !m.wasEmpty
  else source.selection.any fun selection =>
    decide (¬ (m.anchor = some (selectionEnds source selection).1 ∧
      m.cursor = some (selectionEnds source selection).2))

variable {c : TextContext} {source : TextSource}

/-- What comes of a selection of text. -/
lemma selectionChanged_of_selected (hkind : source.kind ≠ .none) {selection : TextSelection}
    (hselection : source.selection = some selection) (htext : selection.text ≠ "") :
    c.selectionChanged source = if c.memory.isNews source then
      ({ c with
          notified := {}
          cursor := (selectionEnds source selection).2
          anchorInSelection := some (selectionEnds source selection).1
          cursorInSelection := some (selectionEnds source selection).2
          previousEmpty := false },
       [.stateChanged true (decide (source.kind = .password)), .selectionChanged])
    else (c.forgetNotifications, []) := by
  have hselected := TextSource.selectedText_isEmpty hselection htext
  have hsome : selection.text.isEmpty = false := by simpa using htext
  simp only [selectionChanged, rangeChanged, forgetNotifications, Memory.isNews, memory, hkind,
    hselected, hselection, hsome, Option.any_some, if_false, Bool.false_eq_true]
  split <;> rename_i hends <;> simp [hends]

/-- What comes of a caret. -/
lemma selectionChanged_of_caret (hkind : source.kind ≠ .none)
    (hcaret : source.selectedText.isEmpty = true) :
    c.selectionChanged source = c.forgetNotifications.caretChanged source := by
  simp only [selectionChanged, hkind, hcaret, if_false, if_true]

lemma selectionChanged_notified (c : TextContext) (source : TextSource) :
    (c.selectionChanged source).1.notified = {} := by
  unfold selectionChanged selectionChangedOutside caretChanged rangeChanged
  grind [forgetNotifications]

/-- Only the notifications noted are not judged. -/
lemma selectionChanged_congr {c c' : TextContext} (source : TextSource)
    (h : c.forgetNotifications = c'.forgetNotifications) :
    c.selectionChanged source = c'.selectionChanged source := by
  simp only [selectionChanged, h]

/-- **News is signalled**, and nothing else. -/
lemma count_selectionChanged (hkind : source.kind ≠ .none) :
    (c.selectionChanged source).2.count .selectionChanged = (c.memory.isNews source).toNat := by
  cases htext : source.selectedText.isEmpty with
  | true =>
      rw [selectionChanged_of_caret hkind htext]
      cases hempty : c.previousEmpty <;>
        simp [caretChanged, forgetNotifications, memory, Memory.isNews, htext, hempty]
  | false =>
      obtain ⟨selection, hselection, hsome⟩ := TextSource.exists_selection htext
      rw [selectionChanged_of_selected hkind hselection hsome]
      cases c.memory.isNews source <;> simp

/-- **What has been judged is no news.** -/
lemma isNews_selectionChanged (hkind : source.kind ≠ .none) :
    (c.selectionChanged source).1.memory.isNews source = false := by
  cases htext : source.selectedText.isEmpty with
  | true =>
      rw [selectionChanged_of_caret hkind htext]
      simp [caretChanged, memory, Memory.isNews, htext]
  | false =>
      obtain ⟨selection, hselection, hsome⟩ := TextSource.exists_selection htext
      rw [selectionChanged_of_selected hkind hselection hsome]
      cases hnews : c.memory.isNews source with
      | true => simp [memory, Memory.isNews, htext, hselection]
      | false => exact hnews

/-! ## What a notification does -/

/-- The context with the content of the field copied, and the caret if no text is selected. -/
def refreshed (c : TextContext) (source : TextSource) : TextContext :=
  match source.field with
  | none => c
  | some field =>
    { c.copyField field with
      cursor := if source.selectedText.isEmpty then field.selection.start else c.cursor }

/-- The context with what a notification lets it copy. -/
def sees (c : TextContext) (source : TextSource) : Notice → TextContext
  | .field => c.refreshed source
  | .selection => c
  | .bounds => c

/-- What is signalled at once. -/
def told (source : TextSource) : Notice → List TextSignal
  | .field =>
    if source.selectedText.isEmpty then
      [.stateChanged source.kind.isEditable (decide (source.kind = .password))]
    else []
  | .selection => []
  | .bounds => []

/-- Something is composed, and no selected text was signalled that could have gone away. -/
def isComposing (c : TextContext) (source : TextSource) : Bool :=
  (source.field.any fun field => field.composition.isSome) && c.previousEmpty

/-- **What is noted of a notification**, and whether it completes a round.  While something is
composed the content of the field makes an end of the round, and without a selection there is
nothing to note. -/
def noted (c : TextContext) (source : TextSource) : Notice → Notified × Bool
  | .field =>
    if !c.notified.state && c.isComposing source then ({}, false) else c.notified.take .field
  | .selection =>
    if source.selection.isNone then (c.notified, false) else c.notified.take .selection
  | .bounds => c.notified.take .bounds

@[simp] lemma sees_memory (c : TextContext) (source : TextSource) (k : Notice) :
    (c.sees source k).memory = c.memory := by
  cases k with
  | field => cases hfield : source.field <;> simp [sees, refreshed, copyField, memory, hfield]
  | selection => rfl
  | bounds => rfl

@[simp] lemma count_told (source : TextSource) (k : Notice) :
    (told source k).count .selectionChanged = 0 := by
  cases k with
  | field => cases htext : source.selectedText.isEmpty <;> simp [told, htext]
  | selection => rfl
  | bounds => rfl

/-- The selection is judged if a round is complete. -/
def settle (c : TextContext) (source : TextSource) (noted : Notified × Bool) :
    TextContext × List TextSignal :=
  if noted.2 then c.selectionChanged source else ({ c with notified := noted.1 }, [])

lemma settle_add (c : TextContext) (source : TextSource) (n : Notified) (k : Notice) :
    c.settle source (n.add k) = if (n.mark k).isComplete
      then c.selectionChanged source else ({ c with notified := n.mark k }, []) := by
  unfold settle Notified.add
  split <;> simp

lemma signalIfComplete_mark (hkind : source.kind ≠ .none) (n : Notified) :
    { c with notified := n }.signalIfComplete source = if n.isComplete
      then c.selectionChanged source else ({ c with notified := n }, []) := by
  have hsame : { c with notified := n }.selectionChanged source = c.selectionChanged source :=
    selectionChanged_congr source rfl
  cases hstate : n.state <;> cases hselection : n.selection <;> cases hbounds : n.bounds <;>
    simp [signalIfComplete, Notified.isComplete, hkind, hstate, hselection, hbounds, hsame]

lemma noted_field {field : TextFieldState} (hfield : source.field = some field) :
    c.noted source .field =
      if c.notified.state then ({ state := true }, false)
      else if field.composition.isSome ∧ c.previousEmpty then ({}, false)
      else if c.notified.selection ∧ c.notified.bounds then ({}, true)
      else ({ c.notified with state := true }, false) := by
  cases hstate : c.notified.state <;>
    simp [noted, isComposing, hfield, Notified.take, Notified.add, Notified.mark,
      Notified.isComplete, hstate]

/-- The content of the field is copied and told at once, before it is noted. -/
lemma fieldUpdated_eq {field : TextFieldState} (hfield : source.field = some field) :
    c.fieldUpdated source =
      (((c.refreshed source).settle source (c.noted source .field)).1,
        told source .field ++ ((c.refreshed source).settle source (c.noted source .field)).2) := by
  have hkind : source.kind = field.kind := by simp [TextSource.kind, hfield]
  cases htext : source.selectedText.isEmpty <;>
    simp only [fieldUpdated, settle, noted_field hfield, refreshed, told, copyField,
      forgetNotifications, hfield, hkind, htext, if_true, if_false, Bool.false_eq_true]
  all_goals
    split
    case isTrue hstate => simp
    case isFalse hstate =>
      split
      case isTrue hcomposing => simp
      case isFalse hcomposing =>
        split
        case isTrue hround =>
          exact congrArg
            (fun changed : TextContext × List TextSignal => (changed.1, _ ++ changed.2))
            (selectionChanged_congr source rfl)
        case isFalse hround => simp

/-- **All that a notification can do while a field has the focus.** -/
theorem hear_eq (c : TextContext) (hkind : source.kind ≠ .none) (k : Notice) :
    c.hear source k =
      (((c.sees source k).settle source (c.noted source k)).1,
        told source k ++ ((c.sees source k).settle source (c.noted source k)).2) := by
  cases k with
  | field =>
      obtain ⟨field, hfield⟩ := TextSource.exists_field hkind
      exact fieldUpdated_eq hfield
  | selection =>
      cases hselection : source.selection with
      | none => simp [hear, textSelected, noted, sees, told, settle, hselection]
      | some selection =>
          simp only [hear, textSelected, hselection, noted, sees, told, Notified.take,
            Option.isNone_some, Bool.false_eq_true, if_false, List.nil_append]
          rw [settle_add]
          exact signalIfComplete_mark hkind _
  | bounds =>
      simp only [hear, boundsChanged, noted, sees, told, Notified.take, List.nil_append]
      rw [settle_add]
      exact signalIfComplete_mark hkind _

/-- A round that is complete leaves no notification noted. -/
lemma noted_of_complete {k : Notice} (h : (c.noted source k).2 = true) :
    (c.noted source k).1 = {} := by
  cases k <;> simp only [noted, Notified.take, Notified.add] at h ⊢ <;> grind

lemma hear_notified (c : TextContext) (hkind : source.kind ≠ .none) (k : Notice) :
    (c.hear source k).1.notified = (c.noted source k).1 := by
  rw [hear_eq c hkind]
  cases hcomplete : (c.noted source k).2 with
  | true => simp [settle, hcomplete, selectionChanged_notified, noted_of_complete hcomplete]
  | false => simp [settle, hcomplete]

/-! ## Runs with one source -/

/-- Whether a call completes a round. -/
def completes (c : TextContext) : Call → Bool
  | .notice k source => (c.noted source k).2
  | .forget => false

/-- **How many rounds a run completes.** -/
def rounds (c : TextContext) : List Call → Nat
  | [] => 0
  | call :: rest => (c.completes call).toNat + (c.respond call).1.rounds rest

/-- **What `n` rounds do**, if the engine says the same in all of them: the first signals it if it
is news, and from then on it is none. -/
structure Judges (c : TextContext) (source : TextSource) (n : Nat)
    (judged : TextContext × List TextSignal) : Prop where
  count : judged.2.count .selectionChanged = if c.memory.isNews source then min 1 n else 0
  kept : n = 0 → judged.1.memory = c.memory
  known : 0 < n → judged.1.memory.isNews source = false

lemma Judges.none {c' : TextContext} {signals : List TextSignal} (hsame : c'.memory = c.memory)
    (hsignals : signals.count .selectionChanged = 0) : c.Judges source 0 (c', signals) where
  count := by simp [hsignals]
  kept := fun _ => hsame
  known := nofun

lemma Judges.notMem {judged : TextContext × List TextSignal} (h : c.Judges source 0 judged) :
    .selectionChanged ∉ judged.2 := by
  refine List.count_eq_zero.mp ?_
  rw [h.count]
  split <;> rfl

lemma Judges.append {m n : Nat} {first second : TextContext × List TextSignal}
    (h : c.Judges source m first) (h' : first.1.Judges source n second) :
    c.Judges source (m + n) (second.1, first.2 ++ second.2) where
  count := by
    rw [List.count_append, h.count, h'.count]
    rcases Nat.eq_zero_or_pos m with rfl | hm
    · simp [h.kept rfl]
    · rw [h.known hm]
      split
      · simp
        omega
      · simp
  kept := fun hnone => (h'.kept (by omega)).trans (h.kept (by omega))
  known := fun hsome => by
    rcases Nat.eq_zero_or_pos n with rfl | hn
    · rw [h'.kept rfl]
      exact h.known (by omega)
    · exact h'.known hn

lemma judges_hear (c : TextContext) (hkind : source.kind ≠ .none) (k : Notice) :
    c.Judges source (c.noted source k).2.toNat (c.hear source k) := by
  rw [hear_eq c hkind]
  cases hcomplete : (c.noted source k).2 with
  | false =>
      have hsettle : (c.sees source k).settle source (c.noted source k)
          = ({ c.sees source k with notified := (c.noted source k).1 }, []) :=
        if_neg (by simp [hcomplete])
      rw [hsettle, List.append_nil]
      exact .none (sees_memory c source k) (count_told source k)
  | true =>
      simp only [settle, hcomplete, if_true]
      refine ⟨?_, nofun, fun _ => isNews_selectionChanged hkind⟩
      rw [List.count_append, count_told, count_selectionChanged hkind, sees_memory]
      cases c.memory.isNews source <;> rfl

/-- **A run in which the engine always says the same** judges it in as many rounds as it
completes. -/
lemma judges_run (c : TextContext) (hkind : source.kind ≠ .none) {calls : List Call}
    (hcalls : ∀ call ∈ calls, call.IsFrom source) :
    c.Judges source (c.rounds calls) (c.run calls) := by
  induction calls generalizing c with
  | nil => exact .none rfl rfl
  | cons call rest ih =>
      obtain ⟨hcall, hrest⟩ := List.forall_mem_cons.mp hcalls
      have hfirst : c.Judges source (c.completes call).toNat (c.respond call) := by
        cases call with
        | notice k other =>
            obtain rfl : other = source := hcall
            exact judges_hear c hkind k
        | forget => exact .none rfl rfl
      exact hfirst.append (ih _ hrest)

/-- **An unchanged selection is signalled at most once.**  Let a field have the focus, and let the
engine say the same in every call of a run, with notifications in any number and order and with
notifications forgotten at any time.  If the selection is news at the start, it is signalled when
the first round is complete, and never again.  Otherwise it is not signalled at all. -/
theorem unchanged_selection_signalled_once (c : TextContext) {source : TextSource}
    {calls : List Call} (hkind : source.kind ≠ .none)
    (hcalls : ∀ call ∈ calls, call.IsFrom source) :
    (c.run calls).2.count .selectionChanged ≤ 1 ∧
    (c.run calls).2.count .selectionChanged
      = if c.memory.isNews source then min 1 (c.rounds calls) else 0 := by
  have hcount := (c.judges_run hkind hcalls).count
  refine ⟨?_, hcount⟩
  rw [hcount]
  split <;> omega

/-- A field in which a word is selected. -/
def selectedWord : TextSource where
  field := some { kind := .text, value := "hello world", selection := .collapsed 5 }
  selection := some { range := ⟨0, 5⟩, offset := 0, text := "hello" }

/-- The word is selected for a long time, and the notifications come as they like. -/
def longSelected : List Call :=
  [.notice .bounds selectedWord, .notice .field selectedWord, .notice .field selectedWord,
   .notice .selection selectedWord, .notice .bounds selectedWord, .notice .selection selectedWord,
   .forget, .notice .selection selectedWord, .notice .bounds selectedWord,
   .notice .field selectedWord]

theorem unchanged_selection_signalled_once_longSelected :
    (selectedWord.kind ≠ .none ∧ ∀ call ∈ longSelected, call.IsFrom selectedWord) ∧
    ({} : TextContext).memory.isNews selectedWord = true ∧
    ({} : TextContext).rounds longSelected = 2 ∧
    (({} : TextContext).run longSelected).2.count .selectionChanged = 1 := by
  have hkind : selectedWord.kind ≠ .none := by decide
  have hcalls : ∀ call ∈ longSelected, call.IsFrom selectedWord := by
    simp [longSelected, Call.IsFrom]
  have hnews : ({} : TextContext).memory.isNews selectedWord = true := by decide
  have hrounds : ({} : TextContext).rounds longSelected = 2 := by decide
  have hcount := (unchanged_selection_signalled_once {} hkind hcalls).2
  rw [hnews, hrounds] at hcount
  exact ⟨⟨hkind, hcalls⟩, hnews, hrounds, hcount⟩

end TextContext

end ViewInput
