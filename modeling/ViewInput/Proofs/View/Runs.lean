import Mathlib.Data.List.Induction
import ViewInput.Proofs.Touch.Stream
import ViewInput.View.Calls

/-!
# Runs of a view

A run of a view is a list of turns, each of them a call with what its surroundings are.  `history`
plays it from a new view and keeps everything that the view did.

Most calls leave most of a view alone.  Two views that differ only in what a call may pass through
(the pointer, the clock, the composition and the text around the caret) are **`Kept`**, and a call
that changes nothing else, and tells the menu nothing, is **`Aside`** of all that the runs here are
about.  The others are about one part each: the command that waits for a key, the wheels, the
touches or the menu.  `Course` lists them, and **every turn takes one of these courses** (`course_take`), so
that what holds in a run is proved course by course.
-/

namespace ViewInput

/-! ## Turns -/

namespace View

/-- A call, with what the view finds around it. -/
structure Turn where
  call : Call
  surroundings : Surroundings
  now : Nat := 0
deriving DecidableEq

/-- What comes of a turn. -/
def take (v : View) (t : Turn) : Outcome := v.step t.surroundings t.now t.call

/-- A view with everything that it did. -/
structure History where
  view : View
  log : List Effect := []

def History.next (h : History) (t : Turn) : History :=
  { view := (h.view.take t).view
    log := h.log ++ (h.view.take t).effects }

/-- **The history of a run**, from a new view. -/
def history (settings : Settings) (turns : List Turn) : History :=
  turns.foldl History.next { view := new settings }

lemma history_concat (settings : Settings) (turns : List Turn) (t : Turn) :
    history settings (turns ++ [t]) = (history settings turns).next t := by
  simp [history]

/-- The view after a run. -/
def after (settings : Settings) (turns : List Turn) : View := (history settings turns).view

lemma after_concat (settings : Settings) (turns : List Turn) (t : Turn) :
    after settings (turns ++ [t]) = ((after settings turns).take t).view := by
  rw [after, history_concat]
  rfl

end View

/-! ### Turns for examples -/

/-- Surroundings in which nothing is special. -/
def quietScene : Surroundings := { target := .frame 1 1, layout := ⟨.zero, .zero, .zero⟩ }

/-- A call in such surroundings. -/
def quietly (call : View.Call) : View.Turn := { call := call, surroundings := quietScene }

/-- A touch batch, with the answer of the selection controller. -/
def touches (kind : Device.TouchKind) (points : List Device.TouchPoint) (claimed : Bool) :
    View.Turn :=
  { call := .device (.touch { kind := kind, points := points })
    surroundings := { quietScene with claimsTouch := claimed } }

/-! ## What a call leaves alone -/

/-- What an effect tells the menu. -/
def Effect.menu? : Effect → Option MenuAction
  | .menu action => some action
  | _ => none

/-- What some effects tell the menu. -/
def menuActions (effects : List Effect) : List MenuAction := effects.filterMap Effect.menu?

lemma menuActions_append (first second : List Effect) :
    menuActions (first ++ second) = menuActions first ++ menuActions second :=
  List.filterMap_append

@[simp] lemma menuActions_map_menu (actions : List MenuAction) :
    menuActions (actions.map .menu) = actions := by
  induction actions with
  | nil => rfl
  | cons action rest ih => simpa [menuActions, Effect.menu?] using ih

/-- Effects none of which is for the menu. -/
lemma menuActions_eq_nil {α : Type} {f : α → Effect} (hf : ∀ a, (f a).menu? = none) (as : List α) :
    menuActions (as.map f) = [] := by
  simp [menuActions, hf]

lemma menuActions_append_eq_nil {first second : List Effect} (hfirst : menuActions first = [])
    (hsecond : menuActions second = []) : menuActions (first ++ second) = [] := by
  rw [menuActions_append, hfirst, hsecond, List.append_nil]

namespace View

/-- Two views with the same settings, touches, wheels and menu, and the same command waiting. -/
structure Kept (v v' : View) : Prop where
  settings : v'.settings = v.settings
  touch : v'.touch = v.touch
  wheel : v'.wheel = v.wheel
  menu : v'.menu = v.menu
  pendingCommand : v'.pendingCommand = v.pendingCommand
  nextId : v'.nextId = v.nextId

lemma Kept.refl (v : View) : Kept v v := ⟨rfl, rfl, rfl, rfl, rfl, rfl⟩

/-- A call that leaves the rest of the view as it was, and tells the menu nothing. -/
structure Aside (v : View) (o : Outcome) : Prop where
  kept : Kept v o.view
  quiet : menuActions o.effects = []

section Parts

variable (v : View) (s : Surroundings) (now : Nat)

lemma kept_readClock (stamp : Nat) : Kept v (v.readClock now stamp).1 :=
  ⟨rfl, rfl, rfl, rfl, rfl, rfl⟩

lemma quiet_finishComposition : menuActions v.finishComposition.2 = [] :=
  menuActions_eq_nil (fun _ => rfl) _

/-! ### Calls aside -/

lemma aside_pointerEvent (event : Device.PointerEvent) : Aside v (v.pointerEvent s now event) := by
  have hfocus : menuActions (if event.kind.isPress then [Effect.focus] else []) = [] := by
    cases event.kind.isPress <;> rfl
  unfold pointerEvent
  split
  · exact ⟨.refl v, rfl⟩
  · simp only
    split
    · exact ⟨⟨rfl, rfl, rfl, rfl, rfl, rfl⟩, hfocus⟩
    · refine ⟨?_, menuActions_append_eq_nil (menuActions_append_eq_nil
        (menuActions_append_eq_nil hfocus (menuActions_eq_nil (fun _ => rfl) _)) ?_) rfl⟩
      · cases event.kind.isPress <;> exact ⟨rfl, rfl, rfl, rfl, rfl, rfl⟩
      · cases event.kind.isPress with
        | true => exact quiet_finishComposition _
        | false => rfl

lemma aside_hoverEvent (event : Device.HoverEvent) : Aside v (v.hoverEvent s now event) := by
  unfold hoverEvent
  split
  · exact ⟨.refl v, rfl⟩
  · exact ⟨kept_readClock v now _, menuActions_eq_nil (fun _ => rfl) _⟩

lemma aside_leaveEvent : Aside v (v.leaveEvent s now) := by
  unfold leaveEvent
  split
  · exact ⟨.refl v, rfl⟩
  · exact ⟨kept_readClock v now 0, rfl⟩

lemma aside_gestureEvent (event : Device.GestureEvent) : Aside v (v.gestureEvent s now event) :=
  ⟨kept_readClock v now _, menuActions_eq_nil (fun _ => rfl) _⟩

lemma aside_focusEvent (event : Device.FocusEvent) : Aside v (v.focusEvent event) := by
  unfold focusEvent
  split
  · exact ⟨.refl v, rfl⟩
  · split
    · refine ⟨.refl v, ?_⟩
      cases event.reason <;> rfl
    · exact ⟨⟨rfl, rfl, rfl, rfl, rfl, rfl⟩,
        menuActions_append_eq_nil (menuActions_eq_nil (fun _ => rfl) _) rfl⟩

lemma aside_inputMethodEvent (event : Device.InputMethodEvent) :
    Aside v (v.inputMethodEvent event) :=
  ⟨⟨rfl, rfl, rfl, rfl, rfl, rfl⟩, menuActions_eq_nil (fun _ => rfl) _⟩

lemma aside_withContext (changed : TextContext × List TextSignal) :
    Aside v (v.withContext changed) :=
  ⟨⟨rfl, rfl, rfl, rfl, rfl, rfl⟩, menuActions_eq_nil (fun _ => rfl) _⟩

lemma aside_deliverKey (event : Device.KeyEvent) :
    Aside { v with pendingCommand := (v.deliverKey s now event).view.pendingCommand }
      (v.deliverKey s now event) := by
  unfold deliverKey
  split
  · exact ⟨.refl v, rfl⟩
  · split
    · exact ⟨.refl v, rfl⟩
    · cases event.kind <;>
        exact ⟨⟨rfl, rfl, rfl, rfl, rfl, rfl⟩, menuActions_eq_nil (fun _ => rfl) _⟩

lemma aside_keyEvent (event : Device.KeyEvent) :
    Aside { v with pendingCommand := (v.keyEvent s now event).view.pendingCommand }
      (v.keyEvent s now event) := by
  have hfirst (freed : Bool) (actions : List Composition.Action) :
      menuActions ((if freed then [Effect.unlockPointer] else [])
        ++ actions.map .composition) = [] := by
    refine menuActions_append_eq_nil ?_ (menuActions_eq_nil (fun _ => rfl) _)
    cases freed <;> rfl
  unfold keyEvent
  simp only
  split
  · exact ⟨⟨rfl, rfl, rfl, rfl, rfl, rfl⟩, hfirst _ _⟩
  · obtain ⟨⟨h₁, h₂, h₃, h₄, h₅, h₆⟩, hquiet⟩ :=
      aside_deliverKey { v with composition := (v.composition.key event).1 } s now event
    exact ⟨⟨h₁, h₂, h₃, h₄, h₅, h₆⟩, menuActions_append_eq_nil (hfirst _ _) hquiet⟩

lemma pendingCommand_keyEvent_release {event : Device.KeyEvent} (hkind : event.kind = .release) :
    (v.keyEvent s now event).view.pendingCommand = v.pendingCommand := by
  unfold keyEvent
  simp only
  split
  · rfl
  · unfold deliverKey
    split
    · rfl
    · split
      · rfl
      · simp only [hkind]
        rfl

lemma aside_shortcutEvent (event : Device.KeyEvent) :
    Aside { v with pendingCommand := (v.shortcutEvent s event).view.pendingCommand }
      (v.shortcutEvent s event) := by
  unfold shortcutEvent
  simp only
  split
  · split
    · exact ⟨⟨rfl, rfl, rfl, rfl, rfl, rfl⟩, rfl⟩
    · exact ⟨.refl v, rfl⟩
  · exact ⟨.refl v, rfl⟩

/-- A wheel event with a fresh id goes to the flow. -/
lemma aside_wheelEvent (event : Device.WheelEvent) :
    ∃ converted : Page.WheelEvent, converted.id = v.nextId ∧
      Aside { v with wheel := (v.wheel.submit s.target converted).1, nextId := v.nextId + 1 }
        (v.wheelEvent s now event) :=
  ⟨Wheel.wheelEvent v.settings event v.nextId (v.clock.read now event.timestamp).2, rfl,
    ⟨rfl, rfl, rfl, rfl, rfl, rfl⟩, menuActions_eq_nil (fun _ => rfl) _⟩

/-- An offer of a batch to the tracker, as a turn makes it. -/
def offerOf (batch : Device.TouchBatch) : Touch.Offer :=
  { batch := batch
    modifiers := v.settings.pageModifiers batch.modifiers .none
    time := (v.clock.read now batch.timestamp).2
    claimed := s.claimsTouch
    id := v.nextId }

/-- The menu once the tracker has answered: it hears of a touch that begins or ends only if the page
does. -/
def menuAfter (kind : Device.TouchKind) : Touch.Outcome → SelectionMenu × List MenuAction
  | .motion _ => match kind with
    | .began => v.menu.touchBegan s.layout
    | .ended | .cancelled => v.menu.touchEnded s.layout
    | .updated => (v.menu, [])
  | .ignored | .consumed => (v.menu, [])

end Parts

/-- What a batch that the tracker answered leaves of a view. -/
structure Answered (v : View) (s : Surroundings) (batch : Device.TouchBatch)
    (q : Touch.Sequenced) (o : Outcome) : Prop where
  answer : o.answer = .ok true
  kept : Kept { v with touch := q.tracker, nextId := q.nextId, menu := o.view.menu } o.view
  menu : (o.view.menu, menuActions o.effects) = v.menuAfter s batch.kind q.outcome

section Parts

variable (v : View) (s : Surroundings) (now : Nat)

lemma touchBatch_eq_of_skips {batch : Device.TouchBatch} (hskip : v.skipsTouch batch = true) :
    v.touchBatch s now batch = { view := v } := by
  simp [touchBatch, hskip]

/-- What comes of a batch that is not skipped, up to what a call may pass through. -/
lemma touchBatch_eq {batch : Device.TouchBatch} (hskip : v.skipsTouch batch = false) :
    ∃ v₁ first, Kept v v₁ ∧ menuActions first = [] ∧ v.touchBatch s now batch =
      match v.touch.answer (v.offerOf s now batch) with
      | .error e => { view := v₁, effects := first, answer := .error e }
      | .ok q =>
        let next := { v₁ with touch := q.tracker, nextId := q.nextId }
        let shown := first ++ q.probe.toList.map Effect.probe
        match q.outcome with
        | .ignored | .consumed => { view := next, effects := shown }
        | .motion events =>
          { view := (next.menuAfterTouch s batch.kind).1
            effects := shown ++ (next.menuAfterTouch s batch.kind).2
              ++ events.map fun e => routed s (.motion e) } := by
  by_cases hbegan : batch.kind = .began
  · refine ⟨(v.finishComposition.1.readClock now batch.timestamp).1,
      .focus :: v.finishComposition.2, ⟨rfl, rfl, rfl, rfl, rfl, rfl⟩, ?_, ?_⟩
    · exact quiet_finishComposition v
    · simp only [touchBatch, hskip, hbegan, Bool.false_eq_true, if_false, if_true]
      rfl
  · refine ⟨(v.readClock now batch.timestamp).1, [], kept_readClock v now _, rfl, ?_⟩
    simp only [touchBatch, hskip, hbegan, Bool.false_eq_true, if_false]
    rfl

/-- A batch that fails changes nothing of what is counted here. -/
lemma aside_touchBatch {batch : Device.TouchBatch} {e : InputError}
    (hskip : v.skipsTouch batch = false)
    (herror : v.touch.answer (v.offerOf s now batch) = .error e) :
    Aside v (v.touchBatch s now batch) ∧ (v.touchBatch s now batch).answer = .error e := by
  obtain ⟨v₁, first, hkept, hquiet, heq⟩ := touchBatch_eq v s now hskip
  rw [heq, herror]
  exact ⟨⟨hkept, hquiet⟩, rfl⟩

/-- The menu after the motion events of a batch is a matter of the menu before. -/
lemma menuAfterTouch_eq (kind : Device.TouchKind) (events : List Page.MotionEvent) {w : View}
    (hmenu : w.menu = v.menu) : ((w.menuAfterTouch s kind).1.menu,
      menuActions (w.menuAfterTouch s kind).2) = v.menuAfter s kind (.motion events) := by
  have htold {changed : SelectionMenu × List MenuAction} :
      (changed.1, menuActions (changed.2.map .menu)) = changed :=
    Prod.ext rfl (menuActions_map_menu changed.2)
  cases kind with
  | updated => exact Prod.ext hmenu rfl
  | began => exact htold.trans (congrArg (·.touchBegan s.layout) hmenu)
  | ended | cancelled => exact htold.trans (congrArg (·.touchEnded s.layout) hmenu)

lemma answered_touchBatch {batch : Device.TouchBatch} {q : Touch.Sequenced}
    (hskip : v.skipsTouch batch = false)
    (hans : v.touch.answer (v.offerOf s now batch) = .ok q) :
    Answered v s batch q (v.touchBatch s now batch) := by
  obtain ⟨v₁, first, ⟨h₁, h₂, h₃, h₄, h₅, h₆⟩, hquiet, heq⟩ := touchBatch_eq v s now hskip
  obtain ⟨tracker, probe, outcome, next⟩ := q
  have hshown : menuActions (first ++ probe.toList.map Effect.probe) = [] :=
    menuActions_append_eq_nil hquiet (menuActions_eq_nil (fun _ => rfl) _)
  rw [heq, hans]
  cases outcome with
  | ignored => exact ⟨rfl, ⟨h₁, rfl, h₃, rfl, h₅, rfl⟩, Prod.ext h₄ hshown⟩
  | consumed => exact ⟨rfl, ⟨h₁, rfl, h₃, rfl, h₅, rfl⟩, Prod.ext h₄ hshown⟩
  | motion events =>
      refine ⟨rfl, ⟨h₁, rfl, h₃, rfl, h₅, rfl⟩, ?_⟩
      have hrouted : menuActions (events.map fun e => routed s (.motion e)) = [] :=
        menuActions_eq_nil (fun _ => rfl) _
      rw [menuActions_append, menuActions_append, hshown, hrouted, List.nil_append, List.append_nil]
      exact menuAfterTouch_eq v s batch.kind events h₄

end Parts

end View

/-! ## What a call does to the rest -/

/-- Whether an action shows or hides the menu, and which. -/
def MenuAction.shows? : MenuAction → Option Bool
  | .show _ _ => some true
  | .hide => some false
  | _ => none

/-- Whether an action hides or shows the handles, and which. -/
def MenuAction.hidesHandles? : MenuAction → Option Bool
  | .hideHandles hidden => some hidden
  | _ => none

/-- **A move of the menu**, other than by touch, with what it tells. -/
inductive SelectionMenu.Move (m : SelectionMenu) : SelectionMenu → List MenuAction → Prop
  /-- Nothing changes, and nobody is told to show or hide anything. -/
  | silent (actions : List MenuAction)
      (hsilent : ∀ a ∈ actions, a.shows? = none ∧ a.hidesHandles? = none) : Move m m actions
  /-- What is wanted, or whether a handle is dragged, is noted. -/
  | noted (requested draggingHandle : Bool) (layout : SelectionLayout) :
      Move m ({ m with requested := requested, draggingHandle := draggingHandle }.update layout).1
        ({ m with requested := requested, draggingHandle := draggingHandle }.update layout).2
  | scrolled (scrolling : Bool) (layout : SelectionLayout) :
      Move m (m.setScrolling scrolling layout).1 (m.setScrolling scrolling layout).2

namespace SelectionMenu

lemma move_none (m : SelectionMenu) : m.Move m [] := .silent [] (by simp)

lemma move_handleEvent (m : SelectionMenu) (event : HandleEvent) (layout : SelectionLayout) :
    m.Move (m.handleEvent event layout).1 (m.handleEvent event layout).2 := by
  cases event with
  | selectionShown => exact .noted true m.draggingHandle layout
  | selectionCleared | insertionCleared => exact .noted false m.draggingHandle layout
  | selectionDragStarted | insertionDragStarted => exact .noted m.requested true layout
  | selectionDragStopped | insertionDragStopped => exact .noted m.requested false layout
  | insertionTapped => exact .noted (!m.requested) m.draggingHandle layout
  | insertionShown | selectionMoved | insertionMoved =>
      exact .noted m.requested m.draggingHandle layout

lemma move_contextMenu (m : SelectionMenu) (request : ContextMenuRequest)
    (layout : SelectionLayout) :
    m.Move (m.contextMenu request layout).1 (m.contextMenu request layout).2.1 := by
  unfold contextMenu
  split
  · exact .noted true m.draggingHandle layout
  · split
    · exact m.move_none
    · exact .silent _ (by simp [MenuAction.shows?, MenuAction.hidesHandles?])

lemma move_command (m : SelectionMenu) (command : MenuCommand) : m.Move m command.actions :=
  .silent _ (by cases command <;> simp [MenuCommand.actions, MenuAction.shows?,
    MenuAction.hidesHandles?])

lemma move_openContextMenu (m : SelectionMenu) (layout : SelectionLayout) :
    m.Move m (contextMenuActions layout) :=
  .silent _ (by simp [contextMenuActions, MenuAction.shows?, MenuAction.hidesHandles?])

end SelectionMenu

namespace View

variable (v : View) (s : Surroundings) (now : Nat)

/-- A call that moves the menu and changes nothing else. -/
structure Moves (v : View) (o : Outcome) : Prop where
  kept : Kept { v with menu := o.view.menu } o.view
  move : v.menu.Move o.view.menu (menuActions o.effects)

lemma moves_withMenu {m : SelectionMenu} {actions : List MenuAction} (h : v.menu.Move m actions) :
    Moves v (v.withMenu (m, actions)) :=
  ⟨⟨rfl, rfl, rfl, rfl, rfl, rfl⟩, by simpa [withMenu] using h⟩

lemma moves_engineGesture (gesture : Page.GestureEvent) : Moves v (v.engineGesture s gesture) := by
  unfold engineGesture
  split
  · exact ⟨.refl v, v.menu.move_none⟩
  · have hscrolled (scrolling : Bool) : v.menu.Move (v.menu.setScrolling scrolling s.layout).1
        (menuActions ((v.menu.setScrolling scrolling s.layout).2.map .menu
          ++ [routed s (.gesture gesture)])) := by
      rw [menuActions_append, menuActions_map_menu]
      exact (List.append_nil _).symm ▸ .scrolled scrolling s.layout
    unfold gestureMeaning
    cases gesture.kind with
    | scrollBegin => exact ⟨⟨rfl, rfl, rfl, rfl, rfl, rfl⟩, hscrolled true⟩
    | scrollEnd => exact ⟨⟨rfl, rfl, rfl, rfl, rfl, rfl⟩, hscrolled false⟩
    | _ => exact ⟨⟨rfl, rfl, rfl, rfl, rfl, rfl⟩, v.menu.move_none⟩

/-- An acknowledgement is a matter of the wheels and of the touches that wait for it. -/
lemma aside_acknowledge (id : Page.EventId) :
    Aside { v with wheel := (v.acknowledge id).view.wheel, touch := (v.acknowledge id).view.touch }
      (v.acknowledge id) := by
  unfold acknowledge
  simp only
  split
  · exact ⟨⟨rfl, rfl, rfl, rfl, rfl, rfl⟩, menuActions_eq_nil (fun _ => rfl) _⟩
  · exact ⟨⟨rfl, rfl, rfl, rfl, rfl, rfl⟩, rfl⟩

/-! ## Turns, case by case -/

/-- The batch that a turn delivers, unless the view skips it or has no slots for it, with what the
tracker makes of it. -/
def taken? (v : View) (t : Turn) : Option (Device.TouchBatch × Touch.Sequenced) :=
  match t.call with
  | .device (.touch batch) =>
    if v.skipsTouch batch then none
    else match v.touch.answer (v.offerOf t.surroundings t.now batch) with
      | .ok q => some (batch, q)
      | .error _ => none
  | _ => none

lemma taken?_eq_some_iff {t : Turn} {batch : Device.TouchBatch} {q : Touch.Sequenced} :
    v.taken? t = some (batch, q) ↔ t.call = .device (.touch batch) ∧ v.skipsTouch batch = false ∧
      v.touch.answer (v.offerOf t.surroundings t.now batch) = .ok q := by
  constructor
  · intro h
    unfold taken? at h
    split at h
    · rename_i hcall
      split at h
      · cases h
      · rename_i hskip
        split at h
        · rename_i hans
          cases h
          exact ⟨hcall, by simpa using hskip, hans⟩
        · cases h
    · cases h
  · rintro ⟨hcall, hskip, hans⟩
    simp [taken?, hcall, hskip, hans]

/-- Whether a call is a key going down, or the offer of one. -/
def Call.isPress : Call → Bool
  | .device (.key event) => decide (event.kind = .press)
  | .device (.shortcut _) => true
  | _ => false

/-- **What a turn does**, by the part of the view that it is about. -/
inductive Course (v : View) (t : Turn) (o : Outcome) : Prop
  | aside (htaken : v.taken? t = none) (hcall : t.call.isPress = false) (h : Aside v o)
  | press (htaken : v.taken? t = none) (hcall : t.call.isPress = true)
      (h : Aside { v with pendingCommand := o.view.pendingCommand } o)
  | wheel (htaken : v.taken? t = none) (hcall : t.call.isPress = false) (target : Page.Target)
      (event : Page.WheelEvent) (hid : event.id = v.nextId)
      (h : Aside { v with wheel := (v.wheel.submit target event).1, nextId := v.nextId + 1 } o)
  | touch (hcall : t.call.isPress = false) (batch : Device.TouchBatch) (q : Touch.Sequenced)
      (htaken : v.taken? t = some (batch, q)) (h : Answered v t.surroundings batch q o)
  | acknowledged (htaken : v.taken? t = none) (hcall : t.call.isPress = false)
      (id : Page.EventId) (ho : o = v.acknowledge id)
  | menu (htaken : v.taken? t = none) (hcall : t.call.isPress = false) (h : Moves v o)
  | reset (hcall : t.call = .reset) (ho : o = { view := v.reset })

/-- **Every turn takes one of these courses.** -/
theorem course_take (t : Turn) : Course v t (v.take t) := by
  obtain ⟨call, s, now⟩ := t
  cases call with
  | device event =>
      cases event with
      | pointer event => exact .aside rfl rfl (v.aside_pointerEvent s now event)
      | key event =>
          have h := v.aside_keyEvent s now event
          cases hkind : event.kind with
          | press => exact .press rfl (by simp [Call.isPress, hkind]) h
          | release =>
              rw [v.pendingCommand_keyEvent_release s now hkind] at h
              exact .aside rfl (by simp [Call.isPress, hkind]) h
      | shortcut event => exact .press rfl rfl (v.aside_shortcutEvent s event)
      | wheel event =>
          obtain ⟨converted, hid, h⟩ := v.aside_wheelEvent s now event
          exact .wheel rfl rfl s.target converted hid h
      | touch batch =>
          cases hskip : v.skipsTouch batch with
          | true =>
              refine .aside (by simp [taken?, hskip]) rfl ?_
              rw [take, step, device, v.touchBatch_eq_of_skips s now hskip]
              exact ⟨.refl v, rfl⟩
          | false =>
              cases hans : v.touch.answer (v.offerOf s now batch) with
              | error e =>
                  exact .aside (by simp [taken?, hskip, hans]) rfl
                    (v.aside_touchBatch s now hskip hans).1
              | ok q =>
                  exact .touch rfl batch q (by simp [taken?, hskip, hans])
                    (v.answered_touchBatch s now hskip hans)
      | gesture event => exact .aside rfl rfl (v.aside_gestureEvent s now event)
      | hover event => exact .aside rfl rfl (v.aside_hoverEvent s now event)
      | focus event => exact .aside rfl rfl (v.aside_focusEvent event)
      | inputMethod event => exact .aside rfl rfl (v.aside_inputMethodEvent event)
      | leave => exact .aside rfl rfl (v.aside_leaveEvent s now)
  | fieldUpdated | boundsChanged | textSelected => exact .aside rfl rfl (v.aside_withContext _)
  | acknowledge id => exact .acknowledged rfl rfl id rfl
  | engineGesture gesture => exact .menu rfl rfl (v.moves_engineGesture s gesture)
  | flingStopped => exact .menu rfl rfl (v.moves_withMenu (.scrolled false s.layout))
  | handleEvent event =>
      exact .menu rfl rfl (v.moves_withMenu (v.menu.move_handleEvent event s.layout))
  | contextMenu request =>
      refine .menu rfl rfl ⟨⟨rfl, rfl, rfl, rfl, rfl, rfl⟩, ?_⟩
      exact (menuActions_map_menu _).symm ▸ v.menu.move_contextMenu request s.layout
  | command command =>
      refine .menu rfl rfl ⟨.refl v, ?_⟩
      exact (menuActions_map_menu _).symm ▸ v.menu.move_command command
  | openContextMenu =>
      refine .menu rfl rfl ⟨.refl v, ?_⟩
      exact (menuActions_map_menu _).symm ▸ v.menu.move_openContextMenu s.layout
  | reset => exact .reset rfl rfl

end View

end ViewInput
