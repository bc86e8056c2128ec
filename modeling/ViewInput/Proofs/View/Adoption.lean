import ViewInput.Proofs.View.Runs

/-!
# Clicks while a view changes windows

While a view is on its way to another window its pointer events are dropped, **moves and clicks
alike**.  A move that is lost does no harm, since the next one says where the pointer is.  A click
that is lost is not made up for: the page takes the button to be as the last click left it that got
through.

No other call sends a click, so that the clicks of a run are those made outside of such times, one
for one and in order (`View.clicks_reach_page_iff`).
-/

namespace ViewInput

open Page (Target)

/-- **A button goes down or up**, in a frame. -/
structure Click where
  target : Target
  down : Bool
  button : Page.MouseButton
  position : Point
  globalPosition : Point
deriving DecidableEq

/-- Whether a button is down once some clicks were made. -/
def isDown (button : Page.MouseButton) (clicks : List Click) : Bool :=
  clicks.foldl (fun down c => if c.button = button then c.down else down) false

lemma isDown_concat (button : Page.MouseButton) (clicks : List Click) (c : Click) :
    isDown button (clicks ++ [c]) = if c.button = button then c.down else isDown button clicks := by
  simp [isDown]

/-! ## Clicks of the page and of the device -/

/-- The click that a mouse event tells a frame of. -/
def Page.MouseEvent.click? (e : Page.MouseEvent) (target : Target) : Option Click :=
  match e.kind with
  | .down => some ⟨target, true, e.button, e.position, e.globalPosition⟩
  | .up => some ⟨target, false, e.button, e.position, e.globalPosition⟩
  | .move | .leave => none

/-- The click that a pointer makes, with a button that a page knows. -/
def Device.PointerEvent.click? (e : Device.PointerEvent) (target : Target) : Option Click :=
  if e.kind = .move ∨ Pointer.pageButton e.button = .none then none
  else some ⟨target, e.kind.isPress, Pointer.pageButton e.button, e.position, e.globalPosition⟩

/-- The click that an effect brings to the page. -/
def Effect.click? : Effect → Option Click
  | .route target (.mouse e) => e.click? target
  | _ => none

/-- The clicks among some effects, in order. -/
def clicksOf (effects : List Effect) : List Click := effects.filterMap Effect.click?

lemma clicksOf_append (first second : List Effect) :
    clicksOf (first ++ second) = clicksOf first ++ clicksOf second :=
  List.filterMap_append

/-- Effects none of which is a click. -/
lemma clicksOf_eq_nil {α : Type} {f : α → Effect} (hf : ∀ a, (f a).click? = none) (as : List α) :
    clicksOf (as.map f) = [] := by
  simp [clicksOf, hf]

lemma clicksOf_append_eq_nil {first second : List Effect} (hfirst : clicksOf first = [])
    (hsecond : clicksOf second = []) : clicksOf (first ++ second) = [] := by
  rw [clicksOf_append, hfirst, hsecond, List.append_nil]

namespace Pointer

variable (settings : Settings)

lemma click?_withStylus (e : Page.MouseEvent) (stylus : Option Device.Stylus) (target : Target) :
    (withStylus e stylus).click? target = e.click? target := by
  cases stylus <;> rfl

/-- A pointer that hovers clicks nothing. -/
lemma click?_hover {event : Device.HoverEvent} {time : Nat} {e : Page.MouseEvent}
    (he : hover settings event time = some e) (target : Target) : e.click? target = none := by
  unfold hover at he
  cases hkind : event.kind <;> rw [hkind] at he <;> cases he <;> rfl

/-- The button of a click is the one that changed. -/
lemma buttonFor_of_known {button : Device.Button} (h : pageButton button ≠ .none)
    (held : Device.Buttons) : buttonFor button held = pageButton button := by
  unfold buttonFor
  split
  · rename_i hnone
    exact absurd hnone h
  · rfl

/-- **The page is told of a click as it is made**, and of nothing that is none. -/
lemma click?_pointer (t : Tracker) (event : Device.PointerEvent) (time : Nat) (locked : Bool)
    (target : Target) :
    ((t.pointer settings event time locked).2.bind fun report => report.event.click? target)
      = event.click? target := by
  unfold Tracker.pointer
  simp only
  split
  · rename_i hknown
    simp only [Option.bind_some, click?_withStylus]
    unfold Page.MouseEvent.click? Device.PointerEvent.click?
    cases hkind : event.kind with
    | move => rfl
    | press | release | doubleClick =>
        have hbutton : pageButton event.button ≠ .none := by
          simpa [Tracker.represents, hkind] using hknown
        simp [mouseKind, hbutton, buttonFor_of_known hbutton, Device.PointerKind.isPress]
  · rename_i hunknown
    unfold Device.PointerEvent.click?
    cases hkind : event.kind with
    | move => simp
    | press | release | doubleClick =>
        have hbutton : pageButton event.button = .none := by
          simpa [Tracker.represents, hkind] using hunknown
        simp [hbutton]

end Pointer

namespace View

/-- The click that a turn makes. -/
def Turn.click? (t : Turn) : Option Click :=
  match t.call with
  | .device (.pointer event) => event.click? t.surroundings.target
  | _ => none

section Parts

variable (v : View) (s : Surroundings) (now : Nat)

/-! ## Pointers -/

lemma clicksOf_routed_mouse (e : Page.MouseEvent) :
    clicksOf [routed s (.mouse e)] = (e.click? s.target).toList := by
  cases hclick : e.click? s.target <;> simp [clicksOf, routed, Effect.click?, hclick]

lemma clicksOf_finishComposition : clicksOf v.finishComposition.2 = [] :=
  clicksOf_eq_nil (fun _ => rfl) _

/-- **A pointer event** brings its click to the page, unless the view is on its way. -/
lemma clicksOf_pointerEvent (event : Device.PointerEvent) :
    clicksOf (v.pointerEvent s now event).effects
      = if s.beingAdopted then [] else (event.click? s.target).toList := by
  have hfocus : clicksOf (if event.kind.isPress then [Effect.focus] else []) = [] := by
    cases event.kind.isPress <;> rfl
  have hclick := Pointer.click?_pointer v.settings v.pointer event
    (v.clock.read now event.timestamp).2 s.pointerLocked s.target
  unfold pointerEvent
  split
  · rfl
  · simp only [readClock]
    split
    · rename_i hreport
      rw [hreport] at hclick
      rw [hfocus, ← hclick]
      rfl
    · rename_i report hreport
      rw [hreport] at hclick
      have hfinished : ∀ w : View,
          clicksOf (if event.kind.isPress then w.finishComposition else (w, [])).2 = [] := by
        intro w
        cases event.kind.isPress with
        | true => exact clicksOf_finishComposition w
        | false => rfl
      rw [clicksOf_append, clicksOf_append_eq_nil
        (clicksOf_append_eq_nil hfocus (clicksOf_eq_nil (fun _ => rfl) _)) (hfinished _),
        clicksOf_routed_mouse, ← hclick]
      rfl

lemma clicksOf_hoverEvent (event : Device.HoverEvent) :
    clicksOf (v.hoverEvent s now event).effects = [] := by
  unfold hoverEvent
  split
  · rfl
  · refine List.filterMap_eq_nil_iff.mpr fun effect heffect => ?_
    obtain ⟨e, he, rfl⟩ := List.mem_map.mp heffect
    exact Pointer.click?_hover _ (Option.mem_toList.mp he) s.target

lemma clicksOf_leaveEvent : clicksOf (v.leaveEvent s now).effects = [] := by
  unfold leaveEvent
  split <;> rfl

/-! ## Other calls -/

lemma clicksOf_keyEvent (event : Device.KeyEvent) :
    clicksOf (v.keyEvent s now event).effects = [] := by
  have hfreed : clicksOf (if freesPointer s event then [Effect.unlockPointer] else []) = [] := by
    cases freesPointer s event <;> rfl
  have hfirst : ∀ actions : List Composition.Action,
      clicksOf ((if freesPointer s event then [Effect.unlockPointer] else [])
        ++ actions.map .composition) = [] :=
    fun actions => clicksOf_append_eq_nil hfreed (clicksOf_eq_nil (fun _ => rfl) _)
  have hdelivered : ∀ w : View, clicksOf (w.deliverKey s now event).effects = [] := by
    intro w
    unfold deliverKey
    split
    · rfl
    · split
      · rfl
      · exact clicksOf_eq_nil (fun _ => rfl) _
  unfold keyEvent
  simp only
  split
  · exact hfirst _
  · exact clicksOf_append_eq_nil (hfirst _) (hdelivered _)

lemma clicksOf_shortcutEvent (event : Device.KeyEvent) :
    clicksOf (v.shortcutEvent s event).effects = [] := by
  unfold shortcutEvent
  simp only
  split
  · split <;> rfl
  · rfl

lemma clicksOf_touchBatch (batch : Device.TouchBatch) :
    clicksOf (v.touchBatch s now batch).effects = [] := by
  have hmenu : ∀ w : View, clicksOf (w.menuAfterTouch s batch.kind).2 = [] :=
    fun w => clicksOf_eq_nil (fun _ => rfl) _
  have hfirst : clicksOf (if batch.kind = .began then
      (v.finishComposition.1, Effect.focus :: v.finishComposition.2) else (v, [])).2 = [] := by
    split
    · exact clicksOf_finishComposition v
    · rfl
  unfold touchBatch
  split
  · rfl
  · simp only
    split
    · exact hfirst
    · split
      · exact clicksOf_append_eq_nil hfirst (clicksOf_eq_nil (fun _ => rfl) _)
      · exact clicksOf_append_eq_nil hfirst (clicksOf_eq_nil (fun _ => rfl) _)
      · exact clicksOf_append_eq_nil (clicksOf_append_eq_nil
          (clicksOf_append_eq_nil hfirst (clicksOf_eq_nil (fun _ => rfl) _)) (hmenu _))
          (clicksOf_eq_nil (fun _ => rfl) _)

lemma clicksOf_focusEvent (event : Device.FocusEvent) :
    clicksOf (v.focusEvent event).effects = [] := by
  unfold focusEvent
  split
  · rfl
  · split
    · cases event.reason <;> rfl
    · exact clicksOf_append_eq_nil (clicksOf_eq_nil (fun _ => rfl) _) rfl

lemma clicksOf_acknowledge (id : Page.EventId) : clicksOf (v.acknowledge id).effects = [] := by
  unfold acknowledge
  simp only
  split
  · exact clicksOf_eq_nil (fun _ => rfl) _
  · rfl

lemma clicksOf_engineGesture (gesture : Page.GestureEvent) :
    clicksOf (v.engineGesture s gesture).effects = [] := by
  have hmeaning : clicksOf (v.gestureMeaning s gesture).2 = [] := by
    unfold gestureMeaning
    cases gesture.kind with
    | scrollBegin | scrollEnd => exact clicksOf_eq_nil (fun _ => rfl) _
    | _ => rfl
  unfold engineGesture
  split
  · rfl
  · exact clicksOf_append_eq_nil hmeaning rfl

end Parts

/-- **The clicks of a turn**: its own, unless the view is on its way. -/
theorem clicksOf_take (v : View) (t : Turn) : clicksOf (v.take t).effects
    = if t.surroundings.beingAdopted then [] else t.click?.toList := by
  obtain ⟨call, s, now⟩ := t
  -- A call that makes no click brings none to the page, on its way or not.
  have hother : ∀ {effects : List Effect}, clicksOf effects = [] →
      clicksOf effects = if s.beingAdopted then [] else (none : Option Click).toList := by
    intro effects hnone
    rw [hnone]
    cases s.beingAdopted <;> rfl
  cases call with
  | device event =>
      cases event with
      | pointer event => exact v.clicksOf_pointerEvent s now event
      | hover event => exact hother (v.clicksOf_hoverEvent s now event)
      | leave => exact hother (v.clicksOf_leaveEvent s now)
      | key event => exact hother (v.clicksOf_keyEvent s now event)
      | shortcut event => exact hother (v.clicksOf_shortcutEvent s event)
      | wheel event => exact hother (clicksOf_eq_nil (fun _ => rfl) _)
      | touch batch => exact hother (v.clicksOf_touchBatch s now batch)
      | gesture event => exact hother (clicksOf_eq_nil (fun _ => rfl) _)
      | focus event => exact hother (v.clicksOf_focusEvent event)
      | inputMethod event => exact hother (clicksOf_eq_nil (fun _ => rfl) _)
  | acknowledge id => exact hother (v.clicksOf_acknowledge id)
  | engineGesture gesture => exact hother (v.clicksOf_engineGesture s gesture)
  | fieldUpdated | boundsChanged | textSelected | flingStopped | handleEvent | contextMenu
  | command | openContextMenu => exact hother (clicksOf_eq_nil (fun _ => rfl) _)
  | reset => exact hother rfl

/-! ## Runs -/

/-- The clicks that are made in some turns. -/
def clicksMade (turns : List Turn) : List Click := turns.filterMap Turn.click?

/-- The turns at which the view is not on its way to another window. -/
def settled (turns : List Turn) : List Turn := turns.filter fun t => !t.surroundings.beingAdopted

lemma clicksMade_concat (turns : List Turn) (t : Turn) :
    clicksMade (turns ++ [t]) = clicksMade turns ++ t.click?.toList := by
  cases hclick : t.click? <;> simp [clicksMade, hclick]

lemma settled_concat (turns : List Turn) (t : Turn) :
    settled (turns ++ [t])
      = if t.surroundings.beingAdopted then settled turns else settled turns ++ [t] := by
  cases hadopted : t.surroundings.beingAdopted <;> simp [settled, hadopted]

lemma clicksOf_history (settings : Settings) (turns : List Turn) :
    clicksOf (history settings turns).log = clicksMade (settled turns) := by
  induction turns using List.reverseRecOn with
  | nil => rfl
  | append_singleton turns t ih =>
      rw [history_concat, History.next, clicksOf_append, ih, clicksOf_take, settled_concat]
      split
      · exact List.append_nil _
      · exact (clicksMade_concat _ t).symm

/-- Nothing is lost just if no click is made while the view is on its way. -/
lemma clicksMade_settled_iff (turns : List Turn) : clicksMade (settled turns) = clicksMade turns ↔
    ∀ t ∈ turns, t.surroundings.beingAdopted = true → t.click? = none := by
  induction turns with
  | nil => simp [settled]
  | cons t rest ih =>
      have hfewer : (clicksMade (settled rest)).length ≤ (clicksMade rest).length :=
        (List.filter_sublist.filterMap _).length_le
      rw [List.forall_mem_cons, ← ih]
      cases hadopted : t.surroundings.beingAdopted with
      | false =>
          cases hclick : t.click? <;> simp [settled, clicksMade, hadopted, hclick]
      | true =>
          cases hclick : t.click? with
          | none => simp [settled, clicksMade, hadopted, hclick]
          | some c =>
              -- The click is lost, and no other one makes up for it.
              have hmade : clicksMade (t :: rest) = c :: clicksMade rest := by
                simp [clicksMade, hclick]
              have hkept : settled (t :: rest) = settled rest := by simp [settled, hadopted]
              rw [hmade, hkept]
              refine ⟨fun heq => ?_, fun h => nomatch h.1 rfl⟩
              rw [heq, List.length_cons] at hfewer
              omega

/-- A click of another button changes nothing for a button. -/
lemma isDown_append_of_other {button : Page.MouseButton} (clicks : List Click) {t : Turn}
    (hother : ∀ c ∈ t.click?, c.button ≠ button) :
    isDown button (clicks ++ t.click?.toList) = isDown button clicks := by
  cases hclick : t.click? with
  | none => rw [Option.toList_none, List.append_nil]
  | some c => rw [Option.toList_some, isDown_concat, if_neg (hother c hclick)]

/-- The page and the device are at odds about a button only if its last click was lost. -/
lemma exists_lost_of_isDown_ne {turns : List Turn} {button : Page.MouseButton}
    (hodds : isDown button (clicksMade (settled turns)) ≠ isDown button (clicksMade turns)) :
    ∃ before t later c, turns = before ++ t :: later ∧ t.surroundings.beingAdopted = true ∧
      t.click? = some c ∧ c.button = button ∧ ∀ d ∈ clicksMade later, d.button ≠ button := by
  induction turns using List.reverseRecOn with
  | nil => exact absurd rfl hodds
  | append_singleton turns t ih =>
      rw [clicksMade_concat, settled_concat] at hodds
      by_cases hother : ∀ c ∈ t.click?, c.button ≠ button
      · have hbefore : isDown button (clicksMade (settled turns))
            ≠ isDown button (clicksMade turns) := by
          rw [isDown_append_of_other _ hother] at hodds
          split at hodds
          · exact hodds
          · rwa [clicksMade_concat, isDown_append_of_other _ hother] at hodds
        obtain ⟨before, lost, later, c, rfl, hadopted, hclick, hbutton, hlast⟩ := ih hbefore
        refine ⟨before, lost, later ++ [t], c, by simp, hadopted, hclick, hbutton, fun d hd => ?_⟩
        rw [clicksMade_concat, List.mem_append, Option.mem_toList] at hd
        exact hd.elim (hlast d) (hother d)
      · obtain ⟨c, hclick, hbutton⟩ : ∃ c, t.click? = some c ∧ c.button = button := by
          simpa using hother
        cases hadopted : t.surroundings.beingAdopted with
        | true => exact ⟨turns, t, [], c, rfl, hadopted, hclick, hbutton, List.forall_mem_nil _⟩
        | false =>
            refine absurd ?_ hodds
            simp [hadopted, hclick, clicksMade_concat, isDown_concat, hbutton]

/-- **When clicks reach the page.**  In any run the page hears of the clicks that are made while the
view is not on its way to another window, in order and one for one, and of no others.  So it hears
of all clicks just if none is made while the view is on its way.

Where the page and the device are at odds about a button, its last click was lost. -/
theorem clicks_reach_page_iff (settings : Settings) (turns : List Turn) :
    let heard := clicksOf (history settings turns).log
    heard = clicksMade (settled turns) ∧
    (heard = clicksMade turns ↔
      ∀ t ∈ turns, t.surroundings.beingAdopted = true → t.click? = none) ∧
    ∀ button, isDown button heard ≠ isDown button (clicksMade turns) →
      ∃ before t later c, turns = before ++ t :: later ∧ t.surroundings.beingAdopted = true ∧
        t.click? = some c ∧ c.button = button ∧ ∀ d ∈ clicksMade later, d.button ≠ button := by
  intro heard
  have hheard : heard = clicksMade (settled turns) := clicksOf_history settings turns
  rw [hheard]
  exact ⟨rfl, clicksMade_settled_iff turns, fun button => exists_lost_of_isDown_ne⟩

/-- The left button goes down or up. -/
def leftButton (kind : Device.PointerKind) (beingAdopted : Bool) : Turn :=
  { call := .device (.pointer
      { kind := kind
        button := .left
        buttons := kind.defaultButtons .left
        position := .zero
        globalPosition := .zero })
    surroundings := { quietScene with beingAdopted := beingAdopted } }

/-- The button goes down, and the view is on its way to another window as it goes up. -/
def releasedAway : List Turn := [leftButton .press false, leftButton .release true]

theorem clicks_reach_page_iff_releasedAway :
    (¬ ∀ t ∈ releasedAway, t.surroundings.beingAdopted = true → t.click? = none) ∧
    ∃ before t later c, releasedAway = before ++ t :: later ∧
      t.surroundings.beingAdopted = true ∧ t.click? = some c ∧ c.button = .left ∧
      ∀ d ∈ clicksMade later, d.button ≠ .left := by
  obtain ⟨hheard, hall, hlost⟩ := clicks_reach_page_iff {} releasedAway
  have hodds : isDown .left (clicksOf (history {} releasedAway).log)
      ≠ isDown .left (clicksMade releasedAway) := Bool.noConfusion
  exact ⟨fun h => hodds (congrArg (isDown .left) (hall.mpr h)), hlost .left hodds⟩

/-- **A button stays pressed for the page, and the toolkit released it.**  The view, too, goes on
taking it to be held. -/
theorem lost_release_holds_button :
    (clicksOf (history {} releasedAway).log).map (fun c => (c.down, c.button)) = [(true, .left)] ∧
    (clicksMade releasedAway).map (fun c => (c.down, c.button))
      = [(true, .left), (false, .left)] ∧
    isDown .left (clicksOf (history {} releasedAway).log) = true ∧
    isDown .left (clicksMade releasedAway) = false ∧
    (after {} releasedAway).pointer.held.left = true := by
  exact ⟨rfl, rfl, rfl, rfl, rfl⟩

end View

end ViewInput
