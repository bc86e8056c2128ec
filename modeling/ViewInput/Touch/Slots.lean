import ViewInput.Device.Event
import ViewInput.Settings

/-!
# Touch slots

The toolkit tells fingers apart by arbitrary numbers.  The engine wants small ones, so a finger that
goes down is bound to **the least free of sixteen slots** and keeps it until it is released.

A batch is bound as a whole: if it needs more slots than there are, nothing is bound.  Where the
slots are kept in one place, that takes undoing: the fingers of the batch are bound one by one, and
when one of them finds no slot, those before it that are new are released again.
-/

namespace ViewInput.Touch

open Device (TouchPoint)

/-- How many fingers can be down at once. -/
def maxFingers : Nat := 16

/-- A finger of a batch, with its slot. -/
structure Contact where
  slot : Nat
  point : TouchPoint
deriving DecidableEq

/-- Which fingers hold which slots. -/
structure Slots where
  /-- The slots that are taken, as a set of bits. -/
  used : BitVec 16 := 0
  /-- The fingers with their slots. -/
  bindings : List (Int × Nat) := []
deriving DecidableEq

namespace Slots

def empty : Slots := {}

def liveCount (s : Slots) : Nat := s.bindings.length

def slot? (s : Slots) (finger : Int) : Option Nat := s.bindings.lookup finger

/-- The least slot that is not taken. -/
def leastFree? (s : Slots) : Option Nat :=
  (List.range maxFingers).find? fun i => !s.used.getLsbD i

/-- The slot of a finger, and the slots with the finger bound. -/
def bind (s : Slots) (finger : Int) : Except InputError (Nat × Slots) :=
  match s.slot? finger with
  | some slot => .ok (slot, s)
  | none =>
    match s.leastFree? with
    | some slot =>
      .ok (slot,
        { used := s.used ||| BitVec.twoPow 16 slot
          bindings := s.bindings ++ [(finger, slot)] })
    | none => .error (.tooManyTouches s.liveCount)

/-- The bindings without that of a finger.  The last binding takes its place. -/
def unbind (finger : Int) : List (Int × Nat) → List (Int × Nat)
  | [] => []
  | b :: rest =>
    if b.1 = finger then rest.getLast?.toList ++ rest.dropLast else b :: unbind finger rest

/-- The slots without a finger. -/
def release (s : Slots) (finger : Int) : Slots :=
  match s.slot? finger with
  | some slot =>
    { used := s.used &&& ~~~BitVec.twoPow 16 slot
      bindings := unbind finger s.bindings }
  | none => s

/-- The slots without some fingers. -/
def releaseAll (s : Slots) (fingers : List Int) : Slots := fingers.foldl release s

/-- The fingers of a batch with their slots, in order, and the slots with all of them bound. -/
def bindAll (s : Slots) : List TouchPoint → Except InputError (List Contact × Slots)
  | [] => .ok ([], s)
  | point :: points =>
    match s.bind point.finger with
    | .error e => .error e
    | .ok (slot, s) =>
      match s.bindAll points with
      | .error e => .error e
      | .ok (contacts, s) => .ok (⟨slot, point⟩ :: contacts, s)

/-- The fingers that a batch releases. -/
def releasedFingers (points : List TouchPoint) : List Int :=
  (points.filter fun p => decide (p.state = .released)).map (·.finger)

/-- **A batch as a whole**: all its fingers with their slots, and the slots as they are once the
released fingers have gone. -/
def bindBatch (s : Slots) (points : List TouchPoint) : Except InputError (List Contact × Slots) :=
  match s.bindAll points with
  | .error e => .error e
  | .ok (contacts, s) => .ok (contacts, s.releaseAll (releasedFingers points))

/-! ## A batch in place -/

/-- The fingers of a batch bound one by one, where `fresh` are those that the batch has bound so far.
When one of them finds no slot, the fresh ones are released. -/
def bindOrUndo (s : Slots) (fresh : List Int) :
    List TouchPoint → Except InputError (List Contact) × Slots
  | [] => (.ok [], s)
  | point :: points =>
    match s.bind point.finger with
    | .error e => (.error e, s.releaseAll fresh)
    | .ok (slot, s') =>
      let fresh := if s.slot? point.finger = none then fresh ++ [point.finger] else fresh
      match s'.bindOrUndo fresh points with
      | (.error e, s'') => (.error e, s'')
      | (.ok contacts, s'') => (.ok (⟨slot, point⟩ :: contacts), s'')

/-- **A batch in place**: what comes of it, and the slots as it leaves them. -/
def takeBatch (s : Slots) (points : List TouchPoint) :
    Except InputError (List Contact) × Slots :=
  match s.bindOrUndo [] points with
  | (.error e, s') => (.error e, s')
  | (.ok contacts, s') => (.ok contacts, s'.releaseAll (releasedFingers points))

end Slots

end ViewInput.Touch
