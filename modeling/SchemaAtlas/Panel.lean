/-!
# The assistant panel

The panel at the corner of the window is a small state machine. Each of its elements
carries a set of class names that decide how it looks. Some changes are deferred, so
that a transition can start from a clean state: they wait in a queue until their time
has come. A newer change of an element replaces the one that still waits for it.
Times are in milliseconds.
-/

namespace SchemaAtlas

/-- A set of class names, in order. -/
structure ClassList where
  names : List String := []
deriving DecidableEq, Inhabited, Repr

namespace ClassList

/-- Puts a name at its place. -/
def insertName (name : String) : List String → List String
  | [] => [name]
  | n :: ns => if name < n then name :: n :: ns else if name = n then n :: ns else n :: insertName name ns

def contains (c : ClassList) (name : String) : Bool := c.names.contains name

def add (c : ClassList) (name : String) : ClassList := ⟨insertName name c.names⟩

def remove (c : ClassList) (name : String) : ClassList := ⟨c.names.filter (· != name)⟩

/-- Removes a name that is there, adds one that is not. -/
def toggle (c : ClassList) (name : String) : ClassList :=
  if c.contains name then c.remove name else c.add name

end ClassList

namespace Panel

/-- The parts of the panel. -/
inductive Element
  | button
  | panel
  | callBar
  | microphone
deriving DecidableEq, Repr

/-- How long changes are deferred, and how far the call bar moves. -/
structure Timings where
  openDelay : Nat := 10
  closeDelay : Nat := 300
  callBarShift : Float32 := 20
deriving Inhabited

/-- A class that an element gets at some time. -/
structure Deferred where
  due : Nat
  element : Element
  name : String
deriving DecidableEq, Repr

end Panel

open Panel in
/-- The panel's state. -/
structure Panel where
  timings : Timings := {}
  isOpen : Bool := false
  button : ClassList := {}
  panel : ClassList := {}
  callBar : ClassList := {}
  microphone : ClassList := {}
  callBarOffset : Float32 := 0
  pending : List Deferred := []
deriving Inhabited

namespace Panel

/-- The classes of an element. -/
def classes (p : Panel) : Element → ClassList
  | .button => p.button
  | .panel => p.panel
  | .callBar => p.callBar
  | .microphone => p.microphone

/-- Gives an element a class. -/
def addClass (p : Panel) (e : Element) (name : String) : Panel :=
  match e with
  | .button => { p with button := p.button.add name }
  | .panel => { p with panel := p.panel.add name }
  | .callBar => { p with callBar := p.callBar.add name }
  | .microphone => { p with microphone := p.microphone.add name }

/-- Defers a class of an element, instead of what was deferred for it before. -/
def schedule (p : Panel) (e : Element) (name : String) (due : Nat) : Panel :=
  { p with pending := p.pending.filter (·.element != e) ++ [⟨due, e, name⟩] }

/-- Opens a closed panel, closes an open one. Closing also puts the microphone away. -/
def toggle (p : Panel) (now : Nat) : Panel :=
  let p := { p with isOpen := !p.isOpen, button := p.button.toggle "active" }
  if p.isOpen then
    { p with panel := p.panel.remove "close" }.schedule .panel "open" (now + p.timings.openDelay)
  else
    let due := now + p.timings.closeDelay
    ({ p with panel := p.panel.remove "open", callBarOffset := 0
              microphone := p.microphone.remove "open" }.schedule .panel "close" due).schedule
      .microphone "close" due

/-- Starts a call: the call bar moves aside and the microphone comes up. -/
def engage (p : Panel) (now : Nat) : Panel :=
  { p with callBarOffset := p.timings.callBarShift
           microphone := p.microphone.remove "close" }.schedule .microphone "open"
    (now + p.timings.openDelay)

def startGlow (p : Panel) : Panel := { p with panel := p.panel.add "glow-effect" }
def stopGlow (p : Panel) : Panel := { p with panel := p.panel.remove "glow-effect" }
def setTimings (p : Panel) (t : Timings) : Panel := { p with timings := t }

/-- Carries out the deferred changes that are due, the oldest first, and tells whether there were any. -/
def advance (p : Panel) (now : Nat) : Panel × Bool :=
  let due := (p.pending.filter (·.due ≤ now)).mergeSort (·.due ≤ ·.due)
  let rest := { p with pending := p.pending.filter (!·.due ≤ now) }
  (due.foldl (fun p d => p.addClass d.element d.name) rest, !due.isEmpty)

/-- When the next deferred change is due. -/
def nextDeadline (p : Panel) : Option Nat := (p.pending.map Deferred.due).min?

/-- What can happen to a panel. -/
inductive Event
  | toggle (now : Nat)
  | engage (now : Nat)
  | startGlow
  | stopGlow
  | setTimings (t : Timings)
  | advance (now : Nat)

/-- The panel after an event. -/
def act (p : Panel) : Event → Panel
  | .toggle now => p.toggle now
  | .engage now => p.engage now
  | .startGlow => p.startGlow
  | .stopGlow => p.stopGlow
  | .setTimings t => p.setTimings t
  | .advance now => (p.advance now).1

end Panel
end SchemaAtlas
