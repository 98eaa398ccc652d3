import GradleLocalstack.Foundation.Service

/-!
# Scripted functions

A function whose outcomes are written down beforehand: its `k`-th call ends as the
script says.  It runs in a journal, the list of everything the run does, oldest first:
the calls of the function, the lines printed and the pauses.  What a wrapper does with
the function it wraps is read off the journal.
-/

set_option autoImplicit false

namespace Foundation

/-- One thing that a run does. -/
inductive Event where
  | called
  | printed (text : String)
  | waited (round : ℕ)
  deriving DecidableEq, Repr

namespace Event

/-- The event is a call or a pause. -/
def isStep : Event → Bool
  | called => true
  | printed _ => false
  | waited _ => true

/-- Is the event a call of the function? -/
def isCall : Event → Bool
  | called => true
  | _ => false

/-- Is the event a pause? -/
def isWait : Event → Bool
  | waited _ => true
  | _ => false

end Event

/-- The world of a scripted function. -/
structure Journal where
  events : List Event
  deriving DecidableEq, Repr

namespace Journal

/-- The journal of a run that has done nothing yet. -/
def empty : Journal := ⟨[]⟩

/-- The journal with more events at its end. -/
def extend (j : Journal) (es : List Event) : Journal := ⟨j.events ++ es⟩

/-- The number of calls of the function. -/
def calls (j : Journal) : ℕ := j.events.countP Event.isCall

/-- The number of pauses. -/
def waits (j : Journal) : ℕ := j.events.countP Event.isWait

/-- The calls and the pauses, without what was printed. -/
def steps (j : Journal) : List Event := j.events.filter Event.isStep

/-- Lines and pauses go into the journal. -/
instance : Console Journal where
  emit
    | .line text, j => j.extend [.printed text]
    | .pause round, j => j.extend [.waited round]

/-- Nothing has happened in the empty journal. -/
@[simp] theorem events_empty : empty.events = [] := rfl

/-- No call has been made in the empty journal. -/
@[simp] theorem calls_empty : empty.calls = 0 := rfl

/-- Events are added at the end. -/
@[simp] theorem events_extend (j : Journal) (es : List Event) :
    (j.extend es).events = j.events ++ es := rfl

/-- Events may be added one after the other or all at once. -/
@[simp] theorem extend_extend (j : Journal) (es es' : List Event) :
    (j.extend es).extend es' = j.extend (es ++ es') := by
  simp [extend]

/-- The calls of an extension are counted with those before. -/
@[simp] theorem calls_extend (j : Journal) (es : List Event) :
    (j.extend es).calls = j.calls + es.countP Event.isCall := by
  simp [calls]

/-- The steps of an extension come after those before. -/
@[simp] theorem steps_extend (j : Journal) (es : List Event) :
    (j.extend es).steps = j.steps ++ es.filter Event.isStep := by
  simp [steps]

/-- The pauses are among the steps. -/
theorem waits_eq_countP_steps (j : Journal) : j.waits = j.steps.countP Event.isWait := by
  unfold waits steps
  rw [List.countP_filter]
  apply List.countP_congr
  intro e _
  cases e <;> simp [Event.isWait, Event.isStep]

/-- A line extends the journal by what was printed. -/
@[simp] theorem emit_line (text : String) (j : Journal) :
    Console.emit (.line text) j = j.extend [.printed text] := rfl

/-- A pause extends the journal by the wait. -/
@[simp] theorem emit_pause (round : ℕ) (j : Journal) :
    Console.emit (.pause round) j = j.extend [.waited round] := rfl

end Journal

section Scripted

variable {ε α : Type}

/-- The function whose `k`-th call has the outcome `outcomes k`. -/
def scripted (outcomes : ℕ → Except ε α) : Prog Journal ε α := fun j =>
  match outcomes j.calls with
  | .ok a => (.returned a, j.extend [.called])
  | .error e => (.thrown e, j.extend [.called])

/-- A call whose outcome is a value returns it and is written down. -/
theorem scripted_ok {outcomes : ℕ → Except ε α} {j : Journal} {a : α}
    (h : outcomes j.calls = .ok a) :
    scripted outcomes j = (.returned a, j.extend [.called]) := by
  unfold scripted
  rw [h]

/-- A call whose outcome is an error throws it and is written down. -/
theorem scripted_error {outcomes : ℕ → Except ε α} {j : Journal} {e : ε}
    (h : outcomes j.calls = .error e) :
    scripted outcomes j = (.thrown e, j.extend [.called]) := by
  unfold scripted
  rw [h]

end Scripted

end Foundation
