import Propositional.Instruments
/-!
# Propositional.Journal

Tabulation with a list of its events.

A journal is a state that only grows. Each event is entered at the moment it happens, so a
tabulation that fails has entered what happened before, and nothing after. An event whose level is
not let through is not entered; where nothing is said, all are let through.
-/

namespace Propositional

/-- Computations that keep a journal, the latest event first. -/
abbrev Journal := StateM (List Event)

namespace Journal

/-- The instruments that enter each event of a level that is let through. -/
def instruments (lets : Level → Bool) : Instruments Journal where
  record event := if lets event.level then modify (event :: ·) else pure ()
  check _ _ := pure ()

/-- The result of a computation, and its events in order. -/
def read {α : Type} (computation : Journal α) : α × List Event :=
  let (result, events) := Id.run (computation.run [])
  (result, events.reverse)

/-- The text in another notation, and what is reported meanwhile. -/
def convert (source target : Notation) (text : Text) (lets : Level → Bool := fun _ => true) :
    Text × List Event :=
  read ((instruments lets).convert source target text)

/-- The table of a text in a given notation, and what is reported meanwhile. -/
def tabulateText (config : Config) (style : Notation) (text : Text)
    (lets : Level → Bool := fun _ => true) : Except Error Table × List Event :=
  read ((instruments lets).tabulateText config style text).run

end Journal

end Propositional
