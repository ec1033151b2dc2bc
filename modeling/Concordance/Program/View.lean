import Concordance.Corpus.Reading
import Concordance.Program.Machine
import Concordance.Query.Condition

/-!
# Entries as the machine sees them

A view is an entry whose content is read when a test first asks for it, and kept from then on.  A
test of the name reads nothing.

* `View.check` runs a test on a view.
* `View.execute` runs a program on the view of an entry that has not been read.
-/

namespace Concordance

/-- An entry whose content may not have been read yet. -/
structure View where
  /-- The name of the entry. -/
  name : String
  /-- The content, once it has been read. -/
  content : Option String
  deriving DecidableEq, Repr

namespace View

variable {ε : Type}

/-- Has the content been read? -/
def isLoaded (v : View) : Bool := v.content.isSome

/-- The content of an entry, read on first use. -/
def text (load : String → Reading ε String) : StateT View (Reading ε) String := fun v =>
  match v.content with
  | some content => pure (content, v)
  | none => do
    let content ← load v.name
    pure (content, ⟨v.name, some content⟩)

/-- Runs a test. -/
def check (load : String → Reading ε String) (t : Test) : StateT View (Reading ε) Bool := fun v =>
  match t.field with
  | .name => pure (t.condition.isMatch v.name, v)
  | .text => do
    let (content, v) ← text load v
    pure (t.condition.isMatch content, v)

/-- Runs a program on an entry. -/
def execute (load : String → Reading ε String) (program : Program Test) (v : View) :
    Reading ε (Bool × View) :=
  Machine.execute (check load) program v

end View

end Concordance
