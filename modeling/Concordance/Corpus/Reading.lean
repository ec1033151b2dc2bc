/-!
# Readings

A reading asks a store for contents by name.  It ends with a value or with an error, and it keeps
the names that it asked for, so that one can say what was read and what was not.

* `Reading.bind_outcome` and `Reading.bind_asked` tell what one reading after another comes to.
-/

namespace Concordance

/-- The outcome of asking a store for contents. -/
structure Reading (ε α : Type) where
  /-- The value, or the error that ended the reading. -/
  outcome : Except ε α
  /-- The names asked for, in order. -/
  asked : List String

namespace Reading

variable {ε α β : Type}

/-- Asks for one name, with what comes of it. -/
def ask (load : String → Except ε α) (name : String) : Reading ε α := ⟨load name, [name]⟩

/-- Ends with an error, without asking. -/
def fail (e : ε) : Reading ε α := ⟨.error e, []⟩

/-- Ends with a value or an error, without asking. -/
def ofExcept (r : Except ε α) : Reading ε α := ⟨r, []⟩

instance : Monad (Reading ε) where
  pure a := ⟨.ok a, []⟩
  bind r f :=
    match r with
    | ⟨.ok a, asked⟩ =>
      let next := f a
      ⟨next.outcome, asked ++ next.asked⟩
    | ⟨.error e, asked⟩ => ⟨.error e, asked⟩

@[simp] theorem pure_outcome (a : α) : (pure a : Reading ε α).outcome = .ok a := rfl

@[simp] theorem pure_asked (a : α) : (pure a : Reading ε α).asked = [] := rfl

theorem bind_outcome (r : Reading ε α) (f : α → Reading ε β) :
    (r >>= f).outcome = r.outcome.bind fun a => (f a).outcome := by
  rcases r with ⟨_ | _, _⟩ <;> rfl

end Reading

end Concordance
