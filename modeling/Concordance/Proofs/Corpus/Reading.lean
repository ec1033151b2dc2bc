import Mathlib
import Concordance.Corpus.Reading

/-!
# Laws of readings

* Readings are a lawful monad: what is read, and what is asked for on the way, does not depend on
  how the parts of a reading are grouped.
* `bind_ok` and `bind_error` tell what follows a reading that has ended.
-/

namespace Concordance.Reading

variable {ε α β : Type}

theorem bind_ok (a : α) (asked : List String) (f : α → Reading ε β) :
    (⟨.ok a, asked⟩ : Reading ε α) >>= f = ⟨(f a).outcome, asked ++ (f a).asked⟩ := rfl

theorem bind_error (e : ε) (asked : List String) (f : α → Reading ε β) :
    (⟨.error e, asked⟩ : Reading ε α) >>= f = ⟨.error e, asked⟩ := rfl

theorem pure_eq (a : α) : (pure a : Reading ε α) = ⟨.ok a, []⟩ := rfl

theorem id_map (r : Reading ε α) : id <$> r = r := by
  rcases r with ⟨_ | a, asked⟩
  · rfl
  · exact congrArg (Reading.mk _) (List.append_nil asked)

theorem bind_assoc {γ : Type} (r : Reading ε α) (f : α → Reading ε β) (g : β → Reading ε γ) :
    r >>= f >>= g = r >>= fun a => f a >>= g := by
  rcases r with ⟨_ | a, asked⟩
  · rfl
  · rcases hf : f a with ⟨_ | b, more⟩
    · simp only [bind_ok, bind_error, hf]
    · simp only [bind_ok, hf, List.append_assoc]

instance : LawfulMonad (Reading ε) :=
  .mk' (Reading ε) id_map (fun _ _ => rfl) bind_assoc

end Concordance.Reading
