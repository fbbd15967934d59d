import TenantBroker.Proofs.Cluster.Conduct

/-!
# The calls of a run

A run of a program makes a list of calls, which depends on how they are answered. What bounds the
calls of the program bounds this list too, and `Yields` bounds the values with which it can end.
-/

namespace TenantBroker.Cluster.Program

variable {α β ε σ : Type} {handle : Handler σ} {P : Call → Prop} {Q : α → Prop}

/-- The calls that a run makes, in their order. -/
def calls (handle : Handler σ) : Program α → σ → List Call
  | .done _, _ => []
  | .call c next, s => c :: (next (handle c s).1).calls handle (handle c s).2

/-- Two programs one after the other make the calls of both. -/
theorem calls_bind (p : Program α) (f : α → Program β) (s : σ) :
    (p.bind f).calls handle s =
      p.calls handle s ++ (f (p.run handle s).1).calls handle (p.run handle s).2 := by
  induction p generalizing s with
  | done value => rfl
  | call c next ih => exact congrArg (c :: ·) (ih _ _)

/-- Changing the value does not change the calls. -/
@[simp] theorem calls_map (p : Program α) (f : α → β) (s : σ) :
    (p.map f).calls handle s = p.calls handle s :=
  (calls_bind p _ s).trans (List.append_nil _)

/-- The calls of a run are calls of the program. -/
theorem calls_of_only {p : Program α} (hp : p.Only P) (s : σ) : ∀ c ∈ p.calls handle s, P c := by
  induction p generalizing s with
  | done value => exact List.forall_mem_nil _
  | call c next ih => exact List.forall_mem_cons.mpr ⟨hp.1, ih _ (hp.2 _) _⟩

/-! ## The values of a program -/

/-- Whatever the replies, the program ends with a value of one sort. -/
def Yields (Q : α → Prop) : Program α → Prop
  | .done value => Q value
  | .call _ next => ∀ reply, (next reply).Yields Q

/-- Every program ends with some value. -/
theorem yields_true (p : Program α) : p.Yields fun _ ↦ True := by
  induction p with
  | done value => trivial
  | call c next ih => exact ih

/-- Two programs one after the other yield what the second one does after the first. -/
theorem yields_bind {R : β → Prop} {p : Program α} {f : α → Program β} (hp : p.Yields Q)
    (hf : ∀ value, Q value → (f value).Yields R) : (p.bind f).Yields R := by
  induction p with
  | done value => exact hf value hp
  | call c next ih => exact fun reply ↦ ih reply (hp reply)

/-- Changing the value changes what is yielded along. -/
theorem yields_map {R : β → Prop} {p : Program α} {f : α → β} (hp : p.Yields Q)
    (hf : ∀ value, Q value → R (f value)) : (p.map f).Yields R :=
  yields_bind hp hf

/-- A program that goes on after a success yields what it does then, or the error. -/
theorem yields_andThen {Q : Except ε α → Prop} {R : Except ε β → Prop} {p : Program (Except ε α)}
    {f : α → Program (Except ε β)} (hp : p.Yields Q) (hf : ∀ value, (f value).Yields R)
    (herror : ∀ e, Q (.error e) → R (.error e)) : (p.andThen f).Yields R := by
  refine yields_bind hp fun outcome houtcome ↦ ?_
  cases outcome with
  | ok value => exact hf value
  | error e => exact herror e houtcome

/-- A run ends with a value that the program yields. -/
theorem run_of_yields (handle : Handler σ) {p : Program α} (hp : p.Yields Q) (s : σ) :
    Q (p.run handle s).1 := by
  induction p generalizing s with
  | done value => exact hp
  | call c next ih => exact ih _ (hp _) _

end TenantBroker.Cluster.Program
