import TenantBroker.Cluster.Failure
import TenantBroker.Cluster.Kind
import TenantBroker.Json

/-!
# Calls on a cluster, and programs that make them

There are four calls: create, get, list and delete. A program either is done or makes one call and
goes on with the reply. What the calls do is up to a handler, so one program runs on any cluster,
and two programs can take turns call by call. The four calls are those of `SPEC_FULL.md`, section 0.
-/

namespace TenantBroker.Cluster

/-- A call on the cluster. Names and namespaces come from records and may be any value; null stands
for none. -/
inductive Call where
  | create (kind : Kind) (manifest : Json)
  | get (kind : Kind) (name ns : Json)
  | list (kind : Kind) (ns : Json)
  | delete (kind : Kind) (name ns : Json)

/-- What a call gives back when it succeeds: the object created or found, the objects listed, or
nothing. -/
abbrev Call.Reply : Call → Type
  | .create _ _ => Json
  | .get _ _ _ => Json
  | .list _ _ => List Json
  | .delete _ _ _ => Unit

/-- A computation that makes calls. -/
inductive Program (α : Type) where
  | done (value : α)
  | call (c : Call) (next : Except Failure c.Reply → Program α)

/-- How a cluster in a state of type `σ` answers a call. -/
abbrev Handler (σ : Type) := (c : Call) → σ → Except Failure c.Reply × σ

namespace Program

variable {α β γ : Type}

/-- Goes on with another program when the first is done. -/
def bind : Program α → (α → Program β) → Program β
  | .done value, f => f value
  | .call c next, f => .call c fun reply ↦ (next reply).bind f

/-- Changes the value of a program. -/
def map (f : α → β) (p : Program α) : Program β := p.bind fun value ↦ .done (f value)

instance : Monad Program where
  pure := .done
  bind := bind

/-- Runs a program to its end. -/
def run {σ : Type} (handle : Handler σ) : Program α → σ → α × σ
  | .done value, s => (value, s)
  | .call c next, s =>
    let (reply, s) := handle c s
    (next reply).run handle s

/-- Makes one call and is done with the reply. -/
def ofCall (c : Call) : Program (Except Failure c.Reply) := .call c .done

/-- Goes on only after a success. -/
def andThen {ε : Type} (p : Program (Except ε α)) (f : α → Program (Except ε β)) :
    Program (Except ε β) :=
  p.bind fun
    | .ok value => f value
    | .error e => .done (.error e)

@[simp] theorem run_done {σ : Type} (handle : Handler σ) (value : α) (s : σ) :
    (Program.done value).run handle s = (value, s) := rfl

@[simp] theorem run_call {σ : Type} (handle : Handler σ) (c : Call)
    (next : Except Failure c.Reply → Program α) (s : σ) :
    (Program.call c next).run handle s =
      (next (handle c s).1).run handle (handle c s).2 := rfl

/-- Running two programs one after the other. -/
theorem run_bind {σ : Type} (handle : Handler σ) (p : Program α) (f : α → Program β) (s : σ) :
    (p.bind f).run handle s = (f (p.run handle s).1).run handle (p.run handle s).2 := by
  induction p generalizing s with
  | done value => rfl
  | call c next ih => exact ih _ _

/-- Changing the value does not touch the run. -/
theorem run_map {σ : Type} (handle : Handler σ) (f : α → β) (p : Program α) (s : σ) :
    (p.map f).run handle s = (f (p.run handle s).1, (p.run handle s).2) :=
  run_bind handle p _ s

/-- Changing the value twice is one change. -/
theorem map_map (f : α → β) (g : β → γ) (p : Program α) : (p.map f).map g = p.map (g ∘ f) := by
  induction p with
  | done value => rfl
  | call c next ih => exact congrArg (call c) (funext ih)

end Program

end TenantBroker.Cluster
