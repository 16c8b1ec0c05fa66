/-
# Programs that ask

The code of a plugin is a finite program: it computes, and from time to time it asks its host for something and
goes on with the reply. A signature lists the requests and the type of each reply. A program is a well-founded
tree, so every program ends, whatever the replies are; a host that serves each request gives the program a
meaning (`run`). Main statement: `run_bind`, a sequence of programs runs one after the other.
-/

namespace Calibration

/-- The requests of a program, and the type of reply to each. -/
structure Signature where
  Request : Type
  Reply : Request → Type

/-- A program with requests of a signature. -/
inductive Task (S : Signature) (α : Type) : Type where
  | done (value : α)
  | ask (request : S.Request) (next : S.Reply request → Task S α)

namespace Task

variable {S : Signature} {α β σ : Type}

/-- One program after the other. -/
def bind (t : Task S α) (f : α → Task S β) : Task S β :=
  match t with
  | done value => f value
  | ask q next => ask q fun reply => (next reply).bind f

instance : Monad (Task S) where
  pure := done
  bind := bind

/-- The program that asks once. -/
def request (q : S.Request) : Task S (S.Reply q) := ask q done

/-- Runs a program with a host that serves each request and has a state. -/
def run (serve : (q : S.Request) → σ → S.Reply q × σ) : Task S α → σ → α × σ
  | done value, s => (value, s)
  | ask q next, s =>
    let (reply, s) := serve q s
    (next reply).run serve s

@[simp] theorem run_pure (serve : (q : S.Request) → σ → S.Reply q × σ) (a : α) (s : σ) :
    (pure a : Task S α).run serve s = (a, s) := rfl

@[simp] theorem run_request (serve : (q : S.Request) → σ → S.Reply q × σ) (q : S.Request) (s : σ) :
    (request q).run serve s = serve q s := rfl

/-- **A sequence of programs runs one after the other.** The second one is served from the state that the first one
has left. -/
@[simp] theorem run_bind (serve : (q : S.Request) → σ → S.Reply q × σ) (t : Task S α)
    (f : α → Task S β) (s : σ) :
    (t >>= f).run serve s = (f (t.run serve s).1).run serve (t.run serve s).2 := by
  change (t.bind f).run serve s = _
  induction t generalizing s with
  | done value => rfl
  | ask q next ih => exact ih _ _

/-- The empty program at the end of a sequence is no step. -/
theorem bind_done (t : Task S α) : t.bind done = t := by
  induction t with
  | done value => rfl
  | ask q next ih => exact congrArg (ask q) (funext ih)

/-- It makes no difference how the parts of a sequence are grouped. -/
theorem bind_assoc {γ : Type} (t : Task S α) (f : α → Task S β) (g : β → Task S γ) :
    (t.bind f).bind g = t.bind fun a => (f a).bind g := by
  induction t with
  | done value => rfl
  | ask q next ih => exact congrArg (ask q) (funext ih)

instance : LawfulMonad (Task S) :=
  LawfulMonad.mk' (Task S) bind_done (fun _ _ => rfl) bind_assoc

/-- A fact about the host that serving a request keeps, a program keeps. -/
theorem run_preserves {serve : (q : S.Request) → σ → S.Reply q × σ} {P : σ → Prop}
    (keeps : ∀ q s, P s → P (serve q s).2) (t : Task S α) {s : σ} (h : P s) : P (t.run serve s).2 := by
  induction t generalizing s with
  | done value => exact h
  | ask q next ih => exact ih _ (keeps q s h)

end Task
end Calibration
