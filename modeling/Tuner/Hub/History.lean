import Tuner.Hub

/-!
# What happens to a hub

Everything that can be done with a hub, and what comes of it: the answer to whoever does it, and
what the handlers make of the follower. Handlers cannot reach the hub, so a delivery leaves it as it
is.
-/

namespace Tuner.Hub

variable {σ : Type}

inductive Op (σ : Type) where
  | subscribe (handler : Handler σ)
  | off (id : Nat)
  | dispatch (e : Event)
  | deliver (text : String)
  | receive (e : SocketEvent)
  /-- What is done with the link past the hub. -/
  | link (op : Link.Op)

inductive Answer where
  /-- The number of the new subscription. -/
  | number (id : Nat)
  | removed (known : Bool)
  /-- How many handlers ran. -/
  | ran (count : Nat)
  | nothing
  deriving Repr, DecidableEq

/-- What comes of an operation besides the next hub. -/
structure Effect (σ : Type) where
  answer : Answer
  follower : σ

/-- The hub after an operation. -/
def step (h : Hub σ) : Op σ → Hub σ
  | .subscribe handler => h.subscribe handler
  | .off id => h.off id
  | .dispatch _ => h
  | .deliver _ => h
  | .receive e => h.receive e
  | .link op => { h with link := h.link.step op }

def effect (now : Moment) (h : Hub σ) (follower : σ) : Op σ → Effect σ
  | .subscribe handler => ⟨.number h.nextId, h.greet now handler follower⟩
  | .off id => ⟨.removed (h.has id), follower⟩
  | .dispatch e => ⟨.ran (h.handlerCount e.kind), h.dispatch now e follower⟩
  | .deliver text => ⟨.ran (h.deliveryCount text), h.deliver now text follower⟩
  | .receive e => ⟨.nothing, h.follow now e follower⟩
  | .link _ => ⟨.nothing, follower⟩

/-- The hub after a history. -/
def run (h : Hub σ) (ops : List (Op σ)) : Hub σ :=
  ops.foldl step h

/-- What comes of each operation of a history, each at its moment. -/
def effects (h : Hub σ) (follower : σ) : List (Moment × Op σ) → List (Effect σ)
  | [] => []
  | (now, op) :: rest =>
    let e := h.effect now follower op
    e :: (h.step op).effects e.follower rest

end Tuner.Hub
