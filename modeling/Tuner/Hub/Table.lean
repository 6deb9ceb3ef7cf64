import Tuner.Hub.History

/-!
# A hub laid out by kinds

A delivery should not look at the handlers of other kinds. This layout of a hub keeps one list for
each kind of event and one for the connection. Nothing holds these lists in an order: a subscription
is looked for in whatever order the kinds come, which may be another one each time.
-/

namespace Tuner

/-- A hub whose subscriptions are kept by what they are for. -/
structure Table (σ : Type) where
  link : Link
  events : EventKind → List (Nat × (Moment → Event → σ → σ)) := fun _ => []
  connection : List (Nat × (Moment → Bool → σ → σ)) := []
  /-- How many subscriptions were ever made, without a bound as in `Hub.issued`. -/
  issued : Nat := 0

namespace Table

variable {σ α : Type}

/-- An order in which the kinds come. It leaves none out. -/
structure Order where
  kinds : List EventKind
  complete : ∀ kind, kind ∈ kinds

instance : Inhabited Order :=
  ⟨⟨EventKind.all, fun kind => by cases kind <;> decide⟩⟩

/-- The table with another list for one kind of event. -/
def setEvents (kind : EventKind) (list : List (Nat × (Moment → Event → σ → σ))) (t : Table σ) :
    Table σ :=
  { t with events := fun k => if k = kind then list else t.events k }

/-! ## Subscribing -/

def nextId (t : Table σ) : Nat :=
  t.issued + 1

def subscribe (handler : Handler σ) (t : Table σ) : Table σ :=
  match handler with
  | .event kind run =>
    { t.setEvents kind (t.events kind ++ [(t.nextId, run)]) with issued := t.nextId }
  | .connection run =>
    { t with connection := t.connection ++ [(t.nextId, run)], issued := t.nextId }

/-- The state of a follower who subscribes: a handler for the connection runs at once. -/
def greet (now : Moment) (handler : Handler σ) (t : Table σ) (follower : σ) : σ :=
  match handler with
  | .event _ _ => follower
  | .connection run => run now t.link.isLive follower

/-- Whether a list has a subscription. -/
def holds (id : Nat) (list : List (Nat × α)) : Bool :=
  list.any (·.1 == id)

/-- A list without the first entry of a number. -/
def without (id : Nat) (list : List (Nat × α)) : List (Nat × α) :=
  list.eraseP (·.1 == id)

/-- The table without a subscription to one of some kinds of event, unless none of them has it. -/
def offEvents? (id : Nat) (t : Table σ) : List EventKind → Option (Table σ)
  | [] => none
  | kind :: rest =>
    if holds id (t.events kind) then some (t.setEvents kind (without id (t.events kind)))
    else t.offEvents? id rest

/-- The table without a subscription, unless there is none of that number. -/
def off? (order : Order) (id : Nat) (t : Table σ) : Option (Table σ) :=
  match t.offEvents? id order.kinds with
  | some t => some t
  | none =>
    if holds id t.connection then some { t with connection := without id t.connection }
    else none

/-! ## Delivering -/

def handlerCount (kind : EventKind) (t : Table σ) : Nat :=
  (t.events kind).length

def dispatch (now : Moment) (e : Event) (t : Table σ) (follower : σ) : σ :=
  (t.events e.kind).foldl (fun s entry => entry.2 now e s) follower

def deliver (now : Moment) (text : String) (t : Table σ) (follower : σ) : σ :=
  match Event.ofFrame? text with
  | some e => t.dispatch now e follower
  | none => follower

def deliveryCount (text : String) (t : Table σ) : Nat :=
  match Event.ofFrame? text with
  | some e => t.handlerCount e.kind
  | none => 0

def announce (now : Moment) (isLive : Bool) (t : Table σ) (follower : σ) : σ :=
  t.connection.foldl (fun s entry => entry.2 now isLive s) follower

def follow (now : Moment) (e : SocketEvent) (t : Table σ) (follower : σ) : σ :=
  match t.link.inbound? e with
  | some (.frame text) => t.deliver now text follower
  | some (.connection isLive) => t.announce now isLive follower
  | none => follower

/-! ## Runs -/

def step (order : Order) (t : Table σ) : Hub.Op σ → Table σ
  | .subscribe handler => t.subscribe handler
  | .off id => (t.off? order id).getD t
  | .dispatch _ => t
  | .deliver _ => t
  | .receive e => { t with link := t.link.receive e }
  | .link op => { t with link := t.link.step op }

def effect (order : Order) (now : Moment) (t : Table σ) (follower : σ) : Hub.Op σ → Hub.Effect σ
  | .subscribe handler => ⟨.number t.nextId, t.greet now handler follower⟩
  | .off id => ⟨.removed (t.off? order id).isSome, follower⟩
  | .dispatch e => ⟨.ran (t.handlerCount e.kind), t.dispatch now e follower⟩
  | .deliver text => ⟨.ran (t.deliveryCount text), t.deliver now text follower⟩
  | .receive e => ⟨.nothing, t.follow now e follower⟩
  | .link _ => ⟨.nothing, follower⟩

/-- The table after a history, where the kinds come in some order at each operation. -/
def run (t : Table σ) (ops : List (Order × Hub.Op σ)) : Table σ :=
  ops.foldl (fun t op => t.step op.1 op.2) t

/-- What comes of each operation of a history. -/
def effects (t : Table σ) (follower : σ) : List (Order × Moment × Hub.Op σ) → List (Hub.Effect σ)
  | [] => []
  | (order, now, op) :: rest =>
    let e := t.effect order now follower op
    e :: (t.step order op).effects e.follower rest

end Table

end Tuner
