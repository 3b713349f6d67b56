import MysqlMetrics.Http.Service
/-!
# Traffic

Requests come in any number and go on in turns. The guard looks at what one presents, and refuses
it, lets it pass, or has it wait: passwords are checked one at a time, under a lock. A request that
may pass goes on to its handler, and every other one is turned away. Where a request waits its
client may go away.

One request alone goes the way of `Service.respond`. A handler's work is one turn, as handlers and
guard have nothing in common.
-/
namespace MysqlMetrics

namespace Guard

/-- A password to be checked: what was presented, and the hash that it is checked against. -/
structure Check where
  presented : String
  user : String
  password : String
  hash : String
deriving DecidableEq, Repr

/-- What the guard can say without a check. -/
inductive Verdict where
  | pass
  | refuse
  | check (k : Check)
deriving DecidableEq, Repr

/-- The hash for a name that no user has, so that its check takes no less time. -/
def unknownUserHash : String := "$2y$10$QOauhQNbBCuQDKes6eFzPeMqBSjb7Mr5DUmpZ/VcEd00UAV/LDeSi"

def look (g : Guard) (r : Request) : Verdict :=
  if g.users.isEmpty then .pass
  else
    match presented? r with
    | none => .refuse
    | some p =>
      if g.verified.contains p then .pass
      else
        match credentials? p with
        | none => .refuse
        | some (user, password) =>
          .check ⟨p, user, password, (SortedTable.find? user g.users).getD unknownUserHash⟩

/-- Is the password that of the hash, and the name that of a user? -/
def confirms (g : Guard) (k : Check) : Bool :=
  Bcrypt.verify k.password k.hash && SortedTable.has k.user g.users

def remember (g : Guard) (presented : String) : Guard :=
  { g with verified := presented :: g.verified }

end Guard

/-- How far a request has come. -/
inductive Progress where
  | arrived
  | queued (k : Guard.Check)
  /-- Holds the lock. -/
  | checking (k : Guard.Check)
  | admitted
  | served (reply : Reply)
  | turnedAway (reply : Reply)
  | abandoned
deriving DecidableEq, Repr

/-- A request on its way, with its identity if it brings none. -/
structure Visit where
  request : Request
  freshId : String
  progress : Progress := .arrived
deriving DecidableEq, Repr

/-- What a request does in its turn. -/
inductive Visit.Move where
  | look
  | lock
  | check
  | handle
  | leave
deriving DecidableEq, Repr

structure Traffic (σ : Type) where
  serving : Serving σ
  visits : List Visit

/-- Who moves next: a request, or time. -/
inductive Traffic.Turn where
  | visit (i : Nat) (move : Visit.Move)
  | wait (millis : Nat)
deriving DecidableEq, Repr

namespace Visit

variable {σ : Type}

def destination (v : Visit) (s : Service σ) : Destination :=
  s.router.route v.request.method v.request.path

/-- The reply that is sent for what came of a request. -/
def dress (v : Visit) (s : Service σ) (g : Option Guard) : Reply → Reply
  | .response resp =>
    .response (Service.complete v.request (v.destination s) v.freshId
      (match g with
        | some g => g.addHeaders resp
        | none => resp))
  | .panicked m => .panicked m

def refusal (v : Visit) (s : Service σ) (g : Guard) : Reply :=
  v.dress s (some g) (.response Guard.refusal)

def isChecking (v : Visit) : Bool :=
  match v.progress with
  | .checking _ => true
  | _ => false

/-- How far a move takes a request, and what it leaves, if the request can make it. -/
def step (v : Visit) (s : Service σ) (isFree : Bool) (st : Serving σ) :
    Move → Option (Progress × Serving σ)
  | .look =>
    match v.progress, st.guard with
    | .arrived, none => some (.admitted, st)
    | .arrived, some g =>
      match g.look v.request with
      | .pass => some (.admitted, st)
      | .refuse => some (.turnedAway (v.refusal s g), st)
      | .check k => some (.queued k, st)
    | _, _ => none
  | .lock =>
    match v.progress with
    | .queued k => if isFree then some (.checking k, st) else none
    | _ => none
  | .check =>
    match v.progress, st.guard with
    | .checking k, some g =>
      if g.confirms k then some (.admitted, { st with guard := some (g.remember k.presented) })
      else some (.turnedAway (v.refusal s g), st)
    | _, _ => none
  | .handle =>
    match v.progress with
    | .admitted =>
      let (reply, later) := s.handle v.request (v.destination s) st
      some (.served (v.dress s st.guard reply), later)
    | _ => none
  | .leave =>
    match v.progress with
    | .arrived | .queued _ | .checking _ => some (.abandoned, st)
    | _ => none

end Visit

namespace Traffic

variable {σ : Type}

/-- Requests before a service that is in some state. -/
def new (start : Serving σ) (requests : List (Request × String)) : Traffic σ where
  serving := start
  visits := requests.map fun (r, freshId) => ⟨r, freshId, .arrived⟩

/-- Does nobody hold the lock? -/
def isFree (t : Traffic σ) : Bool := t.visits.all (!·.isChecking)

def step (t : Traffic σ) (s : Service σ) : Turn → Option (Traffic σ)
  | .visit i move =>
    t.visits[i]?.bind fun v =>
      (v.step s t.isFree t.serving move).map fun (progress, st) =>
        ⟨st, t.visits.set i { v with progress := progress }⟩
  | .wait millis => some { t with serving := { t.serving with now := t.serving.now + millis } }

/-- What turns lead to. -/
inductive Reaches (s : Service σ) (t : Traffic σ) : Traffic σ → Prop
  | refl : Reaches s t t
  | turn {t₁ t₂ : Traffic σ} (turn : Turn) (h : Reaches s t t₁) (hs : t₁.step s turn = some t₂) :
    Reaches s t t₂

/-- Nobody can go on. A client who waits could still go away. -/
def Settled (s : Service σ) (t : Traffic σ) : Prop :=
  ∀ i move, move ≠ .leave → t.step s (.visit i move) = none

end Traffic
end MysqlMetrics
