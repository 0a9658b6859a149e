/-!
# Mailboxes

A `Mailbox` is one subscriber's view of a broadcast that keeps a limited number of messages: a
subscriber that is further behind loses the oldest and is told how many they were before it gets the
next one.
-/

namespace SessionSync

/-- The messages that wait for a subscriber. -/
structure Mailbox (α : Type) where
  /-- How many messages are kept. -/
  capacity : Nat
  /-- How many messages were lost since the last look. -/
  missed : Nat
  /-- The messages kept, oldest first. -/
  waiting : List α
  deriving Repr, DecidableEq

/-- What a subscriber gets. -/
inductive Delivery (α : Type)
  /-- A message. -/
  | message (a : α)
  /-- Word that messages were lost. -/
  | lagged (missed : Nat)
  deriving Repr, DecidableEq

namespace Mailbox

/-- The mailbox of a new subscriber. -/
def empty (capacity : Nat) : Mailbox α :=
  ⟨capacity, 0, []⟩

/-- A message is sent. -/
def post (m : Mailbox α) (a : α) : Mailbox α :=
  if m.waiting.length < m.capacity then { m with waiting := m.waiting ++ [a] }
  else { m with missed := m.missed + 1, waiting := m.waiting.drop 1 ++ [a] }

/-- Messages are sent one after the other. -/
def postAll (m : Mailbox α) (l : List α) : Mailbox α :=
  l.foldl post m

/-- The subscriber looks once; there may be nothing for it. -/
def take (m : Mailbox α) : Option (Delivery α × Mailbox α) :=
  if m.missed ≠ 0 then some (.lagged m.missed, { m with missed := 0 })
  else match m.waiting with
    | [] => none
    | a :: rest => some (.message a, { m with waiting := rest })

/-- Everything that waits for the subscriber. -/
def deliveries (m : Mailbox α) : List (Delivery α) :=
  (if m.missed ≠ 0 then [.lagged m.missed] else []) ++ m.waiting.map .message

/-- The mailbox after the subscriber has taken everything. -/
def drained (m : Mailbox α) : Mailbox α :=
  { m with missed := 0, waiting := [] }

/-- Whether there is something for the subscriber. -/
def hasMail (m : Mailbox α) : Bool :=
  m.missed ≠ 0 || !m.waiting.isEmpty

end Mailbox

end SessionSync
