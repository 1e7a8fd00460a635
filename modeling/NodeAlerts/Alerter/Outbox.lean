/-!
# Outboxes

An outbox keeps what waits to be published, oldest first.  A full outbox drops its oldest item to
take a new one.
-/

namespace NodeAlerts

universe u

/-- A queue that holds at most `capacity` items. -/
structure Outbox (α : Type u) where
  /-- The largest number of items. -/
  capacity : Nat
  /-- The items, oldest first. -/
  items : List α
  /-- At least one item fits. -/
  capacity_pos : 0 < capacity
  /-- All items fit. -/
  length_le : items.length ≤ capacity

namespace Outbox

variable {α : Type u}

/-- An empty outbox; one item fits in any case. -/
def new (capacity : Nat) : Outbox α where
  capacity := max capacity 1
  items := []
  capacity_pos := by omega
  length_le := Nat.zero_le _

instance : Inhabited (Outbox α) := ⟨new 1⟩

/-- Whether nothing waits. -/
def isEmpty (o : Outbox α) : Bool := o.items.isEmpty

/-- The number of items. -/
def size (o : Outbox α) : Nat := o.items.length

/-- The oldest item. -/
def front? (o : Outbox α) : Option α := o.items.head?

/-- The outbox without its `n` oldest items. -/
def drop (o : Outbox α) (n : Nat) : Outbox α where
  capacity := o.capacity
  items := o.items.drop n
  capacity_pos := o.capacity_pos
  length_le := by
    have := o.length_le
    simp only [List.length_drop]
    omega

/-- Takes the oldest item out. -/
def pop (o : Outbox α) : Option α × Outbox α := (o.front?, o.drop 1)

/-- Whether no further item fits. -/
def isFull (o : Outbox α) : Bool := o.size = o.capacity

/-- What has to be dropped before a new item fits: the oldest item of a full outbox. -/
def displaced (o : Outbox α) : List α := if o.isFull then o.items.take 1 else []

/-- What is left then. -/
def retained (o : Outbox α) : List α := if o.isFull then o.items.drop 1 else o.items

theorem length_retained_lt (o : Outbox α) : o.retained.length < o.capacity := by
  have := o.length_le
  have := o.capacity_pos
  unfold retained isFull size
  split <;> rename_i h
  · simp only [decide_eq_true_eq] at h
    simp only [List.length_drop]
    omega
  · simp only [decide_eq_true_eq] at h
    omega

theorem displaced_append_retained (o : Outbox α) : o.displaced ++ o.retained = o.items := by
  unfold displaced retained
  split
  · exact List.take_append_drop 1 o.items
  · rfl

/-- Adds an item, after dropping the oldest one of a full outbox. -/
def push (o : Outbox α) (a : α) : Outbox α where
  capacity := o.capacity
  items := o.retained ++ [a]
  capacity_pos := o.capacity_pos
  length_le := by
    have := o.length_retained_lt
    simp only [List.length_append, List.length_singleton]
    omega

/-- Adds items one after another; gives what was dropped, oldest first. -/
def pushAll (o : Outbox α) : List α → List α × Outbox α
  | [] => ([], o)
  | a :: as =>
    let (dropped, o') := (o.push a).pushAll as
    (o.displaced ++ dropped, o')

/-! ## Items -/

@[simp] theorem items_new (n : Nat) : (new n : Outbox α).items = [] := rfl

@[simp] theorem items_drop (o : Outbox α) (n : Nat) : (o.drop n).items = o.items.drop n := rfl

@[simp] theorem items_push (o : Outbox α) (a : α) : (o.push a).items = o.retained ++ [a] := rfl

/-- What is dropped and what is kept are, together, what was there and what was added. -/
theorem pushAll_items (o : Outbox α) (as : List α) :
    (o.pushAll as).1 ++ (o.pushAll as).2.items = o.items ++ as := by
  induction as generalizing o with
  | nil => simp [pushAll]
  | cons a as ih =>
    simp only [pushAll, List.append_assoc, ih, items_push, List.singleton_append]
    rw [← List.append_assoc, displaced_append_retained]

@[simp] theorem capacity_pushAll (o : Outbox α) (as : List α) :
    (o.pushAll as).2.capacity = o.capacity := by
  induction as generalizing o with
  | nil => rfl
  | cons a as ih => exact ih _

end Outbox

end NodeAlerts
