import CachingProxy.Desk.Basic

namespace CachingProxy.Desk

def newWaiter (place : Place) : Run WaiterId := do
  let d ← get
  set { d with
    waiters := d.waiters.set d.nextWaiter { place }
    nextWaiter := d.nextWaiter + 1 }
  return d.nextWaiter

def nextLoop : Run Nat := do
  let d ← get
  let (pool, id) := d.pool.next
  set { d with pool }
  return id

/-- A recording follower. Its name may take the place of an older one. -/
def addRecorder (name : String) (place : Place) : Run Unit := do
  let w ← newWaiter place
  modify fun d => { d with recorders := d.recorders.set name w }

def waiterNamed (name : String) : Act WaiterId := do
  match (← get).recorders.get? name with
  | some w => return w
  | none => named channels name

/-- Executes up to `most` of the tasks that wait in a follower's own queue; tells how many were
executed and how many are left. -/
def runQueue (name : String) (most : Option Nat) : Act (Nat × Nat) := do
  let w ← named recorders name
  match (← get).waiters.get? w with
  | none => throw (.gone name)
  | some a =>
    if a.place ≠ .queue then throw .notQueue
    else
      let now := match most with
        | some n => a.tasks.take n
        | none => a.tasks
      let later := a.tasks.drop now.length
      modify fun d =>
        { d with waiters := d.waiters.set w { a with tasks := later } }.hand w
          (now.flatMap Task.deliveries)
      return (now.length, later.length)

end CachingProxy.Desk
