import PhpAnalyze.Recorder

/-! # Call forests

`CallForest` is a forest of observed calls, with what the observer is told of each, and
`Session` a forest whose last calls may still be open.  `events` is the order in which the
observer hears of them.

What a recorder with a depth limit should make of a session is a recursion on it: a call
nested under `d` observed calls is kept if `d < maxDepth`; `keptBegins` lists the kept calls
in begin order, `records` their records in order of closing, numbered by rank in begin order,
and `openFrames` the kept calls that are still open, innermost first. -/

namespace PhpAnalyze

structure CallBegin where
  path : BeginPath
  site : RawCallSite
  entry : EntrySnapshots
deriving DecidableEq, Repr

structure CallEnd where
  exit : ExitSnapshots
  abnormal : Bool
  answer : TrySend
deriving DecidableEq, Repr

def CallBegin.event (b : CallBegin) : Event := .beginCall b.path b.site b.entry

def CallEnd.event (x : CallEnd) : Event := .endCall x.exit x.abnormal x.answer

def CallBegin.key (b : CallBegin) : FunctionKey := (b.path.plan b.site).keyRef.toOwned

/-- Completed calls: the first one, the calls inside it, and the calls after it. -/
inductive CallForest where
  | nil
  | cons (b : CallBegin) (x : CallEnd) (kids rest : CallForest)

/-- Completed calls, and then possibly a call that is still open. -/
inductive Session where
  | closed (forest : CallForest)
  | opened (before : CallForest) (b : CallBegin) (inside : Session)

namespace CallForest

def events : CallForest → List Event
  | nil => []
  | cons b x kids rest => b.event :: (kids.events ++ x.event :: rest.events)

/-- The greatest number of calls open at once. -/
def height : CallForest → ℕ
  | nil => 0
  | cons _ _ kids rest => max (kids.height + 1) rest.height

variable (maxDepth : ℕ)

/-- The kept calls of a forest under `d` observed calls, in begin order. -/
def keptBegins (d : ℕ) : CallForest → List CallBegin
  | nil => []
  | cons b _ kids rest =>
      (if d < maxDepth then [b] else []) ++ kids.keptBegins (d + 1) ++ rest.keptBegins d

/-- The number of calls nested under `maxDepth` or more observed calls. -/
def dropped (d : ℕ) : CallForest → ℕ
  | nil => 0
  | cons _ _ kids rest =>
      (if d < maxDepth then 0 else 1) + kids.dropped (d + 1) + rest.dropped d

end CallForest

/-- The frame of a kept call. -/
def CallBegin.frame (b : CallBegin) (fnIdOf : FunctionKey → ℕ) (d parent callId : ℕ) :
    CallFrame where
  callId := callId
  parent := parent
  fnId := fnIdOf b.key
  depth := d
  tInNs := b.entry.tInNs
  cpuUInNs := b.entry.cpuUInNs
  cpuSInNs := b.entry.cpuSInNs
  memInBytes := b.entry.memInBytes

/-- The records of the kept calls in order of closing.  The forest is under `d` observed
calls, inside the call `parent`, and its first kept call has the id `next`. -/
def CallForest.records (maxDepth : ℕ) (fnIdOf : FunctionKey → ℕ) (d parent next : ℕ) :
    CallForest → List CallRecord
  | nil => []
  | cons b x kids rest =>
      if d < maxDepth then
        kids.records maxDepth fnIdOf (d + 1) next (next + 1) ++
          (b.frame fnIdOf d parent next).intoCallRecord x.exit x.abnormal ::
            rest.records maxDepth fnIdOf d parent
              (next + 1 + (kids.keptBegins maxDepth (d + 1)).length)
      else
        kids.records maxDepth fnIdOf (d + 1) parent next ++
          rest.records maxDepth fnIdOf d parent
            (next + (kids.keptBegins maxDepth (d + 1)).length)

namespace Session

def events : Session → List Event
  | closed forest => forest.events
  | opened before b inside => before.events ++ b.event :: inside.events

def height : Session → ℕ
  | closed forest => forest.height
  | opened before _ inside => max before.height (inside.height + 1)

variable (maxDepth : ℕ)

def keptBegins (d : ℕ) : Session → List CallBegin
  | closed forest => forest.keptBegins maxDepth d
  | opened before b inside =>
      before.keptBegins maxDepth d ++ (if d < maxDepth then [b] else []) ++
        inside.keptBegins (d + 1)

def dropped (d : ℕ) : Session → ℕ
  | closed forest => forest.dropped maxDepth d
  | opened before _ inside =>
      before.dropped maxDepth d + (if d < maxDepth then 0 else 1) + inside.dropped (d + 1)

variable (fnIdOf : FunctionKey → ℕ)

/-- The records of the kept calls that have ended, in order of closing. -/
def records (d parent next : ℕ) : Session → List CallRecord
  | closed forest => forest.records maxDepth fnIdOf d parent next
  | opened before _ inside =>
      let id := next + (before.keptBegins maxDepth d).length
      before.records maxDepth fnIdOf d parent next ++
        if d < maxDepth then inside.records (d + 1) id (id + 1)
        else inside.records (d + 1) parent id

/-- The frames of the kept calls that are still open, innermost first. -/
def openFrames (d parent next : ℕ) : Session → List CallFrame
  | closed _ => []
  | opened before b inside =>
      let id := next + (before.keptBegins maxDepth d).length
      if d < maxDepth then
        inside.openFrames (d + 1) id (id + 1) ++ [b.frame fnIdOf d parent id]
      else inside.openFrames (d + 1) parent id

end Session

/-! ### Counting the dropped calls -/

theorem CallForest.countP_events (maxDepth : ℕ) (forest : CallForest) (d : ℕ) :
    forest.events.countP Event.isBegin =
      (forest.keptBegins maxDepth d).length + forest.dropped maxDepth d := by
  induction forest generalizing d with
  | nil => rfl
  | cons b x kids rest ihKids ihRest =>
      have hb : b.event.isBegin = true := rfl
      have hx : x.event.isBegin = false := rfl
      simp only [events, keptBegins, dropped, List.countP_cons, List.countP_append, hb, hx,
        List.length_append, ihKids (d + 1), ihRest d]
      by_cases hlt : d < maxDepth <;> simp [hlt] <;> omega

theorem Session.countP_events (maxDepth : ℕ) (session : Session) (d : ℕ) :
    session.events.countP Event.isBegin =
      (session.keptBegins maxDepth d).length + session.dropped maxDepth d := by
  induction session generalizing d with
  | closed forest => exact forest.countP_events maxDepth d
  | opened before b inside ih =>
      have hb : b.event.isBegin = true := rfl
      rw [events, List.countP_append, List.countP_cons, hb, before.countP_events maxDepth d,
        ih (d + 1)]
      by_cases hlt : d < maxDepth <;> simp [keptBegins, dropped, hlt] <;> omega

end PhpAnalyze
