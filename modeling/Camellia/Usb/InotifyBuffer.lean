import Camellia.Usb.EndpointMonitor

/-!
# Inotify events in the buffer of the monitor

One `read` in `monitorFfs` may bring several events into `buf`; the loop finds the next one
by the length in the header of the last.  The endpoint monitor only counts events.  Here
the events are bytes, and the loop is shown to be that monitor: it comes to every event
that the kernel has queued, once and in their order, and stays inside what was read.
-/

namespace Camellia.Usb
namespace InotifyBuffer

open Transition

def BUFFER_SIZE : ℕ := 512

def NAME_MAX : ℕ := 255

/-- `struct inotify_event`; its `len` is the length of `name`, which is padded with zeros. -/
structure InotifyEvent where
  wd : BitVec 32
  mask : BitVec 32
  cookie : BitVec 32
  name : List (BitVec 8)
deriving DecidableEq

/-- `sizeof(struct inotify_event)`, without the name. -/
def InotifyEvent.size : ℕ := 16

/-- An event of the kernel, whose name with its padding fills at most `NAME_MAX + 1` bytes. -/
structure QueuedEvent extends InotifyEvent where
  short : name.length ≤ NAME_MAX + 1

def le32 (word : BitVec 32) : List (BitVec 8) :=
  [word.extractLsb' 0 8, word.extractLsb' 8 8, word.extractLsb' 16 8, word.extractLsb' 24 8]

def readLe32 : List (BitVec 8) → BitVec 32
  | byte0 :: byte1 :: byte2 :: byte3 :: _ => byte3 ++ byte2 ++ byte1 ++ byte0
  | _ => 0

/-- What the kernel writes. -/
def InotifyEvent.bytes (event : InotifyEvent) : List (BitVec 8) :=
  le32 event.wd ++ (le32 event.mask ++ (le32 event.cookie ++
    (le32 (BitVec.ofNat 32 event.name.length) ++ event.name)))

/-- `event->len`. -/
def lenAt (bytes : List (BitVec 8)) : ℕ := (readLe32 (bytes.drop 12)).toNat

/-- The event that the pointer to these bytes is cast to. -/
def eventAt (bytes : List (BitVec 8)) : InotifyEvent where
  wd := readLe32 bytes
  mask := readLe32 (bytes.drop 4)
  cookie := readLe32 (bytes.drop 8)
  name := (bytes.drop InotifyEvent.size).take (lenAt bytes)

def bytesOf (events : List QueuedEvent) : List (BitVec 8) :=
  events.flatMap fun event => event.bytes

/-! ## The loop -/

/-- `p` is the offset of the pointer in `buf`; `visited` has the events it has stood at. -/
structure State where
  queue : List QueuedEvent
  buf : List (BitVec 8)
  numRead : ℤ
  p : ℕ
  visited : List InotifyEvent
  monitor : EndpointMonitor.State

/-- The thread starts with what is on its stack in `buf`. -/
def State.initial (mEndpointList present : List String) (queue : List QueuedEvent)
    (buf : Vector (BitVec 8) BUFFER_SIZE) : State where
  queue := queue
  buf := buf.toList
  numRead := 0
  p := 0
  visited := []
  monitor := .initial mEndpointList present queue.length

inductive Action where
  -- the file system
  | removed (file : String) (event : QueuedEvent)
  | created (file : String) (event : QueuedEvent)
  | otherEvent (event : QueuedEvent)
  -- the monitor
  | read (count : ℕ)
  | readFails
  | handleEvent
  | check
  | pullUp (succeeds : Bool)
  | record
  | stop

/-- The loop over the buffer has ended, or not begun. -/
def State.exhausted (state : State) : Prop :=
  state.monitor.stage = .waiting ∧ state.numRead ≤ state.p

instance (state : State) : Decidable state.exhausted := inferInstanceAs (Decidable (_ ∧ _))

/-- The kernel hands out whole events, as many as it likes of those that fit. -/
def read (state : State) (count : ℕ) : Option State := do
  let bytes := bytesOf (state.queue.take count)
  guard (state.exhausted ∧ 0 < count ∧ count ≤ state.queue.length ∧
    bytes.length ≤ BUFFER_SIZE)
  return { state with
    queue := state.queue.drop count
    buf := bytes ++ state.buf.drop bytes.length
    numRead := bytes.length
    p := 0 }

def readFails (state : State) : Option State := do
  guard state.exhausted
  return { state with numRead := -1, p := 0 }

/-- One turn of the loop up to its check of the endpoints. -/
def handleEvent (state : State) : Option State := do
  guard (state.monitor.stage = .waiting ∧ state.p < state.numRead)
  return { state with
    p := state.p + (InotifyEvent.size + lenAt (state.buf.drop state.p))
    visited := state.visited ++ [eventAt (state.buf.drop state.p)]
    monitor := { state.monitor with
      unhandled := state.monitor.unhandled - 1
      stage := .checking state.monitor.mEndpointList
      readings := [] } }

def State.moved (state : State) (monitor : Option EndpointMonitor.State) : Option State :=
  monitor.map fun monitor => { state with monitor := monitor }

def State.queued (state : State) (event : QueuedEvent)
    (monitor : Option EndpointMonitor.State) : Option State :=
  monitor.map fun monitor =>
    { state with queue := state.queue ++ [event], monitor := monitor }

def step (state : State) : Action → Option State
  | .removed file event => state.queued event (EndpointMonitor.removed state.monitor file)
  | .created file event => state.queued event (EndpointMonitor.created state.monitor file)
  | .otherEvent event => state.queued event (EndpointMonitor.step state.monitor .otherEvent)
  | .read count => read state count
  | .readFails => readFails state
  | .handleEvent => handleEvent state
  | .check => state.moved (EndpointMonitor.check state.monitor)
  | .pullUp succeeds => state.moved (EndpointMonitor.pullUp state.monitor succeeds)
  | .record => state.moved (EndpointMonitor.record state.monitor)
  | .stop =>
      if state.numRead ≤ state.p then state.moved (EndpointMonitor.stop state.monitor)
      else none

/-! ## Reading back what was written -/

@[simp] theorem length_le32 (word : BitVec 32) : (le32 word).length = 4 := rfl

@[simp] theorem readLe32_le32 (word : BitVec 32) (rest : List (BitVec 8)) :
    readLe32 (le32 word ++ rest) = word := by
  change word.extractLsb' 24 8 ++ word.extractLsb' 16 8 ++ word.extractLsb' 8 8 ++
    word.extractLsb' 0 8 = word
  rw [BitVec.extractLsb'_append_extractLsb'_eq_extractLsb' (by decide),
    BitVec.extractLsb'_append_extractLsb'_eq_extractLsb' (by decide),
    BitVec.extractLsb'_append_extractLsb'_eq_extractLsb' (by decide)]
  exact BitVec.extractLsb'_eq_self

@[simp] theorem length_bytes (event : InotifyEvent) :
    event.bytes.length = InotifyEvent.size + event.name.length := by
  simp only [InotifyEvent.bytes, List.length_append, length_le32, InotifyEvent.size]
  omega

theorem lenAt_bytes (event : QueuedEvent) (rest : List (BitVec 8)) :
    lenAt (event.bytes ++ rest) = event.name.length := by
  have hshort := event.short
  have hdrop : (event.bytes ++ rest).drop 12 =
      le32 (BitVec.ofNat 32 event.name.length) ++ (event.name ++ rest) := rfl
  rw [lenAt, hdrop, readLe32_le32, BitVec.toNat_ofNat]
  rw [NAME_MAX] at hshort
  omega

theorem eventAt_bytes (event : QueuedEvent) (rest : List (BitVec 8)) :
    eventAt (event.bytes ++ rest) = event.toInotifyEvent := by
  have hmask : (event.bytes ++ rest).drop 4 = le32 event.mask ++ (le32 event.cookie ++
      (le32 (BitVec.ofNat 32 event.name.length) ++ (event.name ++ rest))) := rfl
  have hcookie : (event.bytes ++ rest).drop 8 = le32 event.cookie ++
      (le32 (BitVec.ofNat 32 event.name.length) ++ (event.name ++ rest)) := rfl
  have hname : (event.bytes ++ rest).drop InotifyEvent.size = event.name ++ rest := rfl
  rw [eventAt, hmask, hcookie, hname, lenAt_bytes, readLe32_le32, readLe32_le32,
    List.take_left, InotifyEvent.bytes, List.append_assoc, readLe32_le32]

theorem bytesOf_cons (event : QueuedEvent) (rest : List QueuedEvent) :
    bytesOf (event :: rest) = event.bytes ++ bytesOf rest := List.flatMap_cons

theorem eq_nil_of_bytesOf {events : List QueuedEvent} (hnone : (bytesOf events).length = 0) :
    events = [] := by
  cases events with
  | nil => rfl
  | cons event rest =>
      rw [bytesOf_cons, List.length_append, length_bytes, InotifyEvent.size] at hnone
      omega

/-! ## What the loop has come to -/

def Action.queuedEvents : Action → List QueuedEvent
  | .removed _ event | .created _ event | .otherEvent event => [event]
  | _ => []

/-- What the endpoint monitor sees of it. -/
def Action.monitorAction : Action → Option EndpointMonitor.Action
  | .removed file _ => some (.removed file)
  | .created file _ => some (.created file)
  | .otherEvent _ => some .otherEvent
  | .read _ | .readFails => none
  | .handleEvent => some .handleEvent
  | .check => some .check
  | .pullUp succeeds => some (.pullUp succeeds)
  | .record => some .record
  | .stop => some .stop

/-- Of the events `queued` so far, `unread` are those in the buffer that the pointer has
still to come to. -/
structure State.Reading (state : State) (queued unread : List QueuedEvent) : Prop where
  buffered : ∃ rest, state.buf.drop state.p = bytesOf unread ++ rest
  left : (state.numRead - state.p).toNat = (bytesOf unread).length
  bounded : state.numRead ≤ BUFFER_SIZE
  log : state.visited ++ (unread ++ state.queue).map QueuedEvent.toInotifyEvent =
    queued.map QueuedEvent.toInotifyEvent
  count : state.monitor.unhandled = (unread ++ state.queue).length

section Reading

variable {state next : State} {queued unread : List QueuedEvent}

theorem State.Reading.unread_ne_nil_iff (hreading : state.Reading queued unread) :
    unread ≠ [] ↔ state.p < state.numRead := by
  have hleft := hreading.left
  constructor
  · intro hsome
    by_contra hdone
    exact hsome (eq_nil_of_bytesOf (by omega))
  · rintro hmore rfl
    rw [bytesOf, List.flatMap_nil, List.length_nil] at hleft
    omega

theorem State.Reading.exhausted (hreading : state.Reading queued unread)
    (hexhausted : state.exhausted) : unread = [] := by
  by_contra hsome
  have hmore := hreading.unread_ne_nil_iff.mp hsome
  exact absurd hexhausted.2 (not_le.mpr hmore)

/-- The header that the pointer is cast to, and the name behind it, have been read. -/
theorem State.Reading.inBounds (hreading : state.Reading queued unread)
    (hmore : state.p < state.numRead) :
    state.p + (InotifyEvent.size + lenAt (state.buf.drop state.p)) ≤ state.numRead := by
  obtain ⟨event, later, rfl⟩ :=
    List.exists_cons_of_ne_nil (hreading.unread_ne_nil_iff.mpr hmore)
  obtain ⟨rest, hdrop⟩ := hreading.buffered
  have hleft := hreading.left
  rw [bytesOf_cons, List.length_append, length_bytes] at hleft
  rw [bytesOf_cons, List.append_assoc] at hdrop
  rw [hdrop, lenAt_bytes]
  omega

theorem State.Reading.moved (hreading : state.Reading queued unread)
    {monitor : EndpointMonitor.State}
    (hunhandled : monitor.unhandled = state.monitor.unhandled) :
    State.Reading { state with monitor := monitor } queued unread :=
  ⟨hreading.buffered, hreading.left, hreading.bounded, hreading.log,
    hunhandled.trans hreading.count⟩

theorem State.Reading.queues (hreading : state.Reading queued unread) (event : QueuedEvent)
    {monitor : EndpointMonitor.State}
    (hunhandled : monitor.unhandled = state.monitor.unhandled + 1) :
    State.Reading { state with queue := state.queue ++ [event], monitor := monitor }
      (queued ++ [event]) unread where
  buffered := hreading.buffered
  left := hreading.left
  bounded := hreading.bounded
  log := by
    change state.visited ++ (unread ++ (state.queue ++ [event])).map _ = _
    rw [← List.append_assoc, List.map_append, ← List.append_assoc, hreading.log,
      List.map_append]
  count := by
    change monitor.unhandled = (unread ++ (state.queue ++ [event])).length
    rw [hunhandled, hreading.count]
    simp only [List.length_append, List.length_singleton]
    omega

theorem State.Reading.read (hreading : state.Reading queued unread) {count : ℕ}
    (hread : InotifyBuffer.read state count = some next) :
    next.monitor = state.monitor ∧ next.Reading queued (state.queue.take count) := by
  obtain ⟨⟨hexhausted, _, _, hfits⟩, rfl⟩ := guarded_eq_some.mp hread
  have hlog := hreading.log
  have hcount := hreading.count
  rw [hreading.exhausted hexhausted, List.nil_append] at hlog hcount
  refine ⟨rfl, ⟨_, rfl⟩, ?_, ?_, ?_, ?_⟩
  · simp
  · exact Int.ofNat_le.mpr hfits
  · change state.visited ++ (state.queue.take count ++ state.queue.drop count).map _ = _
    rw [List.take_append_drop]
    exact hlog
  · change state.monitor.unhandled =
      (state.queue.take count ++ state.queue.drop count).length
    rw [List.take_append_drop]
    exact hcount

theorem State.Reading.readFails (hreading : state.Reading queued unread)
    (hread : InotifyBuffer.readFails state = some next) :
    next.monitor = state.monitor ∧ next.Reading queued [] := by
  obtain ⟨hexhausted, rfl⟩ := guarded_eq_some.mp hread
  have hlog := hreading.log
  have hcount := hreading.count
  rw [hreading.exhausted hexhausted] at hlog hcount
  have hbounded : (-1 : ℤ) ≤ BUFFER_SIZE := by decide
  exact ⟨rfl, ⟨state.buf, rfl⟩, rfl, hbounded, hlog, hcount⟩

theorem State.Reading.handleEvent (hreading : state.Reading queued unread)
    (hhandle : InotifyBuffer.handleEvent state = some next) :
    EndpointMonitor.handleEvent state.monitor = some next.monitor ∧
      ∃ later, next.Reading queued later := by
  obtain ⟨⟨hstage, hmore⟩, rfl⟩ := guarded_eq_some.mp hhandle
  obtain ⟨event, later, rfl⟩ :=
    List.exists_cons_of_ne_nil (hreading.unread_ne_nil_iff.mpr hmore)
  obtain ⟨rest, hdrop⟩ := hreading.buffered
  have hleft := hreading.left
  have hlog := hreading.log
  have hcount := hreading.count
  rw [bytesOf_cons, List.append_assoc] at hdrop
  rw [bytesOf_cons, List.length_append, length_bytes] at hleft
  rw [List.cons_append, List.length_cons] at hcount
  have hlen : lenAt (state.buf.drop state.p) = event.name.length := by
    rw [hdrop, lenAt_bytes]
  have hevent : eventAt (state.buf.drop state.p) = event.toInotifyEvent := by
    rw [hdrop, eventAt_bytes]
  refine ⟨?_, later, ⟨rest, ?_⟩, ?_, hreading.bounded, ?_, ?_⟩
  · exact guarded_eq_some.mpr ⟨⟨hstage, by omega⟩, rfl⟩
  · change state.buf.drop (state.p + (InotifyEvent.size + _)) = _
    rw [← List.drop_drop, hlen, hdrop, ← length_bytes, List.drop_left]
  · change (state.numRead - ((state.p + (InotifyEvent.size + _) : ℕ) : ℤ)).toNat = _
    rw [hlen]
    omega
  · change state.visited ++ [eventAt _] ++ _ = _
    rw [hevent, List.append_assoc]
    exact hlog
  · change state.monitor.unhandled - 1 = (later ++ state.queue).length
    omega

theorem unhandled_check {monitor later : EndpointMonitor.State}
    (hcheck : EndpointMonitor.check monitor = some later) :
    later.unhandled = monitor.unhandled := by
  cases EndpointMonitor.moves_check hcheck with
  | queued _ hother _ => exact absurd rfl hother
  | found _ _ _ _ hnext => rw [hnext]
  | absent _ _ _ _ hnext => rw [hnext]
  | complete _ hnext => rw [hnext]

theorem State.Reading.step (hreading : state.Reading queued unread) {action : Action}
    (hstep : InotifyBuffer.step state action = some next) :
    run EndpointMonitor.step state.monitor action.monitorAction.toList = some next.monitor ∧
      ∃ later, next.Reading (queued ++ action.queuedEvents) later := by
  have hone : ∀ {monitorAction : EndpointMonitor.Action} {later : EndpointMonitor.State},
      EndpointMonitor.step state.monitor monitorAction = some later →
        run EndpointMonitor.step state.monitor [monitorAction] = some later :=
    fun hmonitor => run_cons_eq_some.mpr ⟨_, hmonitor, rfl⟩
  cases action with
  | removed file event =>
      obtain ⟨monitor, hmonitor, rfl⟩ := Option.map_eq_some_iff.mp hstep
      refine ⟨hone hmonitor, unread, ?_⟩
      obtain ⟨_, rfl⟩ := guarded_eq_some.mp hmonitor
      exact hreading.queues event rfl
  | created file event =>
      obtain ⟨monitor, hmonitor, rfl⟩ := Option.map_eq_some_iff.mp hstep
      refine ⟨hone hmonitor, unread, ?_⟩
      obtain ⟨_, rfl⟩ := guarded_eq_some.mp hmonitor
      exact hreading.queues event rfl
  | otherEvent event =>
      obtain rfl := Option.some.inj hstep
      exact ⟨hone rfl, unread, hreading.queues event rfl⟩
  | read count =>
      obtain ⟨hsame, hnext⟩ := hreading.read hstep
      simp only [Action.queuedEvents, List.append_nil, hsame]
      exact ⟨rfl, _, hnext⟩
  | readFails =>
      obtain ⟨hsame, hnext⟩ := hreading.readFails hstep
      simp only [Action.queuedEvents, List.append_nil, hsame]
      exact ⟨rfl, _, hnext⟩
  | handleEvent =>
      obtain ⟨hmonitor, hnext⟩ := hreading.handleEvent hstep
      simp only [Action.queuedEvents, List.append_nil]
      exact ⟨hone hmonitor, hnext⟩
  | check =>
      obtain ⟨monitor, hmonitor, rfl⟩ := Option.map_eq_some_iff.mp hstep
      simp only [Action.queuedEvents, List.append_nil]
      exact ⟨hone hmonitor, unread, hreading.moved (unhandled_check hmonitor)⟩
  | pullUp succeeds =>
      obtain ⟨monitor, hmonitor, rfl⟩ := Option.map_eq_some_iff.mp hstep
      simp only [Action.queuedEvents, List.append_nil]
      refine ⟨hone hmonitor, unread, ?_⟩
      obtain ⟨_, rfl⟩ := guarded_eq_some.mp hmonitor
      exact hreading.moved rfl
  | record =>
      obtain ⟨monitor, hmonitor, rfl⟩ := Option.map_eq_some_iff.mp hstep
      simp only [Action.queuedEvents, List.append_nil]
      refine ⟨hone hmonitor, unread, ?_⟩
      obtain ⟨_, rfl⟩ := guarded_eq_some.mp hmonitor
      exact hreading.moved rfl
  | stop =>
      simp only [InotifyBuffer.step] at hstep
      split at hstep
      case isTrue =>
        obtain ⟨monitor, hmonitor, rfl⟩ := Option.map_eq_some_iff.mp hstep
        simp only [Action.queuedEvents, List.append_nil]
        refine ⟨hone hmonitor, unread, ?_⟩
        obtain ⟨_, rfl⟩ := guarded_eq_some.mp hmonitor
        exact hreading.moved rfl
      case isFalse => contradiction

end Reading

theorem reading_initial (mEndpointList present : List String) (queue : List QueuedEvent)
    (buf : Vector (BitVec 8) BUFFER_SIZE) :
    (State.initial mEndpointList present queue buf).Reading queue [] where
  buffered := ⟨_, rfl⟩
  left := rfl
  bounded := Int.natCast_nonneg BUFFER_SIZE
  log := rfl
  count := rfl

/-- One event always fits. -/
theorem read_one (state : State) (hexhausted : state.exhausted) (hqueue : state.queue ≠ []) :
    ∃ next, step state (.read 1) = some next := by
  obtain ⟨event, later, hevents⟩ := List.exists_cons_of_ne_nil hqueue
  have hshort := event.short
  have hfits : (bytesOf (state.queue.take 1)).length ≤ BUFFER_SIZE := by
    rw [hevents, List.take_succ_cons, List.take_zero, bytesOf_cons, List.length_append,
      length_bytes, bytesOf, List.flatMap_nil, List.length_nil]
    rw [NAME_MAX] at hshort
    rw [InotifyEvent.size, BUFFER_SIZE]
    omega
  have hcount : 1 ≤ state.queue.length := List.length_pos_of_ne_nil hqueue
  exact ⟨_, guarded_eq_some.mpr ⟨⟨hexhausted, Nat.one_pos, hcount, hfits⟩, rfl⟩⟩

/-- In every run the loop is the endpoint monitor with its count of events: those it has
come to, those left in the buffer and those in the kernel are what has been queued, in this
order; it looks only at bytes that were read; and it can read on as long as there are
events. -/
theorem every_event_visited_once (mEndpointList present : List String)
    (queue : List QueuedEvent) (buf : Vector (BitVec 8) BUFFER_SIZE) (actions : List Action)
    (state : State)
    (hrun : run step (.initial mEndpointList present queue buf) actions = some state) :
    run EndpointMonitor.step (.initial mEndpointList present queue.length)
        (actions.filterMap Action.monitorAction) = some state.monitor ∧
      (∃ unread : List QueuedEvent,
        state.visited ++ (unread ++ state.queue).map QueuedEvent.toInotifyEvent =
          (queue ++ actions.flatMap Action.queuedEvents).map QueuedEvent.toInotifyEvent ∧
        state.monitor.unhandled = (unread ++ state.queue).length ∧
        (unread ≠ [] ↔ state.p < state.numRead)) ∧
      (state.p < state.numRead →
        state.p + (InotifyEvent.size + lenAt (state.buf.drop state.p)) ≤ state.numRead ∧
          state.numRead ≤ BUFFER_SIZE) ∧
      (state.exhausted → state.queue ≠ [] → ∃ next, step state (.read 1) = some next) := by
  obtain ⟨hmonitor, unread, hreading⟩ := run_history
    (J := fun done state =>
      run EndpointMonitor.step (.initial mEndpointList present queue.length)
          (done.filterMap Action.monitorAction) = some state.monitor ∧
        ∃ unread, state.Reading (queue ++ done.flatMap Action.queuedEvents) unread)
    (fun done state action next hboth hstep => by
      obtain ⟨hmonitor, unread, hreading⟩ := hboth
      obtain ⟨hone, hnext⟩ := hreading.step hstep
      rw [List.filterMap_append, List.flatMap_append, List.flatMap_singleton,
        ← List.append_assoc]
      refine ⟨run_append_eq_some.mpr ⟨state.monitor, hmonitor, ?_⟩, hnext⟩
      cases haction : action.monitorAction <;> simpa [haction] using hone)
    ⟨rfl, [], by simpa using reading_initial mEndpointList present queue buf⟩ hrun
  refine ⟨hmonitor, ⟨unread, hreading.log, hreading.count, hreading.unread_ne_nil_iff⟩, ?_, ?_⟩
  · exact fun hmore => ⟨hreading.inBounds hmore, hreading.bounded⟩
  · exact read_one state

/-! The daemon dies: two events come with one `read`. -/

def endpointGone (digit : BitVec 8) : QueuedEvent where
  wd := 1
  mask := 0x200
  cookie := 0
  name := [0x65, 0x70, digit] ++ List.replicate 13 0
  short := by simp [NAME_MAX]

def daemonDies : List Action :=
  [.check, .check, .check, .pullUp true, .record,
    .removed "ep1" (endpointGone 0x31), .removed "ep2" (endpointGone 0x32), .read 2,
    .handleEvent, .check, .handleEvent]

theorem daemonDies_visited :
    (run step (.initial ["ep1", "ep2"] ["ep1", "ep2"] [] (.replicate 512 0xff)) daemonDies).map
      (fun state => (state.visited, state.numRead, state.p)) =
      some ([(endpointGone 0x31).toInotifyEvent, (endpointGone 0x32).toInotifyEvent], 64, 64) := by
  decide +kernel

theorem every_event_visited_once_daemonDies :
    ∃ state, run step (.initial ["ep1", "ep2"] ["ep1", "ep2"] [] (.replicate 512 0xff))
        daemonDies = some state ∧
      state.visited = [(endpointGone 0x31).toInotifyEvent, (endpointGone 0x32).toInotifyEvent] ∧
      run EndpointMonitor.step (.initial ["ep1", "ep2"] ["ep1", "ep2"] 0)
        (daemonDies.filterMap Action.monitorAction) = some state.monitor := by
  obtain ⟨state, hrun, hstate⟩ := Option.map_eq_some_iff.mp daemonDies_visited
  rw [Prod.mk.injEq] at hstate
  exact ⟨state, hrun, hstate.1, (every_event_visited_once _ _ _ _ _ _ hrun).1⟩

end InotifyBuffer
end Camellia.Usb
