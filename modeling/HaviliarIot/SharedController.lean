import HaviliarIot.Cooperative

/-!
The tasks of `bin/lora-display.rs` that share the LoRa controller, and those of
`bin/wifi.rs` that share the MQTT controller.

A guard bound by `let` in the body of a `loop` lives to the end of the iteration,
past the timer at its end, and the next iteration locks again before the task has
to wait.  The main loop of the display node and `watch_mqtt_messages` are written
like that, and once one of them has the mutex no other task gets it.  In
`task_receive` and `send_ping_task` a block ends the guard before the timer.
-/

namespace HaviliarIot

open Runs Cooperative

namespace LoraDisplay

inductive Task where
  | main
  | taskReceive
  | taskSend
  deriving DecidableEq

/-- Where the tasks stand.  The guard of `main` is dropped at the end of its
iteration, that of `task_receive` at the end of a block of its own, that of
`task_send` at the end of the statement. -/
inductive Pc where
  /-- `display.clear()`, and the texts. -/
  | mainClear
  | mainLock
  /-- In `lora_ref.send_message(..)`. -/
  | mainSend
  /-- In `Timer::after_millis(5000)`. -/
  | mainPause
  | mainDrop
  /-- In the first `Timer::after_millis(100)`. -/
  | receiveInit
  | receiveLock
  /-- In `lora_ref.receive_message(..)`. -/
  | receiveListen
  | receiveDrop
  /-- In the second `Timer::after_millis(100)`. -/
  | receivePause
  /-- In `receiver.receive()`; nothing sends on the channel, and a message may
  arrive all the same. -/
  | sendTake
  | sendLock
  | sendTransmit
  | sendDrop
  deriving DecidableEq

/-- `loop { if let Err(e) = display.clear() { continue; } .. }`, `task_receive` and
`task_send`. -/
def code : Pc → Op Pc
  | .mainClear => .compute [.mainClear, .mainLock]
  | .mainLock => .lock .mainSend
  | .mainSend => .await .mainPause
  | .mainPause => .sleep .mainDrop
  | .mainDrop => .unlock .mainClear
  | .receiveInit => .sleep .receiveLock
  | .receiveLock => .lock .receiveListen
  | .receiveListen => .await .receiveDrop
  | .receiveDrop => .unlock .receivePause
  | .receivePause => .sleep .receiveInit
  | .sendTake => .await .sendLock
  | .sendLock => .lock .sendTransmit
  | .sendTransmit => .await .sendDrop
  | .sendDrop => .unlock .sendTake

def owner : Pc → Task
  | .mainClear | .mainLock | .mainSend | .mainPause | .mainDrop => .main
  | .receiveInit | .receiveLock | .receiveListen | .receiveDrop | .receivePause => .taskReceive
  | .sendTake | .sendLock | .sendTransmit | .sendDrop => .taskSend

/-- Where a `lora_ref`, or the temporary of `task_send`, is alive. -/
def guarded : Pc → Bool
  | .mainSend | .mainPause | .mainDrop | .receiveListen | .receiveDrop | .sendTransmit
  | .sendDrop => true
  | _ => false

def start : Task → Pc
  | .main => .mainClear
  | .taskReceive => .receiveInit
  | .taskSend => .sendTake

def program : Program Task Pc where
  code := code
  owner := owner
  guarded := guarded
  start := start
  owner_next pc := by cases pc <;> simp [code, owner, Op.next]
  guarded_next pc := by cases pc <;> simp [code, guarded, Op.next, Op.guards]
  guarded_lock pc := by cases pc <;> simp [code, guarded]
  guarded_unlock pc := by cases pc <;> simp [code, guarded]
  owner_start task := by cases task <;> rfl
  guarded_start task := by cases task <;> rfl

/-- `main` has just spawned the other two. -/
def init : State Task Pc := Cooperative.init program (some .main)

/-- The guard is alive at both awaits of the main loop but the lock. -/
theorem main_grips : Grips program .main := by
  intro pc here waits
  cases pc with
  | mainSend | mainPause => rfl
  | mainClear | mainLock | mainDrop => cases waits
  | _ => cases here

/-- A task that waits for the LoRa mutex waits for the main loop, and in vain. -/
theorem starves {tr : List (Event Task Pc)} {s : State Task Pc} {task : Task}
    (ran : run (step program) init tr = some s) (waiting : s.Waiting task) :
    ¬ CanAcquire program s task := by
  obtain ⟨monopoly, active⟩ := monopoly_of_start main_grips ran
  have other : task ≠ .main := by
    rintro rfl
    exact active waiting
  exact never_acquires main_grips (sound_of_run ran) monopoly other

end LoraDisplay

namespace Wifi

inductive Task where
  | watchMqttMessages
  | sendPingTask
  deriving DecidableEq

/-- Where the two tasks stand.  The guard of `watch_mqtt_messages` is dropped at the
end of its iteration, that of `send_ping_task` at the end of a block of its own. -/
inductive Pc where
  | watchLock
  /-- In `mqtt_controller.receive_message()`. -/
  | watchReceive
  /-- The message is parsed, and the angle handed to the servo with `try_send`. -/
  | watchHandle
  /-- In `Timer::after(Duration::from_secs(1))`. -/
  | watchPause
  | watchDrop
  | pingLock
  /-- In `controller.send_ping()`. -/
  | pingSend
  | pingDrop
  /-- In `Timer::after(Duration::from_secs(30))`. -/
  | pingPause
  deriving DecidableEq

/-- `watch_mqtt_messages` and `send_ping_task`. -/
def code : Pc → Op Pc
  | .watchLock => .lock .watchReceive
  | .watchReceive => .await .watchHandle
  | .watchHandle => .compute [.watchPause]
  | .watchPause => .sleep .watchDrop
  | .watchDrop => .unlock .watchLock
  | .pingLock => .lock .pingSend
  | .pingSend => .await .pingDrop
  | .pingDrop => .unlock .pingPause
  | .pingPause => .sleep .pingLock

def owner : Pc → Task
  | .watchLock | .watchReceive | .watchHandle | .watchPause | .watchDrop => .watchMqttMessages
  | .pingLock | .pingSend | .pingDrop | .pingPause => .sendPingTask

/-- Where a guard is alive. -/
def guarded : Pc → Bool
  | .watchReceive | .watchHandle | .watchPause | .watchDrop | .pingSend | .pingDrop => true
  | .watchLock | .pingLock | .pingPause => false

def start : Task → Pc
  | .watchMqttMessages => .watchLock
  | .sendPingTask => .pingLock

def program : Program Task Pc where
  code := code
  owner := owner
  guarded := guarded
  start := start
  owner_next pc := by cases pc <;> simp [code, owner, Op.next]
  guarded_next pc := by cases pc <;> simp [code, guarded, Op.next, Op.guards]
  guarded_lock pc := by cases pc <;> simp [code, guarded]
  guarded_unlock pc := by cases pc <;> simp [code, guarded]
  owner_start task := by cases task <;> rfl
  guarded_start task := by cases task <;> rfl

/-- Both tasks spawned, and `main` asleep. -/
def init : State Task Pc := Cooperative.init program none

/-- The guard is alive at both awaits of `watch_mqtt_messages` but the lock. -/
theorem watch_grips : Grips program .watchMqttMessages := by
  intro pc here waits
  cases pc with
  | watchReceive | watchPause => rfl
  | watchLock | watchHandle | watchDrop => cases waits
  | _ => cases here

/-- `send_ping_task` always comes to its timer, where it has dropped the guard. -/
theorem ping_retires (pc : Pc) (elsewhere : program.owner pc ≠ .watchMqttMessages) :
    Retires program pc := by
  have atPause : Retires program .pingPause := .rest rfl rfl
  have atDrop : Retires program .pingDrop := .unlock rfl atPause
  have atSend : Retires program .pingSend := .await rfl atDrop
  cases pc with
  | pingPause => exact atPause
  | pingDrop => exact atDrop
  | pingSend => exact atSend
  | pingLock => exact .lock rfl atSend
  | _ => exact absurd rfl elsewhere

/-- `send_ping_task`, once it waits for the MQTT mutex, waits for ever. -/
theorem ping_starves {tr : List (Event Task Pc)} {s : State Task Pc}
    (ran : run (step program) init tr = some s) (waiting : s.Waiting .sendPingTask) :
    ¬ CanAcquire program s .sendPingTask := by
  have grips : ∀ other, other ≠ .sendPingTask → Grips program other := by
    intro other different
    cases other with
    | watchMqttMessages => exact watch_grips
    | sendPingTask => exact absurd rfl different
  obtain ⟨other, different, monopoly⟩ := monopoly_of_waiting grips ran waiting
  exact never_acquires (grips other different) (sound_of_run ran) monopoly (Ne.symm different)

end Wifi

/-- The two nodes whose tasks share a controller in this way. -/
inductive SharingNode where
  | loraDisplay
  | wifi

namespace SharingNode

def Task : SharingNode → Type
  | loraDisplay => LoraDisplay.Task
  | wifi => Wifi.Task

def Pc : SharingNode → Type
  | loraDisplay => LoraDisplay.Pc
  | wifi => Wifi.Pc

instance : (node : SharingNode) → DecidableEq node.Task
  | loraDisplay => inferInstanceAs (DecidableEq LoraDisplay.Task)
  | wifi => inferInstanceAs (DecidableEq Wifi.Task)

instance : (node : SharingNode) → DecidableEq node.Pc
  | loraDisplay => inferInstanceAs (DecidableEq LoraDisplay.Pc)
  | wifi => inferInstanceAs (DecidableEq Wifi.Pc)

def program : (node : SharingNode) → Program node.Task node.Pc
  | loraDisplay => LoraDisplay.program
  | wifi => Wifi.program

def init : (node : SharingNode) → State node.Task node.Pc
  | loraDisplay => LoraDisplay.init
  | wifi => Wifi.init

/-- The task is `watch_mqtt_messages` of the wifi node. -/
def IsWatch : (node : SharingNode) → node.Task → Prop
  | loraDisplay, _ => False
  | wifi, task => task = Wifi.Task.watchMqttMessages

variable {node : SharingNode} {tr : List (Event node.Task node.Pc)} {s : State node.Task node.Pc}
  {task : node.Task}

/-- **Who gets the shared controller.**  From a reachable state, a task that waits
for the mutex acquires it in some continuation exactly when it is
`watch_mqtt_messages` of the wifi node. -/
theorem acquires_iff (ran : run (step node.program) node.init tr = some s)
    (waiting : s.Waiting task) : CanAcquire node.program s task ↔ node.IsWatch task := by
  cases node with
  | loraDisplay => exact iff_of_false (LoraDisplay.starves ran waiting) id
  | wifi =>
    cases task with
    | watchMqttMessages =>
      exact iff_of_true (acquires Wifi.ping_retires (sound_of_run ran) waiting) rfl
    | sendPingTask => exact iff_of_false (Wifi.ping_starves ran waiting) (by simp [IsWatch])

/-- The ping goes first; `watch_mqtt_messages` waits for it, and can acquire. -/
theorem acquires_iff_watch :
    ∃ s, run (step Wifi.program) Wifi.init
        [.poll .sendPingTask, .acquire, .suspend, .poll .watchMqttMessages, .block] = some s ∧
      s.Waiting .watchMqttMessages ∧ CanAcquire Wifi.program s .watchMqttMessages := by
  have ran : run (step wifi.program) wifi.init
      [.poll Wifi.Task.sendPingTask, .acquire, .suspend, .poll Wifi.Task.watchMqttMessages,
        .block] = some _ := rfl
  refine ⟨_, ran, .inl rfl, ?_⟩
  apply (acquires_iff ran ?_).mpr
  · rfl
  · exact .inl rfl

end SharingNode

/-- The main loop of the display node locks, and waits for its transmission;
`task_receive` comes out of its first timer, finds the mutex taken, and never gets
to listen. -/
theorem receive_starves :
    ∃ s, run (step LoraDisplay.program) LoraDisplay.init
        [.compute .mainLock, .acquire, .suspend, .poll .taskReceive, .suspend, .wake .taskReceive,
          .poll .taskReceive, .block] = some s ∧
      s.Waiting .taskReceive ∧ ¬ CanAcquire LoraDisplay.program s .taskReceive := by
  have ran : run (step LoraDisplay.program) LoraDisplay.init
      [.compute .mainLock, .acquire, .suspend, .poll .taskReceive, .suspend, .wake .taskReceive,
        .poll .taskReceive, .block] = some _ := rfl
  refine ⟨_, ran, .inl rfl, ?_⟩
  exact never_acquires LoraDisplay.main_grips (sound_of_run ran) (.inl rfl) (by simp)

end HaviliarIot
