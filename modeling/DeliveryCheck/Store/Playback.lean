import DeliveryCheck.Store.Basic
/-!
A store that plays back prepared answers: insertions fail as listed, and each record that got in
answers its reads from its own list, the last answer for as long as it is asked.
-/

namespace DeliveryCheck.Playback

structure Answer where
  takes : Duration := .zero
  reply : Except String (Option Status) := .ok none

structure Channel where
  id : Uuid
  answers : List Answer

structure State where
  /-- For each insertion to come, the reason it fails for, if it does. -/
  insertions : List (Option String)
  /-- For each record to come, the answers to its reads. -/
  scripts : List (List Answer)
  channels : List Channel := []

namespace Answer

def result (answer : Answer) : Except Error (Option Status) :=
  match answer.reply with
  | .ok status => .ok status
  | .error reason => .error (.storeUnavailable reason)

end Answer

namespace State

def insert (state : State) (record : Record) : Except Error Uuid × State :=
  let later := { state with insertions := state.insertions.tail }
  match state.insertions.head? with
  | some (some reason) => (.error (.storeUnavailable reason), later)
  | _ =>
    let channel : Channel := ⟨record.id, state.scripts.headD []⟩
    (.ok record.id, { later with scripts := state.scripts.tail, channels := channel :: state.channels })

/-- Takes the first answer, which stays if it is the only one. -/
def Channel.next (channel : Channel) : Answer × Channel :=
  match channel.answers with
  | [] => ({}, channel)
  | [answer] => (answer, channel)
  | answer :: rest => (answer, { channel with answers := rest })

/-- The answer that a read gets, chosen when the read starts. -/
def next (state : State) (id : Uuid) : Answer × State :=
  match state.channels.find? (·.id = id) with
  | none => ({}, state)
  | some channel =>
    let (answer, later) := Channel.next channel
    (answer, { state with
      channels := state.channels.map fun old => if old.id = id then later else old })

end State

def store : Store State where
  insert record _ state := (⟨.zero, fun _ state => state.insert record⟩, state)
  read id _ state :=
    let (answer, state) := state.next id
    (⟨answer.takes, fun _ state => (answer.result, state)⟩, state)
  close := id

end DeliveryCheck.Playback
