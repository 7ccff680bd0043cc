import Aspl.Base.CriticalSection
import Aspl.Device.Clients

/-! `AddClient()` and `RemoveClient()` on any number of threads, one access or callback a step.
A lookup that takes no lock never finds a client that `OnRemoveClient()` was given.
-/

namespace Aspl.Device.Clients

open Aspl.CoreAudio

universe u v

variable {Client : Type u}

/-- `clientByID_.Set()`. -/
def setClientByID (clientByID : OrderedMap UInt32 Client) (clients : Clients Client)
    : Clients Client :=
  { clients with clientByID := clientByID }

/-- The control handler is called. -/
def callBack (callback : ClientCallback Client) (clients : Clients Client) : Clients Client :=
  { clients with callbacks := clients.callbacks ++ [callback] }

/-- `Device::AddClient()` between locking and unlocking `writeMutex_`. -/
def addClientCode (self objectID : AudioObjectID)
    (rawClientInfo : Option AudioServerPlugInClientInfo) (result : Option Client)
    : Code (Clients Client) OSStatus :=
  .read clientByID fun clientByID =>
  if objectID ≠ self then .done .kAudioHardwareBadObjectError
  else
    match rawClientInfo with
    | none => .done .kAudioHardwareIllegalOperationError
    | some raw =>
        let clientInfo := ClientInfo.ofRaw raw
        .write (callBack (.onAddClient clientInfo result)) <|
        match result with
        | none => .done .kAudioHardwareUnspecifiedError
        | some client =>
            .write (setClientByID (clientByID.insert clientInfo.clientID client))
              (.done .kAudioHardwareNoError)

/-- `Device::RemoveClient()` between locking and unlocking `writeMutex_`. -/
def removeClientCode (self objectID : AudioObjectID)
    (rawClientInfo : Option AudioServerPlugInClientInfo)
    : Code (Clients Client) OSStatus :=
  .read clientByID fun clientByID =>
  if objectID ≠ self then .done .kAudioHardwareBadObjectError
  else
    match rawClientInfo with
    | none => .done .kAudioHardwareIllegalOperationError
    | some raw =>
        let clientInfo := ClientInfo.ofRaw raw
        match clientByID.find? raw.mClientID with
        | none => .done .kAudioHardwareIllegalOperationError
        | some client =>
            .write (setClientByID (clientByID.erase clientInfo.clientID)) <|
            .write (callBack (.onRemoveClient clientInfo.clientID client))
              (.done .kAudioHardwareNoError)

def code (self : AudioObjectID) : ClientCall Client → Code (Clients Client) OSStatus
  | .addClient objectID rawClientInfo result => addClientCode self objectID rawClientInfo result
  | .removeClient objectID rawClientInfo => removeClientCode self objectID rawClientInfo

/-- Without anything in between, the accesses of a call amount to the call. -/
theorem run_code (self : AudioObjectID) (call : ClientCall Client) (clients : Clients Client)
    : (code self call).run clients
      = some ((clients.perform self call).2, (clients.perform self call).1) := by
  cases call with
  | addClient objectID rawClientInfo result =>
      by_cases own : objectID = self
      · cases rawClientInfo with
        | none => simp [code, addClientCode, perform, addClient, own]
        | some raw =>
            cases result <;>
              simp [code, addClientCode, perform, addClient, setClientByID, callBack, own]
      · simp [code, addClientCode, perform, addClient, own]
  | removeClient objectID rawClientInfo =>
      by_cases own : objectID = self
      · cases rawClientInfo with
        | none => simp [code, removeClientCode, perform, removeClient, own]
        | some raw =>
            cases found : clients.clientByID.find? raw.mClientID <;>
              simp [code, removeClientCode, perform, removeClient, setClientByID, callBack, own,
                found]
      · simp [code, removeClientCode, perform, removeClient, own]

/-- A client that a lookup finds was returned by `OnAddClient()`, and if no client was returned
twice, `OnRemoveClient()` was not given it.
-/
structure Serving (clients : Clients Client) : Prop where
  returned
    : ∀ clientID client,
        clients.getClientByID clientID = some client → client ∈ clients.returned
  notRemoved
    : clients.returned.Nodup
      → ∀ clientID client,
          clients.getClientByID clientID = some client → client ∉ clients.removed

variable {clients : Clients Client}

/-- Every client that a lookup finds is one of the clients. -/
theorem mem_getClients_of_getClientByID {clientID : UInt32} {client : Client}
    (found : clients.getClientByID clientID = some client)
    : client ∈ clients.getClients :=
  List.mem_map.mpr ⟨(clientID, client), clients.clientByID.find?_eq_some_iff.mp found, rfl⟩

/-- Where every client is accounted for, lookups find clients in service. -/
theorem Accounted.serving (accounted : clients.Accounted) : clients.Serving where
  returned _ _ found :=
    accounted.ledger.mem_iff.mpr
      (List.mem_append_left _ (mem_getClients_of_getClientByID found))
  notRemoved distinct _ _ found :=
    (accounted.apart distinct).1 (mem_getClients_of_getClientByID found)

/-- `OnAddClient()` may return another client. -/
theorem Serving.onAddClient (serving : clients.Serving) (clientInfo : ClientInfo)
    (result : Option Client)
    : (clients.callBack (.onAddClient clientInfo result)).Serving := by
  have returned
      : (clients.callBack (.onAddClient clientInfo result)).returned
        = clients.returned ++ result.toList := by
    cases result <;>
      simp [callBack, Clients.returned, List.filterMap_cons, ClientCallback.returned]
  have removed
      : (clients.callBack (.onAddClient clientInfo result)).removed = clients.removed := by
    simp [callBack, Clients.removed, List.filterMap_cons, ClientCallback.removed]
  constructor
  · intro clientID client found
    rw [returned]
    exact List.mem_append_left _ (serving.returned clientID client found)
  · intro distinct clientID client found
    rw [returned] at distinct
    rw [removed]
    exact serving.notRemoved (List.nodup_append.mp distinct).1 clientID client found

/-- Lookups may find fewer clients. -/
theorem Serving.erase (serving : clients.Serving) (clientID : UInt32)
    : (clients.setClientByID (clients.clientByID.erase clientID)).Serving := by
  have fewer {other : UInt32} {client : Client}
      (found : (clients.clientByID.erase clientID).find? other = some client) :
      clients.getClientByID other = some client :=
    (OrderedMap.find?_erase_eq_some_iff.mp found).2
  exact {
    returned := fun other client found => serving.returned other client (fewer found)
    notRemoved := fun distinct other client found =>
      serving.notRemoved distinct other client (fewer found)
  }

/-- Lookups find clients in service throughout a permitted call. -/
theorem Accounted.throughout_serving {self : AudioObjectID} (before : clients.Accounted)
    {call : ClientCall Client} (permitted : Permitted self clients call)
    : (code self call).Throughout Serving clients := by
  have serving := before.serving
  have after := ((before.perform_iff call).mpr permitted).serving
  cases call with
  | addClient objectID rawClientInfo result =>
      by_cases own : objectID = self
      · subst own
        cases rawClientInfo with
        | none => simpa [code, addClientCode] using serving
        | some raw =>
            have told := serving.onAddClient (.ofRaw raw) result
            cases result with
            | none => simpa [code, addClientCode] using ⟨serving, told⟩
            | some client =>
                simp only [code, addClientCode, ne_eq, not_true_eq_false, if_false,
                  Code.throughout_read, Code.throughout_write, Code.throughout_done]
                refine ⟨serving, serving, told, ?_⟩
                simpa [perform, addClient, setClientByID, callBack] using after
      · simpa [code, addClientCode, own] using serving
  | removeClient objectID rawClientInfo =>
      by_cases own : objectID = self
      · subst own
        cases rawClientInfo with
        | none => simpa [code, removeClientCode] using serving
        | some raw =>
            cases found : clients.clientByID.find? raw.mClientID with
            | none => simpa [code, removeClientCode, found] using serving
            | some client =>
                simp only [code, removeClientCode, ne_eq, not_true_eq_false, if_false, found,
                  Code.throughout_read, Code.throughout_write, Code.throughout_done]
                exact ⟨serving, serving, serving.erase _,
                  by simpa [perform, removeClient, setClientByID, callBack, found] using after⟩
      · simpa [code, removeClientCode, own] using serving

/-- The account is an invariant of the sequential runs of the code. -/
theorem accounted_sequential (self : AudioObjectID)
    : ((Guarded.sequential (code self) (· = ({} : Clients Client))).restrict
        (fun clients label => Permitted self clients label.1)).Invariant Accounted where
  initial clients new := new ▸ accounted_new
  step clients label next before taken := by
    obtain ⟨permitted, returned⟩ := taken
    change (code self label.1).run clients = some (next, label.2) at returned
    rw [run_code] at returned
    obtain ⟨rfl, -⟩ := Prod.mk.inj (Option.some.inj returned)
    exact (before.perform_iff label.1).mpr permitted

/-- On any number of threads that add and remove clients, none of them under an ID in use when the
call locks the mutex: while no call is under way every client is accounted for. At any moment a
lookup finds only clients that `OnAddClient()` returned, and that `OnRemoveClient()` was not given
if none was returned twice. A call that is under way can always be finished.
-/
theorem concurrent_clients {Thread : Type v} [DecidableEq Thread] (self : AudioObjectID)
    {state : Guarded Thread (Clients Client) (ClientCall Client) OSStatus}
    (reached
      : ((Guarded.system (code self) (· = {})).restrict
          (Guarded.Admits (Permitted self))).Reachable state)
    : (state.mutex = none → state.data.Accounted)
      ∧ state.data.Serving
      ∧ ∀ thread,
          state.mutex = some thread
          → ∃ labels finish,
              (∀ label ∈ labels, label = (thread, .proceed))
              ∧ (Guarded.system (code self) (· = {})).Run state labels finish
              ∧ finish.phase thread = .outside
              ∧ finish.mutex = none := by
  have atomic := Guarded.atomic reached
  refine ⟨fun free => Guarded.free_of_atomic atomic free (accounted_sequential self), ?_, ?_⟩
  · exact Guarded.holds_of_atomic atomic (accounted_sequential self)
      (fun _ accounted => accounted.serving) (fun _ _ before => before.throughout_serving)
  · intro thread locked
    refine Guarded.exists_unlock atomic (accounted_sequential self) ?_ locked
    intro clients call _ _
    rw [run_code]
    rfl

/-- No thread has called a device without clients. -/
def noCalls : Guarded Bool (Clients Nat) (ClientCall Nat) OSStatus where
  phase _ := .outside
  mutex := none
  data := {}
  finished := []

/-- `OnAddClient()` has returned a client that no lookup finds yet. -/
theorem concurrent_clients_returned
    : ∃ state,
        ((Guarded.system (code 2) (· = {})).restrict
          (Guarded.Admits (Permitted 2))).Reachable state
        ∧ state.mutex = some true
        ∧ state.data.returned = [0]
        ∧ state.data.getClients = []
        ∧ state.data.Serving := by
  have start
      : ((Guarded.system (code 2) (· = {})).restrict
          (Guarded.Admits (Permitted 2))).Reachable noCalls :=
    .initial ⟨fun _ => rfl, rfl, rfl, rfl⟩
  have called := start.step (true, .call (.addClient 2 (plainInfo 7) (some 0)))
    ⟨fun _ proceeds => (by cases proceeds), rfl⟩
  have locked := called.step (true, .proceed)
    ⟨fun _ _ waits => (by cases waits; exact fun _ => rfl), rfl⟩
  have copied := locked.step (true, .proceed) ⟨fun _ _ waits => (by cases waits), rfl⟩
  have returned := copied.step (true, .proceed) ⟨fun _ _ waits => (by cases waits), rfl⟩
  exact ⟨_, returned, rfl, rfl, rfl, (concurrent_clients 2 returned).2.1⟩

end Aspl.Device.Clients
