import Aspl.Base.OrderedMap
import Aspl.Base.System
import Aspl.CoreAudio

/-! Clients of a device: `AddClient()` and `RemoveClient()`, the map they keep, and the
callbacks of the control handler that make and retire clients. `writeMutex_` makes each call
one step.
-/

namespace Aspl.Device

open Aspl.CoreAudio

universe u

/-- What HAL says about a client. The bundle ID is a reference that may be null. -/
structure AudioServerPlugInClientInfo where
  mClientID : UInt32
  mProcessID : Int32
  mIsNativeEndian : Bool
  mBundleID : Option String

/-- What the control handler is told about a client. -/
structure ClientInfo where
  clientID : UInt32 := 0
  processID : Int32 := 0
  isNativeEndian : Bool := false
  bundleID : String := ""
deriving DecidableEq

/-- `Convert::FromFoundation()` of a string: empty for null, and cut at a null character. -/
def stringFromFoundation : Option String → String
  | none => ""
  | some value => String.ofList (value.toList.takeWhile (· ≠ Char.ofNat 0))

def ClientInfo.ofRaw (raw : AudioServerPlugInClientInfo) : ClientInfo where
  clientID := raw.mClientID
  processID := raw.mProcessID
  isNativeEndian := raw.mIsNativeEndian
  bundleID := stringFromFoundation raw.mBundleID

/-- A callback of the control handler: `OnAddClient()` with what it returned, or
`OnRemoveClient()` with the client it was given and the ID that client was removed under.
-/
inductive ClientCallback (Client : Type u) where
  | onAddClient (clientInfo : ClientInfo) (client : Option Client)
  | onRemoveClient (clientID : UInt32) (client : Client)

/-- The clients of a device, and the callbacks so far in the order they were made. -/
structure Clients (Client : Type u) where
  clientByID : OrderedMap UInt32 Client := .empty
  callbacks : List (ClientCallback Client) := []

/-- A call of `AddClient()`, with what `OnAddClient()` returns if it is reached, or of
`RemoveClient()`.
-/
inductive ClientCall (Client : Type u) where
  | addClient (objectID : AudioObjectID) (rawClientInfo : Option AudioServerPlugInClientInfo)
    (result : Option Client)
  | removeClient (objectID : AudioObjectID)
    (rawClientInfo : Option AudioServerPlugInClientInfo)

namespace Clients

variable {Client : Type u}

/-- `Device::AddClient()` on the device with the ID `self`. A client that is already stored
under the ID is overwritten.
-/
def addClient (self : AudioObjectID) (clients : Clients Client) (objectID : AudioObjectID)
    (rawClientInfo : Option AudioServerPlugInClientInfo) (result : Option Client)
    : OSStatus × Clients Client :=
  if objectID ≠ self then (.kAudioHardwareBadObjectError, clients)
  else
    match rawClientInfo with
    | none => (.kAudioHardwareIllegalOperationError, clients)
    | some raw =>
        let clientInfo := ClientInfo.ofRaw raw
        let callbacks := clients.callbacks ++ [.onAddClient clientInfo result]
        match result with
        | none => (.kAudioHardwareUnspecifiedError, { clients with callbacks := callbacks })
        | some client =>
            (.kAudioHardwareNoError, {
              clientByID := clients.clientByID.insert clientInfo.clientID client
              callbacks := callbacks
            })

/-- `Device::RemoveClient()` on the device with the ID `self`. -/
def removeClient (self : AudioObjectID) (clients : Clients Client) (objectID : AudioObjectID)
    (rawClientInfo : Option AudioServerPlugInClientInfo)
    : OSStatus × Clients Client :=
  if objectID ≠ self then (.kAudioHardwareBadObjectError, clients)
  else
    match rawClientInfo with
    | none => (.kAudioHardwareIllegalOperationError, clients)
    | some raw =>
        let clientInfo := ClientInfo.ofRaw raw
        match clients.clientByID.find? raw.mClientID with
        | none => (.kAudioHardwareIllegalOperationError, clients)
        | some client =>
            (.kAudioHardwareNoError, {
              clientByID := clients.clientByID.erase clientInfo.clientID
              callbacks := clients.callbacks ++ [.onRemoveClient clientInfo.clientID client]
            })

def getClients (clients : Clients Client) : List Client :=
  clients.clientByID.entries.map Prod.snd

def getClientByID (clients : Clients Client) (clientID : UInt32) : Option Client :=
  clients.clientByID.find? clientID

/-- The status of a call and the clients after it. -/
def perform (self : AudioObjectID) (clients : Clients Client)
    : ClientCall Client → OSStatus × Clients Client
  | .addClient objectID rawClientInfo result =>
      clients.addClient self objectID rawClientInfo result
  | .removeClient objectID rawClientInfo => clients.removeClient self objectID rawClientInfo

/-- Sequences of calls on a new device. -/
def system (self : AudioObjectID) : System (Clients Client) (ClientCall Client) where
  initial clients := clients = {}
  step clients call next := (clients.perform self call).2 = next

end Clients

namespace ClientCallback

variable {Client : Type u}

/-- The client that a callback brought into being. -/
def returned : ClientCallback Client → Option Client
  | .onAddClient _ client => client
  | .onRemoveClient .. => none

/-- The client that a callback retired. -/
def removed : ClientCallback Client → Option Client
  | .onAddClient .. => none
  | .onRemoveClient _ client => some client

/-- What a callback makes of the client that is present under an ID. -/
def present (clientID : UInt32) (client : Option Client) : ClientCallback Client → Option Client
  | .onAddClient clientInfo (some added) =>
      if clientInfo.clientID = clientID then some added else client
  | .onAddClient _ none => client
  | .onRemoveClient removedID _ => if removedID = clientID then none else client

end ClientCallback

namespace Clients

variable {Client : Type u}

/-- The clients returned by `OnAddClient()` so far, null left out. -/
def returned (clients : Clients Client) : List Client :=
  clients.callbacks.filterMap ClientCallback.returned

/-- The clients passed to `OnRemoveClient()` so far. -/
def removed (clients : Clients Client) : List Client :=
  clients.callbacks.filterMap ClientCallback.removed

/-- The client most recently added under an ID and not removed since. -/
def mostRecent (clients : Clients Client) (clientID : UInt32) : Option Client :=
  clients.callbacks.foldl (ClientCallback.present clientID) none

/-- Every returned client is either present or has been removed, occurrence for occurrence;
and lookup finds the client most recently added. When no client was returned twice, none is
both present and removed, and none was removed twice.
-/
structure Accounted (clients : Clients Client) : Prop where
  ledger : clients.returned.Perm (clients.getClients ++ clients.removed)
  apart
    : clients.returned.Nodup
      → clients.getClients.Disjoint clients.removed ∧ clients.removed.Nodup
  lookup : ∀ clientID, clients.getClientByID clientID = clients.mostRecent clientID

/-- A client that the handler is about to return is added under an ID that is not in use. -/
def Permitted (self : AudioObjectID) (clients : Clients Client) : ClientCall Client → Prop
  | .addClient objectID (some raw) (some _) =>
      objectID = self → clients.getClientByID raw.mClientID = none
  | _ => True

/-- What a call can do: fail and store nothing, store the client that the handler returned, or
take a stored client out and hand it to the handler.
-/
inductive Effect (self : AudioObjectID) (clients : Clients Client)
    : ClientCall Client → OSStatus × Clients Client → Prop
  | rejected {call status} (error : status ≠ .kAudioHardwareNoError)
    (permitted : Permitted self clients call)
    : Effect self clients call (status, clients)
  | refused {raw}
    : Effect self clients (.addClient self (some raw) none)
        (.kAudioHardwareUnspecifiedError, {
          clients with
          callbacks := clients.callbacks ++ [.onAddClient (.ofRaw raw) none]
        })
  | added {raw client}
    : Effect self clients (.addClient self (some raw) (some client))
        (.kAudioHardwareNoError, {
          clientByID := clients.clientByID.insert raw.mClientID client
          callbacks := clients.callbacks ++ [.onAddClient (.ofRaw raw) (some client)]
        })
  | removed {raw client} (stored : clients.clientByID.find? raw.mClientID = some client)
    : Effect self clients (.removeClient self (some raw))
        (.kAudioHardwareNoError, {
          clientByID := clients.clientByID.erase raw.mClientID
          callbacks := clients.callbacks ++ [.onRemoveClient raw.mClientID client]
        })

/-- Every call has one of these effects, by following its checks in order. -/
theorem perform_effect (self : AudioObjectID) (clients : Clients Client)
    (call : ClientCall Client)
    : Effect self clients call (clients.perform self call) := by
  cases call with
  | addClient objectID rawClientInfo result =>
      by_cases own : objectID = self
      · subst own
        simp only [perform, addClient, ne_eq, not_true_eq_false, ↓reduceIte]
        cases rawClientInfo with
        | none => exact .rejected (by decide) trivial
        | some raw =>
            cases result with
            | none => exact .refused
            | some client => exact .added
      · simp only [perform, addClient, ne_eq, own, not_false_eq_true, ↓reduceIte]
        refine .rejected (by decide) ?_
        cases rawClientInfo with
        | none => trivial
        | some raw =>
            cases result with
            | none => trivial
            | some client => exact fun same => absurd same own
  | removeClient objectID rawClientInfo =>
      by_cases own : objectID = self
      · subst own
        simp only [perform, removeClient, ne_eq, not_true_eq_false, ↓reduceIte]
        cases rawClientInfo with
        | none => exact .rejected (by decide) trivial
        | some raw =>
            cases stored : clients.clientByID.find? raw.mClientID with
            | none => simpa only [stored] using .rejected (by decide) trivial
            | some client => simpa only [stored] using .removed stored
      · simp only [perform, removeClient, ne_eq, own, not_false_eq_true, ↓reduceIte]
        exact .rejected (by decide) trivial

/-- The part of the account that follows from the ledger once the returned clients are
distinct.
-/
theorem apart_of_ledger {clients : Clients Client}
    (ledger : clients.returned.Perm (clients.getClients ++ clients.removed))
    (distinct : clients.returned.Nodup)
    : clients.getClients.Disjoint clients.removed ∧ clients.removed.Nodup := by
  have parts := List.nodup_append'.mp (ledger.nodup_iff.mp distinct)
  exact ⟨parts.2.2, parts.2.1⟩

/-- A new device has no clients to account for. -/
theorem accounted_new : Accounted ({} : Clients Client) where
  ledger := .nil
  apart := fun _ => ⟨List.disjoint_nil_left _, .nil⟩
  lookup := fun _ => rfl

/-- Storing a client under a free ID adds it to both sides of the ledger. -/
theorem Accounted.added {clients : Clients Client} (before : clients.Accounted)
    {raw : AudioServerPlugInClientInfo} {client : Client}
    (free : clients.getClientByID raw.mClientID = none)
    : Accounted {
        clientByID := clients.clientByID.insert raw.mClientID client
        callbacks := clients.callbacks ++ [.onAddClient (.ofRaw raw) (some client)]
      } := by
  have stored
      : ((clients.clientByID.insert raw.mClientID client).entries.map Prod.snd).Perm
          (client :: clients.getClients) := by
    have entries := clients.clientByID.entries_insert_perm raw.mClientID client
    rw [clients.clientByID.erase_of_find?_none free] at entries
    exact entries.map Prod.snd
  have ledger
      : (clients.returned ++ [client]).Perm
          (((clients.clientByID.insert raw.mClientID client).entries.map Prod.snd)
            ++ clients.removed) :=
    calc
      (clients.returned ++ [client]).Perm (client :: clients.returned) :=
        List.perm_append_singleton ..
      List.Perm _ (client :: (clients.getClients ++ clients.removed)) :=
        before.ledger.cons client
      List.Perm _ _ := (stored.append_right clients.removed).symm
  refine ⟨?_, apart_of_ledger ?_, ?_⟩
  · simpa [returned, removed, getClients, List.filterMap_cons, ClientCallback.returned,
      ClientCallback.removed] using ledger
  · simpa [returned, removed, getClients, List.filterMap_cons, ClientCallback.returned,
      ClientCallback.removed] using ledger
  · intro clientID
    have earlier := before.lookup clientID
    simp only [getClientByID, mostRecent, List.foldl_append, List.foldl_cons, List.foldl_nil,
      ClientCallback.present, ClientInfo.ofRaw, OrderedMap.find?_insert] at earlier ⊢
    rw [earlier]
    simp only [eq_comm]

/-- Handing a stored client to `OnRemoveClient()` moves it from one part of the ledger to the
other.
-/
theorem Accounted.removed {clients : Clients Client} (before : clients.Accounted)
    {clientID : UInt32} {client : Client}
    (stored : clients.clientByID.find? clientID = some client)
    : Accounted {
        clientByID := clients.clientByID.erase clientID
        callbacks := clients.callbacks ++ [.onRemoveClient clientID client]
      } := by
  have split
      : clients.getClients.Perm
          (client :: (clients.clientByID.erase clientID).entries.map Prod.snd) :=
    (clients.clientByID.entries_perm_erase stored).map Prod.snd
  have ledger
      : clients.returned.Perm
          ((clients.clientByID.erase clientID).entries.map Prod.snd
            ++ (clients.removed ++ [client])) := by
    refine before.ledger.trans ((split.append_right clients.removed).trans ?_)
    rw [← List.append_assoc]
    exact (List.perm_append_singleton ..).symm
  refine ⟨?_, apart_of_ledger ?_, ?_⟩
  · simpa [returned, Clients.removed, getClients, List.filterMap_cons,
      ClientCallback.returned, ClientCallback.removed] using ledger
  · simpa [returned, Clients.removed, getClients, List.filterMap_cons,
      ClientCallback.returned, ClientCallback.removed] using ledger
  · intro other
    have earlier := before.lookup other
    simp only [getClientByID, mostRecent, List.foldl_append, List.foldl_cons, List.foldl_nil,
      ClientCallback.present, OrderedMap.find?_erase] at earlier ⊢
    rw [earlier]
    simp only [eq_comm]

/-- A null result of `OnAddClient()` is on neither side of the ledger. -/
theorem Accounted.refused {clients : Clients Client} (before : clients.Accounted)
    (clientInfo : ClientInfo)
    : Accounted {
        clients with
        callbacks := clients.callbacks ++ [.onAddClient clientInfo none]
      } := by
  obtain ⟨ledger, apart, lookup⟩ := before
  constructor
  · simpa [returned, Clients.removed, getClients, List.filterMap_cons,
      ClientCallback.returned, ClientCallback.removed] using ledger
  · simpa [returned, Clients.removed, getClients, List.filterMap_cons,
      ClientCallback.returned, ClientCallback.removed] using apart
  · simpa [getClientByID, mostRecent, ClientCallback.present] using lookup

/-- An overwritten client is lost: it was returned, is not stored any more, and was not passed
to `OnRemoveClient()`. The ledger is one client short.
-/
theorem Accounted.not_overwritten {clients : Clients Client} (before : clients.Accounted)
    {raw : AudioServerPlugInClientInfo} {client old : Client}
    (used : clients.clientByID.find? raw.mClientID = some old)
    : ¬ Accounted {
        clientByID := clients.clientByID.insert raw.mClientID client
        callbacks := clients.callbacks ++ [.onAddClient (.ofRaw raw) (some client)]
      } := by
  intro after
  have inserted :=
    (clients.clientByID.entries_insert_perm raw.mClientID client).length_eq
  have erased := (clients.clientByID.entries_perm_erase used).length_eq
  have known := before.ledger.length_eq
  have known' := after.ledger.length_eq
  simp [returned, Clients.removed, getClients, List.filterMap_cons, ClientCallback.returned,
    ClientCallback.removed] at inserted erased known known'
  omega

/-- From an accounted state, a call leaves an accounted state exactly if it is permitted. -/
theorem Accounted.perform_iff {self : AudioObjectID} {clients : Clients Client}
    (before : clients.Accounted) (call : ClientCall Client)
    : (clients.perform self call).2.Accounted ↔ Permitted self clients call := by
  have effect := perform_effect self clients call
  generalize clients.perform self call = outcome at effect
  cases effect with
  | rejected error permitted => exact ⟨fun _ => permitted, fun _ => before⟩
  | refused => exact ⟨fun _ => trivial, fun _ => before.refused _⟩
  | @added raw client =>
      cases used : clients.clientByID.find? raw.mClientID with
      | none => exact ⟨fun _ _ => used, fun _ => before.added used⟩
      | some old =>
          refine ⟨fun after => absurd after (before.not_overwritten used), ?_⟩
          intro permitted
          exact absurd (used.symm.trans (permitted rfl)) (Option.some_ne_none old)
  | removed stored => exact ⟨fun _ => trivial, fun _ => before.removed stored⟩

/-- A failed call stores nothing and retires nobody. -/
theorem perform_error {self : AudioObjectID} {clients : Clients Client}
    {call : ClientCall Client}
    (error : (clients.perform self call).1 ≠ .kAudioHardwareNoError)
    : (clients.perform self call).2.clientByID = clients.clientByID
      ∧ (clients.perform self call).2.removed = clients.removed := by
  have effect := perform_effect self clients call
  generalize clients.perform self call = outcome at effect error
  cases effect with
  | rejected => exact ⟨rfl, rfl⟩
  | refused => exact ⟨rfl, by simp [Clients.removed, List.filterMap_cons, ClientCallback.removed]⟩
  | added => exact absurd rfl error
  | removed => exact absurd rfl error

/-- In a run whose calls are permitted every client is accounted for, and a call keeps the
account exactly if it is permitted. A failed call changes nothing, permitted or not.
-/
theorem accounted_exactly (self : AudioObjectID) {clients : Clients Client}
    (reached : ((system self).restrict (Permitted self)).Reachable clients)
    : clients.Accounted
      ∧ ∀ call,
          ((clients.perform self call).2.Accounted ↔ Permitted self clients call)
          ∧ ((clients.perform self call).1 ≠ .kAudioHardwareNoError
            → (clients.perform self call).2.clientByID = clients.clientByID
              ∧ (clients.perform self call).2.removed = clients.removed) := by
  have invariant : ((system self).restrict (Permitted self)).Invariant
      (fun clients : Clients Client => clients.Accounted) := {
    initial := fun clients new => new ▸ accounted_new
    step := fun clients call next before taken =>
      taken.2 ▸ (before.perform_iff call).mpr taken.1
  }
  have accounted := invariant.reachable reached
  exact ⟨accounted, fun call => ⟨accounted.perform_iff call, perform_error⟩⟩

/-- The info of a client with an ID and nothing else to tell. -/
def plainInfo (clientID : UInt32) : AudioServerPlugInClientInfo where
  mClientID := clientID
  mProcessID := 0
  mIsNativeEndian := true
  mBundleID := none

/-- One client of the device 2 is removed, and another one is added under its ID. -/
theorem accounted_exactly_replaced
    : ∃ clients : Clients Nat,
        clients.getClientByID 7 = some 1
        ∧ clients.returned = [0, 1]
        ∧ clients.removed = [0]
        ∧ clients.Accounted := by
  have start : ((system 2).restrict (Permitted 2)).Reachable ({} : Clients Nat) := .initial rfl
  have added := start.step (.addClient 2 (plainInfo 7) (some 0)) ⟨fun _ => rfl, rfl⟩
  have removed := added.step (.removeClient 2 (plainInfo 7)) ⟨trivial, rfl⟩
  have replaced := removed.step (.addClient 2 (plainInfo 7) (some 1)) ⟨fun _ => rfl, rfl⟩
  exact ⟨_, rfl, rfl, rfl, (accounted_exactly 2 replaced).1⟩

/-- A second client under the ID 7 drives the first one out without a callback. -/
theorem client_lost
    : ¬ ∀ clients : Clients Nat, (system 2).Reachable clients → clients.Accounted := by
  intro all
  let first := (({} : Clients Nat).perform 2 (.addClient 2 (plainInfo 7) (some 0))).2
  have reached : (system 2).Reachable first := .step (.initial rfl) _ rfl
  have twice := all _ (.step reached (.addClient 2 (plainInfo 7) (some 1)) rfl)
  have once : first.Accounted := (accounted_new.perform_iff _).mpr (fun _ => rfl)
  have permitted := (once.perform_iff _).mp twice
  exact absurd (permitted rfl) (by decide)

end Clients

end Aspl.Device
