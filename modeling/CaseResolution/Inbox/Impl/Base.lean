import CaseResolution.Domain.Inbox
import CaseResolution.Store

/-!
This module contains the database with the tables of the connected inbox.
-/

namespace CaseResolution

open Guard

structure InboxStore extends Store where
  profiles : List InboxConnectionProfile
  checkpoints : List InboxSyncCheckpoint
  jobs : List InboxSyncJob
  conversations : List ExternalConversation
  messages : List ExternalMessage
  deliveries : List InboxDraftDelivery

namespace InboxStore

def setJob (s : InboxStore) (jobId : Nat) (job : InboxSyncJob) : InboxStore :=
  { s with jobs := s.jobs.set jobId job }

def findCheckpoint (s : InboxStore) (connectionId : Nat) : Option (Nat × InboxSyncCheckpoint) :=
  (Rows.numbered s.checkpoints).find? fun (_, checkpoint) => checkpoint.connectionId = connectionId

def checkpoint (s : InboxStore) (connectionId : Nat) : Except Error (Nat × InboxSyncCheckpoint) :=
  orThrow (s.findCheckpoint connectionId)
    (.lookupError "The inbox sync checkpoint was not found.")

/--
Write `values` to the checkpoint of a connection, and count the write.
-/
def updateCheckpoint (s : InboxStore) (connectionId : Nat)
    (values : InboxSyncCheckpoint → InboxSyncCheckpoint) : Except Error InboxStore := do
  let (checkpointId, checkpoint) ← s.checkpoint connectionId
  pure { s with
    checkpoints := s.checkpoints.set checkpointId
      { values checkpoint with version := checkpoint.version + 1 } }

/--
Write the profile of a connection, or the first one.
-/
def setProfile (s : InboxStore) (profile : InboxConnectionProfile) : InboxStore :=
  match s.profiles.findIdx? fun row => row.connectionId = profile.connectionId with
  | some profileId => { s with profiles := s.profiles.set profileId profile }
  | none => { s with profiles := s.profiles ++ [profile] }

/--
Give a connection that was just authorized its profile and a checkpoint. A connection that is authorized
again keeps its checkpoint.
-/
def establish (s : InboxStore) (now : Instant) (connectionId : Nat)
    (writeCapabilities : List String) (historyId : Option HistoryId) : Except Error InboxStore := do
  ensure (connectionId < s.connections.length)
    (.inboxNotFound "The inbox connection was not found.")
  let connected := s.setProfile { connectionId, importMode := .manual, writeCapabilities }
  match s.findCheckpoint connectionId with
  | some _ => pure connected
  | none =>
    pure { connected with
      checkpoints := s.checkpoints ++ [{
        connectionId
        providerHistoryId := historyId
        lastObservedHistoryId := historyId
        status := .current
        consecutiveFailures := 0
        lastErrorCode := none
        lastAttemptAt := some now
        lastSuccessfulSyncAt := none
        version := 1 }] }

/--
Pause, resume or disconnect an inbox.
-/
def setImportMode (s : InboxStore) (connectionId : Nat) (importMode : InboxImportMode)
    (writeCapabilities : List String) : Except Error InboxStore := do
  let _ ← orThrow (s.profiles.find? fun profile => profile.connectionId = connectionId)
    (.inboxNotFound "The inbox profile was not found.")
  pure (s.setProfile { connectionId, importMode, writeCapabilities })

end InboxStore

end CaseResolution
