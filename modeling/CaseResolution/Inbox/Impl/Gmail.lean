import CaseResolution.Domain.Error
import CaseResolution.Domain.Inbox
import CaseResolution.Lib.Rows

/-!
This module contains the adapter that reads a mailbox through the interface of Gmail.
-/

namespace CaseResolution

open Guard

/--
The answer to `/threads/{id}`.
-/
structure ThreadPayload where
  providerThreadId : String
  messages : List ProviderMessage
deriving DecidableEq

/--
The answer to `/history`: the ids of the messages each history record added.
-/
structure HistoryPayload where
  history : List (List String)
  nextPageToken : Option PageToken
  historyId : HistoryId
deriving DecidableEq

namespace GmailReadAdapter

def getThread (payload : ThreadPayload) : Except Error ProviderThread :=
  if h : payload.messages.take 100 = [] then
    throw (.inboxProviderUnavailable "The inbox thread contains no messages.")
  else
    pure {
      providerThreadId := payload.providerThreadId
      messages := payload.messages.take 100
      messages_ne_nil := h
      messages_length := List.length_take_le 100 payload.messages }

/--
The number of history records the adapter asks for.
-/
def maxResults (limit : Nat) : Nat :=
  min limit 100

def listChanges (payload : HistoryPayload) (limit : Nat) : ChangePage where
  providerMessageIds := Rows.firstBy id (payload.history.flatten.take limit)
  nextPageToken := payload.nextPageToken
  historyId := payload.historyId

end GmailReadAdapter

end CaseResolution
