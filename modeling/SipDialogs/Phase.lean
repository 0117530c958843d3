-- SUMMARY: The phases of a dialog and the protocol events that move it.

/-! # Phases and events

A dialog starts unconfirmed, may become early, is confirmed by a final response and fully
confirmed by the acknowledgement. A deleted dialog has no further use, and may linger until its
last reference is given back. -/

namespace SipDialogs

inductive Phase where
  /-- No response yet. -/
  | unconfirmed
  /-- A provisional response was seen. -/
  | early
  /-- A final response was seen, its acknowledgement was not. -/
  | confirmedNa
  | confirmed
  | deleted
  deriving DecidableEq, Repr, Inhabited

namespace Phase

def all : List Phase := [unconfirmed, early, confirmedNa, confirmed, deleted]

/-- The number a stored dialog carries for its phase. -/
def code : Phase → UInt8
  | unconfirmed => 1
  | early => 2
  | confirmedNa => 3
  | confirmed => 4
  | deleted => 5

def ofCode? (n : UInt8) : Option Phase := all.find? fun p => p.code == n

/-- The name used in structured data. -/
def name : Phase → String
  | unconfirmed => "unconfirmed"
  | early => "early"
  | confirmedNa => "confirmed_na"
  | confirmed => "confirmed"
  | deleted => "deleted"

/-- The name used in messages. -/
def label : Phase → String
  | unconfirmed => "UNCONFIRMED"
  | early => "EARLY"
  | confirmedNa => "CONFIRMED_NA"
  | confirmed => "CONFIRMED"
  | deleted => "DELETED"

def isDeleted (p : Phase) : Bool := p == deleted

def isConfirmed (p : Phase) : Bool := p == confirmedNa || p == confirmed

end Phase

/-- What the protocol layer reports about a dialog. -/
inductive Event where
  | transactionDestroyed
  | provisionalResponse
  | failureResponse
  | successResponse
  | requestAck
  | requestBye
  | requestPrack
  /-- Any other request inside the dialog. -/
  | request
  deriving DecidableEq, Repr, Inhabited

namespace Event

def all : List Event :=
  [transactionDestroyed, provisionalResponse, failureResponse, successResponse,
   requestAck, requestBye, requestPrack, request]

/-- The place of an event in `all`. -/
def index (e : Event) : Nat := all.idxOf e

/-- The name used in structured data. -/
def name : Event → String
  | transactionDestroyed => "transaction_destroyed"
  | provisionalResponse => "provisional_response"
  | failureResponse => "failure_response"
  | successResponse => "success_response"
  | requestAck => "request_ack"
  | requestBye => "request_bye"
  | requestPrack => "request_prack"
  | request => "request"

/-- The name used in messages. -/
def label : Event → String
  | transactionDestroyed => "transaction-destroyed"
  | provisionalResponse => "provisional-response"
  | failureResponse => "failure-response"
  | successResponse => "success-response"
  | requestAck => "request-ACK"
  | requestBye => "request-BYE"
  | requestPrack => "request-PRACK"
  | request => "request"

end Event

end SipDialogs
